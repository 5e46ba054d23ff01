import MayaOs.Lib.Run
import MayaOs.Net.Icmp
import MayaOs.Net.Tcp
import MayaOs.Net.Udp

/-!
# Several hosts on one Ethernet

Each host runs the whole stack. What a host has given to its card stays on the wire: it may be
received by any host, late, several times, or never, but it is not altered.

A kernel registers its own receive callback; here it is the one that passes each frame on by its
type, as the numbers in `ethernet.h` ask for.

* `receive` — a frame from the card to the handlers of the protocols
* `lanStep` — one call or one frame at one of the hosts
-/

namespace MayaOs.Net

open MayaOs.Lib

/-- The stack, with `icmp_state`. -/
structure LanNode where
  host : Host
  icmp : IcmpState

def etherTypeIp : UInt16 := 0x0800
def etherTypeArp : UInt16 := 0x0806

/-! ## Receiving -/

/-- The call of a handler, on the buffer that `ip_handle_packet` has left. -/
def callHandler (n : LanNode) (packet : Bytes) (call : HandlerCall) :
    Except Fault (List TcpEvent × Host) :=
  let data := some (packet.drop call.offset)
  match call.handler with
  | .tcp => tcpHandlePacket n.host call.srcIp data call.length
  | .udp => do
    let _ ← udpHandlePacket n.host call.srcIp data call.length
    return ([], n.host)
  | .icmp => do
    let r ← icmpHandlePacket n.icmp n.host call.srcIp data call.length
    return ([], r.2.2)
  | .other _ => .ok ([], n.host)

/-- `ip_handle_packet` with the call that it makes. -/
def ipInput (n : LanNode) (packet : Bytes) : Except Fault (List TcpEvent × Host) := do
  match ← ipHandlePacket n.host.ip (some packet) with
  | (some call, some packet) => callHandler n packet call
  | _ => return ([], n.host)

/-- `ethernet_handle_frame` with its callback. -/
def receive (n : LanNode) (frame : Bytes) : Except Fault (List TcpEvent × Host) := do
  match ← ethernetHandleFrame n.host.ethernet (some frame) with
  | none => return ([], n.host)
  | some rx =>
    if rx.type = etherTypeIp then ipInput n rx.data
    else if rx.type = etherTypeArp then do
      let h ← arpHandlePacket n.host rx.data
      return ([], h)
    else return ([], n.host)

/-! ## The network -/

inductive LanCall where
  | tcpInit
  | tcpCreateSocket (callback addr : Nat)
  | tcpConnect (socket : Nat) (ip : UInt32) (port : UInt16)
  | tcpSend (socket : Nat) (data : Option Bytes)
  | tcpClose (socket : Nat)
  /-- `udp_send`, `icmp_send_echo_request`, or a protocol of the application -/
  | ipSendPacket (destIp : UInt32) (protocol : UInt8) (data : Option Bytes)
  /-- whatever else changes; the sockets belong to `tcp.c`, the protocols to `ip.c` -/
  | other (node : LanNode)

variable {ι : Type}

inductive LanEvent (ι : Type) where
  | call (i : ι) (c : LanCall)
  /-- frame `k` of those that `src` has sent arrives at `dest` -/
  | frame (src : ι) (k : Nat) (dest : ι)

/-- `events`: the calls of the callbacks of TCP sockets so far. -/
structure Lan (ι : Type) where
  nodes : ι → LanNode
  events : List TcpEvent

def LanNode.setHost (n : LanNode) (h : Host) : LanNode := { n with host := h }

/-- A call; only TCP may send segments. -/
def lanCall (n : LanNode) : LanCall → Option LanNode
  | .tcpInit => some (n.setHost (tcpInit n.host).2)
  | .tcpCreateSocket callback addr =>
    some (n.setHost { n.host with tcp := (tcpCreateSocket n.host.tcp callback addr).2 })
  | .tcpConnect socket ip port =>
    (tcpConnect n.host socket ip port).toOption.map fun r => n.setHost r.2
  | .tcpSend socket data => (tcpSend n.host socket data).toOption.map fun r => n.setHost r.2
  | .tcpClose socket => (tcpClose n.host socket).toOption.map n.setHost
  | .ipSendPacket destIp protocol data =>
    if protocol = ipProtocolTcp then none
    else (ipSendPacket n.host destIp protocol data).toOption.map fun r => n.setHost r.2
  | .other node =>
    some { node with host := { node.host with
      tcp := n.host.tcp
      nic := { node.host.nic with sent := n.host.nic.sent }
      ip := { node.host.ip with protocolHandlers := n.host.ip.protocolHandlers } } }

/-- `none` if there is no such frame, or a call faults. -/
def lanStep [DecidableEq ι] (s : Lan ι) : LanEvent ι → Option (Lan ι)
  | .call i c => (lanCall (s.nodes i) c).map fun n => { s with nodes := Function.update s.nodes i n }
  | .frame src k dest => do
    let frame ← (s.nodes src).host.nic.sent[k]?
    let (events, h) ← (receive (s.nodes dest) frame).toOption
    return {
      nodes := Function.update s.nodes dest ((s.nodes dest).setHost h)
      events := s.events ++ events }

end MayaOs.Net
