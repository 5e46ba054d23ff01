import MayaOs.Net.Dhcp
import MayaOs.Net.Icmp
import MayaOs.Net.Tcp

/-!
# The packet builders

Each function of the stack that builds a packet, up to the call that hands the packet to the next
layer.

* `ethernetSendFrame_eq`, `ipSendPacket_eq`, `udpSend_eq`, `tcpSendPacket_eq`, `arpSendRequest_eq` —
  the sending functions go on with what was built
* `handed` — what each of the builders hands to the next layer
-/

namespace MayaOs.Net

open MayaOs.Lib

/-! ## Ethernet -/

/-- The frame, if `ethernet_send_frame` comes to the call of `nic_send_packet`. -/
def ethernetFrame (h : Host) (destMac : Option Mac) (type : UInt16) (data : Option Bytes) :
    Except Fault (Option Bytes × Host) :=
  match destMac, data with
  | some destMac, some data =>
    if h.ethernet.initialized = false ∨ data.length = 0 then .ok (none, h)
    else
      let frameSize := max ethernetMinFrameSize (wrap32 (ethernetHeaderSize + data.length))
      if ethernetMaxFrameSize < frameSize then .ok (none, h)
      else
        match kmalloc h frameSize with
        | (none, h) => .ok (none, h)
        | (some frame, h) => do
          let frame ← write frame 0 (ethernetHeader destMac h.ethernet.macAddress type)
          let frame ← write frame ethernetHeaderSize data
          let used := wrap32 (ethernetHeaderSize + data.length)
          let frame ← write frame used (List.replicate (frameSize - used) 0)
          return (some frame, h)
  | _, _ => .ok (none, h)

theorem ethernetSendFrame_eq (h : Host) (destMac : Option Mac) (type : UInt16)
    (data : Option Bytes) :
    ethernetSendFrame h destMac type data =
      (ethernetFrame h destMac type data >>= fun r =>
        match r.1 with
        | none => .ok (false, r.2)
        | some frame => .ok (nicSendPacket r.2 frame)) := by
  rcases destMac with - | destMac
  · rfl
  · rcases data with - | data
    · rfl
    · unfold ethernetSendFrame ethernetFrame
      by_cases hg : h.ethernet.initialized = false ∨ data.length = 0
      · simp only [if_pos hg]
        rfl
      · simp only [if_neg hg]
        split
        · rfl
        · rcases kmalloc h _ with ⟨- | block, h'⟩
          · rfl
          · simp only [bind_assoc, pure_bind]
            rfl

/-! ## ARP -/

/-- The `arp_packet_t` of a request, filled in on the stack. -/
def arpRequestPacket (h : Host) (stack : Nat → UInt8) (ip : UInt32) : Except Fault Bytes :=
  writeFields (junkBlock stack 28) 0
    [le16 0x0100, le16 0x0008, [6], [4], le16 0x0100, h.nic.macAddr.bytes, le32 h.ip.ipAddress,
      List.replicate 6 0, le32 ip]

/-- **Every byte of a request is written.** -/
theorem arpRequestPacket_eq (h : Host) (stack : Nat → UInt8) (ip : UInt32) :
    arpRequestPacket h stack ip = .ok (arpRequest h.nic.macAddr h.ip.ipAddress ip) :=
  writeFields_append (a := []) _ rfl (length_junkBlock stack 28)

theorem arpSendRequest_eq (h : Host) (stack : Nat → UInt8) (ip : UInt32) :
    arpSendRequest h ip =
      (arpRequestPacket h stack ip >>= fun packet =>
        ethernetSendFrame h (some Mac.broadcast) arpType (some packet) >>= fun r => .ok r.2) := by
  rw [arpRequestPacket_eq]
  rfl

/-! ## IP -/

/-- The packet and its next hop, if `ip_send_packet` comes to the call of `ethernet_send_frame`. -/
def ipPacketTo (h : Host) (destIp : UInt32) (protocol : UInt8) (data : Option Bytes) :
    Except Fault (Option (Mac × Bytes) × Host) :=
  match data with
  | none => .ok (none, h)
  | some data =>
    if h.ip.initialized = false ∨ data.length = 0 then .ok (none, h)
    else
      let totalLength := wrap32 (ipHeaderLength + data.length)
      if 65535 < totalLength then .ok (none, h)
      else
        match kmalloc h totalLength with
        | (none, h) => .ok (none, h)
        | (some packet, h) => do
          let packet ← write packet 0
            (ipHeader h.ip destIp protocol (UInt16.ofNat totalLength) 0)
          let packet ← write packet ipHeaderLength data
          let header ← slice packet 0 ipHeaderLength
          let packet ← write packet 10 (le16 (ipChecksum header))
          let (destMac, h) ← arpResolve h (nextHop h.ip destIp) h.stack
          return (some (destMac, packet), h)

theorem ipSendPacket_eq (h : Host) (destIp : UInt32) (protocol : UInt8) (data : Option Bytes) :
    ipSendPacket h destIp protocol data =
      (ipPacketTo h destIp protocol data >>= fun r =>
        match r.1 with
        | none => .ok (false, r.2)
        | some (destMac, packet) =>
          ethernetSendFrame r.2 (some destMac) 0x0800 (some packet) >>= fun r =>
            .ok (r.1, { r.2 with ip := { r.2.ip with idCounter := r.2.ip.idCounter + 1 } })) := by
  rcases data with - | data
  · rfl
  · unfold ipSendPacket ipPacketTo
    by_cases hg : h.ip.initialized = false ∨ data.length = 0
    · simp only [if_pos hg]
      rfl
    · simp only [if_neg hg]
      split
      · rfl
      · rcases kmalloc h _ with ⟨- | block, h'⟩
        · rfl
        · simp only [bind_assoc, pure_bind]
          rfl

/-! ## UDP and TCP -/

/-- The datagram, if `udp_send` comes to the call of `ip_send_packet`. -/
def udpDatagram (h : Host) (socket : Option UdpSocket) (destIp : UInt32) (destPort : UInt16)
    (data : Option Bytes) : Except Fault (Option Bytes × Host) :=
  match socket, data with
  | some socket, some data =>
    if h.udp.initialized = false ∨ data.length = 0 then .ok (none, h)
    else
      let totalLength := wrap32 (udpHeaderSize + data.length)
      if 65507 < totalLength then .ok (none, h)
      else
        match kmalloc h totalLength with
        | (none, h) => .ok (none, h)
        | (some packet, h) => do
          let packet ← write packet 0
            (udpHeader socket.localPort destPort (UInt16.ofNat totalLength) 0)
          let packet ← write packet udpHeaderSize data
          let header ← slice packet 0 udpHeaderSize
          let packet ← write packet 6 (le16 (udpChecksum h.ip.ipAddress destIp header data))
          return (some packet, h)
  | _, _ => .ok (none, h)

theorem udpSend_eq (h : Host) (socket : Option UdpSocket) (destIp : UInt32) (destPort : UInt16)
    (data : Option Bytes) :
    udpSend h socket destIp destPort data =
      (udpDatagram h socket destIp destPort data >>= fun r =>
        match r.1 with
        | none => .ok (false, r.2)
        | some packet => ipSendPacket r.2 destIp ipProtocolUdp (some packet)) := by
  rcases socket with - | socket
  · rfl
  · rcases data with - | data
    · rfl
    · unfold udpSend udpDatagram
      by_cases hg : h.udp.initialized = false ∨ data.length = 0
      · simp only [if_pos hg]
        rfl
      · simp only [if_neg hg]
        split
        · rfl
        · rcases kmalloc h _ with ⟨- | block, h'⟩
          · rfl
          · simp only [bind_assoc, pure_bind]

/-- The segment, if `tcp_send_packet` comes to the call of `ip_send_packet`. -/
def tcpSegmentOf (h : Host) (socket : Option TcpSocket) (flags : UInt8) (data : Bytes) :
    Except Fault (Option (TcpSocket × Bytes) × Host) :=
  match kmalloc h (wrap32 (tcpHeaderSize + data.length)) with
  | (none, h) => .ok (none, h)
  | (some packet, h) =>
    match socket with
    | none => .error .nullDeref
    | some socket => do
      let packet ← write packet 0 (tcpHeader socket flags 0)
      let packet ← write packet tcpHeaderSize data
      let header ← slice packet 0 tcpHeaderSize
      let packet ← write packet 16 (le16 (tcpChecksum h.ip.ipAddress socket.remoteIp header data))
      return (some (socket, packet), h)

theorem tcpSendPacket_eq (h : Host) (socket : Option TcpSocket) (flags : UInt8) (data : Bytes) :
    tcpSendPacket h socket flags data =
      (tcpSegmentOf h socket flags data >>= fun r =>
        match r.1 with
        | none => .ok r.2
        | some (socket, packet) =>
          ipSendPacket r.2 socket.remoteIp ipProtocolTcp (some packet) >>= fun r =>
            .ok (r.2.modifySocket socket.addr (advanceSeq flags data.length))) := by
  unfold tcpSendPacket tcpSegmentOf
  rcases kmalloc h _ with ⟨- | block, h'⟩
  · rfl
  · rcases socket with - | socket
    · rfl
    · simp only [bind_assoc, pure_bind]
      rfl

/-! ## All builders -/

/-- A host with the state of ICMP and DHCP, and the former contents of the stack below it. -/
structure Node where
  host : Host
  icmp : IcmpState
  dhcp : DhcpState
  stackBelow : Nat → UInt8

/-- A call of a packet builder. -/
inductive PacketBuilder where
  | ethernetSendFrame (destMac : Option Mac) (type : UInt16) (data : Option Bytes)
  | ipSendPacket (destIp : UInt32) (protocol : UInt8) (data : Option Bytes)
  | udpSend (socket : Option UdpSocket) (destIp : UInt32) (destPort : UInt16) (data : Option Bytes)
  | tcpSendPacket (socket : Option TcpSocket) (flags : UInt8) (data : Bytes)
  | icmpSendEchoRequest (destIp : UInt32) (identifier sequence : UInt16) (data : Option Bytes)
  | icmpHandlePacket (srcIp : UInt32) (packet : Option Bytes) (length : Nat)
  | icmpSendDestinationUnreachable (destIp : UInt32) (code : UInt8) (origPacket : Option Bytes)
  | dhcpSendDiscover
  | dhcpSendRequest
  | arpSendRequest (ip : UInt32)

/-- A call of the next layer. -/
inductive Handed where
  | nicSendPacket (frame : Bytes)
  | ethernetSendFrame (destMac : Mac) (type : UInt16) (packet : Bytes)
  | ipSendPacket (destIp : UInt32) (protocol : UInt8) (packet : Bytes)
  | udpSend (socket : Option UdpSocket) (destIp : UInt32) (destPort : UInt16) (message : Bytes)
  deriving DecidableEq

/-- The reply among the actions. -/
def IcmpAction.replyOf : IcmpAction → Option Bytes
  | .reply packet => some packet
  | _ => none

/-- **What a builder hands to the next layer**, if it gets there. -/
def handed (n : Node) : PacketBuilder → Except Fault (Option Handed)
  | .ethernetSendFrame destMac type data => do
    let r ← ethernetFrame n.host destMac type data
    return r.1.map .nicSendPacket
  | .ipSendPacket destIp protocol data => do
    let r ← ipPacketTo n.host destIp protocol data
    return r.1.map fun p => .ethernetSendFrame p.1 0x0800 p.2
  | .udpSend socket destIp destPort data => do
    let r ← udpDatagram n.host socket destIp destPort data
    return r.1.map (.ipSendPacket destIp ipProtocolUdp)
  | .tcpSendPacket socket flags data => do
    let r ← tcpSegmentOf n.host socket flags data
    return r.1.map fun p => .ipSendPacket p.1.remoteIp ipProtocolTcp p.2
  | .icmpSendEchoRequest destIp identifier sequence data => do
    let r ← echoRequest n.icmp n.host identifier sequence data
    return r.1.map (.ipSendPacket destIp ipProtocolIcmp)
  | .icmpHandlePacket srcIp packet length => do
    let r ← icmpExamine n.icmp n.host srcIp packet length
    return r.1.replyOf.map (.ipSendPacket srcIp ipProtocolIcmp)
  | .icmpSendDestinationUnreachable destIp code origPacket => do
    let r ← destinationUnreachable n.icmp n.host code origPacket
    return r.1.map (.ipSendPacket destIp ipProtocolIcmp)
  | .dhcpSendDiscover => do
    let r ← dhcpDiscover n.dhcp n.host
    return r.1.map (.udpSend (dhcpSocket n.dhcp n.host) 0xFFFFFFFF dhcpServerPort)
  | .dhcpSendRequest => do
    let r ← dhcpRequest n.dhcp n.host
    return r.1.map (.udpSend (dhcpSocket n.dhcp n.host) 0xFFFFFFFF dhcpServerPort)
  | .arpSendRequest ip => do
    let packet ← arpRequestPacket n.host n.stackBelow ip
    return some (.ethernetSendFrame Mac.broadcast arpType packet)

end MayaOs.Net
