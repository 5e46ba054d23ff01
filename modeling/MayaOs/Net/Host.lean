import MayaOs.Lib.Bytes
import MayaOs.Lib.MachineInt

/-!
# The state of the network stack

The static variables of `nic.c`, `ethernet.c`, `arp.c`, `ip.c`, `udp.c` and `tcp.c`, the frames
given to the network card so far, and what is not determined by the program: the outcomes of the
calls of `kmalloc` to come, with the former contents of the blocks, and the former contents of the
stack.

A call of `kmalloc` without an outcome on the list fails. Callbacks are numbers, 0 is NULL.
-/

namespace MayaOs.Net

open MayaOs.Lib

/-! ## Ethernet and ARP -/

/-- `uint8_t mac[6]`. -/
structure Mac where
  b0 : UInt8
  b1 : UInt8
  b2 : UInt8
  b3 : UInt8
  b4 : UInt8
  b5 : UInt8
  deriving Repr, DecidableEq

def Mac.bytes (mac : Mac) : Bytes := [mac.b0, mac.b1, mac.b2, mac.b3, mac.b4, mac.b5]

def Mac.broadcast : Mac := ⟨0xFF, 0xFF, 0xFF, 0xFF, 0xFF, 0xFF⟩

@[simp] theorem Mac.length_bytes (mac : Mac) : mac.bytes.length = 6 := rfl

/-- `global_nic_state`, and the frames passed to `rtl8139_send`. -/
structure NicState where
  macAddr : Mac
  isRtl8139 : Bool
  initialized : Bool
  sent : List Bytes

/-- What can be registered with `ethernet_set_rx_callback`. -/
inductive EthernetCallback where
  /-- passes payloads of type 0x0800 to `ip_handle_packet` -/
  | ipInput
  | other (callback : Nat)
  deriving Repr, DecidableEq

structure EthernetState where
  macAddress : Mac
  rxCallback : Option EthernetCallback
  initialized : Bool

structure ArpEntry where
  ip : UInt32
  mac : Mac
  occupied : Bool

structure ArpState where
  cache : List ArpEntry
  initialized : Bool

/-! ## IP, UDP and TCP -/

/-- What can be registered with `ip_register_protocol`. -/
inductive IpHandler where
  | icmp
  | tcp
  | udp
  | other (callback : Nat)
  deriving Repr, DecidableEq

structure IpState where
  ipAddress : UInt32
  subnetMask : UInt32
  gateway : UInt32
  idCounter : UInt16
  protocolHandlers : UInt8 → Option IpHandler
  initialized : Bool

/-- `udp_socket_t`. -/
structure UdpSocket where
  localPort : UInt16
  callback : Nat
  inUse : Bool
  deriving Repr, DecidableEq

structure UdpState where
  sockets : List UdpSocket
  nextPort : UInt16
  initialized : Bool

inductive TcpSocketState where
  | closed
  | listen
  | synSent
  | synReceived
  | established
  | finWait1
  | finWait2
  | closeWait
  | closing
  | lastAck
  | timeWait
  deriving Repr, DecidableEq

/-- `tcp_socket_t`, with the address it is stored at. -/
structure TcpSocket where
  addr : Nat
  localPort : UInt16
  remotePort : UInt16
  remoteIp : UInt32
  state : TcpSocketState
  seqNum : UInt32
  ackNum : UInt32
  callback : Nat
  deriving Repr, DecidableEq

/-- `tcp_state`; the sockets are in the order of their `next` pointers. -/
structure TcpState where
  sockets : List TcpSocket
  nextPort : UInt16
  initialized : Bool

/-! ## The host -/

structure Host where
  nic : NicState
  ethernet : EthernetState
  arp : ArpState
  ip : IpState
  udp : UdpState
  tcp : TcpState
  ticks : UInt32
  allocs : List (Option (Nat → UInt8))
  stack : Mac

/-- The contents of a block of `size` bytes, before anything is written to it. -/
def junkBlock (junk : Nat → UInt8) (size : Nat) : Bytes := (List.range size).map junk

@[simp] theorem length_junkBlock (junk : Nat → UInt8) (size : Nat) :
    (junkBlock junk size).length = size := by
  rw [junkBlock, List.length_map, List.length_range]

def kmalloc (h : Host) (size : Nat) : Option Bytes × Host :=
  match h.allocs with
  | [] => (none, h)
  | none :: rest => (none, { h with allocs := rest })
  | some junk :: rest => (some (junkBlock junk size), { h with allocs := rest })

/-- **`kmalloc` fails or gives a block of the size asked for**; nothing else changes. -/
theorem kmalloc_cases (h : Host) (size : Nat) :
    ∃ rest, kmalloc h size = (none, { h with allocs := rest }) ∨
      ∃ block, block.length = size ∧ kmalloc h size = (some block, { h with allocs := rest }) := by
  unfold kmalloc
  split
  · exact ⟨h.allocs, Or.inl rfl⟩
  · next rest _ => exact ⟨rest, Or.inl rfl⟩
  · next junk rest _ => exact ⟨rest, Or.inr ⟨_, length_junkBlock junk size, rfl⟩⟩

/-- The call of `kmalloc` after `i` others succeeds. -/
def Host.Allocates (h : Host) (i : Nat) : Prop := (h.allocs.getD i none).isSome = true

theorem Host.allocates_tail (h : Host) (i : Nat) :
    { h with allocs := h.allocs.tail }.Allocates i ↔ h.Allocates (i + 1) := by
  unfold Host.Allocates
  cases h.allocs <;> simp

theorem kmalloc_some {h : Host} (halloc : h.Allocates 0) (size : Nat) :
    ∃ block, block.length = size ∧
      kmalloc h size = (some block, { h with allocs := h.allocs.tail }) := by
  unfold Host.Allocates at halloc
  unfold kmalloc
  split
  · next heq => rw [heq] at halloc; cases halloc
  · next heq => rw [heq] at halloc; cases halloc
  · next junk rest heq => exact ⟨_, length_junkBlock junk size, by rw [heq]; rfl⟩

theorem kmalloc_none {h : Host} (halloc : ¬ h.Allocates 0) (size : Nat) :
    kmalloc h size = (none, { h with allocs := h.allocs.tail }) := by
  unfold Host.Allocates at halloc
  unfold kmalloc
  split
  · next heq => rw [heq]; simp only [List.tail_nil]; rw [← heq]
  · next rest heq => rw [heq]; rfl
  · next heq => rw [heq] at halloc; exact absurd rfl halloc

/-- `nic_send_packet`. -/
def nicSendPacket (h : Host) (data : Bytes) : Bool × Host :=
  if h.nic.initialized = false then (false, h)
  else if h.nic.isRtl8139 then
    (true, { h with nic := { h.nic with sent := h.nic.sent ++ [data] } })
  else (false, h)

end MayaOs.Net
