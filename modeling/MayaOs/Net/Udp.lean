import MayaOs.Net.Ip

/-!
# UDP (`net/udp.c`)

* `udpSend_ok` — what a successful call has sent is `udpPacket` in an IP packet
* `udpHandlePacket_udpPacket` — what the receiver makes of such a packet
-/

namespace MayaOs.Net

open MayaOs.Lib

def udpMaxSockets : Nat := 256

def udpHeaderSize : Nat := 8

def ipProtocolUdp : UInt8 := 17

/-- The source adds the length a second time where the header words are added. -/
def udpChecksum (srcIp destIp : UInt32) (header data : Bytes) : UInt16 :=
  let sum := srcIp.toNat / 65536 + srcIp.toNat % 65536
  let sum := sum + destIp.toNat / 65536 + destIp.toNat % 65536
  let sum := sum + ipProtocolUdp.toNat + (u16At header 4).toNat
  -- the checksum field is skipped
  let sum := sum + (u16At header 0).toNat + (u16At header 2).toNat + (u16At header 4).toNat
  finishChecksum (wrap32 (sumWords sum data + oddByte 256 data))

/-! ## Sockets -/

/-- A socket after `memset`. -/
def UdpSocket.zero : UdpSocket where
  localPort := 0
  callback := 0
  inUse := false

/-- The state that `udp_init` sets up. -/
def UdpState.fresh : UdpState where
  sockets := List.replicate udpMaxSockets UdpSocket.zero
  nextPort := 49152
  initialized := true

def udpInit (h : Host) : Bool × Host :=
  if h.udp.initialized then (true, h)
  else
    let r := ipRegisterProtocol h.ip ipProtocolUdp (some .udp)
    (r.1, { h with udp := UdpState.fresh, ip := r.2 })

/-- "If port is 0, assign a dynamic port". -/
def assignPort (s : UdpState) (port : UInt16) : UInt16 × UdpState :=
  if port = 0 then
    let next := s.nextPort + 1
    (s.nextPort, { s with nextPort := if next < 49152 then 49152 else next })
  else (port, s)

/-- "Check if port is already in use" and "Find free socket". -/
def bindSocket (s : UdpState) (port : UInt16) (callback : Nat) : Option Nat × UdpState :=
  if s.sockets.any fun socket => socket.inUse && socket.localPort == port then (none, s)
  else
    match s.sockets.findIdx? fun socket => !socket.inUse with
    | none => (none, s)
    | some i =>
      (some i,
        { s with
          sockets := s.sockets.set i { localPort := port, callback := callback, inUse := true } })

/-- The index of the new socket, if any. -/
def udpCreateSocket (s : UdpState) (port : UInt16) (callback : Nat) : Option Nat × UdpState :=
  if s.initialized = false ∨ callback = 0 then (none, s)
  else
    let r := assignPort s port
    bindSocket r.2 r.1 callback

def udpCloseSocket (s : UdpState) (socket : Option Nat) : UdpState :=
  match socket with
  | none => s
  | some i =>
    if s.initialized = false then s else { s with sockets := s.sockets.set i UdpSocket.zero }

/-! ## udp_send and udp_handle_packet -/

/-- `udp_header_t`. -/
def udpHeader (sourcePort destPort length checksum : UInt16) : Bytes :=
  le16 (swap16 sourcePort) ++ le16 (swap16 destPort) ++ le16 (swap16 length) ++ le16 checksum

@[simp] theorem length_udpHeader (sourcePort destPort length checksum : UInt16) :
    (udpHeader sourcePort destPort length checksum).length = 8 := rfl

def udpSend (h : Host) (socket : Option UdpSocket) (destIp : UInt32) (destPort : UInt16)
    (data : Option Bytes) : Except Fault (Bool × Host) :=
  match socket, data with
  | some socket, some data =>
    if h.udp.initialized = false ∨ data.length = 0 then .ok (false, h)
    else
      let totalLength := wrap32 (udpHeaderSize + data.length)
      if 65507 < totalLength then .ok (false, h)
      else
        match kmalloc h totalLength with
        | (none, h) => .ok (false, h)
        | (some packet, h) => do
          let packet ← write packet 0
            (udpHeader socket.localPort destPort (UInt16.ofNat totalLength) 0)
          let packet ← write packet udpHeaderSize data
          let header ← slice packet 0 udpHeaderSize
          let packet ← write packet 6 (le16 (udpChecksum h.ip.ipAddress destIp header data))
          ipSendPacket h destIp ipProtocolUdp (some packet)
  | _, _ => .ok (false, h)

/-- A call `callback(src_ip, src_port, data, data_length)`. -/
structure UdpCall where
  callback : Nat
  srcIp : UInt32
  srcPort : UInt16
  data : Bytes
  length : Nat
  deriving Repr, DecidableEq

/-- `packet` is the memory from the pointer to the end of the buffer, `length` the argument. -/
def udpHandlePacket (h : Host) (srcIp : UInt32) (packet : Option Bytes) (length : Nat) :
    Except Fault (List UdpCall) :=
  match packet with
  | none => .ok []
  | some packet =>
    if h.udp.initialized = false ∨ length < udpHeaderSize then .ok []
    else do
      let destPort ← read16 packet 2
      let srcPort ← read16 packet 0
      let found := h.udp.sockets.find? fun s => s.inUse && s.localPort == swap16 destPort
      match found with
      | none => return []
      | some socket =>
        -- the length field of the header is not looked at
        let dataLength := length - udpHeaderSize
        let recvChecksum ← read16 packet 6
        let packet ← write packet 6 (le16 0)
        let header ← slice packet 0 udpHeaderSize
        let data ← slice packet udpHeaderSize dataLength
        if recvChecksum ≠ udpChecksum srcIp h.ip.ipAddress header data then return []
        else
          return [{
            callback := socket.callback, srcIp := srcIp, srcPort := swap16 srcPort, data := data
            length := dataLength }]

/-! ## Sending -/

/-- A datagram with its checksum. -/
def udpPacket (srcIp destIp : UInt32) (sourcePort destPort : UInt16) (data : Bytes) : Bytes :=
  let length := UInt16.ofNat (8 + data.length)
  udpHeader sourcePort destPort length
    (udpChecksum srcIp destIp (udpHeader sourcePort destPort length 0) data) ++ data

@[simp] theorem length_udpPacket (srcIp destIp : UInt32) (sourcePort destPort : UInt16)
    (data : Bytes) : (udpPacket srcIp destIp sourcePort destPort data).length = 8 + data.length := by
  rw [udpPacket, List.length_append, length_udpHeader]

/-- Filling a new block with header and data, and the checksum last. -/
theorem write_udpPacket (srcIp destIp : UInt32) (sourcePort destPort : UInt16)
    (block data : Bytes) (hblock : block.length = 8 + data.length) :
    ∃ p₁ p₂ header,
      write block 0 (udpHeader sourcePort destPort (UInt16.ofNat (8 + data.length)) 0) = .ok p₁ ∧
      write p₁ udpHeaderSize data = .ok p₂ ∧ slice p₂ 0 udpHeaderSize = .ok header ∧
      write p₂ 6 (le16 (udpChecksum srcIp destIp header data))
        = .ok (udpPacket srcIp destIp sourcePort destPort data) := by
  let header := udpHeader sourcePort destPort (UInt16.ofNat (8 + data.length)) 0
  have hheader : header.length = 8 := rfl
  have hlen : (header ++ data).length = 8 + data.length := by rw [List.length_append, hheader]
  refine ⟨header ++ block.drop 8, header ++ data, header, ?_, ?_, ?_, ?_⟩
  · exact write_append (a := []) rfl (by rw [hblock, length_udpHeader]; omega)
  · exact write_append_end hheader.symm (by rw [List.length_drop]; omega)
  · rw [slice_eq (by rw [hlen]; unfold udpHeaderSize; omega)]
    rfl
  · rw [write_eq (by rw [hlen, length_le16]; omega)]
    rfl

/-- `udp_send` does not write outside of the block. -/
theorem udpSend_total (h : Host) (socket : Option UdpSocket) (destIp : UInt32) (destPort : UInt16)
    {data : Bytes} (hlen : data.length + 42 < 2 ^ 32) :
    ∃ ok h', udpSend h socket destIp destPort (some data) = .ok (ok, h') := by
  cases socket with
  | none => exact ⟨false, h, rfl⟩
  | some socket =>
    have hwrap : wrap32 (udpHeaderSize + data.length) = 8 + data.length :=
      wrap32_eq_self (by unfold udpHeaderSize; omega)
    unfold udpSend
    simp only [hwrap]
    split
    · exact ⟨false, h, rfl⟩
    · split
      · exact ⟨false, h, rfl⟩
      · obtain ⟨rest, hk | ⟨block, hblock, hk⟩⟩ := kmalloc_cases h (8 + data.length)
        · rw [hk]
          exact ⟨false, _, rfl⟩
        · obtain ⟨p₁, p₂, header, hp₁, hp₂, hheader, hp₃⟩ := write_udpPacket h.ip.ipAddress destIp
            socket.localPort destPort block data hblock
          obtain ⟨ok, h₁, -, -, hip, -⟩ := ipSendPacket_cases { h with allocs := rest } destIp
            ipProtocolUdp (udpPacket h.ip.ipAddress destIp socket.localPort destPort data)
            (by rw [length_udpPacket]; omega)
          rw [hk]
          simp only [hp₁, hp₂, hheader, hp₃, ok_bind]
          exact ⟨ok, h₁, hip⟩

/-- **A successful `udp_send` has sent the datagram in an IP packet**, after at most ARP requests. -/
theorem udpSend_ok {h h' : Host} {socket : UdpSocket} {destIp : UInt32} {destPort : UInt16}
    {data : Bytes} (hlen : data.length + 42 < 2 ^ 32)
    (hsend : udpSend h (some socket) destIp destPort (some data) = .ok (true, h')) :
    0 < data.length ∧ data.length ≤ 1472 ∧ ∃ requests destMac,
      (∀ f ∈ requests, IsArpRequest f) ∧
      h'.nic.sent = h.nic.sent ++ (requests ++ [etherFrame destMac h.ethernet.macAddress 0x0800
        (ipPacket h.ip destIp ipProtocolUdp
          (udpPacket h.ip.ipAddress destIp socket.localPort destPort data))]) := by
  have hwrap : wrap32 (udpHeaderSize + data.length) = 8 + data.length :=
    wrap32_eq_self (by unfold udpHeaderSize; omega)
  unfold udpSend at hsend
  simp only [hwrap] at hsend
  split at hsend
  · cases hsend
  · next hg =>
    simp only [not_or] at hg
    split at hsend
    · cases hsend
    · obtain ⟨rest, hk | ⟨block, hblock, hk⟩⟩ := kmalloc_cases h (8 + data.length)
      · rw [hk] at hsend
        cases hsend
      · rw [hk] at hsend
        obtain ⟨p₁, p₂, header, hp₁, hp₂, hheader, hp₃⟩ := write_udpPacket h.ip.ipAddress destIp
          socket.localPort destPort block data hblock
        obtain ⟨ok, h₁, requests, frames, hip, hto, hreq, hframes⟩ := ipSendPacket_cases
          { h with allocs := rest } destIp ipProtocolUdp
          (udpPacket h.ip.ipAddress destIp socket.localPort destPort data)
          (by rw [length_udpPacket]; omega)
        simp only [hp₁, hp₂, hheader, hp₃, hip, ok_bind] at hsend
        cases hsend
        rcases hframes with ⟨hok, -⟩ | ⟨-, -, hle, destMac, rfl⟩
        · cases hok
        · rw [length_udpPacket] at hle
          obtain ⟨rest', id, rfl⟩ := hto
          exact ⟨by omega, by omega, requests, destMac, hreq, rfl⟩

/-! ## Receiving -/

/-- **What the receiver makes of a datagram with a socket bound to its port.** -/
theorem udpHandlePacket_udpPacket {h : Host} (hinit : h.udp.initialized = true)
    (srcIp : UInt32) (sourcePort destPort : UInt16) (data rest : Bytes) {socket : UdpSocket}
    (hfind : h.udp.sockets.find? (fun s => s.inUse && s.localPort == destPort) = some socket) :
    udpHandlePacket h srcIp
        (some (udpPacket srcIp h.ip.ipAddress sourcePort destPort data ++ rest)) (8 + data.length)
      = .ok [{
          callback := socket.callback, srcIp := srcIp, srcPort := sourcePort, data := data
          length := data.length }] := by
  -- what the receiver sums is what the sender summed: the same header without its checksum
  let header := udpHeader sourcePort destPort (UInt16.ofNat (8 + data.length)) 0
  let checksum := udpChecksum srcIp h.ip.ipAddress header data
  let packet := udpPacket srcIp h.ip.ipAddress sourcePort destPort data ++ rest
  have hdest : read16 packet 2 = .ok (swap16 destPort) := by
    show Except.ok (u16 _ _) = _
    rw [u16_le16]
  have hsrc : read16 packet 0 = .ok (swap16 sourcePort) := by
    show Except.ok (u16 _ _) = _
    rw [u16_le16]
  have hsum : read16 packet 6 = .ok checksum := by
    show Except.ok (u16 _ _) = _
    rw [u16_le16]
  have hclear : write packet 6 (le16 0) = .ok (header ++ data ++ rest) := by
    have hlen : 6 + 2 ≤ packet.length := by
      simp only [packet, List.length_append, length_udpPacket]
      omega
    rw [write_eq hlen]
    rfl
  have hlen : (header ++ data ++ rest).length = 8 + data.length + rest.length := by
    rw [List.length_append, List.length_append]
    rfl
  have hheader : slice (header ++ data ++ rest) 0 udpHeaderSize = .ok header := by
    rw [slice_eq (by rw [hlen]; unfold udpHeaderSize; omega)]
    rfl
  have hdata : slice (header ++ data ++ rest) udpHeaderSize (8 + data.length - udpHeaderSize)
      = .ok data := by
    rw [slice_eq (by rw [hlen]; unfold udpHeaderSize; omega)]
    show Except.ok ((data ++ rest).take (8 + data.length - 8)) = _
    rw [Nat.add_sub_cancel_left, List.take_left]
  show udpHandlePacket h srcIp (some packet) (8 + data.length) = _
  unfold udpHandlePacket
  simp only []
  rw [if_neg (by simp only [hinit, udpHeaderSize, Bool.true_eq_false, false_or]; omega)]
  simp only [hdest, hsrc, hsum, hclear, hheader, hdata, swap16_swap16, hfind, ok_bind,
    pure, Except.pure]
  rw [if_neg (not_not.mpr rfl)]
  show Except.ok [UdpCall.mk _ _ _ _ (8 + data.length - 8)] = _
  rw [Nat.add_sub_cancel_left]

end MayaOs.Net
