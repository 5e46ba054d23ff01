import MayaOs.Lib.MachineInt
import MayaOs.Net.Arp

/-!
# The Internet protocol (`net/ip.c`)

* `ipSendPacket_cases` — what is sent is `ipPacket`, after at most ARP requests
* `ipHandlePacket_cases` — a packet is accepted under `Accepts`, and nothing outside it is read
* `ipHandlePacket_ipPacket` — what the receiver makes of a packet that was sent
-/

namespace MayaOs.Net

open MayaOs.Lib

/-!
## The parts of the checksum functions

`ip_checksum`, `icmp_checksum`, `udp_checksum` and `tcp_checksum` each add up 16-bit words as the
processor reads them and fold the carries. Sums are `uint32_t`.
-/

/-- Adds the complete words of a buffer to `sum`. -/
def sumWords : Nat → Bytes → Nat
  | sum, a :: b :: rest => sumWords (wrap32 (sum + (u16 a b).toNat)) rest
  | sum, _ => sum

/-- The last byte of a buffer of odd length, times `factor`. -/
def oddByte (factor : Nat) (b : Bytes) : Nat :=
  if b.length % 2 = 1 then (byteAt b (b.length - 1)).toNat * factor else 0

/-- The loop `while (sum >> 16)`, run `n` times at most. -/
def foldSum : Nat → Nat → Nat
  | 0, sum => sum
  | n + 1, sum => if sum / 65536 = 0 then sum else foldSum n (sum % 65536 + sum / 65536)

/-- **The loop is over after two iterations.** -/
theorem foldSum_lt {n sum : Nat} (h : sum < 2 ^ 32) : foldSum (n + 2) sum < 65536 := by
  have hsmall : ∀ m x, x < 65536 → foldSum m x = x := by
    intro m x hx
    cases m with
    | zero => rfl
    | succ m => rw [foldSum, if_pos (by omega)]
  rw [foldSum]
  split
  · omega
  · rw [foldSum]
    split
    · omega
    · rw [hsmall n _ (by omega)]
      omega

/-- `return ~sum` after the carries have been folded. -/
def finishChecksum (sum : Nat) : UInt16 := ~~~ UInt16.ofNat (foldSum 2 sum)

/-! ## ip_checksum and ip_register_protocol -/

def ipHeaderLength : Nat := 20

/-- `ip_checksum`. -/
def ipChecksum (data : Bytes) : UInt16 :=
  finishChecksum (wrap32 (sumWords 0 data + oddByte 1 data))

def ipRegisterProtocol (s : IpState) (protocol : UInt8) (callback : Option IpHandler) :
    Bool × IpState :=
  match callback with
  | none => (false, s)
  | some callback =>
    if s.initialized = false then (false, s)
    else
      (true, { s with protocolHandlers := Function.update s.protocolHandlers protocol callback })

/-! ## ip_send_packet -/

/-- `ip_header_t`; the addresses are stored as they are. -/
def ipHeader (s : IpState) (destIp : UInt32) (protocol : UInt8) (totalLength : UInt16)
    (checksum : UInt16) : Bytes :=
  [0x45, 0] ++ le16 (swap16 totalLength) ++ le16 (swap16 s.idCounter) ++ le16 0 ++ [64, protocol] ++
    le16 checksum ++ le32 s.ipAddress ++ le32 destIp

@[simp] theorem length_ipHeader (s : IpState) (destIp : UInt32) (protocol : UInt8)
    (totalLength checksum : UInt16) :
    (ipHeader s destIp protocol totalLength checksum).length = 20 := rfl

/-- "Determine destination MAC address". -/
def nextHop (s : IpState) (destIp : UInt32) : UInt32 :=
  if destIp &&& s.subnetMask = s.ipAddress &&& s.subnetMask then destIp else s.gateway

def ipSendPacket (h : Host) (destIp : UInt32) (protocol : UInt8) (data : Option Bytes) :
    Except Fault (Bool × Host) :=
  match data with
  | none => .ok (false, h)
  | some data =>
    if h.ip.initialized = false ∨ data.length = 0 then .ok (false, h)
    else
      let totalLength := wrap32 (ipHeaderLength + data.length)
      if 65535 < totalLength then .ok (false, h)
      else
        match kmalloc h totalLength with
        | (none, h) => .ok (false, h)
        | (some packet, h) => do
          let packet ← write packet 0
            (ipHeader h.ip destIp protocol (UInt16.ofNat totalLength) 0)
          let packet ← write packet ipHeaderLength data
          let header ← slice packet 0 ipHeaderLength
          let packet ← write packet 10 (le16 (ipChecksum header))
          let (destMac, h) ← arpResolve h (nextHop h.ip destIp) h.stack
          let (result, h) ← ethernetSendFrame h (some destMac) 0x0800 (some packet)
          -- the counter advances whether or not the frame was sent
          return (result, { h with ip := { h.ip with idCounter := h.ip.idCounter + 1 } })

/-! ## ip_handle_packet -/

/-- A call `handler(src_ip, packet + offset, length)`. -/
structure HandlerCall where
  handler : IpHandler
  srcIp : UInt32
  offset : Nat
  length : Nat
  deriving Repr, DecidableEq

/-- The call that is made, if any, and the buffer afterwards. -/
def ipHandlePacket (s : IpState) (packet : Option Bytes) :
    Except Fault (Option HandlerCall × Option Bytes) :=
  match packet with
  | none => .ok (none, none)
  | some packet =>
    if s.initialized = false ∨ packet.length < ipHeaderLength then .ok (none, some packet)
    else do
      let b0 ← read8 packet 0
      let headerLength := b0.toNat % 16
      if b0.toNat / 16 ≠ 4 ∨ headerLength < 5 ∨ packet.length < headerLength * 4 then
        return (none, some packet)
      else
        -- "Verify checksum", with the field set to 0 meanwhile
        let origChecksum ← read16 packet 10
        let packet ← write packet 10 (le16 0)
        let header ← slice packet 0 (headerLength * 4)
        -- the field stays cleared in a packet that is dropped here
        if ipChecksum header ≠ origChecksum then return (none, some packet)
        else
          let packet ← write packet 10 (le16 origChecksum)
          let destIp ← read32 packet 16
          if destIp ≠ s.ipAddress then return (none, some packet)
          else
            let totalLength ← read16 packet 2
            let protocol ← read8 packet 9
            match s.protocolHandlers protocol with
            | none => return (none, some packet)
            | some handler =>
              let srcIp ← read32 packet 12
              -- `size_t data_length = total_length - (header->header_length * 4)`
              return (some
                { handler := handler
                  srcIp := srcIp
                  offset := headerLength * 4
                  length := wrap32 ((swap16 totalLength).toNat + 2 ^ 32 - headerLength * 4) },
                some packet)

/-! ## Sending -/

/-- A packet with its checksum. -/
def ipPacket (s : IpState) (destIp : UInt32) (protocol : UInt8) (data : Bytes) : Bytes :=
  let totalLength := UInt16.ofNat (20 + data.length)
  ipHeader s destIp protocol totalLength
    (ipChecksum (ipHeader s destIp protocol totalLength 0)) ++ data

@[simp] theorem length_ipPacket (s : IpState) (destIp : UInt32) (protocol : UInt8) (data : Bytes) :
    (ipPacket s destIp protocol data).length = 20 + data.length := by
  rw [ipPacket, List.length_append, length_ipHeader]

/-- Filling a new block with header and data, and the checksum last. -/
theorem write_ipPacket (s : IpState) (destIp : UInt32) (protocol : UInt8) (block data : Bytes)
    (hblock : block.length = 20 + data.length) :
    ∃ p₁ p₂ header,
      write block 0 (ipHeader s destIp protocol (UInt16.ofNat (20 + data.length)) 0) = .ok p₁ ∧
      write p₁ ipHeaderLength data = .ok p₂ ∧ slice p₂ 0 ipHeaderLength = .ok header ∧
      write p₂ 10 (le16 (ipChecksum header)) = .ok (ipPacket s destIp protocol data) := by
  let header := ipHeader s destIp protocol (UInt16.ofNat (20 + data.length)) 0
  have hheader : header.length = 20 := rfl
  have hlen : (header ++ data).length = 20 + data.length := by rw [List.length_append, hheader]
  refine ⟨header ++ block.drop 20, header ++ data, header, ?_, ?_, ?_, ?_⟩
  · exact write_append (a := []) rfl (by rw [hblock, length_ipHeader]; omega)
  · exact write_append_end hheader.symm (by rw [List.length_drop]; omega)
  · rw [slice_eq (by rw [hlen]; unfold ipHeaderLength; omega)]
    rfl
  · rw [write_eq (by rw [hlen, length_le16]; omega)]
    rfl

/-- With a block for it, and an address to send it to, the packet goes to `ethernet_send_frame`. -/
theorem ipSendPacket_packet {h h₁ : Host} {destMac : Mac} (hinit : h.ip.initialized = true)
    (halloc : h.Allocates 0) {destIp : UInt32} (protocol : UInt8) {data : Bytes}
    (hpos : 0 < data.length) (hfits : data.length ≤ 65515)
    (hresolve : arpResolve { h with allocs := h.allocs.tail } (nextHop h.ip destIp) h.stack =
      .ok (destMac, h₁)) :
    ipSendPacket h destIp protocol (some data) =
      (ethernetSendFrame h₁ (some destMac) 0x0800 (some (ipPacket h.ip destIp protocol data)) >>=
        fun r => Except.ok
          (r.1, { r.2 with ip := { r.2.ip with idCounter := r.2.ip.idCounter + 1 } })) := by
  have hwrap : wrap32 (ipHeaderLength + data.length) = 20 + data.length :=
    wrap32_eq_self (by unfold ipHeaderLength; omega)
  obtain ⟨block, hblock, hk⟩ := kmalloc_some halloc (20 + data.length)
  obtain ⟨p₁, p₂, header, hp₁, hp₂, hheader, hp₃⟩ :=
    write_ipPacket h.ip destIp protocol block data hblock
  have hguard : ¬ (h.ip.initialized = false ∨ data.length = 0) := by
    rw [hinit]
    rintro (hfalse | hzero)
    · exact Bool.noConfusion hfalse
    · omega
  unfold ipSendPacket
  simp only [hwrap]
  rw [if_neg hguard, if_neg (by omega), hk]
  simp only [hp₁, hp₂, hheader, hp₃, hresolve, ok_bind, pure, Except.pure]

/-- Without a packet false is returned. -/
theorem ipSendPacket_not_built {h : Host} (destIp : UInt32) (protocol : UInt8) {data : Bytes}
    (hlen : data.length + 34 < 2 ^ 32)
    (hno : ¬ (h.ip.initialized = true ∧ 0 < data.length ∧ data.length ≤ 65515 ∧ h.Allocates 0)) :
    ∃ rest, ipSendPacket h destIp protocol (some data) = .ok (false, { h with allocs := rest }) := by
  have hwrap : wrap32 (ipHeaderLength + data.length) = 20 + data.length :=
    wrap32_eq_self (by unfold ipHeaderLength; omega)
  unfold ipSendPacket
  dsimp only
  rw [hwrap]
  by_cases hg : h.ip.initialized = false ∨ data.length = 0
  · rw [if_pos hg]
    exact ⟨h.allocs, rfl⟩
  · rw [if_neg hg]
    simp only [not_or, Bool.not_eq_false] at hg
    by_cases hsize : 65535 < 20 + data.length
    · rw [if_pos hsize]
      exact ⟨h.allocs, rfl⟩
    · have halloc : ¬ h.Allocates 0 := fun halloc => hno ⟨hg.1, by omega, by omega, halloc⟩
      rw [if_neg hsize, kmalloc_none halloc]
      exact ⟨h.allocs.tail, rfl⟩

/-- **`ip_send_packet` sends the packet, after at most ARP requests, or reports false.** -/
theorem ipSendPacket_cases (h : Host) (destIp : UInt32) (protocol : UInt8) (data : Bytes)
    (hlen : data.length + 34 < 2 ^ 32) :
    ∃ ok h' requests frames, ipSendPacket h destIp protocol (some data) = .ok (ok, h') ∧
      SendsTo h h' (requests ++ frames) ∧ (∀ f ∈ requests, IsArpRequest f) ∧
      (ok = false ∧ frames = [] ∨ ok = true ∧ 0 < data.length ∧ data.length ≤ 1480 ∧
        ∃ destMac, frames =
          [etherFrame destMac h.ethernet.macAddress 0x0800 (ipPacket h.ip destIp protocol data)]) := by
  by_cases hbuilt : h.ip.initialized = true ∧ 0 < data.length ∧ data.length ≤ 65515 ∧ h.Allocates 0
  · obtain ⟨hinit, hpos, hfits, halloc⟩ := hbuilt
    obtain ⟨destMac, h₁, requests, hresolve, hto₁, hreq⟩ :=
      arpResolve_cases { h with allocs := h.allocs.tail } (nextHop h.ip destIp) h.stack
    obtain ⟨ok, h₂, frames, hsend, hto₂, hframes⟩ := ethernetSendFrame_cases h₁ destMac 0x0800
      (ipPacket h.ip destIp protocol data) (by rw [length_ipPacket]; omega)
    have hto : SendsTo h h₂ (requests ++ frames) :=
      ((SendsTo.refl h h.allocs.tail).trans hto₁).trans hto₂
    refine ⟨ok, _, requests, frames, ?_, hto.setId (h₂.ip.idCounter + 1), hreq, ?_⟩
    · rw [ipSendPacket_packet hinit halloc protocol hpos hfits hresolve, hsend]
      rfl
    · rw [length_ipPacket, hto₁.ethernet] at hframes
      rcases hframes with ⟨hok, hf⟩ | ⟨hok, -, hle, hf⟩
      · exact Or.inl ⟨hok, hf⟩
      · exact Or.inr ⟨hok, by omega, by omega, destMac, hf⟩
  · obtain ⟨rest, hnone⟩ := ipSendPacket_not_built destIp protocol hlen hbuilt
    exact ⟨false, _, [], [], hnone, SendsTo.refl h rest, by simp, Or.inl ⟨rfl, rfl⟩⟩

/-- Data that is too long is refused, or does not fit in the block that was allocated for it. -/
theorem ipSendPacket_long (h : Host) (destIp : UInt32) (protocol : UInt8) {data : Bytes}
    (hlong : 65515 < data.length) :
    (∃ fault, ipSendPacket h destIp protocol (some data) = .error fault) ∨
      ∃ rest, ipSendPacket h destIp protocol (some data) = .ok (false, { h with allocs := rest }) := by
  unfold ipSendPacket
  dsimp only
  split
  · exact Or.inr ⟨h.allocs, rfl⟩
  · split
    · exact Or.inr ⟨h.allocs, rfl⟩
    · next hsize =>
      obtain ⟨rest, hk | ⟨block, hblock, hk⟩⟩ := kmalloc_cases h (wrap32 (ipHeaderLength + data.length))
      · rw [hk]
        exact Or.inr ⟨rest, rfl⟩
      · -- the sum has wrapped around
        have hsmall : block.length < ipHeaderLength + data.length := by
          rw [hblock]
          unfold ipHeaderLength at hsize ⊢
          omega
        rw [hk]
        dsimp only
        rw [write_header_overflow (n := ipHeaderLength) rfl hsmall]
        exact Or.inl ⟨_, rfl⟩

/-! ## Receiving -/

/-- `header->header_length * 4`. -/
def headerBytes (packet : Bytes) : Nat := (byteAt packet 0).toNat % 16 * 4

/-- The packet while its checksum is computed. -/
def clearChecksum (packet : Bytes) : Bytes := packet.take 10 ++ le16 0 ++ packet.drop 12

/-- `total_length`. -/
def totalLength (packet : Bytes) : Nat := (swap16 (u16At packet 2)).toNat

/-- The packet passes all tests of `ip_handle_packet` and has a handler. -/
structure Accepts (s : IpState) (packet : Bytes) (handler : IpHandler) : Prop where
  initialized : s.initialized = true
  length : ipHeaderLength ≤ packet.length
  version : (byteAt packet 0).toNat / 16 = 4
  headerLength : 5 ≤ (byteAt packet 0).toNat % 16
  headerFits : headerBytes packet ≤ packet.length
  checksum : ipChecksum ((clearChecksum packet).take (headerBytes packet)) = u16At packet 10
  dest : u32At packet 16 = s.ipAddress
  handler : s.protocolHandlers (byteAt packet 9) = some handler

/-- The call that an accepted packet leads to. -/
def handlerCall (packet : Bytes) (handler : IpHandler) : HandlerCall where
  handler := handler
  srcIp := u32At packet 12
  offset := headerBytes packet
  length := wrap32 (totalLength packet + 2 ^ 32 - headerBytes packet)

theorem length_clearChecksum {packet : Bytes} (h : 12 ≤ packet.length) :
    (clearChecksum packet).length = packet.length := by
  simp only [clearChecksum, List.length_append, List.length_take, length_le16, List.length_drop]
  omega

theorem write_zero_checksum {packet : Bytes} (h : 12 ≤ packet.length) :
    write packet 10 (le16 0) = .ok (clearChecksum packet) :=
  write_eq h

/-- Writing the old checksum back restores the packet. -/
theorem write_checksum_clear {packet : Bytes} (h : 12 ≤ packet.length) :
    write (clearChecksum packet) 10 (le16 (u16At packet 10)) = .ok packet := by
  have hmid : write (packet.take 10 ++ le16 0 ++ packet.drop 12) 10 (le16 (u16At packet 10))
      = .ok (packet.take 10 ++ le16 (u16At packet 10) ++ packet.drop 12) :=
    write_middle (by rw [List.length_take]; omega) (by rw [length_le16, length_le16])
  rw [clearChecksum, hmid]
  show Except.ok (packet.take 10 ++ le16 (u16 _ _) ++ packet.drop (10 + 2)) = _
  rw [le16_u16, take_append_drop_two (by omega)]

/-- **An accepted packet is handed to its handler, any other one is dropped**; nothing outside the
buffer is read. -/
theorem ipHandlePacket_cases (s : IpState) (packet : Bytes) :
    (∃ handler, Accepts s packet handler ∧
      ipHandlePacket s (some packet) = .ok (some (handlerCall packet handler), some packet)) ∨
    ((∀ handler, ¬ Accepts s packet handler) ∧
      ∃ packet', ipHandlePacket s (some packet) = .ok (none, some packet')) := by
  unfold ipHandlePacket
  simp only []
  by_cases hg : s.initialized = false ∨ packet.length < ipHeaderLength
  · rw [if_pos hg]
    refine Or.inr ⟨fun handler ha => ?_, packet, rfl⟩
    rcases hg with hg | hg
    · rw [ha.initialized] at hg; cases hg
    · exact absurd ha.length (by omega)
  · rw [if_neg hg]
    simp only [not_or, Bool.not_eq_false, Nat.not_lt] at hg
    obtain ⟨hinit, hlen⟩ := hg
    have hlen20 : 20 ≤ packet.length := hlen
    simp only [read8_eq (show 0 < packet.length by omega), ok_bind, pure, Except.pure]
    by_cases hv : (byteAt packet 0).toNat / 16 ≠ 4 ∨ (byteAt packet 0).toNat % 16 < 5 ∨
        packet.length < (byteAt packet 0).toNat % 16 * 4
    · rw [if_pos hv]
      refine Or.inr ⟨fun handler ha => ?_, packet, rfl⟩
      rcases hv with hv | hv | hv
      · exact hv ha.version
      · exact absurd ha.headerLength (by omega)
      · exact absurd ha.headerFits (Nat.not_le.mpr hv)
    · rw [if_neg hv]
      simp only [not_or, Nat.not_lt, ne_eq, not_not] at hv
      obtain ⟨hversion, hhl, hfits⟩ := hv
      have hslice : slice (clearChecksum packet) 0 ((byteAt packet 0).toNat % 16 * 4)
          = .ok ((clearChecksum packet).take (headerBytes packet)) :=
        slice_eq (by rw [length_clearChecksum (by omega)]; omega)
      simp only [read16_eq (show 10 + 1 < packet.length by omega),
        write_zero_checksum (show 12 ≤ packet.length by omega), hslice, ok_bind]
      -- the buffer is written from here on: cleared for the sum, restored after it
      by_cases hsum : ipChecksum ((clearChecksum packet).take (headerBytes packet))
          ≠ u16At packet 10
      · rw [if_pos hsum]
        exact Or.inr ⟨fun handler ha => hsum ha.checksum, _, rfl⟩
      · rw [if_neg hsum]
        simp only [write_checksum_clear (show 12 ≤ packet.length by omega),
          read32_eq (show 16 + 3 < packet.length by omega), ok_bind]
        by_cases hdest : u32At packet 16 ≠ s.ipAddress
        · rw [if_pos hdest]
          exact Or.inr ⟨fun handler ha => hdest ha.dest, _, rfl⟩
        · rw [if_neg hdest]
          simp only [read16_eq (show 2 + 1 < packet.length by omega),
            read8_eq (show 9 < packet.length by omega), ok_bind]
          cases hh : s.protocolHandlers (byteAt packet 9) with
          | none =>
            refine Or.inr ⟨fun handler ha => ?_, _, rfl⟩
            have := ha.handler
            rw [hh] at this
            cases this
          | some handler =>
            simp only [read32_eq (show 12 + 3 < packet.length by omega), ok_bind]
            exact Or.inl ⟨handler, ⟨hinit, hlen, hversion, hhl, hfits, not_not.mp hsum,
              not_not.mp hdest, hh⟩, rfl⟩

/-! ### packets made by ip_send_packet -/

section Fields

variable (s : IpState) (destIp : UInt32) (protocol : UInt8) (length checksum : UInt16) (x : Bytes)

theorem byteAt_zero_ipHeader : byteAt (ipHeader s destIp protocol length checksum ++ x) 0 = 0x45 :=
  rfl

theorem byteAt_protocol_ipHeader :
    byteAt (ipHeader s destIp protocol length checksum ++ x) 9 = protocol := rfl

theorem u16At_length_ipHeader :
    u16At (ipHeader s destIp protocol length checksum ++ x) 2 = swap16 length :=
  u16_le16 (swap16 length)

theorem u16At_checksum_ipHeader :
    u16At (ipHeader s destIp protocol length checksum ++ x) 10 = checksum :=
  u16_le16 checksum

theorem u32At_src_ipHeader :
    u32At (ipHeader s destIp protocol length checksum ++ x) 12 = s.ipAddress :=
  u32_le32 s.ipAddress

theorem u32At_dest_ipHeader :
    u32At (ipHeader s destIp protocol length checksum ++ x) 16 = destIp :=
  u32_le32 destIp

theorem clearChecksum_ipHeader :
    clearChecksum (ipHeader s destIp protocol length checksum ++ x)
      = ipHeader s destIp protocol length 0 ++ x := rfl

theorem headerBytes_ipHeader :
    headerBytes (ipHeader s destIp protocol length checksum ++ x) = 20 := by
  rw [headerBytes, byteAt_zero_ipHeader]
  decide

end Fields

/-- A packet made by `ip_send_packet` is accepted at its destination, whatever follows it. -/
theorem accepts_ipPacket (s : IpState) {s' : IpState} (hinit : s'.initialized = true)
    {protocol : UInt8} {handler : IpHandler} (hh : s'.protocolHandlers protocol = some handler)
    (data rest : Bytes) : Accepts s' (ipPacket s s'.ipAddress protocol data ++ rest) handler := by
  have hlen : 20 ≤ (ipPacket s s'.ipAddress protocol data ++ rest).length := by
    rw [List.length_append, length_ipPacket]
    omega
  unfold ipPacket at hlen ⊢
  rw [List.append_assoc] at hlen ⊢
  refine ⟨hinit, hlen, ?_, ?_, ?_, ?_, ?_, ?_⟩
  · rw [byteAt_zero_ipHeader]; rfl
  · rw [byteAt_zero_ipHeader]; decide
  · rw [headerBytes_ipHeader]; exact hlen
  · rw [clearChecksum_ipHeader, headerBytes_ipHeader, u16At_checksum_ipHeader,
      List.take_left' (length_ipHeader ..)]
  · rw [u32At_dest_ipHeader]
  · rw [byteAt_protocol_ipHeader]; exact hh

theorem handlerCall_ipPacket (s : IpState) (destIp : UInt32) (protocol : UInt8) (data rest : Bytes)
    (hlen : data.length + 20 < 65536) (handler : IpHandler) :
    handlerCall (ipPacket s destIp protocol data ++ rest) handler =
      { handler := handler, srcIp := s.ipAddress, offset := 20, length := data.length } := by
  have hwrap : wrap32 (20 + data.length + 2 ^ 32 - 20) = data.length := by
    unfold wrap32
    omega
  unfold ipPacket handlerCall totalLength
  rw [List.append_assoc, u32At_src_ipHeader, u16At_length_ipHeader, headerBytes_ipHeader,
    swap16_swap16, UInt16.toNat_ofNat', Nat.mod_eq_of_lt (by omega), hwrap]

/-- **What the receiver makes of a packet that was sent with `ip_send_packet`.** -/
theorem ipHandlePacket_ipPacket (s : IpState) {s' : IpState} (hinit : s'.initialized = true)
    {protocol : UInt8} {handler : IpHandler} (hh : s'.protocolHandlers protocol = some handler)
    (data rest : Bytes) (hlen : data.length + 20 < 65536) :
    ipHandlePacket s' (some (ipPacket s s'.ipAddress protocol data ++ rest)) =
      .ok (some { handler := handler, srcIp := s.ipAddress, offset := 20, length := data.length },
        some (ipPacket s s'.ipAddress protocol data ++ rest)) := by
  have haccept := accepts_ipPacket s hinit hh data rest
  -- it is accepted, so the other case is impossible
  rcases ipHandlePacket_cases s' (ipPacket s s'.ipAddress protocol data ++ rest) with
    ⟨handler', ha, heq⟩ | ⟨hno, -⟩
  · obtain rfl : handler' = handler := Option.some.inj (ha.handler.symm.trans haccept.handler)
    rw [heq, handlerCall_ipPacket s s'.ipAddress protocol data rest hlen]
  · exact absurd haccept (hno handler)

end MayaOs.Net
