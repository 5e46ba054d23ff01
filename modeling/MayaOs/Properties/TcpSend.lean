import MayaOs.Net.Tcp

/-!
# What `tcp_send` reports

`tcp_send` returns true whatever becomes of the segment, and `tcp_send_packet` advances the sequence
number without looking at the result of `ip_send_packet`.

* `ethernetSendFrame_true_iff`, `ipSendPacket_true_iff` — when the lower layers report success
* `reportsSend_iff` — the result of `tcp_send` is right iff the call is refused at once, or
  everything below it succeeds
* `lost_segment_reported_sent` — no memory is left for the frame
-/

namespace MayaOs.Net

open MayaOs.Lib

/-! ## The lower layers -/

/-- The network card takes frames. -/
def NicUp (h : Host) : Prop := h.nic.initialized = true ∧ h.nic.isRtl8139 = true

/-- `ethernet_send_frame` sends a payload of this length. -/
structure EthernetSends (h : Host) (length : Nat) : Prop where
  initialized : h.ethernet.initialized = true
  positive : 0 < length
  fits : length ≤ 1500
  frame : h.Allocates 0
  nic : NicUp h

theorem nicSendPacket_true {h : Host} (hup : NicUp h) (frame : Bytes) :
    nicSendPacket h frame =
      (true, { h with nic := { h.nic with sent := h.nic.sent ++ [frame] } }) := by
  obtain ⟨hinit, hcard⟩ := hup
  unfold nicSendPacket
  rw [if_neg (by rw [hinit]; exact Bool.noConfusion), if_pos hcard]

theorem nicSendPacket_false {h : Host} (hdown : ¬ NicUp h) (frame : Bytes) :
    nicSendPacket h frame = (false, h) := by
  unfold nicSendPacket
  split
  · rfl
  · next hinit =>
    split
    · next hcard => exact absurd ⟨Bool.not_eq_false _ ▸ hinit, hcard⟩ hdown
    · rfl

/-- A payload that fits takes one block. -/
theorem ethernetSendFrame_allocs {h : Host} (hinit : h.ethernet.initialized = true) (destMac : Mac)
    (type : UInt16) {data : Bytes} (hpos : 0 < data.length) (hfits : data.length ≤ 1500) :
    ∃ ok h', ethernetSendFrame h (some destMac) type (some data) = .ok (ok, h') ∧
      h'.allocs = h.allocs.tail ∧ (ok = true ↔ EthernetSends h data.length) := by
  have hwrap : wrap32 (ethernetHeaderSize + data.length) = 14 + data.length :=
    wrap32_eq_self (by unfold ethernetHeaderSize; omega)
  unfold ethernetSendFrame
  simp only [hwrap, ethernetMinFrameSize, ethernetMaxFrameSize]
  rw [if_neg (by rw [hinit]; simp; exact List.ne_nil_of_length_pos hpos), if_neg (by omega)]
  by_cases halloc : h.Allocates 0
  · obtain ⟨block, hblock, hk⟩ := kmalloc_some halloc (max 60 (14 + data.length))
    have hpad : max 60 (14 + data.length) - (14 + data.length) = 46 - data.length := by omega
    obtain ⟨f₁, f₂, hf₁, hf₂, hf₃⟩ :=
      write_frame block (ethernetHeader destMac h.ethernet.macAddress type) data
        (46 - data.length) rfl (by omega)
    rw [hk]
    simp only [hpad, hf₁, hf₂, hf₃, ok_bind, pure, Except.pure]
    by_cases hup : NicUp h
    · rw [nicSendPacket_true (h := { h with allocs := h.allocs.tail }) hup]
      exact ⟨true, _, rfl, rfl, fun _ => ⟨hinit, hpos, hfits, halloc, hup⟩, fun _ => rfl⟩
    · rw [nicSendPacket_false (h := { h with allocs := h.allocs.tail }) hup]
      exact ⟨false, _, rfl, rfl, Bool.noConfusion, fun hs => absurd hs.nic hup⟩
  · rw [kmalloc_none halloc]
    exact ⟨false, _, rfl, rfl, Bool.noConfusion, fun hs => absurd hs.frame halloc⟩

/-- **When `ethernet_send_frame` reports success.** -/
theorem ethernetSendFrame_true_iff (h : Host) (destMac : Mac) (type : UInt16) (data : Bytes)
    (hlen : data.length + 14 < 2 ^ 32) :
    (∃ h', ethernetSendFrame h (some destMac) type (some data) = .ok (true, h')) ↔
      EthernetSends h data.length := by
  by_cases hguard : h.ethernet.initialized = true ∧ 0 < data.length ∧ data.length ≤ 1500
  · obtain ⟨ok, h', hsend, -, hok⟩ :=
      ethernetSendFrame_allocs hguard.1 destMac type hguard.2.1 hguard.2.2
    rw [← hok, hsend]
    constructor
    · rintro ⟨_, heq⟩
      cases heq
      rfl
    · rintro rfl
      exact ⟨h', rfl⟩
  · refine ⟨?_, fun hs => absurd ⟨hs.initialized, hs.positive, hs.fits⟩ hguard⟩
    rintro ⟨h', hsend⟩
    refine absurd ?_ hguard
    obtain ⟨ok, h'', frames, hsend', -, ⟨hfalse, -⟩ | ⟨-, hpos, hfits, -⟩⟩ :=
      ethernetSendFrame_cases h destMac type data hlen
    · rw [hsend] at hsend'
      cases hsend'
      cases hfalse
    · refine ⟨?_, hpos, hfits⟩
      by_contra hinit
      unfold ethernetSendFrame at hsend
      dsimp only at hsend
      rw [if_pos (Or.inl (Bool.not_eq_true _ ▸ hinit))] at hsend
      cases hsend

/-- The requests sent for an address that is not in the cache. -/
def arpRequests (h : Host) (ip : UInt32) : Nat :=
  if h.arp.initialized = true ∧ (h.arp.cache.find? fun e => e.occupied && e.ip == ip) = none then 1
  else 0

/-- **A request takes one block.** -/
theorem arpResolve_allocs {h : Host} (hinit : h.ethernet.initialized = true) (ip : UInt32)
    (mac : Mac) :
    ∃ mac' h', arpResolve h ip mac = .ok (mac', h') ∧
      h'.allocs = h.allocs.drop (arpRequests h ip) := by
  unfold arpResolve arpRequests
  by_cases harp : h.arp.initialized = false
  · rw [if_pos harp, if_neg (by rw [harp]; simp)]
    exact ⟨mac, h, rfl, rfl⟩
  · rw [if_neg harp]
    cases hfind : h.arp.cache.find? fun e => e.occupied && e.ip == ip with
    | some e =>
      rw [if_neg (by simp)]
      exact ⟨e.mac, h, rfl, rfl⟩
    | none =>
      rw [if_pos ⟨Bool.not_eq_false _ ▸ harp, rfl⟩]
      have hlen := length_arpRequest h.nic.macAddr h.ip.ipAddress ip
      obtain ⟨ok, h', hsend, hallocs, -⟩ := ethernetSendFrame_allocs hinit Mac.broadcast arpType
        (show 0 < (arpRequest h.nic.macAddr h.ip.ipAddress ip).length by omega) (by omega)
      refine ⟨Mac.broadcast, h', ?_, by rw [hallocs, List.drop_one]⟩
      simp only [arpSendRequest, hsend, ok_bind, pure, Except.pure]

/-- `ip_send_packet` sends a payload of this length. -/
structure IpSends (h : Host) (destIp : UInt32) (length : Nat) : Prop where
  initialized : h.ip.initialized = true
  ethernet : h.ethernet.initialized = true
  positive : 0 < length
  fits : length ≤ 1480
  packet : h.Allocates 0
  frame : h.Allocates (1 + arpRequests h (nextHop h.ip destIp))
  nic : NicUp h

theorem Host.allocates_of_drop {h h' : Host} {n : Nat} (hdrop : h'.allocs = h.allocs.drop n) :
    h'.Allocates 0 ↔ h.Allocates n := by
  unfold Host.Allocates
  rw [hdrop, List.getD_eq_getElem?_getD, List.getD_eq_getElem?_getD, List.getElem?_drop,
    Nat.add_zero]

theorem SendsTo.nicUp_iff {h h' : Host} {frames : List Bytes} (hs : SendsTo h h' frames) :
    NicUp h' ↔ NicUp h := by
  obtain ⟨rest, id, rfl⟩ := hs
  exact Iff.rfl

/-- The frame of a packet is sent when the memory left by the requests suffices. -/
theorem ethernetSends_after_resolve {h h' : Host} {requests : List Bytes} {destIp : UInt32}
    {length : Nat} (hinit : h.ip.initialized = true) (halloc : h.Allocates 0) (hpos : 0 < length)
    (hto : SendsTo { h with allocs := h.allocs.tail } h' requests)
    (hallocs : h.ethernet.initialized = true →
      h'.allocs = h.allocs.tail.drop (arpRequests h (nextHop h.ip destIp))) :
    EthernetSends h' (20 + length) ↔ IpSends h destIp length := by
  have hframe : h.ethernet.initialized = true →
      (h'.Allocates 0 ↔ h.Allocates (1 + arpRequests h (nextHop h.ip destIp))) := by
    intro hethernet
    rw [Host.allocates_of_drop (n := 1 + arpRequests h (nextHop h.ip destIp))]
    rw [hallocs hethernet, ← List.drop_one, List.drop_drop]
  have hethernet : h'.ethernet.initialized = h.ethernet.initialized := by rw [hto.ethernet]
  constructor
  · intro hs
    have hup : h.ethernet.initialized = true := hethernet ▸ hs.initialized
    exact ⟨hinit, hup, hpos, by have := hs.fits; omega, halloc, (hframe hup).mp hs.frame,
      hto.nicUp_iff.mp hs.nic⟩
  · intro hs
    exact ⟨hethernet.trans hs.ethernet, by omega, by have := hs.fits; omega,
      (hframe hs.ethernet).mpr hs.frame, hto.nicUp_iff.mpr hs.nic⟩

/-- A packet that `ip_send_packet` builds is sent iff the frame is. -/
theorem ipSendPacket_built_iff {h : Host} (hinit : h.ip.initialized = true)
    (halloc : h.Allocates 0) (destIp : UInt32) (protocol : UInt8) {data : Bytes}
    (hpos : 0 < data.length) (hfits : data.length ≤ 65515) :
    (∃ h', ipSendPacket h destIp protocol (some data) = .ok (true, h')) ↔
      IpSends h destIp data.length := by
  obtain ⟨destMac, h₁, requests, hresolve, hto, -⟩ :=
    arpResolve_cases { h with allocs := h.allocs.tail } (nextHop h.ip destIp) h.stack
  have hallocs : h.ethernet.initialized = true →
      h₁.allocs = h.allocs.tail.drop (arpRequests h (nextHop h.ip destIp)) := by
    intro hethernet
    obtain ⟨mac', h', hresolve', hallocs⟩ := arpResolve_allocs
      (h := { h with allocs := h.allocs.tail }) hethernet (nextHop h.ip destIp) h.stack
    rw [hresolve] at hresolve'
    cases hresolve'
    exact hallocs
  have hframe := ethernetSendFrame_true_iff h₁ destMac 0x0800
    (ipPacket h.ip destIp protocol data) (by rw [length_ipPacket]; omega)
  rw [length_ipPacket, ethernetSends_after_resolve hinit halloc hpos hto hallocs] at hframe
  rw [← hframe, ipSendPacket_packet hinit halloc protocol hpos hfits hresolve]
  cases hsend : ethernetSendFrame h₁ (some destMac) 0x0800
      (some (ipPacket h.ip destIp protocol data)) with
  | error fault =>
    apply iff_of_false
    · rintro ⟨_, heq⟩
      cases heq
    · rintro ⟨_, heq⟩
      cases heq
  | ok r =>
    obtain ⟨ok, h₂⟩ := r
    constructor
    · rintro ⟨_, heq⟩
      cases heq
      exact ⟨h₂, rfl⟩
    · rintro ⟨_, heq⟩
      cases heq
      exact ⟨_, rfl⟩

/-- **When `ip_send_packet` reports success.** -/
theorem ipSendPacket_true_iff (h : Host) (destIp : UInt32) (protocol : UInt8) (data : Bytes) :
    (∃ h', ipSendPacket h destIp protocol (some data) = .ok (true, h')) ↔
      IpSends h destIp data.length := by
  by_cases hlong : 65515 < data.length
  · apply iff_of_false
    · rintro ⟨h', hsend⟩
      rcases ipSendPacket_long h destIp protocol hlong with ⟨fault, he⟩ | ⟨rest, he⟩
      · rw [hsend] at he
        cases he
      · rw [hsend] at he
        cases he
    · exact fun hs => absurd hs.fits (by omega)
  · by_cases hbuilt : h.ip.initialized = true ∧ 0 < data.length ∧ h.Allocates 0
    · obtain ⟨hinit, hpos, halloc⟩ := hbuilt
      exact ipSendPacket_built_iff hinit halloc destIp protocol hpos (by omega)
    · apply iff_of_false
      · rintro ⟨h', hsend⟩
        have hno : ¬ (h.ip.initialized = true ∧ 0 < data.length ∧ data.length ≤ 65515 ∧
            h.Allocates 0) := fun ⟨hinit, hpos, _, halloc⟩ => hbuilt ⟨hinit, hpos, halloc⟩
        obtain ⟨rest, he⟩ := ipSendPacket_not_built destIp protocol (by omega) hno
        rw [hsend] at he
        cases he
      · exact fun hs => hbuilt ⟨hs.initialized, hs.positive, hs.packet⟩

/-! ## tcp_send -/

/-- Everything below `tcp_send` succeeds for a payload of this length. -/
structure Transmits (h : Host) (destIp : UInt32) (length : Nat) : Prop where
  ip : h.ip.initialized = true
  ethernet : h.ethernet.initialized = true
  nic : NicUp h
  fits : length ≤ 1460
  segment : h.Allocates 0
  packet : h.Allocates 1
  frame : h.Allocates (2 + arpRequests h (nextHop h.ip destIp))

/-- `tcp_send` returns false at its first test. -/
def Refused (h : Host) (socket : TcpSocket) (data : Option Bytes) : Prop :=
  h.tcp.initialized = false ∨ socket.addr = 0 ∨ data = none ∨ data = some []

/-- A frame with a segment from the socket that carries this payload. -/
def IsSegmentFrame (h : Host) (socket : TcpSocket) (data frame : Bytes) : Prop :=
  ∃ destMac checksum, frame = etherFrame destMac h.ethernet.macAddress 0x0800
    (ipPacket h.ip socket.remoteIp ipProtocolTcp
      (tcpHeader socket (tcpFlagPsh ||| tcpFlagAck) checksum ++ data))

/-- Between the two states such a frame was handed to the card. -/
def SegmentHanded (h h' : Host) (socket : TcpSocket) (data : Bytes) : Prop :=
  ∃ frames, h'.nic.sent = h.nic.sent ++ frames ∧
    ∃ frame ∈ frames, IsSegmentFrame h socket data frame

/-- The result of `tcp_send` says what became of the segment. -/
def ReportsSend (h : Host) (socket : TcpSocket) (data : Option Bytes) : Prop :=
  ∃ ok h', tcpSend h socket.addr data = .ok (ok, h') ∧
    (ok = true → SegmentHanded h h' socket (data.getD []) ∧
      h'.tcp = h.tcp.modify socket.addr (addSeq (UInt32.ofNat (data.getD []).length))) ∧
    (¬ SegmentHanded h h' socket (data.getD []) → ok = false ∧ h'.tcp = h.tcp)

/-- The types of the two kinds of frames differ. -/
theorem IsArpRequest.not_isSegmentFrame {frame : Bytes} (harp : IsArpRequest frame) (h : Host)
    (socket : TcpSocket) (data : Bytes) : ¬ IsSegmentFrame h socket data frame := by
  rintro ⟨destMac, checksum, heq⟩
  obtain ⟨srcMac, packet, rfl⟩ := harp
  have htype := congrArg (fun f => byteAt f 12) heq
  exact absurd htype (by decide : ¬ ((0x06 : UInt8) = 0x08))

theorem not_segmentHanded {h h' : Host} {requests : List Bytes} {socket : TcpSocket} {data : Bytes}
    (hsent : h'.nic.sent = h.nic.sent ++ requests) (hreq : ∀ f ∈ requests, IsArpRequest f) :
    ¬ SegmentHanded h h' socket data := by
  rintro ⟨frames, hsent', frame, hframe, hseg⟩
  rw [hsent] at hsent'
  obtain rfl := List.append_cancel_left hsent'
  exact (hreq frame hframe).not_isSegmentFrame h socket data hseg

theorem tcpSend_refused {h : Host} {socket : TcpSocket} {data : Option Bytes}
    (hrefused : Refused h socket data) : tcpSend h socket.addr data = .ok (false, h) := by
  unfold tcpSend
  cases data with
  | none => rfl
  | some data =>
    dsimp only
    rw [if_pos]
    rcases hrefused with hinit | haddr | hnone | hempty
    · exact Or.inl hinit
    · exact Or.inr (Or.inl haddr)
    · cases hnone
    · cases hempty
      exact Or.inr (Or.inr rfl)

/-- Past the first test the call is `tcp_send_packet`, and true is returned. -/
theorem tcpSend_established {h : Host} {socket : TcpSocket} {data : Bytes}
    (hsocket : h.tcp.socketAt socket.addr = some socket) (hstate : socket.state = .established)
    (hgo : ¬ Refused h socket (some data)) :
    tcpSend h socket.addr (some data) =
      (tcpSendPacket h (some socket) (tcpFlagPsh ||| tcpFlagAck) data >>= fun h' =>
        Except.ok (true, h')) := by
  unfold tcpSend
  dsimp only
  rw [if_neg, hsocket]
  · dsimp only
    rw [if_neg (by rw [hstate]; simp)]
    rfl
  · rintro (hinit | haddr | hempty)
    · exact hgo (Or.inl hinit)
    · exact hgo (Or.inr (Or.inl haddr))
    · exact hgo (Or.inr (Or.inr (Or.inr (by rw [List.length_eq_zero_iff.mp hempty]))))

/-- A block for a segment that has wrapped around is too small. -/
theorem tcpSendPacket_long {h : Host} (halloc : h.Allocates 0) (socket : TcpSocket) (flags : UInt8)
    {data : Bytes} (hlong : 2 ^ 32 ≤ 20 + data.length) :
    ∃ fault, tcpSendPacket h (some socket) flags data = .error fault := by
  obtain ⟨block, hblock, hk⟩ := kmalloc_some halloc (wrap32 (tcpHeaderSize + data.length))
  have hsmall : block.length < tcpHeaderSize + data.length := by
    rw [hblock]
    unfold wrap32 tcpHeaderSize
    omega
  unfold tcpSendPacket
  rw [hk]
  dsimp only
  rw [write_header_overflow (n := tcpHeaderSize) rfl hsmall]
  exact ⟨_, rfl⟩

/-- With a block for it, the segment goes to `ip_send_packet`. -/
theorem tcpSendPacket_segment {h : Host} (halloc : h.Allocates 0) (socket : TcpSocket)
    (flags : UInt8) {data : Bytes} (hlen : 20 + data.length < 2 ^ 32) :
    tcpSendPacket h (some socket) flags data =
      (ipSendPacket { h with allocs := h.allocs.tail } socket.remoteIp ipProtocolTcp
        (some (tcpSegment h.ip.ipAddress socket flags data)) >>= fun r =>
          Except.ok (r.2.modifySocket socket.addr (advanceSeq flags data.length))) := by
  have hwrap : wrap32 (tcpHeaderSize + data.length) = 20 + data.length := wrap32_eq_self hlen
  obtain ⟨block, hblock, hk⟩ := kmalloc_some halloc (20 + data.length)
  obtain ⟨p₁, p₂, header, hp₁, hp₂, hheader, hp₃⟩ :=
    write_tcpSegment h.ip.ipAddress socket flags block data hblock
  unfold tcpSendPacket
  rw [hwrap, hk]
  simp only [hp₁, hp₂, hheader, hp₃, ok_bind, pure, Except.pure]

theorem transmits_iff (h : Host) (destIp : UInt32) {length : Nat} (hpos : 0 < length) :
    Transmits h destIp length ↔ h.Allocates 0 ∧
      IpSends { h with allocs := h.allocs.tail } destIp (20 + length) := by
  have hframe := h.allocates_tail (1 + arpRequests h (nextHop h.ip destIp))
  rw [Nat.add_comm 1, Nat.add_assoc, Nat.add_comm _ (1 + 1)] at hframe
  constructor
  · intro ht
    refine ⟨ht.segment, ht.ip, ht.ethernet, by omega, by have := ht.fits; omega,
      (h.allocates_tail 0).mpr ht.packet, ?_, ht.nic⟩
    rw [Nat.add_comm 1]
    exact hframe.mpr ht.frame
  · rintro ⟨hsegment, hs⟩
    have hs' := hs.frame
    rw [Nat.add_comm 1] at hs'
    exact ⟨hs.initialized, hs.ethernet, hs.nic, by have := hs.fits; omega, hsegment,
      (h.allocates_tail 0).mp hs.packet, hframe.mp hs'⟩

/-- What a call of `ip_send_packet` that returns has sent. -/
theorem ipSendPacket_result {h h' : Host} {destIp : UInt32} {protocol : UInt8} {data : Bytes}
    {ok : Bool} (hres : ipSendPacket h destIp protocol (some data) = .ok (ok, h')) :
    ∃ requests frames, SendsTo h h' (requests ++ frames) ∧ (∀ f ∈ requests, IsArpRequest f) ∧
      (ok = false ∧ frames = [] ∨ ok = true ∧ ∃ destMac, frames =
        [etherFrame destMac h.ethernet.macAddress 0x0800 (ipPacket h.ip destIp protocol data)]) := by
  by_cases hlong : 65515 < data.length
  · rcases ipSendPacket_long h destIp protocol hlong with ⟨fault, he⟩ | ⟨rest, he⟩
    · rw [hres] at he
      cases he
    · rw [hres] at he
      cases he
      exact ⟨[], [], SendsTo.refl h rest, by simp, Or.inl ⟨rfl, rfl⟩⟩
  · obtain ⟨ok', h₁, requests, frames, hip, hto, hreq, hframes⟩ :=
      ipSendPacket_cases h destIp protocol data (by omega)
    rw [hres] at hip
    cases hip
    refine ⟨requests, frames, hto, hreq, ?_⟩
    rcases hframes with hf | ⟨hok, -, -, hf⟩
    · exact Or.inl hf
    · exact Or.inr ⟨hok, hf⟩

theorem SendsTo.sent {h h' : Host} {frames : List Bytes} (hs : SendsTo h h' frames) :
    h'.nic.sent = h.nic.sent ++ frames := by
  obtain ⟨rest, id, rfl⟩ := hs
  rfl

/-- The sequence number advances by the length of the payload. -/
theorem advanceSeq_push (length : Nat) :
    advanceSeq (tcpFlagPsh ||| tcpFlagAck) length = addSeq (UInt32.ofNat length) := by
  funext socket
  show { socket with seqNum := socket.seqNum + (0 + UInt32.ofNat length) } = _
  rw [UInt32.zero_add]
  rfl

theorem length_pos_of_not_refused {h : Host} {socket : TcpSocket} {data : Bytes}
    (hgo : ¬ Refused h socket (some data)) : 0 < data.length := by
  refine Nat.pos_of_ne_zero fun hz => hgo ?_
  rw [List.length_eq_zero_iff.mp hz]
  exact Or.inr (Or.inr (Or.inr rfl))

theorem reportsSend_of_transmits {h : Host} {socket : TcpSocket} {data : Bytes}
    (hsocket : h.tcp.socketAt socket.addr = some socket) (hstate : socket.state = .established)
    (hgo : ¬ Refused h socket (some data)) (ht : Transmits h socket.remoteIp data.length) :
    ReportsSend h socket (some data) := by
  have hpos := length_pos_of_not_refused hgo
  have hfits := ht.fits
  obtain ⟨halloc, hs⟩ := (transmits_iff h socket.remoteIp hpos).mp ht
  rw [← length_tcpSegment h.ip.ipAddress socket (tcpFlagPsh ||| tcpFlagAck) data] at hs
  obtain ⟨h₁, hip⟩ := (ipSendPacket_true_iff _ _ ipProtocolTcp _).mpr hs
  obtain ⟨requests, frames, hto, -, ⟨hfalse, -⟩ | ⟨-, destMac, rfl⟩⟩ := ipSendPacket_result hip
  · cases hfalse
  · obtain ⟨h₂, hh₂⟩ : ∃ h₂, h₁.modifySocket socket.addr
        (advanceSeq (tcpFlagPsh ||| tcpFlagAck) data.length) = h₂ := ⟨_, rfl⟩
    have hsend : tcpSend h socket.addr (some data) = .ok (true, h₂) := by
      rw [tcpSend_established hsocket hstate hgo,
        tcpSendPacket_segment halloc socket _ (by omega), hip, ← hh₂]
      rfl
    have hhanded : SegmentHanded h h₂ socket data := by
      rw [← hh₂]
      exact ⟨_, hto.sent, _, List.mem_append_right _ List.mem_cons_self, destMac, _, rfl⟩
    have hseq : h₂.tcp = h.tcp.modify socket.addr (addSeq (UInt32.ofNat data.length)) := by
      rw [← hh₂]
      show h₁.tcp.modify socket.addr (advanceSeq _ data.length) = _
      rw [hto.tcp, advanceSeq_push]
    exact ⟨true, h₂, hsend, fun _ => ⟨hhanded, hseq⟩, fun hno => absurd hhanded hno⟩

theorem transmits_of_reportsSend {h : Host} {socket : TcpSocket} {data : Bytes}
    (hsocket : h.tcp.socketAt socket.addr = some socket) (hstate : socket.state = .established)
    (hgo : ¬ Refused h socket (some data)) (hreports : ReportsSend h socket (some data)) :
    Transmits h socket.remoteIp data.length := by
  have hpos := length_pos_of_not_refused hgo
  obtain ⟨ok, h', hsend, hsuccess, -⟩ := hreports
  rw [tcpSend_established hsocket hstate hgo] at hsend
  refine (transmits_iff h socket.remoteIp hpos).mpr ?_
  by_cases halloc : h.Allocates 0
  · refine ⟨halloc, ?_⟩
    by_cases hlong : 2 ^ 32 ≤ 20 + data.length
    · obtain ⟨fault, he⟩ := tcpSendPacket_long halloc socket (tcpFlagPsh ||| tcpFlagAck) hlong
      rw [he] at hsend
      cases hsend
    · rw [tcpSendPacket_segment halloc socket _ (by omega)] at hsend
      cases hip : ipSendPacket { h with allocs := h.allocs.tail } socket.remoteIp ipProtocolTcp
          (some (tcpSegment h.ip.ipAddress socket (tcpFlagPsh ||| tcpFlagAck) data)) with
      | error fault => rw [hip] at hsend; cases hsend
      | ok r =>
        obtain ⟨sent, h₁⟩ := r
        rw [hip] at hsend
        cases hsend
        obtain ⟨requests, frames, hto, hreq, ⟨-, rfl⟩ | ⟨rfl, -⟩⟩ := ipSendPacket_result hip
        · -- true is returned although nothing was sent
          rw [List.append_nil] at hto
          exact absurd (hsuccess rfl).1 (not_segmentHanded hto.sent hreq)
        · have hs := (ipSendPacket_true_iff _ _ ipProtocolTcp _).mp ⟨h₁, hip⟩
          rw [length_tcpSegment] at hs
          exact hs
  · unfold tcpSendPacket at hsend
    rw [kmalloc_none halloc] at hsend
    cases hsend
    exact absurd (hsuccess rfl).1 (not_segmentHanded (List.append_nil _).symm (by simp))

/--
**`tcp_send` tells the truth about an established socket iff it refuses the call at once or every
layer below it succeeds.** Otherwise it returns true for a segment that was never handed to the card.
-/
theorem reportsSend_iff (h : Host) {socket : TcpSocket}
    (hsocket : h.tcp.socketAt socket.addr = some socket) (hstate : socket.state = .established)
    (data : Option Bytes) :
    ReportsSend h socket data ↔
      Refused h socket data ∨ Transmits h socket.remoteIp (data.getD []).length := by
  by_cases hrefused : Refused h socket data
  · refine ⟨fun _ => Or.inl hrefused, fun _ => ⟨false, h, tcpSend_refused hrefused, ?_, ?_⟩⟩
    · exact Bool.noConfusion
    · exact fun _ => ⟨rfl, rfl⟩
  · cases data with
    | none => exact absurd (Or.inr (Or.inr (Or.inl rfl))) hrefused
    | some data =>
      constructor
      · exact fun hreports => Or.inr (transmits_of_reportsSend hsocket hstate hrefused hreports)
      · intro hcond
        exact reportsSend_of_transmits hsocket hstate hrefused (hcond.resolve_left hrefused)

/-! ## An established connection -/

/-- Port 49152 of 10.0.0.2, connected to port 80 of 10.0.0.1. -/
def connectedSocket : TcpSocket where
  addr := 0x100000
  localPort := 49152
  remotePort := 80
  remoteIp := 0x0100000A
  state := .established
  seqNum := 1000
  ackNum := 2000
  callback := 1

/-- A host with this connection, which knows the address of its peer. -/
def connectedHost (allocs : List (Option (Nat → UInt8))) : Host where
  nic := { macAddr := ⟨2, 0, 0, 0, 0, 2⟩, isRtl8139 := true, initialized := true, sent := [] }
  ethernet := { macAddress := ⟨2, 0, 0, 0, 0, 2⟩, rxCallback := some .ipInput, initialized := true }
  arp :=
    { cache := [{ ip := 0x0100000A, mac := ⟨2, 0, 0, 0, 0, 1⟩, occupied := true }]
      initialized := true }
  ip :=
    { ipAddress := 0x0200000A, subnetMask := 0x00FFFFFF, gateway := 0x0100000A, idCounter := 0
      protocolHandlers := fun protocol => if protocol = 6 then some .tcp else none
      initialized := true }
  udp := { sockets := [], nextPort := 49152, initialized := false }
  tcp := { sockets := [connectedSocket], nextPort := 49153, initialized := true }
  ticks := 0
  allocs := allocs
  stack := ⟨0, 0, 0, 0, 0, 0⟩

/-- Memory for the segment, the packet and the frame is enough. -/
theorem three_blocks_reported :
    ReportsSend (connectedHost (List.replicate 3 (some fun _ => 0))) connectedSocket
      (some [104, 105]) :=
  (reportsSend_iff _ rfl rfl (some [104, 105])).mpr
    (Or.inr ⟨rfl, rfl, ⟨rfl, rfl⟩, by decide, rfl, rfl, by unfold Host.Allocates; decide⟩)

/--
**No memory is left for the frame: nothing is sent, but the call succeeds and the sequence number
advances.**
-/
theorem lost_segment_reported_sent :
    ∃ h', tcpSend (connectedHost [some fun _ => 0, some fun _ => 0, none]) 0x100000
        (some [104, 105]) = .ok (true, h') ∧
      h'.nic.sent = [] ∧ h'.tcp.sockets = [{ connectedSocket with seqNum := 1002 }] ∧
      ¬ ReportsSend (connectedHost [some fun _ => 0, some fun _ => 0, none]) connectedSocket
        (some [104, 105]) := by
  refine ⟨_, rfl, rfl, rfl, ?_⟩
  rintro ⟨ok, h', hsend, hsuccess, -⟩
  obtain ⟨rfl, rfl⟩ : true = ok ∧ _ = h' := Prod.mk.inj (Except.ok.inj hsend)
  obtain ⟨⟨frames, hsent, frame, hframe, -⟩, -⟩ := hsuccess rfl
  obtain rfl : [] = frames := hsent
  cases hframe

end MayaOs.Net
