import MayaOs.Net.Icmp
import MayaOs.Properties.TcpSend
import MayaOs.Properties.UdpDelivery

/-!
# An echo request and its reply

A request goes from one host to another one, which turns it into a reply; the reply leads to the
callback on the first host.

* `icmpExamine_request`, `icmpExamine_reply` — what the receiver makes of the two messages
* `echo_answered` — the callback runs once, with what was sent
-/

namespace MayaOs.Net

open MayaOs.Lib

/-! ## Messages -/

/-- A message with its checksum. -/
def icmpMessage (type : UInt8) (identifier sequence : UInt16) (data : Bytes) : Bytes :=
  icmpHeader type 0 (icmpChecksum (icmpHeader type 0 0 identifier sequence ++ data)) identifier
    sequence ++ data

@[simp] theorem length_icmpMessage (type : UInt8) (identifier sequence : UInt16) (data : Bytes) :
    (icmpMessage type identifier sequence data).length = 8 + data.length := by
  rw [icmpMessage, List.length_append, length_icmpHeader]

/-- **`icmp_send_echo_request` builds the message** when there is memory for it. -/
theorem echoRequest_eq {s : IcmpState} (hinit : s.initialized = true) {h : Host}
    (halloc : h.Allocates 0) (identifier sequence : UInt16) {data : Bytes} (hpos : 0 < data.length)
    (hlen : data.length + 8 < 2 ^ 32) :
    echoRequest s h identifier sequence (some data) =
      .ok (some (icmpMessage icmpTypeEchoRequest (swap16 identifier) (swap16 sequence) data),
        { h with allocs := h.allocs.tail }) := by
  have hwrap : wrap32 (icmpHeaderSize + data.length) = 8 + data.length :=
    wrap32_eq_self (by unfold icmpHeaderSize; omega)
  obtain ⟨block, hblock, hk⟩ := kmalloc_some halloc (8 + data.length)
  have hfinish : write (icmpHeader icmpTypeEchoRequest 0 0 (swap16 identifier) (swap16 sequence) ++
        data) 2 (le16 (icmpChecksum
          (icmpHeader icmpTypeEchoRequest 0 0 (swap16 identifier) (swap16 sequence) ++ data)))
      = .ok (icmpMessage icmpTypeEchoRequest (swap16 identifier) (swap16 sequence) data) := by
    rw [write_eq (by rw [List.length_append, length_icmpHeader, length_le16]; omega)]
    rfl
  unfold echoRequest
  simp only [hwrap]
  rw [if_neg (by rw [hinit]; simp; exact List.ne_nil_of_length_pos hpos), hk]
  simp only []
  rw [write_header_fill (n := icmpHeaderSize) rfl hblock, hfinish]
  rfl

/-- What the receiver reads and writes of a message, whatever follows it. -/
theorem icmpMessage_fields (type : UInt8) (identifier sequence : UInt16) (data rest : Bytes) :
    read16 (icmpMessage type identifier sequence data ++ rest) 2
      = .ok (icmpChecksum (icmpHeader type 0 0 identifier sequence ++ data)) ∧
    write (icmpMessage type identifier sequence data ++ rest) 2 (le16 0)
      = .ok (icmpHeader type 0 0 identifier sequence ++ data ++ rest) ∧
    slice (icmpHeader type 0 0 identifier sequence ++ data ++ rest) 0 (8 + data.length)
      = .ok (icmpHeader type 0 0 identifier sequence ++ data) ∧
    write (icmpHeader type 0 0 identifier sequence ++ data ++ rest) 2
        (le16 (icmpChecksum (icmpHeader type 0 0 identifier sequence ++ data)))
      = .ok (icmpMessage type identifier sequence data ++ rest) ∧
    read8 (icmpMessage type identifier sequence data ++ rest) 0 = .ok type := by
  have hlen : (icmpHeader type 0 0 identifier sequence ++ data ++ rest).length
      = 8 + data.length + rest.length := by
    rw [List.length_append, List.length_append, length_icmpHeader]
  refine ⟨?_, ?_, ?_, ?_, rfl⟩
  · show Except.ok (u16 _ _) = _
    rw [u16_le16]
  · rw [write_eq (by rw [List.length_append, length_icmpMessage, length_le16]; omega)]
    rfl
  · rw [slice_eq (by omega), List.drop_zero, List.take_left']
    rw [List.length_append, length_icmpHeader]
  · rw [write_eq (by rw [hlen, length_le16]; omega)]
    rfl

/-- The copy of a request becomes the reply. -/
theorem echoReply_message {h : Host} (halloc : h.Allocates 0) (identifier sequence : UInt16)
    (data rest : Bytes) :
    echoReply h (icmpMessage icmpTypeEchoRequest identifier sequence data ++ rest)
        (8 + data.length) =
      .ok (some (icmpMessage icmpTypeEchoReply identifier sequence data),
        { h with allocs := h.allocs.tail }) := by
  obtain ⟨block, hblock, hk⟩ := kmalloc_some halloc (8 + data.length)
  let request := icmpMessage icmpTypeEchoRequest identifier sequence data
  have hrequest : request.length = 8 + data.length := length_icmpMessage ..
  have hcopy : slice (request ++ rest) 0 (8 + data.length) = .ok request := by
    rw [slice_eq (by rw [List.length_append]; omega), List.drop_zero, List.take_left' hrequest]
  have htype : write request 0 [icmpTypeEchoReply] =
      .ok (icmpHeader icmpTypeEchoReply 0
        (icmpChecksum (icmpHeader icmpTypeEchoRequest 0 0 identifier sequence ++ data)) identifier
        sequence ++ data) := by
    rw [write_eq (by rw [hrequest, List.length_singleton]; omega)]
    rfl
  have hclear : ∀ checksum, write (icmpHeader icmpTypeEchoReply 0 checksum identifier sequence ++
      data) 2 (le16 0) = .ok (icmpHeader icmpTypeEchoReply 0 0 identifier sequence ++ data) := by
    intro checksum
    rw [write_eq (by rw [List.length_append, length_icmpHeader, length_le16]; omega)]
    rfl
  have hfinish : write (icmpHeader icmpTypeEchoReply 0 0 identifier sequence ++ data) 2
      (le16 (icmpChecksum (icmpHeader icmpTypeEchoReply 0 0 identifier sequence ++ data)))
      = .ok (icmpMessage icmpTypeEchoReply identifier sequence data) := by
    rw [write_eq (by rw [List.length_append, length_icmpHeader, length_le16]; omega)]
    rfl
  unfold echoReply
  rw [hk]
  show (slice (request ++ rest) 0 (8 + data.length) >>= _) = _
  simp only [hcopy, write_all (hrequest.trans hblock.symm), htype, hclear, hfinish, ok_bind, pure,
    Except.pure]

/-! ## The receiver -/

/-- **A request leads to its reply.** -/
theorem icmpExamine_request {s : IcmpState} (hinit : s.initialized = true) {h : Host}
    (halloc : h.Allocates 0) (srcIp : UInt32) (identifier sequence : UInt16) (data rest : Bytes) :
    icmpExamine s h srcIp
        (some (icmpMessage icmpTypeEchoRequest identifier sequence data ++ rest)) (8 + data.length)
      = .ok (.reply (icmpMessage icmpTypeEchoReply identifier sequence data),
          some (icmpMessage icmpTypeEchoRequest identifier sequence data ++ rest),
          { h with allocs := h.allocs.tail }) := by
  obtain ⟨hsum, hclear, hslice, hrestore, htype⟩ :=
    icmpMessage_fields icmpTypeEchoRequest identifier sequence data rest
  unfold icmpExamine
  simp only []
  rw [if_neg (by simp only [hinit, icmpHeaderSize, Bool.true_eq_false, false_or]; omega)]
  simp only [hsum, hclear, hslice, hrestore, htype, echoReply_message halloc, ok_bind, pure,
    Except.pure]
  rw [if_neg (not_not.mpr rfl), if_pos trivial]
  rfl

/-- **A reply leads to the callback.** -/
theorem icmpExamine_reply {s : IcmpState} (hinit : s.initialized = true)
    (hcallback : s.echoCallback ≠ 0) (h : Host) (srcIp : UInt32) (identifier sequence : UInt16)
    (data rest : Bytes) :
    icmpExamine s h srcIp
        (some (icmpMessage icmpTypeEchoReply identifier sequence data ++ rest)) (8 + data.length)
      = .ok (.call
            { callback := s.echoCallback, srcIp := srcIp, identifier := swap16 identifier
              sequence := swap16 sequence, data := data },
          some (icmpMessage icmpTypeEchoReply identifier sequence data ++ rest), h) := by
  obtain ⟨hsum, hclear, hslice, hrestore, htype⟩ :=
    icmpMessage_fields icmpTypeEchoReply identifier sequence data rest
  have hidentifier : read16 (icmpMessage icmpTypeEchoReply identifier sequence data ++ rest) 4
      = .ok identifier := by
    show Except.ok (u16 _ _) = _
    rw [u16_le16]
  have hsequence : read16 (icmpMessage icmpTypeEchoReply identifier sequence data ++ rest) 6
      = .ok sequence := by
    show Except.ok (u16 _ _) = _
    rw [u16_le16]
  have hdata : slice (icmpMessage icmpTypeEchoReply identifier sequence data ++ rest)
      icmpHeaderSize (8 + data.length - icmpHeaderSize) = .ok data := by
    rw [slice_eq (by
      rw [List.length_append, length_icmpMessage]
      unfold icmpHeaderSize
      omega)]
    show Except.ok ((data ++ rest).take (8 + data.length - 8)) = _
    rw [Nat.add_sub_cancel_left, List.take_left]
  unfold icmpExamine
  simp only []
  rw [if_neg (by simp only [hinit, icmpHeaderSize, Bool.true_eq_false, false_or]; omega)]
  simp only [hsum, hclear, hslice, hrestore, htype, hidentifier, hsequence, hdata, ok_bind, pure,
    Except.pure]
  rw [if_neg (not_not.mpr rfl), if_neg (by decide), if_pos trivial, if_neg hcallback]

/-! ## Hosts -/

/-- A host whose layers up to ICMP are set up. -/
structure Pings (s : IcmpState) (h : Host) : Prop where
  icmp : s.initialized = true
  ip : h.ip.initialized = true
  handler : h.ip.protocolHandlers ipProtocolIcmp = some .icmp

theorem SendsTo.ipAddress {h h' : Host} {frames : List Bytes} (hs : SendsTo h h' frames) :
    h'.ip.ipAddress = h.ip.ipAddress := by
  obtain ⟨rest, id, rfl⟩ := hs
  rfl

/-- Sending does not change the set-up. -/
theorem Pings.sent {s : IcmpState} {h h' : Host} {frames : List Bytes} (hp : Pings s h)
    (hs : SendsTo h h' frames) : Pings s h' := by
  obtain ⟨rest, id, rfl⟩ := hs
  exact ⟨hp.icmp, hp.ip, hp.handler⟩

/-- The card takes frames, and there is memory for a message, its packet, its frame and the frame
of a request for an address. -/
structure CanSend (h : Host) : Prop where
  ethernet : h.ethernet.initialized = true
  nic : NicUp h
  allocs : ∀ i < 4, h.Allocates i

/-- The calls of the echo callback when `ip_handle_packet` gets a packet. -/
def deliverIcmp (s : IcmpState) (h : Host) (packet : Bytes) :
    Except Fault (List EchoCall × Host) := do
  match ← ipHandlePacket h.ip (some packet) with
  | (some call, some packet) =>
    if call.handler = .icmp then
      let (echo, _, h) ← icmpHandlePacket s h call.srcIp (some (packet.drop call.offset)) call.length
      return (echo.toList, h)
    else return ([], h)
  | _ => return ([], h)

/-- The IPv4 packets in a list of frames, with the padding of the frames behind them. -/
def ipv4Packets (frames : List Bytes) : List Bytes :=
  (ipv4Frames frames).map fun frame => frame.drop ethernetHeaderSize

/-- An IPv4 packet in its frame, sent after requests for addresses. -/
theorem ipv4Packets_sent {requests : List Bytes} (h : ∀ f ∈ requests, IsArpRequest f)
    (destMac srcMac : Mac) (packet : Bytes) :
    ipv4Packets (requests ++ [etherFrame destMac srcMac 0x0800 packet])
      = [packet ++ List.replicate (46 - packet.length) 0] := by
  unfold ipv4Packets
  rw [ipv4Frames_sent h, List.map_singleton]
  rfl

/-- **A message that `ip_send_packet` reports as sent is the only IPv4 packet of the call.** -/
theorem ipSendPacket_sent {h h' : Host} {destIp : UInt32} {protocol : UInt8} {data : Bytes}
    (hlen : data.length ≤ 1480)
    (hsend : ipSendPacket h destIp protocol (some data) = .ok (true, h')) :
    ∃ frames, SendsTo h h' frames ∧
      ipv4Packets frames = [ipPacket h.ip destIp protocol data ++
        List.replicate (46 - (ipPacket h.ip destIp protocol data).length) 0] := by
  obtain ⟨ok, h'', requests, frames, hsend', hto, hreq, hframes⟩ :=
    ipSendPacket_cases h destIp protocol data (by omega)
  rw [hsend] at hsend'
  cases hsend'
  rcases hframes with ⟨hfalse, -⟩ | ⟨-, -, -, destMac, rfl⟩
  · cases hfalse
  · exact ⟨_, hto, ipv4Packets_sent hreq destMac h.ethernet.macAddress _⟩

/-- **What the receiver of a packet with an ICMP message does** is what `icmp_handle_packet` does
with the message and the padding behind it. -/
theorem deliverIcmp_ipPacket {s : IcmpState} {h : Host} (hp : Pings s h) (sender : IpState)
    (message pad : Bytes) (hlen : message.length + 20 < 65536) :
    deliverIcmp s h (ipPacket sender h.ip.ipAddress ipProtocolIcmp message ++ pad) =
      (icmpHandlePacket s h sender.ipAddress (some (message ++ pad)) message.length >>= fun r =>
        Except.ok (r.1.toList, r.2.2)) := by
  have hip := ipHandlePacket_ipPacket sender hp.ip hp.handler message pad hlen
  have hdrop : (ipPacket sender h.ip.ipAddress ipProtocolIcmp message ++ pad).drop 20
      = message ++ pad := by
    show (ipHeader _ _ _ _ _ ++ message ++ pad).drop 20 = _
    rw [List.append_assoc, List.drop_left' (length_ipHeader ..)]
  unfold deliverIcmp
  rw [hip]
  simp only [ok_bind, if_true, hdrop]
  rfl

/-! ## The exchange -/

/-- **A request that `icmp_send_echo_request` reports as sent is in one packet.** -/
theorem icmpSendEchoRequest_sent {s : IcmpState} {h h' : Host} {destIp : UInt32}
    {identifier sequence : UInt16} {data : Bytes} (hlen : data.length ≤ 1472)
    (hsend : icmpSendEchoRequest s h destIp identifier sequence (some data) = .ok (true, h')) :
    ∃ frames pad, SendsTo h h' frames ∧
      ipv4Packets frames = [ipPacket h.ip destIp ipProtocolIcmp
        (icmpMessage icmpTypeEchoRequest (swap16 identifier) (swap16 sequence) data) ++ pad] := by
  unfold icmpSendEchoRequest at hsend
  by_cases hbuilt : s.initialized = true ∧ 0 < data.length ∧ h.Allocates 0
  · obtain ⟨hinit, hpos, halloc⟩ := hbuilt
    rw [echoRequest_eq hinit halloc identifier sequence hpos (by omega)] at hsend
    obtain ⟨frames, hto, hpackets⟩ :=
      ipSendPacket_sent (by rw [length_icmpMessage]; omega) hsend
    exact ⟨frames, _, (SendsTo.refl h h.allocs.tail).trans hto, hpackets⟩
  · -- without a message nothing is sent
    have hnone : ∃ h₁, echoRequest s h identifier sequence (some data) = .ok (none, h₁) := by
      unfold echoRequest
      simp only []
      split
      · exact ⟨h, rfl⟩
      · next hg =>
        simp only [not_or, Bool.not_eq_false] at hg
        have halloc : ¬ h.Allocates 0 := fun ha => hbuilt ⟨hg.1, by omega, ha⟩
        rw [kmalloc_none halloc]
        exact ⟨_, rfl⟩
    obtain ⟨h₁, hnone⟩ := hnone
    rw [hnone] at hsend
    cases hsend

/-- **The host that gets the request sends one packet, with the reply.** -/
theorem deliverIcmp_request {s : IcmpState} {h : Host} (hp : Pings s h) (hsends : CanSend h)
    (sender : IpState) (identifier sequence : UInt16) {data : Bytes} (hlen : data.length ≤ 1472)
    (pad : Bytes) :
    ∃ h' frames pad', deliverIcmp s h (ipPacket sender h.ip.ipAddress ipProtocolIcmp
        (icmpMessage icmpTypeEchoRequest identifier sequence data) ++ pad) = .ok ([], h') ∧
      SendsTo h h' frames ∧
      ipv4Packets frames = [ipPacket h.ip sender.ipAddress ipProtocolIcmp
        (icmpMessage icmpTypeEchoReply identifier sequence data) ++ pad'] := by
  let reply := icmpMessage icmpTypeEchoReply identifier sequence data
  have hreply : reply.length = 8 + data.length := length_icmpMessage ..
  let h₁ : Host := { h with allocs := h.allocs.tail }
  have halloc : ∀ i, h₁.Allocates i ↔ h.Allocates (i + 1) := h.allocates_tail
  have hone : arpRequests h₁ (nextHop h₁.ip sender.ipAddress) ≤ 1 := by
    unfold arpRequests
    split <;> omega
  have hip : IpSends h₁ sender.ipAddress reply.length :=
    ⟨hp.ip, hsends.ethernet, by omega, by omega, (halloc 0).mpr (hsends.allocs 1 (by omega)),
      (halloc _).mpr (hsends.allocs _ (by omega)), hsends.nic⟩
  obtain ⟨h', hsend⟩ := (ipSendPacket_true_iff h₁ sender.ipAddress ipProtocolIcmp reply).mpr hip
  obtain ⟨frames, hto, hpackets⟩ := ipSendPacket_sent (by omega) hsend
  refine ⟨h', frames, _, ?_, (SendsTo.refl h h.allocs.tail).trans hto, hpackets⟩
  rw [deliverIcmp_ipPacket hp sender _ pad (by rw [length_icmpMessage]; omega), length_icmpMessage]
  unfold icmpHandlePacket
  rw [icmpExamine_request hp.icmp (hsends.allocs 0 (by omega))]
  simp only [ok_bind]
  show ((ipSendPacket h₁ sender.ipAddress ipProtocolIcmp (some reply) >>= _) >>= _) = _
  rw [hsend]
  rfl

/-- **The host that gets the reply calls its callback once.** -/
theorem deliverIcmp_reply {s : IcmpState} {h : Host} (hp : Pings s h) (hcallback : s.echoCallback ≠ 0)
    (sender : IpState) (identifier sequence : UInt16) {data : Bytes} (hlen : data.length ≤ 1472)
    (pad : Bytes) :
    deliverIcmp s h (ipPacket sender h.ip.ipAddress ipProtocolIcmp
        (icmpMessage icmpTypeEchoReply identifier sequence data) ++ pad) =
      .ok ([{
        callback := s.echoCallback, srcIp := sender.ipAddress, identifier := swap16 identifier
        sequence := swap16 sequence, data := data }], h) := by
  rw [deliverIcmp_ipPacket hp sender _ pad (by rw [length_icmpMessage]; omega), length_icmpMessage]
  unfold icmpHandlePacket
  rw [icmpExamine_reply hp.icmp hcallback]
  rfl

/--
**A request that was sent is answered by one packet, and that packet makes the callback run once,
with the sender of the reply and with the identifier, sequence number and data of the request.**

The packets have the padding of their frames behind them.
-/
theorem echo_answered {sa sb : IcmpState} {a a' b : Host} (ha : Pings sa a) (hb : Pings sb b)
    (hcallback : sa.echoCallback ≠ 0) (hsends : CanSend b) {identifier sequence : UInt16}
    {payload : Bytes} (hlen : 1 ≤ payload.length ∧ payload.length ≤ 1472)
    (hsend : icmpSendEchoRequest sa a b.ip.ipAddress identifier sequence (some payload)
      = .ok (true, a')) :
    ∃ request, ipv4Packets (a'.nic.sent.drop a.nic.sent.length) = [request] ∧
      ∃ b' reply, deliverIcmp sb b request = .ok ([], b') ∧
        ipv4Packets (b'.nic.sent.drop b.nic.sent.length) = [reply] ∧
        deliverIcmp sa a' reply = .ok ([{
          callback := sa.echoCallback, srcIp := b.ip.ipAddress, identifier := identifier
          sequence := sequence, data := payload }], a') := by
  obtain ⟨frames, pad, hto, hrequest⟩ := icmpSendEchoRequest_sent hlen.2 hsend
  obtain ⟨b', frames', pad', hdeliver, hto', hreply⟩ :=
    deliverIcmp_request hb hsends a.ip (swap16 identifier) (swap16 sequence) hlen.2 pad
  have hcall := deliverIcmp_reply (ha.sent hto) hcallback b.ip (swap16 identifier)
    (swap16 sequence) hlen.2 pad'
  rw [hto.ipAddress, swap16_swap16, swap16_swap16] at hcall
  refine ⟨_, ?_, b', _, hdeliver, ?_, hcall⟩
  · rw [hto.drop_sent]
    exact hrequest
  · rw [hto'.drop_sent]
    exact hreply

/-- `exampleHost` with ICMP registered. -/
def pingHost (ip : UInt32) (mac : Mac) : Host :=
  let h := exampleHost ip mac
  { h with ip := (ipRegisterProtocol h.ip ipProtocolIcmp (some .icmp)).2 }

/-- Three bytes go from 10.0.0.1 to 10.0.0.2 and back. -/
theorem echo_answered_three :
    ∃ a' request b' reply,
      icmpSendEchoRequest { echoCallback := 1, initialized := true }
        (pingHost 0x0100000A ⟨2, 0, 0, 0, 0, 1⟩) 0x0200000A 7 1 (some [1, 2, 3]) = .ok (true, a') ∧
      ipv4Packets (a'.nic.sent.drop 0) = [request] ∧
      deliverIcmp { echoCallback := 0, initialized := true }
        (pingHost 0x0200000A ⟨2, 0, 0, 0, 0, 2⟩) request = .ok ([], b') ∧
      ipv4Packets (b'.nic.sent.drop 0) = [reply] ∧
      deliverIcmp { echoCallback := 1, initialized := true } a' reply = .ok ([{
        callback := 1, srcIp := 0x0200000A, identifier := 7, sequence := 1, data := [1, 2, 3] }],
        a') := by
  have hok : (icmpSendEchoRequest { echoCallback := 1, initialized := true }
      (pingHost 0x0100000A ⟨2, 0, 0, 0, 0, 1⟩) 0x0200000A 7 1 (some [1, 2, 3])).map Prod.fst
        = .ok true := by decide +kernel
  cases hsend : icmpSendEchoRequest { echoCallback := 1, initialized := true }
      (pingHost 0x0100000A ⟨2, 0, 0, 0, 0, 1⟩) 0x0200000A 7 1 (some [1, 2, 3]) with
  | error fault =>
    rw [hsend] at hok
    cases hok
  | ok r =>
    obtain ⟨ok, a'⟩ := r
    rw [hsend] at hok
    cases hok
    obtain ⟨request, hrequest, b', reply, hdeliver, hreply, hcall⟩ :=
      echo_answered (b := pingHost 0x0200000A ⟨2, 0, 0, 0, 0, 2⟩)
        (show Pings { echoCallback := 1, initialized := true } _ from ⟨rfl, rfl, rfl⟩)
        (show Pings { echoCallback := 0, initialized := true } _ from ⟨rfl, rfl, rfl⟩) (by decide)
        ⟨rfl, ⟨rfl, rfl⟩, by unfold Host.Allocates; decide⟩ (by decide) hsend
    exact ⟨a', request, b', reply, rfl, hrequest, hdeliver, hreply, hcall⟩

end MayaOs.Net
