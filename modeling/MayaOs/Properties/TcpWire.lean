import MayaOs.Net.Builders
import MayaOs.Properties.TcpStream
import MayaOs.Properties.TransportChecksum

/-!
# TCP segments on the wire

`tcp_send_packet` and `tcp_handle_packet` swap the bytes of the ports, and of no other field. The
payload is taken from behind a header of 20 bytes.

* `tcpHandlePacket_reads` — what the code takes for sequence number and payload
* `tcp_segments_iff` — no segment that is sent is encoded as in the standard, and which received ones are
  read as in the standard
* `tcp_segments_wrong` — a SYN, and the answers to two segments
-/

namespace MayaOs.Net

open MayaOs.Lib

/-! ## The standard -/

def be32 (x : UInt32) : Bytes :=
  [UInt8.ofNat (x.toNat / 16777216), UInt8.ofNat (x.toNat / 65536), UInt8.ofNat (x.toNat / 256),
    UInt8.ofNat x.toNat]

/-- The header of RFC 793 without options; the data offset counts words of 32 bits. -/
def rfcHeader (sourcePort destPort : UInt16) (seqNum ackNum : UInt32) (dataOffset : Nat)
    (flags : UInt8) (window checksum urgentPtr : UInt16) : Bytes :=
  be16 sourcePort.toNat ++ be16 destPort.toNat ++ be32 seqNum ++ be32 ackNum ++
    [UInt8.ofNat (16 * dataOffset), flags] ++ be16 window.toNat ++ be16 checksum.toNat ++
    be16 urgentPtr.toNat

/-- The sequence number of a segment: the big-endian value at offset 4. -/
def seqNumOf (packet : Bytes) : UInt32 :=
  u32 (byteAt packet 7) (byteAt packet 6) (byteAt packet 5) (byteAt packet 4)

def dataOffsetOf (packet : Bytes) : Nat := (byteAt packet 12).toNat / 16

/-- A segment of RFC 793: its header has at least five words, and ends inside the segment. -/
structure WireSegment where
  bytes : Bytes
  minimal : 5 ≤ dataOffsetOf bytes
  inside : 4 * dataOffsetOf bytes ≤ bytes.length

def WireSegment.seqNum (s : WireSegment) : UInt32 := seqNumOf s.bytes

def WireSegment.flags (s : WireSegment) : UInt8 := byteAt s.bytes 13

/-- The bytes behind the header. -/
def WireSegment.payload (s : WireSegment) : Bytes := s.bytes.drop (4 * dataOffsetOf s.bytes)

theorem WireSegment.length_le (s : WireSegment) : 20 ≤ s.bytes.length := by
  have hminimal := s.minimal
  have hinside := s.inside
  omega

theorem WireSegment.dataOffset_lt (s : WireSegment) : dataOffsetOf s.bytes < 16 := by
  have hbyte := (byteAt s.bytes 12).toNat_lt
  unfold dataOffsetOf
  omega

/-- The fields that the receiver needs are read back from an encoded header. -/
theorem rfcHeader_decode (sourcePort destPort : UInt16) (seqNum ackNum : UInt32) {dataOffset : Nat}
    (hoffset : dataOffset < 16) (flags : UInt8) (window checksum urgentPtr : UInt16)
    (rest : Bytes) :
    let packet := rfcHeader sourcePort destPort seqNum ackNum dataOffset flags window checksum
      urgentPtr ++ rest
    seqNumOf packet = seqNum ∧ dataOffsetOf packet = dataOffset ∧ byteAt packet 13 = flags := by
  refine ⟨u32_le32 seqNum, ?_, rfl⟩
  show (UInt8.ofNat (16 * dataOffset)).toNat / 16 = dataOffset
  rw [UInt8.toNat_ofNat']
  omega

/-! ## Sending -/

/-- **The fields of a segment that is sent**: ports, data offset, flags and urgent pointer are right,
the numbers only when they read the same in both byte orders, and the window is not. -/
theorem tcpSegment_fields (ip : UInt32) (socket : TcpSocket) (flags : UInt8) (data : Bytes) :
    let packet := tcpSegment ip socket flags data
    packet.take 4 = be16 socket.localPort.toNat ++ be16 socket.remotePort.toNat ∧
      (packet.drop 4).take 4 = (be32 socket.seqNum).reverse ∧
      (packet.drop 8).take 4 = (be32 socket.ackNum).reverse ∧
      (packet.drop 12).take 2 = [UInt8.ofNat (16 * 5), flags] ∧
      (packet.drop 14).take 2 = (be16 tcpWindowSize.toNat).reverse ∧
      (packet.drop 18).take 2 = be16 0 := by
  have hport : ∀ port : UInt16, le16 (swap16 port) = be16 port.toNat := fun port =>
    le16_of_toNat port.toNat_lt (toNat_swap16 port)
  refine ⟨?_, rfl, rfl, rfl, rfl, rfl⟩
  show le16 (swap16 socket.localPort) ++ le16 (swap16 socket.remotePort) = _
  rw [hport, hport]

/-- The window is never right. -/
theorem tcpSegment_take_ne (ip : UInt32) (socket : TcpSocket) (flags : UInt8) (data : Bytes)
    (checksum : UInt16) :
    (tcpSegment ip socket flags data).take 20 ≠
      rfcHeader socket.localPort socket.remotePort socket.seqNum socket.ackNum 5 flags tcpWindowSize
        checksum 0 := by
  intro h
  have hwindow : (0x00 : UInt8) = 0x20 := congrArg (byteAt · 14) h
  exact absurd hwindow (by decide)

/-! ## Receiving -/

/-- The sequence number of the segment is used. -/
def TakesSeq (socket : TcpSocket) (flags : UInt8) : Prop :=
  socket.state = .listen ∧ hasFlag flags tcpFlagSyn = true ∨
    socket.state = .synSent ∧ flags &&& (tcpFlagSyn ||| tcpFlagAck) = tcpFlagSyn ||| tcpFlagAck

instance (socket : TcpSocket) (flags : UInt8) : Decidable (TakesSeq socket flags) :=
  inferInstanceAs (Decidable (_ ∨ _))

/-- The payload of the segment is used. -/
def TakesPayload (socket : TcpSocket) (flags : UInt8) : Prop :=
  socket.state = .established ∧ hasFlag flags tcpFlagPsh = true

instance (socket : TcpSocket) (flags : UInt8) : Decidable (TakesPayload socket flags) :=
  inferInstanceAs (Decidable (_ ∧ _))

/-- The next acknowledgement number, if a segment has this sequence number and this payload. -/
def acknowledged (socket : TcpSocket) (flags : UInt8) (seqNum : UInt32) (payload : Bytes)
    (ackNum : UInt32) : UInt32 :=
  if TakesSeq socket flags then seqNum + 1
  else
    ackNum + (if TakesPayload socket flags then UInt32.ofNat payload.length else 0) +
      if socket.state = .established ∧ hasFlag flags tcpFlagFin = true then 1 else 0

/-- The data passed to the callback. -/
def passedOn (socket : TcpSocket) (flags : UInt8) (payload : Bytes) : List Bytes :=
  if TakesPayload socket flags ∧ socket.callback ≠ 0 then [payload] else []

/-- The acknowledgement numbers of all sockets when that of one changes. -/
def ackNums (s : TcpState) (addr : Nat) (f : UInt32 → UInt32) : List UInt32 :=
  s.sockets.map fun socket => if socket.addr = addr then f socket.ackNum else socket.ackNum

/-- A segment was handled as one with this sequence number and this payload. -/
structure ReadAs (h : Host) (socket : TcpSocket) (flags : UInt8) (seqNum : UInt32) (payload : Bytes)
    (events : List TcpEvent) (h' : Host) : Prop where
  ackNums : h'.tcp.sockets.map TcpSocket.ackNum =
    ackNums h.tcp socket.addr (acknowledged socket flags seqNum payload)
  data : dataEvents socket.addr events = passedOn socket flags payload

theorem ackNums_modify {s s' : TcpState} {addr : Nat} {g : TcpSocket → TcpSocket}
    {f : UInt32 → UInt32} (htcp : s' = s.modify addr g) (hg : ∀ x, (g x).ackNum = f x.ackNum) :
    s'.sockets.map TcpSocket.ackNum = ackNums s addr f := by
  rw [htcp]
  unfold TcpState.modify ackNums
  rw [List.map_map]
  refine List.map_congr_left fun x _ => ?_
  by_cases hx : x.addr = addr
  · simp [if_pos hx, hg]
  · simp [if_neg hx]

theorem dataEvents_of_no_data {socket : Nat} {events : List TcpEvent}
    (h : ∀ e ∈ events, e.event ≠ .data) : dataEvents socket events = [] := by
  unfold dataEvents
  rw [List.map_eq_nil_iff, List.filter_eq_nil_iff]
  intro e he
  simp [h e he]

theorem flatMap_notify_muted {socket : TcpSocket} (hc : socket.callback = 0)
    (payloads : List Bytes) : payloads.flatMap (notify socket .data) = [] := by
  simp [notify, hc]

/-- **What the code reads**: the sequence number as the processor does, the payload from byte 20 on. -/
theorem tcpHandlePacket_reads {h : Host} {srcIp : UInt32} {packet : Bytes} {socket : TcpSocket}
    (he : Examined h packet) (hfind : segmentSocket h srcIp packet = some socket) :
    ∃ events h', tcpHandlePacket h srcIp (some packet) packet.length = .ok (events, h') ∧
      ReadAs h socket (byteAt packet 13) (u32At packet 4) (packet.drop 20) events h' := by
  have hhas : h.tcp.Has socket.addr := ⟨socket, List.mem_of_find?_eq_some hfind, rfl⟩
  simp only [tcpHandlePacket_examined he, hfind]
  cases hstate : socket.state with
  | listen =>
    obtain ⟨h', g, hres, hhandled, hack⟩ := handleListen_cases hhas hstate srcIp _ he.2
    refine ⟨[], h', hres, ackNums_modify hhandled.tcp fun s => ?_, ?_⟩
    · rw [hack s]
      simp [acknowledged, TakesSeq, TakesPayload, hstate]
    · simp [dataEvents, passedOn, TakesPayload, hstate]
  | synSent =>
    obtain ⟨events, h', g, hres, hhandled, hevents, hack⟩ := handleSynSent_cases hhas he.2
    refine ⟨events, h', hres, ackNums_modify hhandled.tcp fun s => ?_, ?_⟩
    · rw [hack s]
      simp [acknowledged, TakesSeq, TakesPayload, hstate]
    · simp [dataEvents_of_no_data hevents, passedOn, TakesPayload, hstate]
  | established =>
    obtain ⟨events, h', g, hres, hhandled, -, ⟨closed, rfl, hclosed⟩, hack⟩ :=
      handleEstablished_cases hhas he.2
    refine ⟨_, h', hres, ackNums_modify hhandled.tcp fun s => ?_, ?_⟩
    · rw [hack s]
      by_cases hpsh : hasFlag (byteAt packet 13) tcpFlagPsh = true
      · simp [acknowledged, TakesSeq, TakesPayload, hstate, pushed, hpsh]
      · simp [acknowledged, TakesSeq, TakesPayload, hstate, pushed, hpsh]
    · rw [dataEvents_append, dataEvents_of_no_data hclosed, List.append_nil]
      by_cases hc : socket.callback = 0
      · simp [flatMap_notify_muted hc, passedOn, hc, dataEvents]
      · rw [dataEvents_notify hc]
        simp [pushed, passedOn, TakesPayload, hstate, hc]
  | _ =>
    refine ⟨[], h, rfl, ?_, ?_⟩
    · refine ackNums_modify (TcpState.modify_id h.tcp socket.addr).symm fun s => ?_
      simp [acknowledged, TakesSeq, TakesPayload, hstate]
    · simp [dataEvents, passedOn, TakesPayload, hstate]

section Alternatives

variable {socket : TcpSocket} {flags : UInt8} {seqNum seqNum' : UInt32} {payload payload' : Bytes}

theorem not_takesPayload (h : TakesSeq socket flags) : ¬ TakesPayload socket flags := by
  rintro ⟨hs', -⟩
  rcases h with ⟨hs, -⟩ | ⟨hs, -⟩
  · rw [hs] at hs'
    cases hs'
  · rw [hs] at hs'
    cases hs'

theorem acknowledged_eq_iff (ackNum : UInt32) :
    acknowledged socket flags seqNum payload ackNum =
        acknowledged socket flags seqNum' payload' ackNum ↔
      (TakesSeq socket flags → seqNum = seqNum') ∧
        (TakesPayload socket flags →
          UInt32.ofNat payload.length = UInt32.ofNat payload'.length) := by
  unfold acknowledged
  by_cases hseq : TakesSeq socket flags
  · simp [hseq, not_takesPayload hseq]
  · by_cases hpay : TakesPayload socket flags
    · simp only [if_neg hseq, if_pos hpay, UInt32.add_left_inj, UInt32.add_right_inj]
      simp [hseq, hpay]
    · simp [hseq, hpay]

theorem passedOn_eq_iff :
    passedOn socket flags payload = passedOn socket flags payload' ↔
      (TakesPayload socket flags → socket.callback ≠ 0 → payload = payload') := by
  unfold passedOn
  by_cases htakes : TakesPayload socket flags ∧ socket.callback ≠ 0
  · simp [htakes.1, htakes.2]
  · rw [if_neg htakes, if_neg htakes]
    exact ⟨fun _ hpay hc => absurd ⟨hpay, hc⟩ htakes, fun _ => rfl⟩

/-- When another sequence number and another payload would have been the same. -/
theorem readAs_iff {h h' : Host} {events : List TcpEvent} (hmem : socket ∈ h.tcp.sockets)
    (hread : ReadAs h socket flags seqNum payload events h') :
    ReadAs h socket flags seqNum' payload' events h' ↔
      (TakesSeq socket flags → seqNum = seqNum') ∧
        (TakesPayload socket flags →
          UInt32.ofNat payload.length = UInt32.ofNat payload'.length ∧
            (socket.callback ≠ 0 → payload = payload')) := by
  constructor
  · rintro ⟨hack, hdata⟩
    rw [hread.ackNums] at hack
    have hnum := List.map_inj_left.mp hack socket hmem
    rw [if_pos rfl, if_pos rfl] at hnum
    obtain ⟨hseq, hlen⟩ := (acknowledged_eq_iff socket.ackNum).mp hnum
    have hpay := passedOn_eq_iff.mp (hread.data.symm.trans hdata)
    exact ⟨hseq, fun htakes => ⟨hlen htakes, hpay htakes⟩⟩
  · rintro ⟨hseq, hpay⟩
    have hnum : acknowledged socket flags seqNum payload =
        acknowledged socket flags seqNum' payload' := by
      funext ackNum
      exact (acknowledged_eq_iff ackNum).mpr ⟨hseq, fun htakes => (hpay htakes).1⟩
    refine ⟨hnum ▸ hread.ackNums, hread.data.trans ?_⟩
    exact passedOn_eq_iff.mpr fun htakes => (hpay htakes).2

end Alternatives

/-- The payload starts behind 20 bytes only without options. -/
theorem WireSegment.payload_iff (s : WireSegment) :
    UInt32.ofNat (s.bytes.drop 20).length = UInt32.ofNat s.payload.length ↔
      dataOffsetOf s.bytes = 5 := by
  have hminimal := s.minimal
  have hinside := s.inside
  have hlt := s.dataOffset_lt
  rw [← UInt32.toNat_inj, UInt32.toNat_ofNat', UInt32.toNat_ofNat', WireSegment.payload,
    List.length_drop, List.length_drop]
  omega

/-- **The received segments that are read as in the standard.** -/
theorem segment_readAs_iff {h : Host} {srcIp : UInt32} {segment : WireSegment} {socket : TcpSocket}
    (hinit : h.tcp.initialized = true)
    (hfind : segmentSocket h srcIp segment.bytes = some socket) :
    ∃ events h', tcpHandlePacket h srcIp (some segment.bytes) segment.bytes.length =
        .ok (events, h') ∧
      (ReadAs h socket segment.flags segment.seqNum segment.payload events h' ↔
        (TakesSeq socket segment.flags → byteAt segment.bytes 4 = byteAt segment.bytes 7 ∧
          byteAt segment.bytes 5 = byteAt segment.bytes 6) ∧
        (TakesPayload socket segment.flags → dataOffsetOf segment.bytes = 5)) := by
  have he : Examined h segment.bytes := ⟨hinit, segment.length_le⟩
  obtain ⟨events, h', hres, hread⟩ := tcpHandlePacket_reads he hfind
  refine ⟨events, h', hres, ?_⟩
  have hpay : (UInt32.ofNat (segment.bytes.drop 20).length = UInt32.ofNat segment.payload.length ∧
      (socket.callback ≠ 0 → segment.bytes.drop 20 = segment.payload)) ↔
      dataOffsetOf segment.bytes = 5 := by
    rw [segment.payload_iff]
    refine and_iff_left_of_imp fun hoffset _ => ?_
    rw [WireSegment.payload, hoffset]
  rw [WireSegment.flags, readAs_iff (List.mem_of_find?_eq_some hfind) hread, hpay, u32At,
    WireSegment.seqNum, seqNumOf, u32_reverse_iff]

/--
**No segment that is sent is encoded as in the standard; which received ones are read as in the
standard.**

A listening socket uses the sequence number of a SYN, a connecting one that of a SYN with ACK, and an
established one the payload of a segment with PSH.
-/
theorem tcp_segments_iff (h : Host) (socket : TcpSocket) :
    (∀ h' socket' flags data packet checksum,
      tcpSegmentOf h (some socket) flags data = .ok (some (socket', packet), h') →
      packet.take 20 ≠ rfcHeader socket.localPort socket.remotePort socket.seqNum socket.ackNum 5
        flags tcpWindowSize checksum 0) ∧
    (∀ srcIp (segment : WireSegment), h.tcp.initialized = true →
      segmentSocket h srcIp segment.bytes = some socket →
      ∃ events h', tcpHandlePacket h srcIp (some segment.bytes) segment.bytes.length =
          .ok (events, h') ∧
        (ReadAs h socket segment.flags segment.seqNum segment.payload events h' ↔
          (TakesSeq socket segment.flags → byteAt segment.bytes 4 = byteAt segment.bytes 7 ∧
            byteAt segment.bytes 5 = byteAt segment.bytes 6) ∧
          (TakesPayload socket segment.flags → dataOffsetOf segment.bytes = 5))) := by
  constructor
  · intro h' socket' flags data packet checksum hb
    rw [tcpSegmentOf_built hb]
    exact tcpSegment_take_ne _ socket flags data checksum
  · intro srcIp segment hinit hfind
    exact segment_readAs_iff hinit hfind

/-! ## Three segments -/

/-- A host with one socket. -/
def hostWith (socket : TcpSocket) : Host :=
  { senderHost with tcp := { TcpState.fresh with sockets := [socket] } }

/-- The answer of the server to the SYN, with sequence number 1. -/
def synAckSegment : WireSegment where
  bytes := rfcHeader 80 49152 1 1 5 (tcpFlagSyn ||| tcpFlagAck) 8192 0 0
  minimal := by decide
  inside := by decide

/-- One byte of data behind a header with one word of options. -/
def optionSegment : WireSegment where
  bytes := rfcHeader 80 49152 2 1 6 (tcpFlagPsh ||| tcpFlagAck) 8192 0 0 ++ [1, 1, 1, 0] ++ [42]
  minimal := by decide
  inside := by decide

/-- The acknowledgement numbers and the data passed on, after a segment from 10.0.0.2. -/
def afterSegment (h : Host) (segment : WireSegment) : Option (List UInt32 × List Bytes) :=
  match tcpHandlePacket h 0x0200000A (some segment.bytes) segment.bytes.length with
  | .error _ => none
  | .ok (events, h') => some (h'.tcp.sockets.map TcpSocket.ackNum, dataEvents 1 events)

/-- **A SYN has the wrong window, sequence number 1 is read as `0x1000000`, and options are
passed on as data.** -/
theorem tcp_segments_wrong :
    ((∃ h', tcpSegmentOf senderHost (some webSocket) tcpFlagSyn [] =
        .ok (some (webSocket, tcpSegment 0x0100000A webSocket tcpFlagSyn []), h')) ∧
      ∀ checksum, (tcpSegment 0x0100000A webSocket tcpFlagSyn []).take 20 ≠
        rfcHeader 49152 80 0 0 5 tcpFlagSyn 8192 checksum 0) ∧
    (synAckSegment.seqNum = 1 ∧
      afterSegment (hostWith webSocket) synAckSegment = some ([0x1000001], [])) ∧
    (optionSegment.payload = [42] ∧
      afterSegment (hostWith { webSocket with state := .established }) optionSegment =
        some ([5], [[1, 1, 1, 0, 42]])) :=
  ⟨⟨tcpSegmentOf_syn, fun checksum => tcpSegment_take_ne _ webSocket _ [] checksum⟩,
    ⟨by decide, by decide +kernel⟩, by decide, by decide +kernel⟩

theorem tcp_segments_three :
    (∀ checksum, (tcpSegment 0x0100000A webSocket tcpFlagSyn []).take 20 ≠
      rfcHeader 49152 80 0 0 5 tcpFlagSyn 8192 checksum 0) ∧
    (∃ events h', tcpHandlePacket (hostWith webSocket) 0x0200000A (some synAckSegment.bytes)
          synAckSegment.bytes.length = .ok (events, h') ∧
      (ReadAs (hostWith webSocket) webSocket synAckSegment.flags synAckSegment.seqNum
          synAckSegment.payload events h' ↔
        (TakesSeq webSocket synAckSegment.flags →
          byteAt synAckSegment.bytes 4 = byteAt synAckSegment.bytes 7 ∧
            byteAt synAckSegment.bytes 5 = byteAt synAckSegment.bytes 6) ∧
        (TakesPayload webSocket synAckSegment.flags → dataOffsetOf synAckSegment.bytes = 5))) := by
  obtain ⟨h', hb⟩ := tcpSegmentOf_syn
  exact ⟨fun checksum =>
      (tcp_segments_iff senderHost webSocket).1 h' webSocket tcpFlagSyn [] _ checksum hb,
    (tcp_segments_iff (hostWith webSocket) webSocket).2 0x0200000A synAckSegment rfl
      (by decide +kernel)⟩

end MayaOs.Net
