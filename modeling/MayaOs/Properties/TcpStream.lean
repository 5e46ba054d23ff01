import Mathlib.Data.List.Nodup
import MayaOs.Lib.Run
import MayaOs.Properties.TcpFault

/-!
# The byte stream of a TCP connection

`tcp_handle_packet` looks at no sequence number once a connection is established.

* `stream_arrivalOrder` — the callback gets the data of the peer's segments in the order in which
  they arrive, and `ack_num` counts the bytes it was given
* `stream_reordered` — a stream of two bytes of which only the second one is delivered, in the place
  of the first
-/

namespace MayaOs.Net

open MayaOs.Lib

/-! ## Connections -/

/-- No two sockets are stored at the same address. -/
def TcpState.Distinct (s : TcpState) : Prop := (s.sockets.map TcpSocket.addr).Nodup

instance (s : TcpState) : Decidable s.Distinct := inferInstanceAs (Decidable (List.Nodup _))

/-- An established connection: the segments of its peer are for `socket`. -/
structure Connection where
  host : Host
  socket : TcpSocket
  initialized : host.tcp.initialized = true
  distinct : host.tcp.Distinct
  found : host.tcp.lookup socket.remoteIp socket.remotePort socket.localPort = some socket
  established : socket.state = .established
  callback : socket.callback ≠ 0

/-- The socket that the segments of the peer are for, in a later state. -/
def Connection.current (c : Connection) (h : Host) : Option TcpSocket :=
  h.tcp.lookup c.socket.remoteIp c.socket.remotePort c.socket.localPort

/-- A segment of the peer. -/
def Connection.FromPeer (c : Connection) (srcIp : UInt32) (packet : Bytes) : Prop :=
  tcpHeaderSize ≤ packet.length ∧ srcIp = c.socket.remoteIp ∧
    swap16 (u16At packet 0) = c.socket.remotePort ∧ swap16 (u16At packet 2) = c.socket.localPort

instance (c : Connection) (srcIp : UInt32) (packet : Bytes) :
    Decidable (c.FromPeer srcIp packet) :=
  inferInstanceAs (Decidable (_ ∧ _ ∧ _ ∧ _))

/-! ## Runs -/

/-- The host, the data that has arrived from the peer and the data passed to the callback. -/
structure StreamState where
  host : Host
  arrived : List Bytes
  delivered : List Bytes

inductive StreamOp where
  /-- `ip_handle_packet` hands on a packet, from anyone -/
  | packet (srcIp : UInt32) (packet : Bytes)
  /-- the application sends on any socket -/
  | send (socket : Nat) (data : Option Bytes)
  /-- anything else that leaves the socket as it is, and the peer's segments to it -/
  | other (host : Host)

def Connection.start (c : Connection) : StreamState :=
  { host := c.host, arrived := [], delivered := [] }

/-- The data in the TCP_EVENT_DATA events of a socket. -/
def dataEvents (socket : Nat) (events : List TcpEvent) : List Bytes :=
  (events.filter fun e => e.socket == socket && e.event == .data).map TcpEvent.data

/-- The run ends at a fault, and at a FIN of the peer, which closes the connection. -/
def streamStep (c : Connection) (s : StreamState) : StreamOp → Option StreamState
  | .packet srcIp packet =>
    if c.FromPeer srcIp packet ∧ hasFlag (byteAt packet 13) tcpFlagFin = true then none
    else
      match tcpHandlePacket s.host srcIp (some packet) packet.length with
      | .error _ => none
      | .ok (events, h) =>
        some
          { host := h
            arrived := s.arrived ++ if c.FromPeer srcIp packet then pushed packet else []
            delivered := s.delivered ++ dataEvents c.socket.addr events }
  | .send socket data =>
    -- the headers of the three layers and the data fit the address space
    if (data.elim 0 List.length) + 54 < 2 ^ 32 then
      match tcpSend s.host socket data with
      | .error _ => none
      | .ok (_, h) => some { s with host := h }
    else none
  | .other h =>
    if h.tcp.initialized = true ∧ h.tcp.Distinct ∧ c.current h = c.current s.host then
      some { s with host := h }
    else none

/-- `ack_num` acknowledges as many bytes as were passed to the callback. -/
def Acked (c : Connection) (s : StreamState) : Prop :=
  ∃ socket, c.current s.host = some socket ∧ socket.addr = c.socket.addr ∧
    socket.ackNum = c.socket.ackNum + UInt32.ofNat s.delivered.flatten.length

/-- The callback was given a beginning of the stream, and this is what `ack_num` acknowledges. -/
def StreamOk (c : Connection) (stream : Bytes) (s : StreamState) : Prop :=
  s.delivered.flatten <+: stream ∧ Acked c s

/-! ## Finding the socket -/

theorem tcpMatches_iff {srcIp : UInt32} {srcPort destPort : UInt16} {socket : TcpSocket} :
    tcpMatches srcIp srcPort destPort socket = true ↔
      socket.localPort = destPort ∧
        (socket.state = .listen ∨ socket.remotePort = srcPort ∧ socket.remoteIp = srcIp) := by
  unfold tcpMatches
  simp only [Bool.and_eq_true, Bool.or_eq_true, beq_iff_eq]

/-- A change of a socket does not make it match a segment. -/
theorem Evolves.not_matches {s s' : TcpSocket} (h : Evolves s s') {srcIp : UInt32}
    {srcPort destPort : UInt16} (hno : ¬ tcpMatches srcIp srcPort destPort s = true) :
    ¬ tcpMatches srcIp srcPort destPort s' = true := by
  rw [tcpMatches_iff] at hno ⊢
  rintro ⟨hport, hrest⟩
  rw [h.localPort] at hport
  by_cases hl : s.state = .listen
  · exact hno ⟨hport, Or.inl hl⟩
  · obtain ⟨hl', hip, hrp⟩ := h.connection hl
    rcases hrest with hl'' | ⟨hrp', hip'⟩
    · exact hl' hl''
    · exact hno ⟨hport, Or.inr ⟨hrp ▸ hrp', hip ▸ hip'⟩⟩

theorem Evolves.matches {s s' : TcpSocket} (h : Evolves s s') (hl : s.state ≠ .listen)
    {srcIp : UInt32} {srcPort destPort : UInt16}
    (hm : tcpMatches srcIp srcPort destPort s = true) :
    tcpMatches srcIp srcPort destPort s' = true := by
  rw [tcpMatches_iff] at hm ⊢
  obtain ⟨-, hip, hrp⟩ := h.connection hl
  rcases hm with ⟨hport, hl' | ⟨hrp', hip'⟩⟩
  · exact absurd hl' hl
  · exact ⟨h.localPort.trans hport, Or.inr ⟨hrp.trans hrp', hip.trans hip'⟩⟩

/-- The first match stays the first one when no other element comes to match. -/
theorem find?_map_of_find? {α : Type} {p : α → Bool} {f : α → α} {x : α} :
    ∀ {l : List α}, l.find? p = some x → (∀ y ∈ l, ¬ p y = true → ¬ p (f y) = true) →
      p (f x) = true → (l.map f).find? p = some (f x) := by
  intro l
  induction l with
  | nil => intro h; cases h
  | cons y ys ih =>
    intro h hno hx
    rw [List.map_cons]
    by_cases hy : p y = true
    · rw [List.find?_cons_of_pos hy] at h
      cases h
      exact List.find?_cons_of_pos hx
    · rw [List.find?_cons_of_neg hy] at h
      rw [List.find?_cons_of_neg (hno y (List.mem_cons_self ..) hy)]
      exact ih h (fun z hz => hno z (List.mem_cons_of_mem _ hz)) hx

theorem TcpState.Distinct.eq {s : TcpState} (h : s.Distinct) {x y : TcpSocket}
    (hx : x ∈ s.sockets) (hy : y ∈ s.sockets) (haddr : x.addr = y.addr) : x = y :=
  List.inj_on_of_nodup_map h hx hy haddr

theorem TcpState.Distinct.modify {s : TcpState} (h : s.Distinct) {addr : Nat}
    {f : TcpSocket → TcpSocket} (hf : ∀ x ∈ s.sockets, x.addr = addr → (f x).addr = x.addr) :
    (s.modify addr f).Distinct := by
  unfold Distinct TcpState.modify at *
  rw [List.map_map]
  rwa [List.map_congr_left (g := TcpSocket.addr)]
  intro x hx
  by_cases hxa : x.addr = addr
  · rw [Function.comp_apply, if_pos hxa, hf x hx hxa]
  · rw [Function.comp_apply, if_neg hxa]

/-- After a change of one socket, the same socket is found. -/
theorem TcpState.lookup_modify {s : TcpState} {addr : Nat} {g : TcpSocket → TcpSocket}
    (hg : ∀ y ∈ s.sockets, y.addr = addr → Evolves y (g y)) {srcIp : UInt32}
    {srcPort destPort : UInt16} {x : TcpSocket} (hx : s.lookup srcIp srcPort destPort = some x)
    (hl : x.state ≠ .listen) :
    (s.modify addr g).lookup srcIp srcPort destPort = some (if x.addr = addr then g x else x) := by
  have hF : ∀ y ∈ s.sockets, Evolves y (if y.addr = addr then g y else y) := by
    intro y hy
    by_cases hya : y.addr = addr
    · rw [if_pos hya]; exact hg y hy hya
    · rw [if_neg hya]; exact Evolves.refl y
  refine find?_map_of_find? hx (fun y hy hno => (hF y hy).not_matches hno) ?_
  exact (hF x (List.mem_of_find?_eq_some hx)).matches hl (List.find?_some hx)

/-! ## Data events -/

theorem dataEvents_append (socket : Nat) (events events' : List TcpEvent) :
    dataEvents socket (events ++ events') = dataEvents socket events ++ dataEvents socket events' := by
  unfold dataEvents
  rw [List.filter_append, List.map_append]

theorem dataEvents_of_ne {a b : Nat} {events : List TcpEvent} (he : ∀ e ∈ events, e.socket = a)
    (hne : a ≠ b) : dataEvents b events = [] := by
  unfold dataEvents
  rw [List.map_eq_nil_iff, List.filter_eq_nil_iff]
  intro e hmem
  rw [he e hmem]
  simp [hne]

theorem dataEvents_notify {socket : TcpSocket} (hc : socket.callback ≠ 0) (payloads : List Bytes) :
    dataEvents socket.addr (payloads.flatMap (notify socket .data)) = payloads := by
  induction payloads with
  | nil => rfl
  | cons p ps ih =>
    rw [List.flatMap_cons, dataEvents_append, ih, notify, if_neg hc]
    simp [dataEvents]

/-! ## One step -/

/-- The socket of a connection after `n` bytes of data. -/
structure Serves (c : Connection) (n : Nat) (socket : TcpSocket) : Prop where
  addr : socket.addr = c.socket.addr
  callback : socket.callback ≠ 0
  established : socket.state = .established
  ackNum : socket.ackNum = c.socket.ackNum + UInt32.ofNat n

theorem Serves.addSeq {c : Connection} {n : Nat} {socket : TcpSocket} (h : Serves c n socket)
    (k : UInt32) : Serves c n (addSeq k socket) := ⟨h.addr, h.callback, h.established, h.ackNum⟩

theorem Serves.addAck {c : Connection} {n : Nat} {socket : TcpSocket} (h : Serves c n socket)
    (k : Nat) : Serves c (n + k) (addAck k socket) where
  addr := h.addr
  callback := h.callback
  established := h.established
  ackNum := by
    show socket.ackNum + UInt32.ofNat k = _
    rw [h.ackNum, UInt32.ofNat_add, UInt32.add_assoc]

structure StreamInv (c : Connection) (s : StreamState) : Prop where
  initialized : s.host.tcp.initialized = true
  distinct : s.host.tcp.Distinct
  inOrder : s.delivered = s.arrived
  socket : ∃ socket, c.current s.host = some socket ∧ Serves c s.delivered.flatten.length socket

theorem streamInv_start (c : Connection) : StreamInv c c.start where
  initialized := c.initialized
  distinct := c.distinct
  inOrder := rfl
  socket := ⟨c.socket, c.found, rfl, c.callback, c.established, (UInt32.add_zero _).symm⟩

/-- A change of one socket keeps the connection, with that change if it is its socket. -/
theorem StreamInv.modify {c : Connection} {s t : StreamState} (hinv : StreamInv c s) {addr : Nat}
    {g : TcpSocket → TcpSocket} (htcp : t.host.tcp = s.host.tcp.modify addr g)
    (hg : ∀ y ∈ s.host.tcp.sockets, y.addr = addr → Evolves y (g y))
    (horder : t.delivered = t.arrived)
    (hserves : ∀ x, c.current s.host = some x → Serves c s.delivered.flatten.length x →
      Serves c t.delivered.flatten.length (if x.addr = addr then g x else x)) : StreamInv c t where
  initialized := by rw [htcp]; exact hinv.initialized
  distinct := by rw [htcp]; exact hinv.distinct.modify fun y hy hya => (hg y hy hya).addr
  inOrder := horder
  socket := by
    obtain ⟨x, hx, hs⟩ := hinv.socket
    refine ⟨_, ?_, hserves x hx hs⟩
    unfold Connection.current
    rw [htcp]
    exact TcpState.lookup_modify hg hx (by rw [hs.established]; exact TcpSocketState.noConfusion)

theorem Connection.FromPeer.segmentSocket_eq {c : Connection} {srcIp : UInt32} {packet : Bytes}
    (hpeer : c.FromPeer srcIp packet) (h : Host) : segmentSocket h srcIp packet = c.current h := by
  obtain ⟨-, hip, hsrc, hdest⟩ := hpeer
  unfold segmentSocket Connection.current
  rw [hip, hsrc, hdest]

/-- A packet from someone else is not for the socket of the connection. -/
theorem addr_ne_of_not_fromPeer {c : Connection} {s : StreamState} (hinv : StreamInv c s)
    {srcIp : UInt32} {packet : Bytes} (hlen : tcpHeaderSize ≤ packet.length)
    (hpeer : ¬ c.FromPeer srcIp packet) {x y : TcpSocket} (hx : c.current s.host = some x)
    (hs : x.state = .established) (hy : segmentSocket s.host srcIp packet = some y) :
    y.addr ≠ x.addr := by
  intro haddr
  -- the same socket would match the packet by the ports and the address of the peer
  obtain rfl := hinv.distinct.eq (List.mem_of_find?_eq_some hy) (List.mem_of_find?_eq_some hx) haddr
  obtain ⟨hdest, hl | ⟨hsrc, hip⟩⟩ := tcpMatches_iff.mp (List.find?_some hy)
  · rw [hs] at hl; cases hl
  · obtain ⟨hdest', hl | ⟨hsrc', hip'⟩⟩ := tcpMatches_iff.mp (List.find?_some hx)
    · rw [hs] at hl; cases hl
    · exact hpeer ⟨hlen, hip.symm.trans hip', hsrc.symm.trans hsrc', hdest.symm.trans hdest'⟩

/-- A step that neither touches TCP nor passes on data. -/
theorem StreamInv.congr {c : Connection} {s t : StreamState} (hinv : StreamInv c s)
    (htcp : t.host.tcp = s.host.tcp) (harrived : t.arrived = s.arrived)
    (hdelivered : t.delivered = s.delivered) : StreamInv c t where
  initialized := by rw [htcp]; exact hinv.initialized
  distinct := by rw [htcp]; exact hinv.distinct
  inOrder := by rw [hdelivered, harrived]; exact hinv.inOrder
  socket := by
    unfold Connection.current
    rw [htcp, hdelivered]
    exact hinv.socket

/-- A segment of the peer: its data arrives, is passed on and acknowledged. -/
theorem StreamInv.fromPeer {c : Connection} {s t : StreamState} (hinv : StreamInv c s)
    {srcIp : UInt32} {packet : Bytes} (hpeer : c.FromPeer srcIp packet) {y : TcpSocket}
    (hy : segmentSocket s.host srcIp packet = some y) {events : List TcpEvent}
    {g : TcpSocket → TcpSocket} (hhandled : Handled s.host y events t.host g)
    (hdata : y.state = .established → events = (pushed packet).flatMap (notify y .data) ∧
      ∃ n, g = MayaOs.Net.addSeq n ∘ MayaOs.Net.addAck (pushed packet).flatten.length)
    (harrived : t.arrived = s.arrived ++ pushed packet)
    (hdelivered : t.delivered = s.delivered ++ dataEvents c.socket.addr events) :
    StreamInv c t := by
  rw [hpeer.segmentSocket_eq] at hy
  obtain ⟨x, hx, hs⟩ := hinv.socket
  obtain rfl : x = y := Option.some.inj (hx.symm.trans hy)
  obtain ⟨rfl, n, rfl⟩ := hdata hs.established
  rw [← hs.addr, dataEvents_notify hs.callback] at hdelivered
  refine hinv.modify hhandled.tcp ?_ ?_ fun z hz _ => ?_
  · intro z hz hzx
    rw [hinv.distinct.eq hz (List.mem_of_find?_eq_some hx) hzx]
    exact hhandled.evolves x rfl
  · rw [hdelivered, harrived, hinv.inOrder]
  · obtain rfl : z = x := Option.some.inj (hz.symm.trans hx)
    rw [if_pos rfl, hdelivered, List.flatten_append, List.length_append]
    exact (hs.addAck _).addSeq n

/-- A packet for another socket: the connection is not concerned. -/
theorem StreamInv.fromOther {c : Connection} {s t : StreamState} (hinv : StreamInv c s)
    {srcIp : UInt32} {packet : Bytes} (hlen : tcpHeaderSize ≤ packet.length)
    (hpeer : ¬ c.FromPeer srcIp packet) {y : TcpSocket}
    (hy : segmentSocket s.host srcIp packet = some y) {events : List TcpEvent}
    {g : TcpSocket → TcpSocket} (hhandled : Handled s.host y events t.host g)
    (harrived : t.arrived = s.arrived)
    (hdelivered : t.delivered = s.delivered ++ dataEvents c.socket.addr events) :
    StreamInv c t := by
  obtain ⟨x, hx, hs⟩ := hinv.socket
  have hne : y.addr ≠ x.addr := addr_ne_of_not_fromPeer hinv hlen hpeer hx hs.established hy
  rw [← hs.addr, dataEvents_of_ne hhandled.events hne, List.append_nil] at hdelivered
  refine hinv.modify hhandled.tcp ?_ ?_ fun z hz hsz => ?_
  · intro z hz hzy
    rw [hinv.distinct.eq hz (List.mem_of_find?_eq_some hy) hzy]
    exact hhandled.evolves y rfl
  · rw [hdelivered, harrived, hinv.inOrder]
  · obtain rfl : z = x := Option.some.inj (hz.symm.trans hx)
    rw [if_neg (Ne.symm hne), hdelivered]
    exact hsz

theorem streamInv_packet {c : Connection} {s t : StreamState} (hinv : StreamInv c s)
    {srcIp : UInt32} {packet : Bytes} (hstep : streamStep c s (.packet srcIp packet) = some t) :
    StreamInv c t := by
  simp only [streamStep] at hstep
  split at hstep
  · cases hstep
  · next hfin =>
    split at hstep
    · cases hstep
    · next events h' hres =>
      cases hstep
      rcases tcpHandlePacket_ok hres with ⟨rfl, htcp, hnone⟩ | ⟨y, g, he, hy, hhandled, hdata⟩
      · -- no socket matches, so the packet is not from the peer
        have hpeer : ¬ c.FromPeer srcIp packet := by
          intro hpeer
          obtain ⟨x, hx, -⟩ := hinv.socket
          have hno := hnone ⟨hinv.initialized, hpeer.1⟩
          rw [hpeer.segmentSocket_eq, hx] at hno
          cases hno
        refine hinv.congr htcp ?_ (List.append_nil _)
        rw [if_neg hpeer]
        exact List.append_nil _
      · by_cases hpeer : c.FromPeer srcIp packet
        · have hclear : hasFlag (byteAt packet 13) tcpFlagFin = false :=
            Bool.eq_false_iff.mpr fun hf => hfin ⟨hpeer, hf⟩
          refine hinv.fromPeer hpeer hy hhandled (fun hs => hdata hs hclear) ?_ rfl
          rw [if_pos hpeer]
        · refine hinv.fromOther he.2 hpeer hy hhandled ?_ rfl
          rw [if_neg hpeer]
          exact List.append_nil _

theorem streamInv_send {c : Connection} {s t : StreamState} (hinv : StreamInv c s) {addr : Nat}
    {data : Option Bytes} (hstep : streamStep c s (.send addr data) = some t) : StreamInv c t := by
  simp only [streamStep] at hstep
  split at hstep
  · next hlen =>
    split at hstep
    · cases hstep
    · next ok h' hres =>
      cases hstep
      obtain ⟨a, n, htcp⟩ := tcpSend_tcp hlen hres
      refine hinv.modify htcp (fun y _ _ => ⟨rfl, rfl, rfl, fun hl => ⟨hl, rfl, rfl⟩⟩)
        hinv.inOrder fun x _ hs => ?_
      by_cases hxa : x.addr = a
      · rw [if_pos hxa]; exact hs.addSeq n
      · rw [if_neg hxa]; exact hs
  · cases hstep

theorem streamInv_other {c : Connection} {s t : StreamState} (hinv : StreamInv c s) {h : Host}
    (hstep : streamStep c s (.other h) = some t) : StreamInv c t := by
  simp only [streamStep] at hstep
  split at hstep
  · next hkept =>
    obtain ⟨hinit, hdistinct, hcurrent⟩ := hkept
    cases hstep
    refine ⟨hinit, hdistinct, hinv.inOrder, ?_⟩
    obtain ⟨x, hx, hs⟩ := hinv.socket
    exact ⟨x, hcurrent.trans hx, hs⟩
  · cases hstep

theorem streamInv_step {c : Connection} {s : StreamState} {op : StreamOp} {t : StreamState}
    (hinv : StreamInv c s) (hstep : streamStep c s op = some t) : StreamInv c t := by
  cases op with
  | packet srcIp packet => exact streamInv_packet hinv hstep
  | send socket data => exact streamInv_send hinv hstep
  | other h => exact streamInv_other hinv hstep

/-! ## Runs of a connection -/

theorem StreamInv.acked {c : Connection} {s : StreamState} (h : StreamInv c s) : Acked c s := by
  obtain ⟨x, hx, hs⟩ := h.socket
  exact ⟨x, hx, hs.addr, hs.ackNum⟩

/--
**The callback gets the data in the order of its arrival, and `ack_num` acknowledges what it was
given.** So this is a beginning of the peer's stream, as long as what arrives is.
-/
theorem stream_arrivalOrder (c : Connection) (ops : List StreamOp) :
    Always (streamStep c) (fun s => s.delivered = s.arrived ∧ Acked c s ∧
      ∀ stream, StreamOk c stream s ↔ s.arrived.flatten <+: stream) c.start ops := by
  refine Always.of_invariant (I := StreamInv c) ?_ (fun _ _ _ => streamInv_step) (streamInv_start c)
  intro s hinv
  refine ⟨hinv.inOrder, hinv.acked, fun stream => ?_⟩
  unfold StreamOk
  rw [hinv.inOrder]
  exact and_iff_left hinv.acked

/-- A segment of the peer as `tcp_send_packet` builds it; nobody looks at the checksum. -/
def peerSegment (c : Connection) (seqNum : UInt32) (data : Bytes) : Bytes :=
  tcpHeader
    { c.socket with
      localPort := c.socket.remotePort, remotePort := c.socket.localPort, seqNum := seqNum
      ackNum := c.socket.seqNum } (tcpFlagPsh ||| tcpFlagAck) 0 ++ data

/-- The segments of a stream, with consecutive sequence numbers. -/
def peerSegments (c : Connection) : UInt32 → List Bytes → List Bytes
  | _, [] => []
  | seqNum, data :: rest =>
    peerSegment c seqNum data :: peerSegments c (seqNum + UInt32.ofNat data.length) rest

/-- A connection with port 80 of 10.0.0.1. -/
def webConnection : Connection where
  host :=
    { listeningHost with
      tcp :=
        { listeningHost.tcp with
          sockets :=
            [{ addr := 4096, localPort := 49152, remotePort := 80, remoteIp := 0x0100000A
               state := .established, seqNum := 500, ackNum := 1000, callback := 1 }] } }
  socket :=
    { addr := 4096, localPort := 49152, remotePort := 80, remoteIp := 0x0100000A
      state := .established, seqNum := 500, ackNum := 1000, callback := 1 }
  initialized := rfl
  distinct := by decide
  found := rfl
  established := rfl
  callback := by decide

/-- **The second byte of the stream is delivered and acknowledged as if it were the first one.** -/
theorem stream_reordered :
    peerSegment webConnection 1001 [2] ∈ peerSegments webConnection 1000 [[1], [2]] ∧
    ∃ s, run (streamStep webConnection) webConnection.start
        [.packet 0x0100000A (peerSegment webConnection 1001 [2])] = some s ∧
      s.delivered = [[2]] ∧ (webConnection.current s.host).map TcpSocket.ackNum = some 1001 ∧
      ¬ StreamOk webConnection [1, 2] s := by
  obtain ⟨s, hrun, hdelivered, hack⟩ : ∃ s, run (streamStep webConnection) webConnection.start
      [.packet 0x0100000A (peerSegment webConnection 1001 [2])] = some s ∧
      s.delivered = [[2]] ∧ (webConnection.current s.host).map TcpSocket.ackNum = some 1001 :=
    ⟨_, rfl, rfl, rfl⟩
  refine ⟨by decide, s, hrun, hdelivered, hack, ?_⟩
  rintro ⟨hpre, -⟩
  rw [hdelivered] at hpre
  revert hpre
  decide

end MayaOs.Net
