import MayaOs.Net.Ip

/-!
# TCP (`net/tcp.c`)

A socket pointer is the address of the socket, and the list of sockets holds those that have not
been freed. Callbacks do not call back into the stack; their calls are returned as events. Left out
are the fields of `tcp_socket_t` that are only written to 0, and retransmission, which sends nothing.

* `tcpSendPacket_some` — sending changes at most the sequence number of the socket
* `tcpHandlePacket_cases` — everything a packet can do
-/

namespace MayaOs.Net

open MayaOs.Lib

def tcpHeaderSize : Nat := 20

def tcpWindowSize : UInt16 := 8192

def ipProtocolTcp : UInt8 := 6

def tcpFlagFin : UInt8 := 0x01
def tcpFlagSyn : UInt8 := 0x02
def tcpFlagRst : UInt8 := 0x04
def tcpFlagPsh : UInt8 := 0x08
def tcpFlagAck : UInt8 := 0x10

/-- The words of the header, without the checksum field. -/
def sumTcpHeader (header : Bytes) : Nat :=
  ([0, 2, 4, 6, 8, 10, 12, 14, 18].map fun i => (u16At header i).toNat).sum

def tcpChecksum (srcIp destIp : UInt32) (header data : Bytes) : UInt16 :=
  let sum := srcIp.toNat / 65536 + srcIp.toNat % 65536
  let sum := sum + destIp.toNat / 65536 + destIp.toNat % 65536
  let sum := wrap32 (sum + ipProtocolTcp.toNat + (tcpHeaderSize + data.length))
  let sum := wrap32 (sum + sumTcpHeader header)
  finishChecksum (wrap32 (sumWords sum data + oddByte 256 data))

/-! ## Sockets -/

/-- The socket at an address. -/
def TcpState.socketAt (s : TcpState) (addr : Nat) : Option TcpSocket :=
  s.sockets.find? fun socket => socket.addr == addr

/-- Writes to the socket at an address. -/
def TcpState.modify (s : TcpState) (addr : Nat) (f : TcpSocket → TcpSocket) : TcpState :=
  { s with sockets := s.sockets.map fun socket => if socket.addr = addr then f socket else socket }

def Host.modifySocket (h : Host) (addr : Nat) (f : TcpSocket → TcpSocket) : Host :=
  { h with tcp := h.tcp.modify addr f }

/-- The state that `tcp_init` sets up. -/
def TcpState.fresh : TcpState where
  sockets := []
  nextPort := 49152
  initialized := true

def tcpInit (h : Host) : Bool × Host :=
  if h.tcp.initialized then (true, h)
  else
    let r := ipRegisterProtocol h.ip ipProtocolTcp (some .tcp)
    (r.1, { h with tcp := TcpState.fresh, ip := r.2 })

/-- `addr` is what `kmalloc` returns, 0 on failure. -/
def tcpCreateSocket (s : TcpState) (callback addr : Nat) : Option Nat × TcpState :=
  if s.initialized = false ∨ callback = 0 then (none, s)
  else if addr = 0 then (none, s)
  else
    (some addr,
      { s with
        sockets :=
          { addr := addr, localPort := s.nextPort, remotePort := 0, remoteIp := 0, state := .closed,
            seqNum := 0, ackNum := 0, callback := callback } :: s.sockets
        nextPort := s.nextPort + 1 })

/-! ## tcp_send_packet -/

/-- `tcp_header_t`; sequence numbers and window are stored as they are. -/
def tcpHeader (socket : TcpSocket) (flags : UInt8) (checksum : UInt16) : Bytes :=
  le16 (swap16 socket.localPort) ++ le16 (swap16 socket.remotePort) ++ le32 socket.seqNum ++
    le32 socket.ackNum ++ [0x50, flags] ++ le16 tcpWindowSize ++ le16 checksum ++ le16 0

@[simp] theorem length_tcpHeader (socket : TcpSocket) (flags : UInt8) (checksum : UInt16) :
    (tcpHeader socket flags checksum).length = 20 := rfl

/-- "Update sequence numbers". -/
def advanceSeq (flags : UInt8) (length : Nat) (socket : TcpSocket) : TcpSocket :=
  let control : UInt32 := if flags &&& (tcpFlagSyn ||| tcpFlagFin) = 0 then 0 else 1
  { socket with seqNum := socket.seqNum + (control + UInt32.ofNat length) }

/-- `none` is the NULL pointer; no data is the empty list. -/
def tcpSendPacket (h : Host) (socket : Option TcpSocket) (flags : UInt8) (data : Bytes) :
    Except Fault Host :=
  match kmalloc h (wrap32 (tcpHeaderSize + data.length)) with
  -- the caller is not told
  | (none, h) => .ok h
  | (some packet, h) =>
    match socket with
    | none => .error .nullDeref
    | some socket => do
      let packet ← write packet 0 (tcpHeader socket flags 0)
      let packet ← write packet tcpHeaderSize data
      let header ← slice packet 0 tcpHeaderSize
      let packet ← write packet 16 (le16 (tcpChecksum h.ip.ipAddress socket.remoteIp header data))
      let (_, h) ← ipSendPacket h socket.remoteIp ipProtocolTcp (some packet)
      return h.modifySocket socket.addr (advanceSeq flags data.length)

/-! ## The calls of the application -/

def tcpConnect (h : Host) (socket : Nat) (ip : UInt32) (port : UInt16) : Except Fault (Bool × Host) :=
  if h.tcp.initialized = false ∨ socket = 0 then .ok (false, h)
  else
    match h.tcp.socketAt socket with
    | none => .error (.outOfBounds socket)
    | some s =>
      if s.state ≠ .closed then .ok (false, h)
      else do
        let h := h.modifySocket socket fun s =>
          { s with remoteIp := ip, remotePort := port, seqNum := h.ticks, state := .synSent }
        let h ← tcpSendPacket h (h.tcp.socketAt socket) tcpFlagSyn []
        return (true, h)

def tcpSend (h : Host) (socket : Nat) (data : Option Bytes) : Except Fault (Bool × Host) :=
  match data with
  | none => .ok (false, h)
  | some data =>
    if h.tcp.initialized = false ∨ socket = 0 ∨ data.length = 0 then .ok (false, h)
    else
      match h.tcp.socketAt socket with
      | none => .error (.outOfBounds socket)
      | some s =>
        if s.state ≠ .established then .ok (false, h)
        else do
          let h ← tcpSendPacket h (some s) (tcpFlagPsh ||| tcpFlagAck) data
          return (true, h)

def tcpClose (h : Host) (socket : Nat) : Except Fault Host :=
  if h.tcp.initialized = false ∨ socket = 0 then .ok h
  else
    match h.tcp.socketAt socket with
    | none => .error (.outOfBounds socket)
    | some s =>
      if s.state = .established then do
        let h ← tcpSendPacket h (some s) (tcpFlagFin ||| tcpFlagAck) []
        return h.modifySocket socket fun s => { s with state := .finWait1 }
      else
        .ok { h with
          tcp := { h.tcp with sockets := h.tcp.sockets.eraseP fun s => s.addr == socket } }

/-! ## tcp_handle_packet -/

inductive TcpEventKind where
  | connected
  | data
  | closed
  deriving Repr, DecidableEq

/-- A call `callback(socket, event, data, length)`. -/
structure TcpEvent where
  callback : Nat
  socket : Nat
  event : TcpEventKind
  data : Bytes
  deriving Repr, DecidableEq

/-- "Notify application". -/
def notify (socket : TcpSocket) (event : TcpEventKind) (data : Bytes) : List TcpEvent :=
  if socket.callback = 0 then []
  else [{ callback := socket.callback, socket := socket.addr, event := event, data := data }]

def tcpMatches (srcIp : UInt32) (srcPort destPort : UInt16) (socket : TcpSocket) : Bool :=
  socket.localPort == destPort &&
    (socket.state == .listen || (socket.remotePort == srcPort && socket.remoteIp == srcIp))

/-- "Find matching socket". -/
def TcpState.lookup (s : TcpState) (srcIp : UInt32) (srcPort destPort : UInt16) :
    Option TcpSocket :=
  s.sockets.find? (tcpMatches srcIp srcPort destPort)

def hasFlag (flags flag : UInt8) : Bool := flags &&& flag != 0

def handleListen (h : Host) (socket : TcpSocket) (srcIp : UInt32) (srcPort : UInt16)
    (packet : Bytes) : Except Fault (List TcpEvent × Host) := do
  let flags ← read8 packet 13
  if hasFlag flags tcpFlagSyn then
    let seqNum ← read32 packet 4
    let h := h.modifySocket socket.addr fun s =>
      { s with
        remoteIp := srcIp, remotePort := srcPort, ackNum := seqNum + 1, seqNum := h.ticks
        state := .synReceived }
    let h ← tcpSendPacket h (h.tcp.socketAt socket.addr) (tcpFlagSyn ||| tcpFlagAck) []
    return ([], h)
  else return ([], h)

def handleSynSent (h : Host) (socket : TcpSocket) (packet : Bytes) :
    Except Fault (List TcpEvent × Host) := do
  let flags ← read8 packet 13
  if flags &&& (tcpFlagSyn ||| tcpFlagAck) = tcpFlagSyn ||| tcpFlagAck then
    let seqNum ← read32 packet 4
    let h := h.modifySocket socket.addr fun s =>
      { s with ackNum := seqNum + 1, state := .established }
    let h ← tcpSendPacket h (h.tcp.socketAt socket.addr) tcpFlagAck []
    return (notify socket .connected [], h)
  else return ([], h)

/-- "Handle received data"; the sequence number of the segment is not looked at. -/
def handleData (h : Host) (socket : TcpSocket) (flags : UInt8) (packet : Bytes) (length : Nat) :
    Except Fault (List TcpEvent × Host) :=
  if hasFlag flags tcpFlagPsh then do
    let data ← slice packet tcpHeaderSize (length - tcpHeaderSize)
    let h := h.modifySocket socket.addr fun s =>
      { s with ackNum := s.ackNum + UInt32.ofNat (length - tcpHeaderSize) }
    let h ← tcpSendPacket h (h.tcp.socketAt socket.addr) tcpFlagAck []
    return (notify socket .data data, h)
  else .ok ([], h)

def handleFin (h : Host) (socket : TcpSocket) (flags : UInt8) :
    Except Fault (List TcpEvent × Host) :=
  if hasFlag flags tcpFlagFin then do
    let h := h.modifySocket socket.addr fun s =>
      { s with ackNum := s.ackNum + 1, state := .closeWait }
    let h ← tcpSendPacket h (h.tcp.socketAt socket.addr) tcpFlagAck []
    return (notify socket .closed [], h)
  else .ok ([], h)

def handleEstablished (h : Host) (socket : TcpSocket) (packet : Bytes) (length : Nat) :
    Except Fault (List TcpEvent × Host) := do
  let flags ← read8 packet 13
  -- a segment may carry both data and a FIN
  let (events, h) ← handleData h socket flags packet length
  let (events', h) ← handleFin h socket flags
  return (events ++ events', h)

/-- `packet` is the memory from the pointer to the end of the buffer, `length` the argument. -/
def tcpHandlePacket (h : Host) (srcIp : UInt32) (packet : Option Bytes) (length : Nat) :
    Except Fault (List TcpEvent × Host) :=
  match packet with
  | none => .ok ([], h)
  | some packet =>
    if h.tcp.initialized = false ∨ length < tcpHeaderSize then .ok ([], h)
    else do
      let destPort ← read16 packet 2
      let srcPort ← read16 packet 0
      match h.tcp.lookup srcIp (swap16 srcPort) (swap16 destPort) with
      | none =>
        -- "No matching socket, send RST"
        let h ← tcpSendPacket h none tcpFlagRst []
        return ([], h)
      | some socket =>
        match socket.state with
        | .listen => handleListen h socket srcIp (swap16 srcPort) packet
        | .synSent => handleSynSent h socket packet
        | .established => handleEstablished h socket packet length
        -- "Handle other states..."
        | _ => return ([], h)

/-! ## Changes of one socket -/

/-- Some socket has this address. -/
def TcpState.Has (s : TcpState) (addr : Nat) : Prop := ∃ socket ∈ s.sockets, socket.addr = addr

theorem TcpState.modify_modify (s : TcpState) {addr : Nat} {f g : TcpSocket → TcpSocket}
    (hf : ∀ x, (f x).addr = x.addr) : (s.modify addr f).modify addr g = s.modify addr (g ∘ f) := by
  unfold TcpState.modify
  rw [List.map_map]
  congr 1
  refine List.map_congr_left fun x _ => ?_
  by_cases hx : x.addr = addr
  · simp only [Function.comp_apply, if_pos hx, hf]
  · simp only [Function.comp_apply, if_neg hx]

theorem TcpState.modify_id (s : TcpState) (addr : Nat) : s.modify addr id = s := by
  unfold TcpState.modify
  simp

theorem TcpState.Has.modify {s : TcpState} {addr : Nat} (h : s.Has addr)
    {f : TcpSocket → TcpSocket} (hf : ∀ x, (f x).addr = x.addr) : (s.modify addr f).Has addr := by
  obtain ⟨x, hx, rfl⟩ := h
  refine ⟨f x, List.mem_map.mpr ⟨x, hx, by rw [if_pos rfl]⟩, hf x⟩

theorem TcpState.Has.socketAt {s : TcpState} {addr : Nat} (h : s.Has addr) :
    ∃ x, s.socketAt addr = some x ∧ x.addr = addr := by
  obtain ⟨x, hx, rfl⟩ := h
  cases hf : s.socketAt x.addr with
  | none =>
    have := List.find?_eq_none.mp hf x hx
    simp at this
  | some y => exact ⟨y, rfl, by simpa using List.find?_some hf⟩

/-- The sequence number advanced by `n`. -/
def addSeq (n : UInt32) (socket : TcpSocket) : TcpSocket :=
  { socket with seqNum := socket.seqNum + n }

theorem addSeq_zero : addSeq 0 = id := by
  funext socket
  rw [addSeq, UInt32.add_zero]
  rfl

/-- A segment with its checksum. -/
def tcpSegment (ip : UInt32) (socket : TcpSocket) (flags : UInt8) (data : Bytes) : Bytes :=
  tcpHeader socket flags (tcpChecksum ip socket.remoteIp (tcpHeader socket flags 0) data) ++ data

@[simp] theorem length_tcpSegment (ip : UInt32) (socket : TcpSocket) (flags : UInt8)
    (data : Bytes) : (tcpSegment ip socket flags data).length = 20 + data.length := by
  rw [tcpSegment, List.length_append, length_tcpHeader]

/-- Filling a new block with header and data, and the checksum last. -/
theorem write_tcpSegment (ip : UInt32) (socket : TcpSocket) (flags : UInt8) (block data : Bytes)
    (hblock : block.length = 20 + data.length) :
    ∃ p₁ p₂ header, write block 0 (tcpHeader socket flags 0) = .ok p₁ ∧
      write p₁ tcpHeaderSize data = .ok p₂ ∧ slice p₂ 0 tcpHeaderSize = .ok header ∧
      write p₂ 16 (le16 (tcpChecksum ip socket.remoteIp header data)) =
        .ok (tcpSegment ip socket flags data) := by
  have hheader : (tcpHeader socket flags 0).length = 20 := rfl
  have hlen : (tcpHeader socket flags 0 ++ data).length = 20 + data.length := by
    rw [List.length_append, hheader]
  refine ⟨tcpHeader socket flags 0 ++ block.drop 20, tcpHeader socket flags 0 ++ data,
    tcpHeader socket flags 0, ?_, ?_, ?_, ?_⟩
  · exact write_append (a := []) rfl (by rw [hblock, hheader]; omega)
  · exact write_append_end hheader.symm (by rw [List.length_drop]; omega)
  · rw [slice_eq (by rw [hlen]; unfold tcpHeaderSize; omega)]
    rfl
  · rw [write_eq (by rw [hlen, length_le16]; omega)]
    rfl

/-- **Sending from a socket does not fail and changes at most its sequence number.** -/
theorem tcpSendPacket_some (h : Host) (socket : TcpSocket) (flags : UInt8) (data : Bytes)
    (hlen : data.length + 54 < 2 ^ 32) :
    ∃ h' n, tcpSendPacket h (some socket) flags data = .ok h' ∧
      h'.tcp = h.tcp.modify socket.addr (addSeq n) := by
  have hwrap : wrap32 (tcpHeaderSize + data.length) = 20 + data.length :=
    wrap32_eq_self (by unfold tcpHeaderSize; omega)
  unfold tcpSendPacket
  rw [hwrap]
  obtain ⟨rest, hk | ⟨block, hblock, hk⟩⟩ := kmalloc_cases h (20 + data.length)
  · rw [hk]
    exact ⟨_, 0, rfl, by rw [addSeq_zero, TcpState.modify_id]⟩
  · rw [hk]
    obtain ⟨p₁, p₂, header, hp₁, hp₂, hheader, hp₃⟩ :=
      write_tcpSegment h.ip.ipAddress socket flags block data hblock
    obtain ⟨ok, h₁, requests, frames, hip, hto, -, -⟩ := ipSendPacket_cases
      { h with allocs := rest } socket.remoteIp ipProtocolTcp
      (tcpSegment h.ip.ipAddress socket flags data) (by rw [length_tcpSegment]; omega)
    simp only [hp₁, hp₂, hheader, hp₃, hip, ok_bind, pure, Except.pure]
    refine ⟨_, (if flags &&& (tcpFlagSyn ||| tcpFlagFin) = 0 then 0 else 1)
      + UInt32.ofNat data.length, rfl, ?_⟩
    show h₁.tcp.modify socket.addr (advanceSeq flags data.length) = _
    rw [hto.tcp]
    rfl

/-- The NULL pointer is dereferenced unless the allocation fails. -/
theorem tcpSendPacket_none (h : Host) (flags : UInt8) :
    (∃ h', tcpSendPacket h none flags [] = .ok h') ↔ (kmalloc h tcpHeaderSize).1 = none := by
  unfold tcpSendPacket
  show (∃ h', (match kmalloc h tcpHeaderSize with
    | (none, h) => Except.ok h
    | (some _, _) => Except.error Fault.nullDeref) = Except.ok h') ↔ _
  obtain ⟨rest, hk | ⟨block, -, hk⟩⟩ := kmalloc_cases h tcpHeaderSize
  · rw [hk]
    exact ⟨fun _ => rfl, fun _ => ⟨_, rfl⟩⟩
  · rw [hk]
    constructor
    · rintro ⟨_, he⟩
      cases he
    · intro he
      cases he

theorem tcpSendPacket_none_tcp {h h' : Host} {flags : UInt8}
    (hres : tcpSendPacket h none flags [] = .ok h') : h'.tcp = h.tcp := by
  unfold tcpSendPacket at hres
  obtain ⟨rest, hk | ⟨block, -, hk⟩⟩ := kmalloc_cases h (wrap32 (tcpHeaderSize + 0))
  all_goals
    rw [List.length_nil, hk] at hres
    cases hres
  rfl

/-- `tcp_send` changes at most the sequence number of one socket. -/
theorem tcpSend_tcp {h h' : Host} {addr : Nat} {data : Option Bytes} {ok : Bool}
    (hlen : data.elim 0 List.length + 54 < 2 ^ 32) (hres : tcpSend h addr data = .ok (ok, h')) :
    ∃ addr n, h'.tcp = h.tcp.modify addr (addSeq n) := by
  have hsame : h.tcp = h.tcp.modify 0 (addSeq 0) := by rw [addSeq_zero, TcpState.modify_id]
  unfold tcpSend at hres
  split at hres
  · cases hres
    exact ⟨0, 0, hsame⟩
  · next data =>
    split at hres
    · cases hres
      exact ⟨0, 0, hsame⟩
    · split at hres
      · cases hres
      · next socket _ =>
        split at hres
        · cases hres
          exact ⟨0, 0, hsame⟩
        · obtain ⟨h₁, n, hsend, htcp⟩ :=
            tcpSendPacket_some h socket (tcpFlagPsh ||| tcpFlagAck) data hlen
          rw [hsend] at hres
          cases hres
          exact ⟨socket.addr, n, htcp⟩

/-- A change of a socket, followed by sending a segment from it. -/
theorem send_after_modify {h : Host} {addr : Nat} (hhas : h.tcp.Has addr)
    {f : TcpSocket → TcpSocket} (hf : ∀ x, (f x).addr = x.addr) (flags : UInt8) :
    ∃ h' n, tcpSendPacket (h.modifySocket addr f)
        ((h.modifySocket addr f).tcp.socketAt addr) flags [] = .ok h' ∧
      h'.tcp = h.tcp.modify addr (addSeq n ∘ f) := by
  obtain ⟨x, hx, hxa⟩ := (hhas.modify hf).socketAt
  have hx' : (h.modifySocket addr f).tcp.socketAt addr = some x := hx
  obtain ⟨h', n, hsend, htcp⟩ := tcpSendPacket_some (h.modifySocket addr f) x flags [] (by decide)
  refine ⟨h', n, by rw [hx']; exact hsend, ?_⟩
  rw [htcp, hxa]
  exact TcpState.modify_modify h.tcp hf

/-! ## What a packet does -/

/-- What a packet leaves as it is in the socket it is for. -/
structure Evolves (s s' : TcpSocket) : Prop where
  addr : s'.addr = s.addr
  localPort : s'.localPort = s.localPort
  callback : s'.callback = s.callback
  connection : s.state ≠ .listen →
    s'.state ≠ .listen ∧ s'.remoteIp = s.remoteIp ∧ s'.remotePort = s.remotePort

theorem Evolves.refl (s : TcpSocket) : Evolves s s := ⟨rfl, rfl, rfl, fun hs => ⟨hs, rfl, rfl⟩⟩

/-- The result of handling a packet for `socket`. -/
structure Handled (h : Host) (socket : TcpSocket) (events : List TcpEvent) (h' : Host)
    (g : TcpSocket → TcpSocket) : Prop where
  tcp : h'.tcp = h.tcp.modify socket.addr g
  evolves : ∀ s, s.state = socket.state → Evolves s (g s)
  events : ∀ e ∈ events, e.socket = socket.addr
  localPort : ∀ s, (g s).localPort = s.localPort

theorem notify_event {socket : TcpSocket} {kind : TcpEventKind} {data : Bytes} :
    ∀ e ∈ notify socket kind data, e.event = kind := by
  intro e he
  unfold notify at he
  split at he
  · cases he
  · rw [List.mem_singleton] at he
    rw [he]

theorem notify_socket {socket : TcpSocket} {kind : TcpEventKind} {data : Bytes} :
    ∀ e ∈ notify socket kind data, e.socket = socket.addr := by
  intro e he
  unfold notify at he
  split at he
  · cases he
  · rw [List.mem_singleton] at he
    rw [he]

/-- Nothing happens. -/
theorem handled_same (h : Host) (socket : TcpSocket) : Handled h socket [] h id where
  tcp := (TcpState.modify_id h.tcp socket.addr).symm
  evolves := fun s _ => Evolves.refl s
  events := by simp
  localPort := fun _ => rfl

theorem handleListen_cases {h : Host} {socket : TcpSocket} (hhas : h.tcp.Has socket.addr)
    (hstate : socket.state = .listen) (srcIp : UInt32) (srcPort : UInt16) {packet : Bytes}
    (hlen : 20 ≤ packet.length) :
    ∃ h' g, handleListen h socket srcIp srcPort packet = .ok ([], h') ∧
      Handled h socket [] h' g ∧
      ∀ s, (g s).ackNum =
        if hasFlag (byteAt packet 13) tcpFlagSyn then u32At packet 4 + 1 else s.ackNum := by
  unfold handleListen
  simp only [read8_eq (show 13 < packet.length by omega),
    read32_eq (show 4 + 3 < packet.length by omega), ok_bind, pure, Except.pure]
  by_cases hsyn : hasFlag (byteAt packet 13) tcpFlagSyn = true
  · rw [if_pos hsyn]
    obtain ⟨h', n, hsend, htcp⟩ := send_after_modify hhas (f := fun s =>
      { s with
        remoteIp := srcIp, remotePort := srcPort, ackNum := u32At packet 4 + 1, seqNum := h.ticks
        state := .synReceived }) (fun _ => rfl) (tcpFlagSyn ||| tcpFlagAck)
    simp only [hsend, if_pos hsyn]
    exact ⟨h', _, rfl,
      ⟨htcp, fun s hs => ⟨rfl, rfl, rfl, fun hl => absurd (hs.trans hstate) hl⟩, by simp,
        fun _ => rfl⟩, fun _ => rfl⟩
  · simp only [if_neg hsyn]
    exact ⟨h, id, rfl, handled_same h socket, fun _ => rfl⟩

theorem handleSynSent_cases {h : Host} {socket : TcpSocket} (hhas : h.tcp.Has socket.addr)
    {packet : Bytes} (hlen : 20 ≤ packet.length) :
    ∃ events h' g, handleSynSent h socket packet = .ok (events, h') ∧
      Handled h socket events h' g ∧ (∀ e ∈ events, e.event ≠ .data) ∧
      ∀ s, (g s).ackNum =
        if byteAt packet 13 &&& (tcpFlagSyn ||| tcpFlagAck) = tcpFlagSyn ||| tcpFlagAck then
          u32At packet 4 + 1
        else s.ackNum := by
  unfold handleSynSent
  simp only [read8_eq (show 13 < packet.length by omega),
    read32_eq (show 4 + 3 < packet.length by omega), ok_bind, pure, Except.pure]
  by_cases hflags : byteAt packet 13 &&& (tcpFlagSyn ||| tcpFlagAck) = tcpFlagSyn ||| tcpFlagAck
  · rw [if_pos hflags]
    obtain ⟨h', n, hsend, htcp⟩ := send_after_modify hhas
      (f := fun s => { s with ackNum := u32At packet 4 + 1, state := .established })
      (fun _ => rfl) tcpFlagAck
    simp only [hsend, if_pos hflags]
    refine ⟨_, h', _, rfl, ⟨htcp, fun s _ => ⟨rfl, rfl, rfl, fun _ =>
      ⟨TcpSocketState.noConfusion, rfl, rfl⟩⟩, notify_socket, fun _ => rfl⟩, fun e he => ?_,
      fun _ => rfl⟩
    rw [notify_event e he]
    exact TcpEventKind.noConfusion
  · simp only [if_neg hflags]
    exact ⟨[], h, id, rfl, handled_same h socket, by simp, fun _ => rfl⟩

/-- The data of a segment: none without PSH, else what follows a header of 20 bytes. -/
def pushed (packet : Bytes) : List Bytes :=
  if hasFlag (byteAt packet 13) tcpFlagPsh then [packet.drop 20] else []

/-- The acknowledgement number advanced by `n`. -/
def addAck (n : Nat) (socket : TcpSocket) : TcpSocket :=
  { socket with ackNum := socket.ackNum + UInt32.ofNat n }

theorem addAck_zero : addAck 0 = id := by
  funext socket
  show { socket with ackNum := socket.ackNum + 0 } = socket
  rw [UInt32.add_zero]

/-- **Data is passed on and acknowledged, whatever its sequence number.** -/
theorem handleData_cases {h : Host} {socket : TcpSocket} (hhas : h.tcp.Has socket.addr)
    {packet : Bytes} (hlen : 20 ≤ packet.length) :
    ∃ h' n, handleData h socket (byteAt packet 13) packet packet.length =
        .ok ((pushed packet).flatMap (notify socket .data), h') ∧
      h'.tcp = h.tcp.modify socket.addr (addSeq n ∘ addAck (pushed packet).flatten.length) := by
  unfold handleData pushed
  by_cases hpsh : hasFlag (byteAt packet 13) tcpFlagPsh = true
  · simp only [if_pos hpsh]
    have hslice : slice packet tcpHeaderSize (packet.length - tcpHeaderSize)
        = .ok (packet.drop 20) := by
      rw [slice_eq (by unfold tcpHeaderSize; omega), List.take_of_length_le (by simp)]
      rfl
    obtain ⟨h', n, hsend, htcp⟩ :=
      send_after_modify hhas (f := addAck (packet.length - 20)) (fun _ => rfl) tcpFlagAck
    unfold addAck at hsend
    rw [hslice]
    simp only [ok_bind, pure, Except.pure, tcpHeaderSize, hsend]
    refine ⟨h', n, by simp, ?_⟩
    rw [htcp]
    simp
  · simp only [if_neg hpsh]
    refine ⟨h, 0, rfl, ?_⟩
    rw [addSeq_zero, List.flatten_nil, List.length_nil, addAck_zero]
    exact (TcpState.modify_id h.tcp socket.addr).symm

theorem handleFin_cases {h : Host} {socket : TcpSocket} (hhas : h.tcp.Has socket.addr)
    (flags : UInt8) :
    ∃ events h' g, handleFin h socket flags = .ok (events, h') ∧
      Handled h socket events h' g ∧
      (hasFlag flags tcpFlagFin = false → events = [] ∧ g = id) ∧
      (∀ e ∈ events, e.event ≠ .data) ∧
      ∀ s, (g s).ackNum = s.ackNum + if hasFlag flags tcpFlagFin then 1 else 0 := by
  unfold handleFin
  by_cases hfin : hasFlag flags tcpFlagFin = true
  · rw [if_pos hfin]
    obtain ⟨h', n, hsend, htcp⟩ := send_after_modify hhas
      (f := fun s => { s with ackNum := s.ackNum + 1, state := .closeWait }) (fun _ => rfl)
      tcpFlagAck
    simp only [hsend, ok_bind, pure, Except.pure]
    refine ⟨_, h', _, rfl, ⟨htcp, fun s _ => ⟨rfl, rfl, rfl, fun _ =>
      ⟨TcpSocketState.noConfusion, rfl, rfl⟩⟩, notify_socket, fun _ => rfl⟩, fun hno => ?_,
      fun e he => ?_, fun s => ?_⟩
    · rw [hfin] at hno
      cases hno
    · rw [notify_event e he]
      exact TcpEventKind.noConfusion
    · rw [if_pos hfin]
      rfl
  · simp only [if_neg hfin]
    exact ⟨[], h, id, rfl, handled_same h socket, fun _ => ⟨rfl, rfl⟩, by simp,
      fun s => (UInt32.add_zero s.ackNum).symm⟩

theorem handleEstablished_cases {h : Host} {socket : TcpSocket} (hhas : h.tcp.Has socket.addr)
    {packet : Bytes} (hlen : 20 ≤ packet.length) :
    ∃ events h' g, handleEstablished h socket packet packet.length = .ok (events, h') ∧
      Handled h socket events h' g ∧
      (hasFlag (byteAt packet 13) tcpFlagFin = false →
        events = (pushed packet).flatMap (notify socket .data) ∧
        ∃ n, g = addSeq n ∘ addAck (pushed packet).flatten.length) ∧
      (∃ closed, events = (pushed packet).flatMap (notify socket .data) ++ closed ∧
        ∀ e ∈ closed, e.event ≠ .data) ∧
      ∀ s, (g s).ackNum = s.ackNum + UInt32.ofNat (pushed packet).flatten.length +
        if hasFlag (byteAt packet 13) tcpFlagFin then 1 else 0 := by
  obtain ⟨h₁, n, hdata, htcp₁⟩ := handleData_cases hhas hlen
  have hhas₁ : h₁.tcp.Has socket.addr := by
    rw [htcp₁]
    exact hhas.modify fun _ => rfl
  obtain ⟨events, h₂, g, hfin, hhandled, hno, hclosed, hack⟩ :=
    handleFin_cases hhas₁ (byteAt packet 13)
  unfold handleEstablished
  rw [read8_eq (show 13 < packet.length by omega)]
  simp only [ok_bind, pure, Except.pure, hdata, hfin]
  refine ⟨_, h₂, g ∘ addSeq n ∘ addAck (pushed packet).flatten.length, rfl, ?_, fun hclear => ?_,
    ⟨events, rfl, hclosed⟩, fun s => hack _⟩
  · refine ⟨?_, fun s hs => ?_, fun e he => ?_, fun s => hhandled.localPort _⟩
    · rw [hhandled.tcp, htcp₁]
      exact TcpState.modify_modify h.tcp fun _ => rfl
    · -- the acknowledgement of the data keeps everything that `Evolves` is about
      obtain ⟨haddr, hport, hcallback, hconnection⟩ :=
        hhandled.evolves (addSeq n (addAck (pushed packet).flatten.length s)) hs
      exact ⟨haddr, hport, hcallback, hconnection⟩
    · rcases List.mem_append.mp he with he | he
      · obtain ⟨_, _, he⟩ := List.mem_flatMap.mp he
        exact notify_socket e he
      · exact hhandled.events e he
  · obtain ⟨rfl, rfl⟩ := hno hclear
    exact ⟨List.append_nil _, n, rfl⟩

/-- TCP looks at the packet. -/
def Examined (h : Host) (packet : Bytes) : Prop :=
  h.tcp.initialized = true ∧ tcpHeaderSize ≤ packet.length

instance (h : Host) (packet : Bytes) : Decidable (Examined h packet) :=
  inferInstanceAs (Decidable (_ ∧ _))

/-- The socket that a packet is for. -/
def segmentSocket (h : Host) (srcIp : UInt32) (packet : Bytes) : Option TcpSocket :=
  h.tcp.lookup srcIp (swap16 (u16At packet 0)) (swap16 (u16At packet 2))

/-- A packet that is too short, or comes before `tcp_init`, is ignored. -/
theorem tcpHandlePacket_ignored {h : Host} {srcIp : UInt32} {packet : Bytes}
    (hno : ¬ Examined h packet) :
    tcpHandlePacket h srcIp (some packet) packet.length = .ok ([], h) := by
  unfold Examined at hno
  rw [not_and_or, Bool.not_eq_true, Nat.not_le] at hno
  unfold tcpHandlePacket
  exact if_pos hno

/-- An examined packet goes to the handler for the state of its socket. -/
theorem tcpHandlePacket_examined {h : Host} {srcIp : UInt32} {packet : Bytes}
    (he : Examined h packet) :
    tcpHandlePacket h srcIp (some packet) packet.length =
      match segmentSocket h srcIp packet with
      | none => (tcpSendPacket h none tcpFlagRst []).map fun h' => ([], h')
      | some socket =>
        match socket.state with
        | .listen => handleListen h socket srcIp (swap16 (u16At packet 0)) packet
        | .synSent => handleSynSent h socket packet
        | .established => handleEstablished h socket packet packet.length
        | _ => .ok ([], h) := by
  obtain ⟨hinit, hlen⟩ := he
  have hguard : ¬(h.tcp.initialized = false ∨ packet.length < tcpHeaderSize) := by
    rw [hinit, not_or, Nat.not_lt]
    exact ⟨Bool.noConfusion, hlen⟩
  unfold tcpHeaderSize at hlen
  unfold tcpHandlePacket segmentSocket
  simp only [if_neg hguard, read16_eq (show 2 + 1 < packet.length by omega),
    read16_eq (show 0 + 1 < packet.length by omega), ok_bind, pure, Except.pure]
  cases h.tcp.lookup srcIp (swap16 (u16At packet 0)) (swap16 (u16At packet 2)) with
  | none => cases tcpSendPacket h none tcpFlagRst [] <;> rfl
  | some socket => rfl

/-- **A packet for a socket never faults, and changes that socket only.** -/
theorem tcpHandlePacket_cases {h : Host} {srcIp : UInt32} {packet : Bytes} {socket : TcpSocket}
    (he : Examined h packet) (hfind : segmentSocket h srcIp packet = some socket) :
    ∃ events h' g, tcpHandlePacket h srcIp (some packet) packet.length = .ok (events, h') ∧
      Handled h socket events h' g ∧
      (socket.state = .established → hasFlag (byteAt packet 13) tcpFlagFin = false →
        events = (pushed packet).flatMap (notify socket .data) ∧
        ∃ n, g = addSeq n ∘ addAck (pushed packet).flatten.length) := by
  have hhas : h.tcp.Has socket.addr := ⟨socket, List.mem_of_find?_eq_some hfind, rfl⟩
  simp only [tcpHandlePacket_examined he, hfind]
  cases hstate : socket.state with
  | listen =>
    obtain ⟨h', g, hres, hhandled, -⟩ := handleListen_cases hhas hstate srcIp _ he.2
    exact ⟨[], h', g, hres, hhandled, TcpSocketState.noConfusion⟩
  | synSent =>
    obtain ⟨events, h', g, hres, hhandled, -⟩ := handleSynSent_cases hhas he.2
    exact ⟨events, h', g, hres, hhandled, TcpSocketState.noConfusion⟩
  | established =>
    obtain ⟨events, h', g, hres, hhandled, hdata, -⟩ := handleEstablished_cases hhas he.2
    exact ⟨events, h', g, hres, hhandled, fun _ => hdata⟩
  | _ => exact ⟨[], h, id, rfl, handled_same h socket, TcpSocketState.noConfusion⟩

/-- What a packet that does not fault has done. -/
theorem tcpHandlePacket_ok {h h' : Host} {srcIp : UInt32} {packet : Bytes} {events : List TcpEvent}
    (hres : tcpHandlePacket h srcIp (some packet) packet.length = .ok (events, h')) :
    (events = [] ∧ h'.tcp = h.tcp ∧ (Examined h packet → segmentSocket h srcIp packet = none)) ∨
      ∃ socket g, Examined h packet ∧ segmentSocket h srcIp packet = some socket ∧
        Handled h socket events h' g ∧
        (socket.state = .established → hasFlag (byteAt packet 13) tcpFlagFin = false →
          events = (pushed packet).flatMap (notify socket .data) ∧
          ∃ n, g = addSeq n ∘ addAck (pushed packet).flatten.length) := by
  by_cases he : Examined h packet
  · cases hs : segmentSocket h srcIp packet with
    | none =>
      rw [tcpHandlePacket_examined he, hs] at hres
      cases hsend : tcpSendPacket h none tcpFlagRst [] with
      | error fault => rw [hsend] at hres; cases hres
      | ok h₁ =>
        rw [hsend] at hres
        cases hres
        exact Or.inl ⟨rfl, tcpSendPacket_none_tcp hsend, fun _ => rfl⟩
    | some socket =>
      obtain ⟨events', h₁, g, hres', hhandled, hdata⟩ := tcpHandlePacket_cases he hs
      rw [hres] at hres'
      cases hres'
      exact Or.inr ⟨socket, g, he, rfl, hhandled, hdata⟩
  · rw [tcpHandlePacket_ignored he] at hres
    cases hres
    exact Or.inl ⟨rfl, rfl, fun h => absurd h he⟩

end MayaOs.Net
