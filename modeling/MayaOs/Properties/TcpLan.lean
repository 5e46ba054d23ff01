import MayaOs.Net.Lan
import MayaOs.Properties.TcpSend
import MayaOs.Properties.UdpDelivery

/-!
# TCP among hosts that run this kernel

A connection needs one end that listens, and no function makes a socket listen. So whatever the hosts
on a network do, the only segments are those of `tcp_connect`, and nobody answers them.

* `receive_quiet` — what a host does with a frame of another one
* `lan_never_connects` — no connection is ever established
-/

namespace MayaOs.Net

open MayaOs.Lib

/-! ## The frames on the wire -/

/-- The segment of `tcp_connect`. -/
def IsSyn (data : Bytes) : Prop := ∃ ip socket, data = tcpSegment ip socket tcpFlagSyn []

/-- A packet of `ip_send_packet` whose segment, if it has one, is a SYN. -/
def QuietPacket (payload : Bytes) : Prop :=
  ∃ s destIp protocol data, payload = ipPacket s destIp protocol data ∧ data.length ≤ 1480 ∧
    (protocol = ipProtocolTcp → IsSyn data)

/-- What the hosts send: ARP, or a quiet packet. -/
def QuietFrame (frame : Bytes) : Prop :=
  ∃ destMac srcMac type payload, frame = etherFrame destMac srcMac type payload ∧
    (type = arpType ∨ type = etherTypeIp ∧ QuietPacket payload)

theorem IsArpRequest.quiet {frame : Bytes} (h : IsArpRequest frame) : QuietFrame frame := by
  obtain ⟨srcMac, packet, rfl⟩ := h
  exact ⟨_, _, _, _, rfl, .inl rfl⟩

/-- From `h` to `h'` only quiet frames have been sent, and TCP has not changed. -/
structure Quiet (h h' : Host) : Prop where
  tcp : h'.tcp = h.tcp
  handlers : h'.ip.protocolHandlers = h.ip.protocolHandlers
  sent : ∃ frames, h'.nic.sent = h.nic.sent ++ frames ∧ ∀ f ∈ frames, QuietFrame f

theorem Quiet.refl (h : Host) (rest : List (Option (Nat → UInt8))) :
    Quiet h { h with allocs := rest } :=
  ⟨rfl, rfl, [], (List.append_nil _).symm, by simp⟩

theorem Quiet.trans {h₁ h₂ h₃ : Host} (h : Quiet h₁ h₂) (h' : Quiet h₂ h₃) : Quiet h₁ h₃ := by
  obtain ⟨frames, hsent, hframes⟩ := h.sent
  obtain ⟨frames', hsent', hframes'⟩ := h'.sent
  refine ⟨h'.tcp.trans h.tcp, h'.handlers.trans h.handlers, frames ++ frames', ?_, ?_⟩
  · rw [hsent', hsent, List.append_assoc]
  · intro f hf
    rcases List.mem_append.mp hf with hf | hf
    · exact hframes f hf
    · exact hframes' f hf

theorem SendsTo.quiet {h h' : Host} {frames : List Bytes} (hs : SendsTo h h' frames)
    (hquiet : ∀ f ∈ frames, QuietFrame f) : Quiet h h' := by
  obtain ⟨rest, id, rfl⟩ := hs
  exact ⟨rfl, rfl, frames, rfl, hquiet⟩

/-- **`ip_send_packet` sends a quiet packet, if its data is no segment or a SYN.** -/
theorem ipSendPacket_quiet {h h' : Host} {destIp : UInt32} {protocol : UInt8} {data : Option Bytes}
    {ok : Bool} (hdata : ∀ d, data = some d → protocol = ipProtocolTcp → IsSyn d)
    (hres : ipSendPacket h destIp protocol data = .ok (ok, h')) : Quiet h h' := by
  cases data with
  | none =>
    cases hres
    exact Quiet.refl h h.allocs
  | some data =>
    by_cases hlong : 65515 < data.length
    · rcases ipSendPacket_long h destIp protocol hlong with ⟨fault, herr⟩ | ⟨rest, hfalse⟩
      · rw [herr] at hres
        cases hres
      · rw [hfalse] at hres
        cases hres
        exact Quiet.refl h rest
    · obtain ⟨ok', h₁, requests, frames, hip, hto, hreq, hframes⟩ :=
        ipSendPacket_cases h destIp protocol data (by omega)
      rw [hres] at hip
      cases hip
      refine hto.quiet fun f hf => ?_
      rcases List.mem_append.mp hf with hf | hf
      · exact (hreq f hf).quiet
      · obtain ⟨-, rfl⟩ | ⟨-, -, hle, destMac, rfl⟩ := hframes
        · cases hf
        · rw [List.mem_singleton] at hf
          exact ⟨_, _, _, _, hf, .inr ⟨rfl, h.ip, destIp, protocol, data, rfl, hle,
            hdata data rfl⟩⟩

/-- `tcp_connect` sends at most its SYN. -/
theorem tcpSendPacket_syn {h h' : Host} {socket : TcpSocket}
    (hres : tcpSendPacket h (some socket) tcpFlagSyn [] = .ok h') :
    ∃ h₁ n, Quiet h h₁ ∧ h' = h₁.modifySocket socket.addr (addSeq n) := by
  by_cases halloc : h.Allocates 0
  · rw [tcpSendPacket_segment halloc socket tcpFlagSyn (by decide), bind_eq_ok] at hres
    obtain ⟨⟨ok, h₁⟩, hip, heq⟩ := hres
    cases heq
    have hquiet := ipSendPacket_quiet (fun d hd _ => ⟨_, socket, (Option.some.inj hd).symm⟩) hip
    exact ⟨h₁, 1, (Quiet.refl h h.allocs.tail).trans hquiet, rfl⟩
  · unfold tcpSendPacket at hres
    rw [kmalloc_none halloc] at hres
    cases hres
    refine ⟨_, 0, Quiet.refl h h.allocs.tail, ?_⟩
    unfold Host.modifySocket
    rw [addSeq_zero, TcpState.modify_id]

/-! ## Receiving -/

/-- A frame is reported with the type that it was sent with, or not at all. -/
theorem ethernetHandleFrame_sent (s : EthernetState) (destMac srcMac : Mac) (type : UInt16)
    (data : Bytes) :
    ethernetHandleFrame s (some (etherFrame destMac srcMac type data)) = .ok none ∨
      ∃ callback, ethernetHandleFrame s (some (etherFrame destMac srcMac type data)) =
        .ok (some
          { callback := callback, srcMac := srcMac, type := type
            data := data ++ List.replicate (46 - data.length) 0 }) := by
  have hdest : readMac (etherFrame destMac srcMac type data) 0 = .ok destMac := rfl
  have hsrc : readMac (etherFrame destMac srcMac type data) 6 = .ok srcMac := rfl
  have htype : read16 (etherFrame destMac srcMac type data) 12 = .ok (swap16 type) := by
    show Except.ok (u16 _ _) = _
    rw [u16_le16]
  have hdrop : (etherFrame destMac srcMac type data).drop ethernetHeaderSize
      = data ++ List.replicate (46 - data.length) 0 := rfl
  unfold ethernetHandleFrame
  dsimp only
  split
  · exact .inl rfl
  · simp only [hdest, hsrc, htype, hdrop, ok_bind, pure, Except.pure]
    split
    · exact .inl rfl
    · cases s.rxCallback with
      | none => exact .inl rfl
      | some callback => exact .inr ⟨callback, by rw [swap16_swap16]⟩

/-- Between its calls a host is quiet: no socket is beyond the SYN, and only quiet frames were sent. -/
structure NodeQuiet (n : LanNode) : Prop where
  idle : ∀ s ∈ n.host.tcp.sockets, s.state = .closed ∨ s.state = .synSent
  handlers : ∀ p, n.host.ip.protocolHandlers p = some .tcp → p = ipProtocolTcp
  sent : ∀ f ∈ n.host.nic.sent, QuietFrame f

/-- **A SYN reaches no socket, or one that waits for an answer.** -/
theorem tcpHandlePacket_syn {h h' : Host} {srcIp ip : UInt32} {socket : TcpSocket} {rest : Bytes}
    {length : Nat} {events : List TcpEvent}
    (hidle : ∀ s ∈ h.tcp.sockets, s.state = .closed ∨ s.state = .synSent)
    (hres : tcpHandlePacket h srcIp (some (tcpSegment ip socket tcpFlagSyn [] ++ rest)) length =
      .ok (events, h')) : events = [] ∧ Quiet h h' := by
  have hflags : read8 (tcpSegment ip socket tcpFlagSyn [] ++ rest) 13 = .ok tcpFlagSyn := rfl
  have hsame : Quiet h h := Quiet.refl h h.allocs
  unfold tcpHandlePacket at hres
  dsimp only at hres
  split at hres
  · cases hres
    exact ⟨rfl, hsame⟩
  · obtain ⟨destPort, -, hres⟩ := bind_eq_ok.mp hres
    obtain ⟨srcPort, -, hres⟩ := bind_eq_ok.mp hres
    split at hres
    · obtain ⟨h₁, hsend, heq⟩ := bind_eq_ok.mp hres
      cases heq
      unfold tcpSendPacket at hsend
      obtain ⟨rest', hk | ⟨block, -, hk⟩⟩ := kmalloc_cases h (wrap32 (tcpHeaderSize + 0))
      all_goals
        rw [List.length_nil, hk] at hsend
        cases hsend
      exact ⟨rfl, Quiet.refl h rest'⟩
    · next found hfound =>
      rcases hidle found (List.mem_of_find?_eq_some hfound) with hstate | hstate
      · rw [hstate] at hres
        cases hres
        exact ⟨rfl, hsame⟩
      · rw [hstate] at hres
        -- the answer that it waits for has two flags
        unfold handleSynSent at hres
        dsimp only at hres
        rw [hflags, ok_bind, if_neg (by decide)] at hres
        cases hres
        exact ⟨rfl, hsame⟩

theorem echoReply_host {h h' : Host} {packet : Bytes} {length : Nat} {reply : Option Bytes}
    (hres : echoReply h packet length = .ok (reply, h')) : ∃ rest, h' = { h with allocs := rest } := by
  unfold echoReply at hres
  obtain ⟨rest, hk | ⟨block, -, hk⟩⟩ := kmalloc_cases h length
  · rw [hk] at hres
    cases hres
    exact ⟨rest, rfl⟩
  · rw [hk] at hres
    dsimp only at hres
    simp only [bind_eq_ok] at hres
    obtain ⟨_, -, _, -, _, -, _, -, _, -, heq⟩ := hres
    cases heq
    exact ⟨rest, rfl⟩

/-- Before it replies `icmp_handle_packet` at most allocates memory. -/
theorem icmpExamine_host {s : IcmpState} {h h' : Host} {srcIp : UInt32} {packet : Bytes}
    {length : Nat} {action : IcmpAction} {packet' : Option Bytes}
    (hres : icmpExamine s h srcIp (some packet) length = .ok (action, packet', h')) :
    ∃ rest, h' = { h with allocs := rest } := by
  have hsame : ∃ rest, h = { h with allocs := rest } := ⟨h.allocs, rfl⟩
  unfold icmpExamine at hres
  dsimp only at hres
  split at hres
  · cases hres
    exact hsame
  · obtain ⟨_, -, hres⟩ := bind_eq_ok.mp hres
    obtain ⟨_, -, hres⟩ := bind_eq_ok.mp hres
    obtain ⟨_, -, hres⟩ := bind_eq_ok.mp hres
    split at hres
    · cases hres
      exact hsame
    · obtain ⟨_, -, hres⟩ := bind_eq_ok.mp hres
      obtain ⟨_, -, hres⟩ := bind_eq_ok.mp hres
      split at hres
      · obtain ⟨⟨reply, h₁⟩, hreply, heq⟩ := bind_eq_ok.mp hres
        cases heq
        exact echoReply_host hreply
      · split at hres
        · obtain ⟨_, -, hres⟩ := bind_eq_ok.mp hres
          obtain ⟨_, -, hres⟩ := bind_eq_ok.mp hres
          split at hres
          · cases hres
            exact hsame
          · obtain ⟨_, -, heq⟩ := bind_eq_ok.mp hres
            cases heq
            exact hsame
        · cases hres
          exact hsame

theorem icmpHandlePacket_quiet {s : IcmpState} {h : Host} {srcIp : UInt32} {packet : Bytes}
    {length : Nat} {r : Option EchoCall × Option Bytes × Host}
    (hres : icmpHandlePacket s h srcIp (some packet) length = .ok r) : Quiet h r.2.2 := by
  obtain ⟨⟨action, packet', h₁⟩, hexamine, hres⟩ := bind_eq_ok.mp hres
  obtain ⟨rest, rfl⟩ := icmpExamine_host hexamine
  cases action with
  | drop =>
    cases hres
    exact Quiet.refl h rest
  | reply reply =>
    obtain ⟨⟨ok, h₂⟩, hip, heq⟩ := bind_eq_ok.mp hres
    cases heq
    exact (Quiet.refl h rest).trans (ipSendPacket_quiet (fun _ _ hp => absurd hp (by decide)) hip)
  | call echo =>
    cases hres
    exact Quiet.refl h rest

/-- **A quiet packet from another host leaves TCP as it was.** -/
theorem ipInput_quiet {n : LanNode} (hn : NodeQuiet n) {payload rest : Bytes}
    (hquiet : QuietPacket payload) {events : List TcpEvent} {h' : Host}
    (hres : ipInput n (payload ++ rest) = .ok (events, h')) : events = [] ∧ Quiet n.host h' := by
  have hsame : Quiet n.host n.host := Quiet.refl n.host n.host.allocs
  obtain ⟨s, destIp, protocol, data, rfl, hlen, hsyn⟩ := hquiet
  unfold ipInput at hres
  rcases ipHandlePacket_cases n.host.ip (ipPacket s destIp protocol data ++ rest) with
    ⟨handler, haccepts, hip⟩ | ⟨-, packet', hip⟩
  · rw [hip, ok_bind, handlerCall_ipPacket s destIp protocol data rest (by omega)] at hres
    have hhandler := haccepts.handler
    have hdrop : (ipPacket s destIp protocol data ++ rest).drop 20 = data ++ rest := rfl
    have hbyte : byteAt (ipPacket s destIp protocol data ++ rest) 9 = protocol := rfl
    rw [hbyte] at hhandler
    unfold callHandler at hres
    dsimp only at hres
    rw [hdrop] at hres
    cases handler with
    | tcp =>
      obtain ⟨ip, socket, rfl⟩ := hsyn (hn.handlers protocol hhandler)
      exact tcpHandlePacket_syn hn.idle hres
    | udp =>
      obtain ⟨calls, -, heq⟩ := bind_eq_ok.mp hres
      cases heq
      exact ⟨rfl, hsame⟩
    | icmp =>
      obtain ⟨r, hicmp, heq⟩ := bind_eq_ok.mp hres
      cases heq
      exact ⟨rfl, icmpHandlePacket_quiet hicmp⟩
    | other callback =>
      cases hres
      exact ⟨rfl, hsame⟩
  · rw [hip] at hres
    cases hres
    exact ⟨rfl, hsame⟩

/-- **What a host does with a frame of another one.** -/
theorem receive_quiet {n : LanNode} (hn : NodeQuiet n) {frame : Bytes} (hquiet : QuietFrame frame)
    {events : List TcpEvent} {h' : Host} (hres : receive n frame = .ok (events, h')) :
    events = [] ∧ Quiet n.host h' := by
  have hsame : Quiet n.host n.host := Quiet.refl n.host n.host.allocs
  obtain ⟨destMac, srcMac, type, payload, rfl, htype⟩ := hquiet
  unfold receive at hres
  rcases ethernetHandleFrame_sent n.host.ethernet destMac srcMac type payload with
    hnone | ⟨callback, hsome⟩
  · rw [hnone] at hres
    cases hres
    exact ⟨rfl, hsame⟩
  · rw [hsome, ok_bind] at hres
    dsimp only at hres
    rcases htype with rfl | ⟨rfl, hpacket⟩
    · -- the type of ARP frames has its bytes in the wrong order
      rw [if_neg (by decide), if_neg (by decide)] at hres
      cases hres
      exact ⟨rfl, hsame⟩
    · rw [if_pos rfl] at hres
      exact ipInput_quiet hn hpacket hres

/-! ## Calls -/

theorem NodeQuiet.of_quiet {n : LanNode} (hn : NodeQuiet n) {h' : Host} (hquiet : Quiet n.host h') :
    NodeQuiet (n.setHost h') := by
  obtain ⟨frames, hsent, hframes⟩ := hquiet.sent
  refine ⟨?_, ?_, fun f hf => ?_⟩
  · show ∀ s ∈ h'.tcp.sockets, _
    rw [hquiet.tcp]
    exact hn.idle
  · show ∀ p, h'.ip.protocolHandlers p = _ → _
    rw [hquiet.handlers]
    exact hn.handlers
  · have hf' : f ∈ n.host.nic.sent ++ frames := hsent ▸ hf
    rcases List.mem_append.mp hf' with hf' | hf'
    · exact hn.sent f hf'
    · exact hframes f hf'

/-- A change of the sockets only. -/
theorem NodeQuiet.setTcp {n : LanNode} (hn : NodeQuiet n) {tcp : TcpState}
    (hidle : ∀ s ∈ tcp.sockets, s.state = .closed ∨ s.state = .synSent) :
    NodeQuiet (n.setHost { n.host with tcp := tcp }) :=
  ⟨hidle, hn.handlers, hn.sent⟩

theorem idle_modify {tcp : TcpState} (addr : Nat) {f : TcpSocket → TcpSocket}
    (hidle : ∀ s ∈ tcp.sockets, s.state = .closed ∨ s.state = .synSent)
    (hf : ∀ s, (f s).state = s.state ∨ (f s).state = .synSent) :
    ∀ s ∈ (tcp.modify addr f).sockets, s.state = .closed ∨ s.state = .synSent := by
  intro s hs
  obtain ⟨x, hx, rfl⟩ := List.mem_map.mp hs
  split
  · rcases hf x with hsame | hsyn
    · rw [hsame]
      exact hidle x hx
    · exact .inr hsyn
  · exact hidle x hx

/-- Nothing is sent over a socket that is not connected. -/
theorem tcpSend_idle {h h' : Host} {addr : Nat} {data : Option Bytes} {ok : Bool}
    (hidle : ∀ s ∈ h.tcp.sockets, s.state = .closed ∨ s.state = .synSent)
    (hres : tcpSend h addr data = .ok (ok, h')) : ok = false ∧ h' = h := by
  unfold tcpSend at hres
  split at hres
  · cases hres
    exact ⟨rfl, rfl⟩
  · split at hres
    · cases hres
      exact ⟨rfl, rfl⟩
    · split at hres
      · cases hres
      · next socket hat =>
        have hnot : socket.state ≠ .established := by
          rcases hidle socket (List.mem_of_find?_eq_some hat) with hstate | hstate <;>
            rw [hstate] <;> exact TcpSocketState.noConfusion
        rw [if_pos hnot] at hres
        cases hres
        exact ⟨rfl, rfl⟩

theorem tcpConnect_idle {n : LanNode} (hn : NodeQuiet n) {addr : Nat} {ip : UInt32} {port : UInt16}
    {ok : Bool} {h' : Host} (hres : tcpConnect n.host addr ip port = .ok (ok, h')) :
    NodeQuiet (n.setHost h') := by
  unfold tcpConnect at hres
  split at hres
  · cases hres
    exact hn
  · split at hres
    · cases hres
    · next socket hat =>
      split at hres
      · cases hres
        exact hn
      · obtain ⟨h₁, hsend, heq⟩ := bind_eq_ok.mp hres
        cases heq
        have hhas : n.host.tcp.Has addr :=
          ⟨socket, List.mem_of_find?_eq_some hat, by simpa using List.find?_some hat⟩
        obtain ⟨x, hx, -⟩ := (hhas.modify (f := fun s => { s with
          remoteIp := ip, remotePort := port, seqNum := n.host.ticks, state := .synSent })
            fun _ => rfl).socketAt
        rw [show (n.host.modifySocket addr _).tcp.socketAt addr = some x from hx] at hsend
        obtain ⟨h₂, k, hquiet, rfl⟩ := tcpSendPacket_syn hsend
        have hsyn := hn.setTcp (idle_modify addr hn.idle (f := fun s => { s with
          remoteIp := ip, remotePort := port, seqNum := n.host.ticks, state := .synSent })
            fun _ => .inr rfl)
        have hsent := hsyn.of_quiet hquiet
        exact hsent.setTcp (idle_modify _ hsent.idle fun _ => .inl rfl)

theorem tcpClose_idle {n : LanNode} (hn : NodeQuiet n) {addr : Nat} {h' : Host}
    (hres : tcpClose n.host addr = .ok h') : NodeQuiet (n.setHost h') := by
  unfold tcpClose at hres
  split at hres
  · cases hres
    exact hn
  · split at hres
    · cases hres
    · next socket hat =>
      have hnot : socket.state ≠ .established := by
        rcases hn.idle socket (List.mem_of_find?_eq_some hat) with hstate | hstate <;>
          rw [hstate] <;> exact TcpSocketState.noConfusion
      rw [if_neg hnot] at hres
      cases hres
      exact hn.setTcp fun s hs => hn.idle s (List.mem_of_mem_eraseP hs)

theorem toOption_eq_some {α : Type} {x : Except Fault α} {a : α} (h : x.toOption = some a) :
    x = .ok a := by
  cases x with
  | error fault => cases h
  | ok b =>
    cases h
    rfl

/-- **No call makes a socket listen or connects it.** -/
theorem lanCall_quiet {n n' : LanNode} (hn : NodeQuiet n) {c : LanCall}
    (hcall : lanCall n c = some n') : NodeQuiet n' := by
  cases c with
  | tcpInit =>
    cases hcall
    unfold tcpInit
    split
    · exact hn
    · refine ⟨by simp [LanNode.setHost, TcpState.fresh], fun p hp => ?_, hn.sent⟩
      unfold LanNode.setHost ipRegisterProtocol at hp
      dsimp only at hp
      split at hp
      · exact hn.handlers p hp
      · by_cases hp6 : p = ipProtocolTcp
        · exact hp6
        · exact hn.handlers p ((Function.update_of_ne hp6 _ _).symm.trans hp)
  | tcpCreateSocket callback addr =>
    cases hcall
    refine hn.setTcp fun s hs => ?_
    unfold tcpCreateSocket at hs
    split at hs
    · exact hn.idle s hs
    · split at hs
      · exact hn.idle s hs
      · rcases List.mem_cons.mp hs with rfl | hs
        · exact .inl rfl
        · exact hn.idle s hs
  | tcpConnect socket ip port =>
    obtain ⟨⟨ok, h'⟩, hres, rfl⟩ := Option.map_eq_some_iff.mp hcall
    exact tcpConnect_idle hn (toOption_eq_some hres)
  | tcpSend socket data =>
    obtain ⟨⟨ok, h'⟩, hres, rfl⟩ := Option.map_eq_some_iff.mp hcall
    obtain ⟨-, rfl⟩ := tcpSend_idle hn.idle (toOption_eq_some hres)
    exact hn
  | tcpClose socket =>
    obtain ⟨h', hres, rfl⟩ := Option.map_eq_some_iff.mp hcall
    exact tcpClose_idle hn (toOption_eq_some hres)
  | ipSendPacket destIp protocol data =>
    rw [lanCall] at hcall
    split at hcall
    · cases hcall
    · next hother =>
      obtain ⟨⟨ok, h'⟩, hres, rfl⟩ := Option.map_eq_some_iff.mp hcall
      exact hn.of_quiet (ipSendPacket_quiet (fun _ _ hp => absurd hp hother)
        (toOption_eq_some hres))
  | other node =>
    cases hcall
    exact ⟨hn.idle, hn.handlers, hn.sent⟩

/-! ## Runs -/

variable {ι : Type} [DecidableEq ι]

/-- Every host is quiet, and no application has been told anything. -/
structure LanQuiet (s : Lan ι) : Prop where
  nodes : ∀ i, NodeQuiet (s.nodes i)
  events : s.events = []

theorem LanQuiet.update {s : Lan ι} (h : LanQuiet s) {i : ι} {n : LanNode} (hn : NodeQuiet n)
    (j : ι) : NodeQuiet (Function.update s.nodes i n j) := by
  by_cases hj : j = i
  · subst hj
    rw [Function.update_self]
    exact hn
  · rw [Function.update_of_ne hj]
    exact h.nodes j

theorem lanStep_quiet (s : Lan ι) (e : LanEvent ι) (s' : Lan ι) (h : LanQuiet s)
    (hstep : lanStep s e = some s') : LanQuiet s' := by
  cases e with
  | call i c =>
    obtain ⟨n, hcall, rfl⟩ := Option.map_eq_some_iff.mp hstep
    exact ⟨h.update (lanCall_quiet (h.nodes i) hcall), h.events⟩
  | frame src k dest =>
    obtain ⟨frame, hframe, hstep⟩ := Option.bind_eq_some_iff.mp hstep
    obtain ⟨⟨events, h'⟩, hreceive, heq⟩ := Option.bind_eq_some_iff.mp hstep
    cases heq
    have hquiet := (h.nodes src).sent frame (List.mem_of_getElem? hframe)
    obtain ⟨rfl, hhost⟩ := receive_quiet (h.nodes dest) hquiet (toOption_eq_some hreceive)
    exact ⟨h.update ((h.nodes dest).of_quiet hhost), by rw [h.events]; rfl⟩

/-- A host that has no socket and has sent nothing; only `tcp_init` registers `tcp_handle_packet`. -/
structure NodeFresh (n : LanNode) : Prop where
  sockets : n.host.tcp.sockets = []
  sent : n.host.nic.sent = []
  handlers : ∀ p, n.host.ip.protocolHandlers p = some .tcp → p = ipProtocolTcp

theorem NodeFresh.quiet {n : LanNode} (h : NodeFresh n) : NodeQuiet n :=
  ⟨by rw [h.sockets]; simp, h.handlers, by rw [h.sent]; simp⟩

/--
**No connection is ever established among hosts that run this kernel**, however their calls
interleave and in whatever order, and how often, their frames arrive: every socket is closed or
waits for the answer to its SYN, no callback is called, `tcp_send` always refuses, and no segment
but a SYN is on the wire.
-/
theorem lan_never_connects {s₀ s : Lan ι} (h₀ : ∀ i, NodeFresh (s₀.nodes i)) (he : s₀.events = [])
    {as : List (LanEvent ι)} (hrun : run lanStep s₀ as = some s) :
    s.events = [] ∧ ∀ i,
      (∀ socket ∈ (s.nodes i).host.tcp.sockets,
        socket.state = .closed ∨ socket.state = .synSent) ∧
      (∀ addr data ok h', tcpSend (s.nodes i).host addr data = .ok (ok, h') → ok = false) ∧
      ∀ f ∈ (s.nodes i).host.nic.sent, QuietFrame f := by
  have hs := invariant_run lanStep_quiet ⟨fun i => (h₀ i).quiet, he⟩ hrun
  refine ⟨hs.events, fun i => ⟨(hs.nodes i).idle, fun addr data ok h' hres => ?_,
    (hs.nodes i).sent⟩⟩
  exact (tcpSend_idle (hs.nodes i).idle hres).1

/-- 10.0.0.1 and 10.0.0.2, after `tcp_init`. -/
def twoHosts : Lan Bool where
  nodes := fun b => {
    host := (tcpInit (if b then exampleHost 0x0200000A ⟨2, 0, 0, 0, 0, 2⟩
      else exampleHost 0x0100000A ⟨2, 0, 0, 0, 0, 1⟩)).2
    icmp := { echoCallback := 0, initialized := false } }
  events := []

theorem nodeFresh_twoHosts (i : Bool) : NodeFresh (twoHosts.nodes i) := by
  have hhandlers : ∀ p, (twoHosts.nodes i).host.ip.protocolHandlers p = some .tcp →
      p = ipProtocolTcp := by
    intro p hp
    by_contra hne
    have hudp : (if p = ipProtocolUdp then some IpHandler.udp else none) = some .tcp := by
      cases i <;> exact (Function.update_of_ne hne _ _).symm.trans hp
    by_cases h17 : p = ipProtocolUdp
    · rw [if_pos h17] at hudp
      cases hudp
    · rw [if_neg h17] at hudp
      cases hudp
  cases i <;> exact ⟨rfl, rfl, hhandlers⟩

/-- Each host connects to the port of the other one, and gets the SYN of the other one. -/
def crossingSyns : List (LanEvent Bool) :=
  [.call false (.tcpCreateSocket 1 0x100000), .call true (.tcpCreateSocket 1 0x100000),
    .call false (.tcpConnect 0x100000 0x0200000A 49152),
    .call true (.tcpConnect 0x100000 0x0100000A 49152), .frame false 1 true, .frame true 1 false,
    .frame false 1 true]

theorem lan_never_connects_crossing : ∃ s, run lanStep twoHosts crossingSyns = some s ∧
    s.events = [] ∧ ∀ i,
      (∀ socket ∈ (s.nodes i).host.tcp.sockets,
        socket.state = .closed ∨ socket.state = .synSent) ∧
      (∀ addr data ok h', tcpSend (s.nodes i).host addr data = .ok (ok, h') → ok = false) ∧
      ∀ f ∈ (s.nodes i).host.nic.sent, QuietFrame f := by
  have hruns : (run lanStep twoHosts crossingSyns).isSome = true := by decide +kernel
  obtain ⟨s, hs⟩ := Option.isSome_iff_exists.mp hruns
  exact ⟨s, hs, lan_never_connects nodeFresh_twoHosts rfl hs⟩

end MayaOs.Net
