import MayaOs.Lib.Run
import MayaOs.Net.Dhcp
import MayaOs.Properties.UdpDelivery

/-!
# When the DHCP client passes on an address

`dhcp_handle_packet` takes an ACK of the current transaction at any time, and passes on the address
that is in the ACK, not the one that was offered.

* `authorised_iff_acksMatch` — the callback only gets addresses that were offered and requested iff
  every ACK comes while a request is out, and for the address in it
* `ack_unsolicited` — the first datagram after `dhcp_init`
-/

namespace MayaOs.Net

open MayaOs.Lib

/-! ## What has happened -/

inductive DhcpEvent where
  /-- an offer is accepted, of this transaction and address -/
  | offer (xid ip : UInt32)
  /-- `udp_send` has accepted a message -/
  | sent (message : Bytes)
  /-- a NAK is accepted -/
  | nak
  /-- the callback is called under this transaction -/
  | called (xid : UInt32) (info : DhcpInfo)

/-- An offer or NAK puts an end to what was agreed on before. -/
def DhcpEvent.supersedes : DhcpEvent → Bool
  | .offer _ _ => true
  | .nak => true
  | _ => false

/-- An option of a message of the client's own. -/
def messageOption (message : Bytes) (type : UInt8) (capacity : Nat) : Option Bytes :=
  dhcpGetOption (fun i => byteAt message (dhcpPacketSize + i)) (message.length - dhcpPacketSize)
    type capacity

/-- The message is a REQUEST for this address. -/
structure RequestFor (message : Bytes) (xid ip : UInt32) : Prop where
  xid : u32At message 4 = xid
  type : messageOption message dhcpOptionMessageType 1 = some [dhcpMessageRequest]
  ip : messageOption message dhcpOptionRequestedIp 4 = some (le32 ip)

/-- The last offer or NAK is this offer. The log is newest first. -/
def Offered (log : List DhcpEvent) (xid ip : UInt32) : Prop :=
  ∃ since before, log = since ++ .offer xid ip :: before ∧ ∀ e ∈ since, e.supersedes = false

/-- And since then a REQUEST for the address has been sent. -/
def Justified (log : List DhcpEvent) (xid ip : UInt32) : Prop :=
  ∃ since before message, log = since ++ .offer xid ip :: before ∧
    (∀ e ∈ since, e.supersedes = false) ∧ .sent message ∈ since ∧ RequestFor message xid ip

/-- Whenever the callback was called, the address in its argument was offered and requested under
the transaction of that time. -/
def Authorised (log : List DhcpEvent) : Prop :=
  ∀ later xid info before, log = later ++ .called xid info :: before →
    Justified before xid info.ipAddress

/-! ### Newer events -/

theorem offered_cons {e : DhcpEvent} {log : List DhcpEvent} {xid ip : UInt32} :
    Offered (e :: log) xid ip ↔
      e = .offer xid ip ∨ e.supersedes = false ∧ Offered log xid ip := by
  constructor
  · rintro ⟨since, before, heq, hsince⟩
    cases since with
    | nil => exact Or.inl (List.cons.inj heq).1
    | cons e' since =>
      obtain ⟨rfl, rfl⟩ := List.cons.inj heq
      exact Or.inr ⟨hsince _ List.mem_cons_self, since, before, rfl,
        fun x hx => hsince x (List.mem_cons_of_mem _ hx)⟩
  · rintro (rfl | ⟨he, since, before, rfl, hsince⟩)
    · exact ⟨[], log, rfl, by simp⟩
    · refine ⟨e :: since, before, rfl, fun x hx => ?_⟩
      rcases List.mem_cons.mp hx with rfl | hx
      · exact he
      · exact hsince x hx

theorem justified_cons {e : DhcpEvent} {log : List DhcpEvent} {xid ip : UInt32} :
    Justified (e :: log) xid ip ↔ e.supersedes = false ∧
      (Justified log xid ip ∨
        Offered log xid ip ∧ ∃ message, e = .sent message ∧ RequestFor message xid ip) := by
  constructor
  · rintro ⟨since, before, message, heq, hsince, hmem, hrequest⟩
    cases since with
    | nil => cases hmem
    | cons e' since =>
      obtain ⟨rfl, rfl⟩ := List.cons.inj heq
      have hrest : ∀ x ∈ since, x.supersedes = false :=
        fun x hx => hsince x (List.mem_cons_of_mem _ hx)
      refine ⟨hsince _ List.mem_cons_self, ?_⟩
      rcases List.mem_cons.mp hmem with rfl | hmem
      · exact Or.inr ⟨⟨since, before, rfl, hrest⟩, message, rfl, hrequest⟩
      · exact Or.inl ⟨since, before, message, rfl, hrest, hmem, hrequest⟩
  · rintro ⟨he, ⟨since, before, message, rfl, hsince, hmem, hrequest⟩ |
      ⟨⟨since, before, rfl, hsince⟩, message, rfl, hrequest⟩⟩
    · refine ⟨e :: since, before, message, rfl, fun x hx => ?_, List.mem_cons_of_mem _ hmem,
        hrequest⟩
      rcases List.mem_cons.mp hx with rfl | hx
      · exact he
      · exact hsince x hx
    · refine ⟨_ :: since, before, message, rfl, fun x hx => ?_, List.mem_cons_self, hrequest⟩
      rcases List.mem_cons.mp hx with rfl | hx
      · rfl
      · exact hsince x hx

theorem authorised_cons {e : DhcpEvent} {log : List DhcpEvent} :
    Authorised (e :: log) ↔
      (∀ xid info, e = .called xid info → Justified log xid info.ipAddress) ∧ Authorised log := by
  constructor
  · intro h
    refine ⟨?_, ?_⟩
    · rintro xid info rfl
      exact h [] xid info log rfl
    · rintro later xid info before rfl
      exact h (e :: later) xid info before rfl
  · rintro ⟨hnew, hold⟩ later xid info before heq
    cases later with
    | nil =>
      obtain ⟨rfl, rfl⟩ := List.cons.inj heq
      exact hnew xid info rfl
    | cons e' later =>
      obtain ⟨rfl, rfl⟩ := List.cons.inj heq
      exact hold later xid info before rfl

/-- An event that is no call of the callback. -/
theorem authorised_cons_of_ne {e : DhcpEvent} {log : List DhcpEvent}
    (he : ∀ xid info, e ≠ .called xid info) : Authorised (e :: log) ↔ Authorised log := by
  rw [authorised_cons]
  exact and_iff_right fun xid info h => absurd h (he xid info)

/-! ## One datagram -/

/-- The REQUEST that the client builds. -/
theorem requestFor_of_bytes {header message : Bytes} {s : DhcpState}
    (hlen : header.length = dhcpPacketSize) (hxid : u32At header 4 = s.xid)
    (hmessage : message = header ++ dhcpOptionArea [(dhcpOptionMessageType, [dhcpMessageRequest]),
      (dhcpOptionRequestedIp, le32 s.offeredIp), (dhcpOptionServerId, le32 s.serverIp)]) :
    RequestFor message s.xid s.offeredIp := by
  subst hmessage
  have hoptions : ∀ tail : Bytes, (fun i => byteAt (header ++ tail) (dhcpPacketSize + i)) = byteAt tail := by
    intro tail
    funext i
    unfold byteAt
    rw [List.getD_eq_getElem?_getD, List.getD_eq_getElem?_getD, ← hlen,
      List.getElem?_append_right (Nat.le_add_right ..), Nat.add_sub_cancel_left]
  have hcount : ∀ tail : Bytes, (header ++ tail).length - dhcpPacketSize = tail.length := by
    intro tail
    rw [List.length_append, hlen, Nat.add_sub_cancel_left]
  refine ⟨?_, ?_, ?_⟩
  · rw [← hxid]
    have hbyte : ∀ i < 240, ∀ tail : Bytes, byteAt (header ++ tail) i = byteAt header i := by
      intro i hi tail
      unfold byteAt
      rw [List.getD_eq_getElem?_getD, List.getD_eq_getElem?_getD,
        List.getElem?_append_left (by rw [hlen]; exact hi)]
    unfold u32At
    rw [hbyte 4 (by omega), hbyte 5 (by omega), hbyte 6 (by omega), hbyte 7 (by omega)]
  · unfold messageOption
    rw [hoptions, hcount]
    rfl
  · unfold messageOption
    rw [hoptions, hcount]
    rfl

/-- What comes of a datagram, by the type of the message. -/
theorem dhcpHandlePacket_cases (s : DhcpState) (h : Host) (d : Datagram) (junk : DhcpLocals) :
    ∃ r, dhcpHandlePacket s h d junk = .ok r ∧
      ((dhcpMessageType s d junk.messageType = some dhcpMessageOffer ∧ r.state = dhcpTakeOffer s d ∧
          r.called = none ∧ ∀ m, r.sent = some m → RequestFor m s.xid d.yiaddr) ∨
        (dhcpMessageType s d junk.messageType = some dhcpMessageAck ∧ r.state = s ∧ r.sent = none ∧
          r.called = if s.callback ≠ 0 then some (dhcpInfo s d junk.info) else none) ∨
        (dhcpMessageType s d junk.messageType = some dhcpMessageNak ∧ r.called = none) ∨
        (dhcpMessageType s d junk.messageType ≠ some dhcpMessageOffer ∧
          dhcpMessageType s d junk.messageType ≠ some dhcpMessageAck ∧
          dhcpMessageType s d junk.messageType ≠ some dhcpMessageNak ∧
          r.state = s ∧ r.sent = none ∧ r.called = none)) := by
  unfold dhcpHandlePacket
  cases htype : dhcpMessageType s d junk.messageType with
  | none => exact ⟨_, rfl, Or.inr (Or.inr (Or.inr ⟨by simp, by simp, by simp, rfl, rfl, rfl⟩))⟩
  | some type =>
    simp only []
    by_cases hoffer : type = dhcpMessageOffer
    · rw [if_pos hoffer]
      obtain ⟨message, h₁, hrequest, hbytes⟩ := dhcpRequest_cases (dhcpTakeOffer s d) h
      have hfit : ∀ m, message = some m → m.length ≤ dhcpPacketSize + 32 := by
        intro m hm
        obtain ⟨header, hlen, -, rfl⟩ := hbytes m hm
        rw [List.length_append, hlen, length_dhcpOptionArea]
        show dhcpPacketSize + (15 + 6) ≤ _
        omega
      obtain ⟨sent, h₂, hsend, hsame⟩ := dhcpTransmit_cases (dhcpTakeOffer s d) h₁ hfit
      simp only [hrequest, hsend, ok_bind]
      refine ⟨_, rfl, Or.inl ⟨by rw [hoffer], rfl, rfl, fun m hm => ?_⟩⟩
      obtain ⟨header, hlen, hxid, hm⟩ := hbytes m (hsame m hm)
      exact requestFor_of_bytes hlen hxid hm
    · rw [if_neg hoffer]
      by_cases hack : type = dhcpMessageAck
      · rw [if_pos hack]
        exact ⟨_, rfl, Or.inr (Or.inl ⟨by rw [hack], rfl, rfl, rfl⟩)⟩
      · rw [if_neg hack]
        by_cases hnak : type = dhcpMessageNak
        · rw [if_pos hnak]
          obtain ⟨message, xid, h₁, hdiscover, hlen⟩ := dhcpDiscover_cases s h
          obtain ⟨sent, h₂, hsend, -⟩ := dhcpTransmit_cases { s with xid := xid } h₁ hlen
          simp only [hdiscover, hsend, ok_bind]
          exact ⟨_, rfl, Or.inr (Or.inr (Or.inl ⟨by rw [hnak], rfl⟩))⟩
        · rw [if_neg hnak]
          exact ⟨_, rfl, Or.inr (Or.inr (Or.inr ⟨by simpa using hoffer, by simpa using hack,
            by simpa using hnak, rfl, rfl, rfl⟩))⟩

/-! ## Any number of datagrams -/

/-- `requested`: the last of the offers and NAKs is an offer, and its REQUEST was sent. -/
structure DhcpSystem where
  state : DhcpState
  requested : Bool
  log : List DhcpEvent

/-- Between two datagrams the rest of the host does what it likes. -/
structure DhcpAction where
  host : Host
  datagram : Datagram
  junk : DhcpLocals

def DhcpAction.type (a : DhcpAction) (s : DhcpState) : Option UInt8 :=
  dhcpMessageType s a.datagram a.junk.messageType

/-- The events of one datagram, newest first. -/
def dhcpEvents (s : DhcpState) (a : DhcpAction) (r : DhcpOutcome) : List DhcpEvent :=
  (r.called.toList.map fun info => .called s.xid info) ++ r.sent.toList.map .sent ++
    (if a.type s = some dhcpMessageOffer then [.offer a.datagram.xid a.datagram.yiaddr]
      else if a.type s = some dhcpMessageNak then [.nak] else [])

def dhcpStep (s : DhcpSystem) (a : DhcpAction) : Option DhcpSystem :=
  match dhcpHandlePacket s.state a.host a.datagram a.junk with
  | .error _ => none
  | .ok r =>
    some {
      state := r.state
      requested :=
        if a.type s.state = some dhcpMessageOffer then r.sent.isSome
        else if a.type s.state = some dhcpMessageNak then false else s.requested
      log := dhcpEvents s.state a r ++ s.log }

def DhcpSystem.start (s : DhcpState) : DhcpSystem where
  state := s
  requested := false
  log := []

/-- An ACK that is passed on comes while a request is out, and for its address. -/
def AckMatches (s : DhcpSystem) (a : DhcpAction) (_ : DhcpSystem) : Prop :=
  a.type s.state = some dhcpMessageAck → s.state.callback ≠ 0 →
    s.requested = true ∧ a.datagram.yiaddr = s.state.offeredIp

/-! ### One step -/

/-- No datagram makes the client read or write outside of a buffer. -/
theorem dhcpStep_total (s : DhcpSystem) (a : DhcpAction) : ∃ s', dhcpStep s a = some s' := by
  obtain ⟨r, hr, -⟩ := dhcpHandlePacket_cases s.state a.host a.datagram a.junk
  unfold dhcpStep
  rw [hr]
  exact ⟨_, rfl⟩

theorem dhcpMessageType_xid {s : DhcpState} {d : Datagram} {junk type : UInt8}
    (h : dhcpMessageType s d junk = some type) : d.xid = s.xid := by
  unfold dhcpMessageType at h
  split at h
  · cases h
  · split at h
    · cases h
    · next hg =>
      by_contra hne
      exact hg (Or.inr (Or.inl hne))

inductive DhcpStepKind (s : DhcpSystem) (a : DhcpAction) (s' : DhcpSystem) : Prop where
  | offer (sent : Option Bytes) (type : a.type s.state = some dhcpMessageOffer)
      (state : s'.state = dhcpTakeOffer s.state a.datagram) (requested : s'.requested = sent.isSome)
      (log : s'.log = sent.toList.map .sent ++ .offer s.state.xid a.datagram.yiaddr :: s.log)
      (request : ∀ m, sent = some m → RequestFor m s.state.xid a.datagram.yiaddr)
  | ack (info : DhcpInfo) (type : a.type s.state = some dhcpMessageAck)
      (callback : s.state.callback ≠ 0) (ip : info.ipAddress = a.datagram.yiaddr)
      (result : s' = { s with log := .called s.state.xid info :: s.log })
  | nak (sent : Option Bytes) (type : a.type s.state = some dhcpMessageNak)
      (requested : s'.requested = false) (log : s'.log = sent.toList.map .sent ++ .nak :: s.log)
  | ignored (type : a.type s.state = some dhcpMessageAck → s.state.callback = 0) (result : s' = s)

/-- **What a datagram can do.** -/
theorem dhcpStep_cases {s s' : DhcpSystem} {a : DhcpAction} (hs : dhcpStep s a = some s') :
    DhcpStepKind s a s' := by
  have hna : some dhcpMessageAck ≠ some dhcpMessageOffer := by decide
  have hnn : some dhcpMessageNak ≠ some dhcpMessageOffer := by decide
  have han : some dhcpMessageAck ≠ some dhcpMessageNak := by decide
  obtain ⟨r, hr, hcases⟩ := dhcpHandlePacket_cases s.state a.host a.datagram a.junk
  unfold dhcpStep dhcpEvents at hs
  rw [hr] at hs
  rcases hcases with ⟨htype, hstate, hcalled, hsent⟩ | ⟨htype, hstate, hsent, hcalled⟩ |
    ⟨htype, hcalled⟩ | ⟨hoffer, hack, hnak, hstate, hsent, hcalled⟩
  · have hxid : a.datagram.xid = s.state.xid := dhcpMessageType_xid htype
    have ht : a.type s.state = some dhcpMessageOffer := htype
    simp only [ht, if_true, hcalled, Option.toList_none, List.map_nil, List.nil_append, hxid] at hs
    cases hs
    exact DhcpStepKind.offer r.sent ht hstate rfl (by rw [List.append_assoc]; rfl) hsent
  · have ht : a.type s.state = some dhcpMessageAck := htype
    simp only [ht, if_neg hna, if_neg han, hsent, hstate, Option.toList_none, List.map_nil,
      List.append_nil] at hs
    cases hs
    by_cases hcallback : s.state.callback ≠ 0
    · rw [if_pos hcallback] at hcalled
      rw [hcalled]
      exact DhcpStepKind.ack (dhcpInfo s.state a.datagram a.junk.info) ht hcallback rfl rfl
    · rw [if_neg hcallback] at hcalled
      rw [hcalled]
      exact DhcpStepKind.ignored (fun _ => not_not.mp hcallback) rfl
  · have ht : a.type s.state = some dhcpMessageNak := htype
    simp only [ht, if_neg hnn, if_true, hcalled, Option.toList_none, List.map_nil,
      List.nil_append] at hs
    cases hs
    exact DhcpStepKind.nak r.sent ht rfl (by rw [List.append_assoc]; rfl)
  · have hoffer' : a.type s.state ≠ some dhcpMessageOffer := hoffer
    have hnak' : a.type s.state ≠ some dhcpMessageNak := hnak
    simp only [if_neg hoffer', if_neg hnak', hsent, hstate, hcalled, Option.toList_none,
      List.map_nil, List.append_nil, List.nil_append] at hs
    cases hs
    exact DhcpStepKind.ignored (fun ht => absurd ht hack) rfl

structure DhcpInv (s : DhcpSystem) : Prop where
  justified : ∀ xid ip, Justified s.log xid ip ↔
    s.requested = true ∧ xid = s.state.xid ∧ ip = s.state.offeredIp
  authorised : Authorised s.log

theorem DhcpInv.start (s : DhcpState) : DhcpInv (DhcpSystem.start s) where
  justified := fun xid ip => by
    refine iff_of_false ?_ (by simp [DhcpSystem.start])
    rintro ⟨since, before, message, heq, -, -, -⟩
    exact absurd heq.symm (by simp [DhcpSystem.start])
  authorised := fun later xid info before heq => absurd heq.symm (by simp [DhcpSystem.start])

theorem authorised_sent {sent : Option Bytes} {log : List DhcpEvent} :
    Authorised (sent.toList.map .sent ++ log) ↔ Authorised log := by
  cases sent with
  | none => exact Iff.rfl
  | some message => exact authorised_cons_of_ne (by simp)

/-- **A datagram leaves the callbacks authorised iff it is no ACK that does not match.** -/
theorem authorised_step_iff {s s' : DhcpSystem} {a : DhcpAction} (h : DhcpInv s)
    (hs : dhcpStep s a = some s') : Authorised s'.log ↔ AckMatches s a s' := by
  rcases dhcpStep_cases hs with ⟨sent, ht, -, -, hlog, -⟩ | ⟨info, ht, hcallback, hip, rfl⟩ |
    ⟨sent, ht, -, hlog⟩ | ⟨ht, rfl⟩
  · refine iff_of_true ?_ fun ht' => ?_
    · rw [hlog, authorised_sent, authorised_cons_of_ne (by simp)]
      exact h.authorised
    · rw [ht] at ht'
      cases ht'
  · -- the address must be the one that the last request was for
    rw [authorised_cons]
    constructor
    · rintro ⟨hnew, -⟩ - -
      obtain ⟨hreq, -, hoffered⟩ := (h.justified _ _).mp (hnew _ _ rfl)
      exact ⟨hreq, hip.symm.trans hoffered⟩
    · intro hmatch
      obtain ⟨hreq, hoffered⟩ := hmatch ht hcallback
      refine ⟨fun xid info' heq => ?_, h.authorised⟩
      cases heq
      exact (h.justified _ _).mpr ⟨hreq, rfl, hip.trans hoffered⟩
  · refine iff_of_true ?_ fun ht' => ?_
    · rw [hlog, authorised_sent, authorised_cons_of_ne (by simp)]
      exact h.authorised
    · rw [ht] at ht'
      cases ht'
  · exact iff_of_true h.authorised fun ht' hcallback => absurd (ht ht') hcallback

theorem DhcpInv.step {s s' : DhcpSystem} {a : DhcpAction} (h : DhcpInv s)
    (hs : dhcpStep s a = some s') (hmatch : AckMatches s a s') : DhcpInv s' := by
  refine ⟨?_, (authorised_step_iff h hs).mpr hmatch⟩
  rcases dhcpStep_cases hs with ⟨sent, -, hstate, hreq, hlog, hrequest⟩ | ⟨info, -, -, -, rfl⟩ |
    ⟨sent, -, hreq, hlog⟩ | ⟨-, rfl⟩
  · intro xid ip
    rw [hlog, hreq, hstate]
    cases sent with
    | none =>
      refine iff_of_false (fun hj => ?_) (by simp)
      cases (justified_cons.mp hj).1
    | some message =>
      show Justified (.sent message :: .offer _ _ :: s.log) xid ip ↔ true = true ∧ _
      rw [justified_cons, justified_cons, offered_cons]
      constructor
      · rintro ⟨-, ⟨hsup, -⟩ | ⟨heq | ⟨hsup, -⟩, -⟩⟩
        · cases hsup
        · cases heq
          exact ⟨rfl, rfl, rfl⟩
        · cases hsup
      · rintro ⟨-, rfl, rfl⟩
        exact ⟨rfl, Or.inr ⟨Or.inl rfl, message, rfl, hrequest message rfl⟩⟩
  · intro xid ip
    rw [← h.justified, justified_cons]
    constructor
    · rintro ⟨-, hj | ⟨-, message, heq, -⟩⟩
      · exact hj
      · cases heq
    · exact fun hj => ⟨rfl, Or.inl hj⟩
  · intro xid ip
    rw [hlog, hreq]
    refine iff_of_false (fun hj => ?_) (by simp)
    cases sent with
    | none => cases (justified_cons.mp hj).1
    | some message =>
      rcases (justified_cons.mp hj).2 with hj | ⟨hoff, -⟩
      · cases (justified_cons.mp hj).1
      · rcases offered_cons.mp hoff with heq | ⟨hsup, -⟩
        · cases heq
        · cases hsup
  · exact h.justified

/--
**The callback only gets addresses that were offered and requested iff every ACK matches.**

That is, a request is out when it comes, and its address is the one in `offered_ip`.
The state may be any that `dhcp_init` leaves.
-/
theorem authorised_iff_acksMatch (s : DhcpState) (as : List DhcpAction) :
    Always dhcpStep (fun t => Authorised t.log) (DhcpSystem.start s) as ↔
      Along dhcpStep AckMatches (DhcpSystem.start s) as := by
  refine always_iff_along (I := DhcpInv) ?_ ?_ (DhcpInv.start s) (DhcpInv.start s).authorised
  · intro t a t' h hs
    exact authorised_step_iff h hs
  · intro t a t' h hs hmatch
    exact h.step hs hmatch

/-! ## An ACK that was not asked for -/

/-- 5 ticks after the start. -/
def dhcpHost : Host := { exampleHost 0 ⟨2, 0, 0, 0, 0, 1⟩ with ticks := 5 }

/-- An ACK for 10.0.0.9 under transaction 5, with no option but its type. -/
def dhcpAck : Bytes :=
  [2, 1, 6, 0] ++ le32 5 ++ List.replicate 8 0 ++ [10, 0, 0, 9] ++ List.replicate 216 0 ++
    le32 dhcpMagicCookie ++ [dhcpOptionMessageType, 1, dhcpMessageAck, dhcpOptionEnd]

def dhcpAckAction : DhcpAction where
  host := dhcpHost
  datagram := { srcIp := 0x0600000A, srcPort := 67, data := byteAt dhcpAck, length := dhcpAck.length }
  junk :=
    { messageType := 0
      info :=
        { ipAddress := 0, subnetMask := 0, router := 0, dnsServer := 0, serverIp := 0
          leaseTime := 0 } }

/-- **The first datagram after `dhcp_init`**, which has sent a DISCOVER: the callback gets an address
that nobody has offered. -/
theorem ack_unsolicited :
    ∃ s h t, dhcpInit DhcpState.unset dhcpHost 1 2 = .ok (true, s, h) ∧ h.nic.sent.length = 1 ∧
      dhcpStep (DhcpSystem.start s) dhcpAckAction = some t ∧ ¬ Authorised t.log := by
  have hinit : (dhcpInit DhcpState.unset dhcpHost 1 2).toOption.map (fun r =>
      (r.1, r.2.1.xid, r.2.1.callback, r.2.2.nic.sent.length)) = some (true, 5, 1, 1) := by
    decide +kernel
  have hchecks : dhcpAckAction.datagram.length = 244 ∧ dhcpAckAction.datagram.op = dhcpOpReply ∧
      dhcpAckAction.datagram.xid = 5 ∧ dhcpAckAction.datagram.magicCookie = dhcpMagicCookie ∧
      dhcpAckAction.datagram.option dhcpOptionMessageType 1 = some [dhcpMessageAck] := by
    decide +kernel
  obtain ⟨hlen, hop, hxid, hcookie, hoption⟩ := hchecks
  cases hr : dhcpInit DhcpState.unset dhcpHost 1 2 with
  | error e =>
    rw [hr] at hinit
    cases hinit
  | ok r =>
    obtain ⟨ok, s, h⟩ := r
    rw [hr] at hinit
    obtain ⟨rfl, hx, hc, hsent⟩ : ok = true ∧ s.xid = 5 ∧ s.callback = 1 ∧ h.nic.sent.length = 1 := by
      simpa [Except.toOption] using hinit
    have htype : dhcpAckAction.type s = some dhcpMessageAck := by
      unfold DhcpAction.type dhcpMessageType
      rw [if_neg (by rw [hlen]; decide), if_neg (by simp [hop, hxid, hx, hcookie]), hoption]
      rfl
    obtain ⟨t, ht⟩ := dhcpStep_total (DhcpSystem.start s) dhcpAckAction
    refine ⟨s, h, t, rfl, hsent, ht, fun hauth => ?_⟩
    -- no request is out
    have hmatch := (authorised_step_iff (DhcpInv.start s) ht).mp hauth
    exact absurd (hmatch htype (by rw [show (DhcpSystem.start s).state.callback = 1 from hc]; decide)).1
      (by simp [DhcpSystem.start])

end MayaOs.Net
