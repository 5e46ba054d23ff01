import MayaOs.Lib.Census
import MayaOs.Lib.Run
import MayaOs.Properties.MessageSteps

/-!
# Wake-ups on a message queue

While there is room, a sender that sleeps on `not_full` should have a signal on its way to some
sender; the same holds of messages, receivers and `not_empty`. A signal is on its way from the step
that takes a process off the waiter list to the step in which that process holds the mutex again.
Two error paths swallow one: a receive that drops a message too large for its buffer frees a place
without signalling, and a woken sender that gets no memory leaves without passing its signal on.

* `noneForgotten_of_passesOn` — these are the only ways
* `sender_forgotten` — a sender sleeps in front of an empty queue
-/

namespace MayaOs.Kernel

open MayaOs.Lib

/-! ## Signals on their way -/

/-- The condition variables of a queue. -/
inductive QueueCondition where
  | notFull
  | notEmpty
  deriving Repr, DecidableEq

/-- A queue with its users and, for each of them, the signal it has got and not yet used. -/
structure SignalSystem where
  sys : QueueSystem
  signalled : ProcessPtr → Option QueueCondition

/-- The one that runs has taken the mutex. -/
def noteMutex (signalled : ProcessPtr → Option QueueCondition) :
    QueueAction → ProcessPtr → Option QueueCondition
  | .run p _ => Function.update signalled p none
  | .call _ _ => signalled
  | .block _ => signalled

/-- Those that the step takes off a waiter list have been signalled. -/
def noteSignals (s t : QueueSystem) (signalled : ProcessPtr → Option QueueCondition) :
    ProcessPtr → Option QueueCondition := fun p =>
  if p ∈ s.queue.notFull ∧ p ∉ t.queue.notFull then some .notFull
  else if p ∈ s.queue.notEmpty ∧ p ∉ t.queue.notEmpty then some .notEmpty
  else signalled p

/-- `queueStep`, with the signals written down. -/
def signalStep (s : SignalSystem) (a : QueueAction) : Option SignalSystem :=
  (queueStep s.sys a).map fun t =>
    { sys := t, signalled := noteSignals s.sys t (noteMutex s.signalled a) }

def SignalSystem.boot (maxMessages maxSize : Nat) : SignalSystem where
  sys := QueueSystem.boot maxMessages maxSize
  signalled := fun _ => none

/-- Somebody on a waiter list has nothing to do, or a signal is on its way. -/
def NoneForgotten (s : SignalSystem) : Prop :=
  (s.sys.queue.notFull ≠ [] →
    s.sys.queue.maxMessages ≤ s.sys.queue.count ∨ ∃ p, s.signalled p = some .notFull) ∧
  (s.sys.queue.notEmpty ≠ [] → s.sys.queue.count = 0 ∨ ∃ p, s.signalled p = some .notEmpty)

/-- Writing the signals down does not change what the queue does. -/
theorem run_signalStep : ∀ (as : List QueueAction) (s : SignalSystem),
    (run signalStep s as).map SignalSystem.sys = run queueStep s.sys as := by
  intro as
  induction as with
  | nil => intro s; rfl
  | cons a as ih =>
    intro s
    rw [run_cons, run_cons, signalStep]
    cases queueStep s.sys a with
    | none => rfl
    | some t => exact ih _

/-! ## The condition -/

def signalledOn (c : QueueCondition) (x : Option QueueCondition) : Bool := x = some c

/-- No sender sleeps, or more of them are on their way than there are places. -/
def Spare (s : SignalSystem) : Prop :=
  s.sys.queue.notFull = [] ∨
    ∃ n, Census s.signalled (fun x => signalledOn .notFull x = true) n ∧
      s.sys.queue.maxMessages - s.sys.queue.count < n

/--
A signal is swallowed only when that does no harm.

The first part is about a woken sender that finds room and no memory, the second about a receive
whose buffer is too small.
-/
def PassesOn (s : SignalSystem) (a : QueueAction) (_ : SignalSystem) : Prop :=
  match a with
  | .run p msg =>
    (∀ data, s.sys.pc p = .send data → s.signalled p = some .notFull →
      s.sys.queue.count < s.sys.queue.maxMessages → msg = null → Spare s) ∧
    (∀ size, s.sys.pc p = .receive size ∨ s.sys.pc p = .tryReceive size →
      s.sys.queue.count ≠ 0 → size < (s.sys.queue.mem s.sys.queue.first).size → Spare s)
  | .call _ _ => True
  | .block _ => True

/-! ## Waiter lists and signals -/

def MessageQueue.waiters (q : MessageQueue) : QueueCondition → List ProcessPtr
  | .notFull => q.notFull
  | .notEmpty => q.notEmpty

/-- Where a process sleeps. -/
def QueuePc.waitsOn : QueuePc → Option QueueCondition
  | .parkedSend _ _ => some .notFull
  | .parkedReceive _ _ => some .notEmpty
  | _ => none

/-- What a process may have been signalled on. -/
def QueuePc.needs : QueuePc → Option QueueCondition
  | .send _ => some .notFull
  | .parkedSend _ _ => some .notFull
  | .receive _ => some .notEmpty
  | .parkedReceive _ _ => some .notEmpty
  | _ => none

/-- In `msgqueue_close`. -/
def QueuePc.closing : QueuePc → Bool
  | .close => true
  | .broadcastNotFull => true
  | .broadcastNotEmpty => true
  | _ => false

theorem waitsOn_of_sending {x : QueuePc} {data : List UInt8}
    (hx : x = .send data ∨ x = .trySend data) : x.waitsOn = none := by
  rcases hx with rfl | rfl <;> rfl

theorem waitsOn_of_receiving {x : QueuePc} {size : Nat}
    (hx : x = .receive size ∨ x = .tryReceive size) : x.waitsOn = none := by
  rcases hx with rfl | rfl <;> rfl

theorem needs_of_sending {x : QueuePc} {data : List UInt8}
    (hx : x = .send data ∨ x = .trySend data) : x.needs ≠ some .notEmpty := by
  rcases hx with rfl | rfl <;> exact nofun

theorem needs_of_receiving {x : QueuePc} {size : Nat}
    (hx : x = .receive size ∨ x = .tryReceive size) : x.needs ≠ some .notFull := by
  rcases hx with rfl | rfl <;> exact nofun

/-- The waiter lists hold those that sleep and have no signal. -/
structure Registered (w : QueueCondition → List ProcessPtr) (pc : ProcessPtr → QueuePc)
    (signalled : ProcessPtr → Option QueueCondition) : Prop where
  mem_iff : ∀ c p, p ∈ w c ↔ (pc p).waitsOn = some c ∧ signalled p = none
  nodup : ∀ c, (w c).Nodup
  needs : ∀ p c, signalled p = some c → (pc p).needs = some c

section Registered

variable {w : QueueCondition → List ProcessPtr} {pc : ProcessPtr → QueuePc}
  {signalled : ProcessPtr → Option QueueCondition} {p : ProcessPtr} {c : QueueCondition}
  {x : QueuePc}

/-- A process that is in no wait has no signal. -/
theorem Registered.not_signalled (h : Registered w pc signalled) {c : QueueCondition}
    (hp : (pc p).needs ≠ some c) : signalled p ≠ some c := fun hs => hp (h.needs p c hs)

theorem Registered.signalled_eq_none (h : Registered w pc signalled)
    (hp : (pc p).needs = none) : signalled p = none := by
  cases hs : signalled p with
  | none => rfl
  | some c => exact absurd hs (h.not_signalled (by rw [hp]; exact nofun))

/-- A process moves outside the mutex. -/
theorem Registered.move (h : Registered w pc signalled) (hwaits : x.waitsOn = (pc p).waitsOn)
    (hneeds : (pc p).needs = none ∨ x.needs = (pc p).needs) :
    Registered w (Function.update pc p x) signalled := by
  refine ⟨fun c r => ?_, h.nodup, fun r c hr => ?_⟩
  · rw [h.mem_iff]
    rcases eq_or_ne r p with rfl | hne
    · rw [Function.update_self, hwaits]
    · rw [Function.update_of_ne hne]
  · rcases eq_or_ne r p with rfl | hne
    · rw [Function.update_self]
      rcases hneeds with hn | hn
      · rw [h.signalled_eq_none hn] at hr
        cases hr
      · rw [hn]
        exact h.needs r c hr
    · rw [Function.update_of_ne hne]
      exact h.needs r c hr

/-- A process leaves the mutex without waiting. -/
theorem Registered.leave (h : Registered w pc signalled) (hold : (pc p).waitsOn = none)
    (hnew : x.waitsOn = none) :
    Registered w (Function.update pc p x) (Function.update signalled p none) := by
  refine ⟨fun c r => ?_, h.nodup, fun r c hr => ?_⟩
  · rw [h.mem_iff]
    rcases eq_or_ne r p with rfl | hne
    · simp [hold, hnew]
    · rw [Function.update_of_ne hne, Function.update_of_ne hne]
  · rcases eq_or_ne r p with rfl | hne
    · rw [Function.update_self] at hr
      cases hr
    · rw [Function.update_of_ne hne] at hr ⊢
      exact h.needs r c hr

/-- A process leaves the mutex by `condition_wait`. -/
theorem Registered.wait (h : Registered w pc signalled) (hold : (pc p).waitsOn = none)
    (hnew : x.waitsOn = some c) :
    Registered (Function.update w c (w c ++ [p])) (Function.update pc p x)
      (Function.update signalled p none) := by
  have hp : ∀ d, p ∉ w d := by
    intro d hd
    have := ((h.mem_iff d p).mp hd).1
    rw [hold] at this
    cases this
  refine ⟨fun d r => ?_, fun d => ?_, fun r d hr => ?_⟩
  · rcases eq_or_ne r p with rfl | hne
    · rcases eq_or_ne d c with rfl | hd
      · simp [hnew]
      · simp [hnew, hp d, hd, Ne.symm hd]
    · rw [Function.update_of_ne hne, Function.update_of_ne hne, ← h.mem_iff]
      rcases eq_or_ne d c with rfl | hd
      · simp [hne]
      · simp [hd]
  · rcases eq_or_ne d c with rfl | hd
    · rw [Function.update_self, ← List.concat_eq_append]
      exact (h.nodup d).concat (hp d)
    · rw [Function.update_of_ne hd]
      exact h.nodup d
  · rcases eq_or_ne r p with rfl | hne
    · rw [Function.update_self] at hr
      cases hr
    · rw [Function.update_of_ne hne] at hr ⊢
      exact h.needs r d hr

/-- The signals after `condition_signal`. -/
def signalFirst (signalled : ProcessPtr → Option QueueCondition) (c : QueueCondition)
    (l : List ProcessPtr) : ProcessPtr → Option QueueCondition := fun p =>
  if l.head? = some p then some c else signalled p

theorem signalFirst_nil : signalFirst signalled c [] = signalled := rfl

theorem signalFirst_cons (l : List ProcessPtr) :
    signalFirst signalled c (p :: l) = Function.update signalled p (some c) := by
  funext r
  unfold signalFirst
  rw [List.head?_cons, Function.update_apply]
  rcases eq_or_ne r p with rfl | hne
  · rw [if_pos rfl, if_pos rfl]
  · rw [if_neg (fun he => hne (Option.some.inj he).symm), if_neg hne]

theorem wakeProcess_needs (pc : ProcessPtr → QueuePc) (p r : ProcessPtr) :
    (wakeProcess pc p r).needs = (pc r).needs :=
  wakeProcess_apply (fun _ => rfl) (fun _ => rfl) pc p r

/-- **`condition_signal`** takes the first waiter off its list. -/
theorem Registered.signal (h : Registered w pc signalled) (c : QueueCondition) :
    Registered (Function.update w c ((w c).drop 1)) (((w c).take 1).foldl wakeProcess pc)
      (signalFirst signalled c (w c)) := by
  cases hw : w c with
  | nil =>
    have hsame : Function.update w c [] = w := by rw [← hw, Function.update_eq_self]
    rw [signalFirst_nil]
    show Registered (Function.update w c []) pc signalled
    rw [hsame]
    exact h
  | cons q l =>
    rw [signalFirst_cons]
    show Registered (Function.update w c l) (wakeProcess pc q) _
    have hnd := h.nodup c
    rw [hw] at hnd
    obtain ⟨hq, hl⟩ := List.nodup_cons.mp hnd
    obtain ⟨hwaits, hnone⟩ := (h.mem_iff c q).mp (by rw [hw]; exact List.mem_cons_self)
    refine ⟨fun d r => ?_, fun d => ?_, fun r d hr => ?_⟩
    · rcases eq_or_ne r q with rfl | hne
      · rcases eq_or_ne d c with rfl | hd
        · simp [hq]
        · have hnot : r ∉ w d := by
            rw [h.mem_iff, hwaits]
            rintro ⟨he, -⟩
            exact hd (Option.some.inj he).symm
          simp [hd, hnot]
      · rw [wakeProcess_of_ne pc hne, Function.update_of_ne hne, ← h.mem_iff]
        rcases eq_or_ne d c with rfl | hd
        · simp [hw, hne]
        · simp [hd]
    · rcases eq_or_ne d c with rfl | hd
      · rw [Function.update_self]
        exact hl
      · rw [Function.update_of_ne hd]
        exact h.nodup d
    · rw [wakeProcess_needs]
      rcases eq_or_ne r q with rfl | hne
      · rw [Function.update_self] at hr
        cases hr
        -- a process sleeps on the condition it needs
        cases hpc : pc r <;> simp [hpc, QueuePc.waitsOn] at hwaits <;> simp [QueuePc.needs, hwaits]
      · rw [Function.update_of_ne hne] at hr
        exact h.needs r d hr

end Registered

/-! ## Counting the signals -/

/-- If somebody waits, at least `need` signals are on their way. -/
def EnoughSignals (signalled : ProcessPtr → Option QueueCondition) (c : QueueCondition)
    (waiters : List ProcessPtr) (need : Nat) : Prop :=
  ∃ n, Census signalled (fun x => signalledOn c x = true) n ∧ (waiters ≠ [] → need ≤ n)

section EnoughSignals

variable {signalled : ProcessPtr → Option QueueCondition} {p : ProcessPtr} {c d : QueueCondition}
  {l l' : List ProcessPtr} {need need' : Nat}

theorem signalledOn_of_ne {x : Option QueueCondition} (h : x ≠ some c) :
    signalledOn c x = false := decide_eq_false h

theorem EnoughSignals.mono (h : EnoughSignals signalled c l need) (hle : need' ≤ need) :
    EnoughSignals signalled c l need' := by
  obtain ⟨n, hn, hneed⟩ := h
  exact ⟨n, hn, fun hl => hle.trans (hneed hl)⟩

/-- The signal of a process changes. -/
theorem EnoughSignals.update (h : EnoughSignals signalled c l need) (p : ProcessPtr)
    (x : Option QueueCondition)
    (hneed : l' ≠ [] → l ≠ [] ∧
      need' + (signalledOn c (signalled p)).toNat ≤ need + (signalledOn c x).toNat) :
    EnoughSignals (Function.update signalled p x) c l' need' := by
  obtain ⟨n, hn, hcover⟩ := h
  obtain ⟨m, hm, hcount⟩ := hn.move p x
  refine ⟨m, hm, fun hl' => ?_⟩
  obtain ⟨hl, hle⟩ := hneed hl'
  have := hcover hl
  omega

/-- Nothing is needed. -/
theorem EnoughSignals.of_zero (h : EnoughSignals signalled c l need) (p : ProcessPtr)
    (x : Option QueueCondition) : EnoughSignals (Function.update signalled p x) c l' 0 := by
  obtain ⟨n, hn, -⟩ := h
  obtain ⟨m, hm, -⟩ := hn.move p x
  exact ⟨m, hm, fun _ => Nat.zero_le m⟩

/-- A process without this signal takes the mutex. -/
theorem EnoughSignals.unused (h : EnoughSignals signalled c l need) (hp : signalled p ≠ some c) :
    EnoughSignals (Function.update signalled p none) c l need := by
  refine h.update p none fun hl => ⟨hl, ?_⟩
  rw [signalledOn_of_ne hp]
  simp

/-- A process that may have this signal takes the mutex and does its work. -/
theorem EnoughSignals.used (h : EnoughSignals signalled c l need) (hlt : need' + 1 ≤ need) :
    EnoughSignals (Function.update signalled p none) c l need' := by
  refine h.update p none fun hl => ⟨hl, ?_⟩
  have := Bool.toNat_le (signalledOn c (signalled p))
  omega

/-- A signal covers one more. -/
theorem EnoughSignals.signal (h : EnoughSignals signalled c l need)
    (hhead : ∀ q, l.head? = some q → signalled q = none) :
    EnoughSignals (signalFirst signalled c l) c (l.drop 1) (need + 1) := by
  cases l with
  | nil =>
    obtain ⟨n, hn, -⟩ := h
    exact ⟨n, hn, absurd rfl⟩
  | cons q l =>
    rw [signalFirst_cons]
    refine h.update q (some c) fun _ => ⟨List.cons_ne_nil q l, ?_⟩
    rw [hhead q rfl]
    simp [signalledOn]

/-- A signal on the other condition. -/
theorem EnoughSignals.signal_other (h : EnoughSignals signalled c l need)
    (hhead : ∀ q, l'.head? = some q → signalled q = none) :
    EnoughSignals (signalFirst signalled d l') c l need := by
  cases l' with
  | nil => exact h
  | cons q l' =>
    rw [signalFirst_cons]
    refine h.update q (some d) fun hl => ⟨hl, ?_⟩
    rw [hhead q rfl]
    simp [signalledOn]

end EnoughSignals

/-- For how many processes on the list there is something to do. -/
def MessageQueue.need (q : MessageQueue) : QueueCondition → Nat
  | .notFull => q.maxMessages - q.count
  | .notEmpty => q.count

/-- The queue is open, and there are signals for what there is to do. -/
structure SignalsBalanced (s : SignalSystem) : Prop where
  opened : s.sys.queue.closed = false
  closing : ∀ p, (s.sys.pc p).closing = false
  registered : Registered s.sys.queue.waiters s.sys.pc s.signalled
  covered : ∀ c, EnoughSignals s.signalled c (s.sys.queue.waiters c) (s.sys.queue.need c)

theorem signalsBalanced_boot (maxMessages maxSize : Nat) :
    SignalsBalanced (SignalSystem.boot maxMessages maxSize) where
  opened := rfl
  closing := fun _ => rfl
  registered := by
    have hnil : ∀ c, (SignalSystem.boot maxMessages maxSize).sys.queue.waiters c = [] := by
      intro c
      cases c <;> rfl
    refine ⟨fun c p => ?_, fun c => ?_, fun p c hp => ?_⟩
    · rw [hnil]
      simp [SignalSystem.boot, QueueSystem.boot, QueuePc.waitsOn]
    · rw [hnil]
      exact List.nodup_nil
    · cases hp
  covered := by
    intro c
    refine ⟨0, Census.none fun p => ?_, fun hne => ?_⟩
    · simp [SignalSystem.boot, signalledOn]
    · cases c <;> exact absurd rfl hne

/-- **Balanced signals forget nobody.** -/
theorem SignalsBalanced.noneForgotten {s : SignalSystem} (h : SignalsBalanced s) : NoneForgotten s := by
  have hsome : ∀ c n, Census s.signalled (fun x => signalledOn c x = true) n → n ≠ 0 →
      ∃ p, s.signalled p = some c := by
    intro c n hn hne
    by_contra hnone
    refine hne (hn.eq_zero fun p hp => hnone ⟨p, of_decide_eq_true hp⟩)
  constructor
  · intro hne
    obtain ⟨n, hn, hneed⟩ := h.covered .notFull
    have hle : s.sys.queue.maxMessages - s.sys.queue.count ≤ n := hneed hne
    by_cases hz : n = 0
    · exact Or.inl (by omega)
    · exact Or.inr (hsome .notFull n hn hz)
  · intro hne
    obtain ⟨n, hn, hneed⟩ := h.covered .notEmpty
    have hle : s.sys.queue.count ≤ n := hneed hne
    by_cases hz : n = 0
    · exact Or.inl (by omega)
    · exact Or.inr (hsome .notEmpty n hn hz)

/-! ## Steps -/

theorem mem_and_notMem_drop_one {l : List ProcessPtr} (hnd : l.Nodup) (p : ProcessPtr) :
    p ∈ l ∧ p ∉ l.drop 1 ↔ l.head? = some p := by
  cases l with
  | nil => simp
  | cons q l =>
    obtain ⟨hq, -⟩ := List.nodup_cons.mp hnd
    rw [List.drop_one, List.tail_cons, List.mem_cons, List.head?_cons, Option.some.injEq]
    constructor
    · rintro ⟨rfl | hp, hnot⟩
      · rfl
      · exact absurd hp hnot
    · rintro rfl
      exact ⟨Or.inl rfl, hq⟩

section noteSignals

variable {s t : QueueSystem} (signalled : ProcessPtr → Option QueueCondition)

/-- Nobody is taken off a list. -/
theorem noteSignals_of_subset (hfull : s.queue.notFull ⊆ t.queue.notFull)
    (hempty : s.queue.notEmpty ⊆ t.queue.notEmpty) : noteSignals s t signalled = signalled := by
  funext p
  unfold noteSignals
  rw [if_neg (fun hp => hp.2 (hfull hp.1)), if_neg (fun hp => hp.2 (hempty hp.1))]

theorem noteSignals_notFull (hnd : s.queue.notFull.Nodup)
    (hfull : t.queue.notFull = s.queue.notFull.drop 1)
    (hempty : t.queue.notEmpty = s.queue.notEmpty) :
    noteSignals s t signalled = signalFirst signalled .notFull s.queue.notFull := by
  funext p
  unfold noteSignals signalFirst
  rw [hfull, hempty, if_neg (fun hp : p ∈ s.queue.notEmpty ∧ p ∉ s.queue.notEmpty => hp.2 hp.1)]
  exact if_congr (mem_and_notMem_drop_one hnd p) rfl rfl

theorem noteSignals_notEmpty (hnd : s.queue.notEmpty.Nodup)
    (hfull : t.queue.notFull = s.queue.notFull)
    (hempty : t.queue.notEmpty = s.queue.notEmpty.drop 1) :
    noteSignals s t signalled = signalFirst signalled .notEmpty s.queue.notEmpty := by
  funext p
  unfold noteSignals signalFirst
  rw [hfull, hempty, if_neg (fun hp : p ∈ s.queue.notFull ∧ p ∉ s.queue.notFull => hp.2 hp.1)]
  exact if_congr (mem_and_notMem_drop_one hnd p) rfl rfl

end noteSignals

theorem waiters_of_notFull {q r : MessageQueue} {l : List ProcessPtr} (hfull : r.notFull = l)
    (hempty : r.notEmpty = q.notEmpty) : r.waiters = Function.update q.waiters .notFull l := by
  funext c
  cases c with
  | notFull => exact hfull
  | notEmpty => exact hempty

theorem waiters_of_notEmpty {q r : MessageQueue} {l : List ProcessPtr}
    (hfull : r.notFull = q.notFull) (hempty : r.notEmpty = l) :
    r.waiters = Function.update q.waiters .notEmpty l := by
  funext c
  cases c with
  | notFull => exact hfull
  | notEmpty => exact hempty

theorem enter_waitsOn (q : MessageQueue) (c : QueueCall) : (enter q c).waitsOn = none := by
  unfold enter
  split <;> (try split) <;> rfl

theorem enter_closing (q : MessageQueue) {c : QueueCall} (hc : c ≠ .close) :
    (enter q c).closing = false := by
  unfold enter
  split <;> (try split) <;> first | rfl | exact absurd rfl hc

/-- Nobody is in `msgqueue_close` after a process has moved and one has been woken. -/
theorem closing_foldl_wakeProcess {pc : ProcessPtr → QueuePc} (h : ∀ r, (pc r).closing = false)
    (p : ProcessPtr) {x : QueuePc} (hx : x.closing = false) (l : List ProcessPtr) (r : ProcessPtr) :
    ((l.foldl wakeProcess (Function.update pc p x)) r).closing = false := by
  have hupdate : ∀ r, (Function.update pc p x r).closing = false := by
    intro r
    rcases eq_or_ne r p with rfl | hne
    · rw [Function.update_self]
      exact hx
    · rw [Function.update_of_ne hne]
      exact h r
  rw [foldl_wakeProcess_apply (f := QueuePc.closing) (fun _ => rfl) (fun _ => rfl) r l]
  exact hupdate r

/-- The first waiter has no signal yet. -/
theorem SignalsBalanced.head_signalled {s : SignalSystem} (h : SignalsBalanced s) (p : ProcessPtr)
    (c : QueueCondition) (q : ProcessPtr) (hq : (s.sys.queue.waiters c).head? = some q) :
    Function.update s.signalled p none q = none := by
  rcases eq_or_ne q p with rfl | hne
  · exact Function.update_self ..
  · rw [Function.update_of_ne hne]
    exact ((h.registered.mem_iff c q).mp (List.mem_of_mem_head? hq)).2

/-- A process moves outside the mutex. -/
theorem SignalsBalanced.move {s : SignalSystem} (h : SignalsBalanced s) {p : ProcessPtr} {x : QueuePc}
    (hclosing : x.closing = false) (hwaits : x.waitsOn = (s.sys.pc p).waitsOn)
    (hneeds : (s.sys.pc p).needs = none ∨ x.needs = (s.sys.pc p).needs) :
    SignalsBalanced { s with sys := { s.sys with pc := Function.update s.sys.pc p x } } :=
  ⟨h.opened, closing_foldl_wakeProcess h.closing p hclosing [], h.registered.move hwaits hneeds,
    h.covered⟩

/-- A section fails. Only a woken sender can have had a signal for nothing. -/
theorem SignalsBalanced.failed {s : SignalSystem} (h : SignalsBalanced s) {p : ProcessPtr}
    (hwaits : (s.sys.pc p).waitsOn = none)
    (hp : s.signalled p = none ∨ s.signalled p = some .notFull ∧ Spare s) :
    SignalsBalanced
      { sys := { s.sys with pc := Function.update s.sys.pc p .idle }
        signalled := Function.update s.signalled p none } := by
  refine ⟨h.opened, closing_foldl_wakeProcess h.closing p rfl [], h.registered.leave hwaits rfl, ?_⟩
  rcases hp with hnone | ⟨hfull, hspare⟩
  · exact fun c => (h.covered c).unused (by rw [hnone]; simp)
  · intro c
    cases c with
    | notEmpty => exact (h.covered .notEmpty).unused (by rw [hfull]; simp)
    | notFull =>
      rcases hspare with hnil | ⟨n, hn, hlt⟩
      · exact (h.covered .notFull).update p none fun hne => absurd hnil hne
      · have hone : EnoughSignals s.signalled .notFull s.sys.queue.notFull
            (s.sys.queue.need .notFull + 1) := ⟨n, hn, fun _ => hlt⟩
        exact hone.used (Nat.le_refl _)

/-- A sender waits. -/
theorem SignalsBalanced.waitsNotFull {s : SignalSystem} (h : SignalsBalanced s) {p : ProcessPtr}
    {data : List UInt8} (hpc : s.sys.pc p = .send data)
    (hfull : s.sys.queue.maxMessages ≤ s.sys.queue.count) :
    SignalsBalanced
      { sys := { s.sys with
          queue := { s.sys.queue with notFull := s.sys.queue.notFull ++ [p] }
          pc := Function.update s.sys.pc p (.parkedSend data false) }
        signalled := Function.update s.signalled p none } := by
  have hlist := waiters_of_notFull (q := s.sys.queue)
    (r := { s.sys.queue with notFull := s.sys.queue.notFull ++ [p] }) rfl rfl
  refine ⟨h.opened, closing_foldl_wakeProcess h.closing p rfl [], ?_, fun c => ?_⟩
  · rw [hlist]
    exact h.registered.wait (c := .notFull) (by rw [hpc]; rfl) rfl
  · cases c with
    | notFull =>
      have hzero : s.sys.queue.maxMessages - s.sys.queue.count = 0 := Nat.sub_eq_zero_of_le hfull
      show EnoughSignals _ .notFull _ (s.sys.queue.maxMessages - s.sys.queue.count)
      rw [hzero]
      exact (h.covered .notFull).of_zero p none
    | notEmpty =>
      exact (h.covered .notEmpty).unused
        (h.registered.not_signalled (needs_of_sending (Or.inl hpc)))

/-- A receiver waits. -/
theorem SignalsBalanced.waitsNotEmpty {s : SignalSystem} (h : SignalsBalanced s) {p : ProcessPtr}
    {size : Nat} (hpc : s.sys.pc p = .receive size) (hempty : s.sys.queue.count = 0) :
    SignalsBalanced
      { sys := { s.sys with
          queue := { s.sys.queue with notEmpty := s.sys.queue.notEmpty ++ [p] }
          pc := Function.update s.sys.pc p (.parkedReceive size false) }
        signalled := Function.update s.signalled p none } := by
  have hlist := waiters_of_notEmpty (q := s.sys.queue)
    (r := { s.sys.queue with notEmpty := s.sys.queue.notEmpty ++ [p] }) rfl rfl
  refine ⟨h.opened, closing_foldl_wakeProcess h.closing p rfl [], ?_, fun c => ?_⟩
  · rw [hlist]
    exact h.registered.wait (c := .notEmpty) (by rw [hpc]; rfl) rfl
  · cases c with
    | notFull =>
      exact (h.covered .notFull).unused
        (h.registered.not_signalled (needs_of_receiving (Or.inl hpc)))
    | notEmpty =>
      show EnoughSignals _ .notEmpty _ s.sys.queue.count
      rw [hempty]
      exact (h.covered .notEmpty).of_zero p none

/-- A message is put in; a receiver is signalled. -/
theorem SignalsBalanced.stored {s : SignalSystem} (h : SignalsBalanced s) {p : ProcessPtr}
    {msg : MessagePtr} {data : List UInt8} (hpc : s.sys.pc p = .send data ∨ s.sys.pc p = .trySend data)
    (hroom : s.sys.queue.count < s.sys.queue.maxMessages) :
    SignalsBalanced
      { sys := { s.sys with
          queue := { linkMessage s.sys.queue data msg with
            notEmpty := s.sys.queue.notEmpty.drop 1 }
          pc := (s.sys.queue.notEmpty.take 1).foldl wakeProcess
            (Function.update s.sys.pc p .idle)
          sent := s.sys.sent ++ [data] }
        signalled := signalFirst (Function.update s.signalled p none) .notEmpty
          s.sys.queue.notEmpty } := by
  have hlist := waiters_of_notEmpty (q := s.sys.queue)
    (r := { linkMessage s.sys.queue data msg with notEmpty := s.sys.queue.notEmpty.drop 1 })
    (linkMessage_notFull ..) rfl
  have hwaits := waitsOn_of_sending hpc
  have hnot : s.signalled p ≠ some .notEmpty := h.registered.not_signalled (needs_of_sending hpc)
  refine ⟨?_, closing_foldl_wakeProcess h.closing p rfl _, ?_, fun c => ?_⟩
  · show (linkMessage s.sys.queue data msg).closed = false
    rw [linkMessage_closed]
    exact h.opened
  · rw [hlist]
    exact (h.registered.leave hwaits rfl).signal .notEmpty
  · cases c with
    | notFull =>
      show EnoughSignals _ _ (linkMessage s.sys.queue data msg).notFull
        ((linkMessage s.sys.queue data msg).maxMessages -
          (linkMessage s.sys.queue data msg).count)
      rw [linkMessage_notFull, linkMessage_maxMessages, linkMessage_count]
      refine EnoughSignals.signal_other ?_ (h.head_signalled p .notEmpty)
      refine (h.covered .notFull).used ?_
      show s.sys.queue.maxMessages - (s.sys.queue.count + 1) + 1 ≤
        s.sys.queue.maxMessages - s.sys.queue.count
      omega
    | notEmpty =>
      show EnoughSignals _ _ (s.sys.queue.notEmpty.drop 1) (linkMessage s.sys.queue data msg).count
      rw [linkMessage_count]
      exact ((h.covered .notEmpty).unused hnot).signal (h.head_signalled p .notEmpty)

/-- A message is taken out and delivered; a sender is signalled. -/
theorem SignalsBalanced.took {s : SignalSystem} (h : SignalsBalanced s) {p : ProcessPtr} {size : Nat}
    {received : List (List UInt8)}
    (hpc : s.sys.pc p = .receive size ∨ s.sys.pc p = .tryReceive size)
    (hcount : s.sys.queue.count ≠ 0) :
    SignalsBalanced
      { sys := { s.sys with
          queue := { (unlinkFirst s.sys.queue).2 with
            notFull := s.sys.queue.notFull.drop 1 }
          pc := (s.sys.queue.notFull.take 1).foldl wakeProcess
            (Function.update s.sys.pc p .idle)
          received := received }
        signalled := signalFirst (Function.update s.signalled p none) .notFull
          s.sys.queue.notFull } := by
  have hlist := waiters_of_notFull (q := s.sys.queue)
    (r := { (unlinkFirst s.sys.queue).2 with notFull := s.sys.queue.notFull.drop 1 }) rfl rfl
  have hwaits := waitsOn_of_receiving hpc
  have hnot : s.signalled p ≠ some .notFull := h.registered.not_signalled (needs_of_receiving hpc)
  refine ⟨h.opened, closing_foldl_wakeProcess h.closing p rfl _, ?_, fun c => ?_⟩
  · rw [hlist]
    exact (h.registered.leave hwaits rfl).signal .notFull
  · cases c with
    | notFull =>
      refine (((h.covered .notFull).unused hnot).signal (h.head_signalled p .notFull)).mono ?_
      show s.sys.queue.maxMessages - (s.sys.queue.count - 1) ≤
        s.sys.queue.maxMessages - s.sys.queue.count + 1
      omega
    | notEmpty =>
      refine EnoughSignals.signal_other ?_ (h.head_signalled p .notFull)
      refine (h.covered .notEmpty).used ?_
      show s.sys.queue.count - 1 + 1 ≤ s.sys.queue.count
      omega

/-- A message is taken out and dropped; nobody is signalled. -/
theorem SignalsBalanced.lost {s : SignalSystem} (h : SignalsBalanced s) {p : ProcessPtr} {size : Nat}
    (hpc : s.sys.pc p = .receive size ∨ s.sys.pc p = .tryReceive size)
    (hcount : s.sys.queue.count ≠ 0) (hspare : Spare s) :
    SignalsBalanced
      { sys := { s.sys with
          queue := (unlinkFirst s.sys.queue).2, pc := Function.update s.sys.pc p .idle }
        signalled := Function.update s.signalled p none } := by
  have hwaits := waitsOn_of_receiving hpc
  have hnot : s.signalled p ≠ some .notFull := h.registered.not_signalled (needs_of_receiving hpc)
  refine ⟨h.opened, closing_foldl_wakeProcess h.closing p rfl [], ?_, fun c => ?_⟩
  · have hlist : (unlinkFirst s.sys.queue).2.waiters = s.sys.queue.waiters := by
      funext c
      cases c <;> rfl
    show Registered (unlinkFirst s.sys.queue).2.waiters _ _
    rw [hlist]
    exact h.registered.leave hwaits rfl
  · cases c with
    | notFull =>
      rcases hspare with hnil | ⟨n, hn, hlt⟩
      · exact (h.covered .notFull).update p none fun hne => absurd hnil hne
      · refine EnoughSignals.unused ⟨n, hn, fun _ => ?_⟩ hnot
        show s.sys.queue.maxMessages - (s.sys.queue.count - 1) ≤ n
        omega
    | notEmpty =>
      refine (h.covered .notEmpty).used ?_
      show s.sys.queue.count - 1 + 1 ≤ s.sys.queue.count
      omega

/-- **One step** that passes its signal on keeps the balance. -/
theorem signalsBalanced_step {s t : SignalSystem} {a : QueueAction} (h : SignalsBalanced s)
    (hopen : ∀ p, a ≠ .call p .close) (hs : signalStep s a = some t) (hpass : PassesOn s a t) :
    SignalsBalanced t := by
  obtain ⟨u, hu, rfl⟩ := Option.map_eq_some_iff.mp hs
  have hsame : u.queue.notFull = s.sys.queue.notFull → u.queue.notEmpty = s.sys.queue.notEmpty →
      noteSignals s.sys u (noteMutex s.signalled a) = noteMutex s.signalled a :=
    fun hfull hempty => noteSignals_of_subset _ (by rw [hfull]; exact List.Subset.refl _)
      (by rw [hempty]; exact List.Subset.refl _)
  cases queueStep_effect hu with
  | called p c hidle ht =>
    rw [hsame (by rw [ht]) (by rw [ht]), ht]
    refine h.move (enter_closing _ fun hc => hopen p (by rw [hc])) ?_ (Or.inl ?_)
    · rw [enter_waitsOn, hidle]
      rfl
    · rw [hidle]
      rfl
  | blockedSend p data hpc ht =>
    rw [hsame (by rw [ht]) (by rw [ht]), ht]
    exact h.move rfl (by rw [hpc]; rfl) (Or.inr (by rw [hpc]; rfl))
  | blockedReceive p size hpc ht =>
    rw [hsame (by rw [ht]) (by rw [ht]), ht]
    exact h.move rfl (by rw [hpc]; rfl) (Or.inr (by rw [hpc]; rfl))
  | failed p msg hpc ht =>
    rw [hsame (by rw [ht]) (by rw [ht]), ht]
    rcases hpc with ⟨data, hpc, hwhy⟩ | ⟨data, hpc⟩ | ⟨size, hpc, hclosed⟩ | ⟨size, hpc⟩
    · refine h.failed (by rw [hpc]; rfl) ?_
      cases hsig : s.signalled p with
      | none => exact Or.inl rfl
      | some c =>
        have hn := h.registered.needs p c hsig
        rw [hpc] at hn
        cases hn
        rcases hwhy with hclosed | ⟨hroom, hnull⟩
        · rw [h.opened] at hclosed
          cases hclosed
        · exact Or.inr ⟨rfl, hpass.1 data hpc hsig hroom hnull⟩
    · exact h.failed (by rw [hpc]; rfl)
        (Or.inl (h.registered.signalled_eq_none (by rw [hpc]; rfl)))
    · rw [h.opened] at hclosed
      cases hclosed
    · exact h.failed (by rw [hpc]; rfl)
        (Or.inl (h.registered.signalled_eq_none (by rw [hpc]; rfl)))
  | waitsNotFull p msg data hpc hfull ht =>
    rw [noteSignals_of_subset _ (by rw [ht]; exact List.subset_append_left ..)
      (by rw [ht]; exact List.Subset.refl _), ht]
    exact h.waitsNotFull hpc hfull
  | waitsNotEmpty p msg size hpc hempty ht =>
    rw [noteSignals_of_subset _ (by rw [ht]; exact List.Subset.refl _)
      (by rw [ht]; exact List.subset_append_left ..), ht]
    exact h.waitsNotEmpty hpc hempty
  | stored p msg data hpc hroom hmsg hfresh ht =>
    have hfull : u.queue.notFull = s.sys.queue.notFull := by rw [ht]; exact linkMessage_notFull ..
    rw [noteSignals_notEmpty _ (h.registered.nodup .notEmpty) hfull (by rw [ht]), ht]
    exact h.stored (hpc.imp_left And.left) hroom
  | took p msg size hpc hcount hfits ht =>
    rw [noteSignals_notFull _ (h.registered.nodup .notFull) (by rw [ht]) (by rw [ht]; rfl), ht]
    exact h.took hpc hcount
  | lost p msg size hpc hcount hfits ht =>
    rw [hsame (by rw [ht]; rfl) (by rw [ht]; rfl), ht]
    exact h.lost hpc hcount (hpass.2 size hpc hcount hfits)
  | closed p msg hpc ht =>
    have hc := h.closing p
    rw [hpc] at hc
    cases hc
  | wokeNotFull p msg hpc ht =>
    have hc := h.closing p
    rw [hpc] at hc
    cases hc
  | wokeNotEmpty p msg hpc ht =>
    have hc := h.closing p
    rw [hpc] at hc
    cases hc

/-! ## Runs -/

/--
**Nobody is forgotten in any state of a run in which no signal is swallowed to harm.**

The run is any interleaving of the operations on an open queue, by any number of processes, with any
buffer sizes and with allocations that may fail.
-/
theorem noneForgotten_of_passesOn (maxMessages maxSize : Nat) (as : List QueueAction)
    (hopen : ∀ p, .call p .close ∉ as)
    (hpass : Along signalStep PassesOn (SignalSystem.boot maxMessages maxSize) as) :
    Always signalStep NoneForgotten (SignalSystem.boot maxMessages maxSize) as := by
  have hboot := signalsBalanced_boot maxMessages maxSize
  have hcalls : ∀ a ∈ as, ∀ p, a ≠ .call p .close := fun a ha p heq => hopen p (heq ▸ ha)
  refine ⟨hboot.noneForgotten, ?_⟩
  refine Along.of_invariant (I := SignalsBalanced) ?_ ?_ hboot (hpass.and_forall_mem hcalls)
  · rintro s a s' hs hs' ⟨hp, ha⟩
    exact (signalsBalanced_step hs ha hs' hp).noneForgotten
  · rintro s a s' hs hs' ⟨hp, ha⟩
    exact signalsBalanced_step hs ha hs' hp

/-- The queue is full and a second sender sleeps; a receive that fits signals it, and it gets the mutex
again and puts its message in. -/
def exchangeRun : List QueueAction :=
  [.call 1 (.send (some [0xAA])), .run 1 0xD0000010,
    .call 2 (.send (some [0xBB])), .run 2 null, .block 2,
    .call 3 (.receive (some 16)), .run 3 null, .run 2 0xD0000010]

/-- The sender sleeps after five steps, has its signal after seven and has used it after eight. -/
theorem exchange_noneForgotten :
    Always signalStep NoneForgotten (SignalSystem.boot 1 16) exchangeRun ∧
      (run signalStep (SignalSystem.boot 1 16) (exchangeRun.take 5)).map
        (fun s => (s.sys.queue.notFull, s.sys.queue.count, s.signalled 2)) = some ([2], 1, none) ∧
      (run signalStep (SignalSystem.boot 1 16) (exchangeRun.take 7)).map
        (fun s => (s.sys.queue.notFull, s.sys.queue.count, s.signalled 2)) =
        some ([], 0, some .notFull) ∧
      (run signalStep (SignalSystem.boot 1 16) exchangeRun).map
        (fun s => (s.sys.sent, s.sys.queue.count, s.signalled 2)) =
        some ([[0xAA], [0xBB]], 1, none) := by
  refine ⟨noneForgotten_of_passesOn 1 16 exchangeRun (by simp [exchangeRun]) ?_,
    by decide, by decide, by decide⟩
  intro s₁ h₁
  cases h₁
  refine ⟨trivial, fun s₂ h₂ => ?_⟩
  cases h₂
  refine ⟨⟨?_, ?_⟩, fun s₃ h₃ => ?_⟩
  · rintro data - - - hnull
    cases hnull
  · rintro size (hpc | hpc) <;> cases hpc
  cases h₃
  refine ⟨trivial, fun s₄ h₄ => ?_⟩
  cases h₄
  refine ⟨⟨?_, ?_⟩, fun s₅ h₅ => ?_⟩
  · -- it finds the queue full
    rintro data - - hroom
    exact absurd hroom (by decide)
  · rintro size (hpc | hpc) <;> cases hpc
  cases h₅
  refine ⟨trivial, fun s₆ h₆ => ?_⟩
  cases h₆
  refine ⟨trivial, fun s₇ h₇ => ?_⟩
  cases h₇
  refine ⟨⟨?_, ?_⟩, fun s₈ h₈ => ?_⟩
  · intro data hpc
    cases hpc
  · rintro size hpc - hlarge
    obtain rfl : size = 16 := by
      rcases hpc with hpc | hpc <;> cases hpc
      rfl
    exact absurd hlarge (by decide)
  cases h₈
  refine ⟨⟨?_, ?_⟩, trivial⟩
  · rintro data - - - hnull
    cases hnull
  · rintro size (hpc | hpc) <;> cases hpc

/-- No waiter list gets shorter. -/
def ListsGrow (s : SignalSystem) (_ : QueueAction) (t : SignalSystem) : Prop :=
  s.sys.queue.notFull ⊆ t.sys.queue.notFull ∧ s.sys.queue.notEmpty ⊆ t.sys.queue.notEmpty

/-- Only taking a process off a waiter list signals it. -/
theorem signalled_of_listsGrow : ∀ {as : List QueueAction} {s t : SignalSystem},
    Along signalStep ListsGrow s as → run signalStep s as = some t →
    (∀ p, s.signalled p = none) → ∀ p, t.signalled p = none := by
  intro as
  induction as with
  | nil => intro s t _ hrun hs; cases hrun; exact hs
  | cons a as ih =>
    intro s t hgrow hrun hs
    obtain ⟨s', hstep, hrest⟩ := run_cons_eq_some.mp hrun
    obtain ⟨⟨hfull, hempty⟩, hgrow'⟩ := hgrow s' hstep
    refine ih hgrow' hrest fun p => ?_
    obtain ⟨u, -, rfl⟩ := Option.map_eq_some_iff.mp hstep
    show noteSignals s.sys u (noteMutex s.signalled a) p = none
    rw [noteSignals_of_subset _ hfull hempty]
    cases a with
    | run q msg =>
      rcases eq_or_ne p q with rfl | hne
      · exact Function.update_self ..
      · exact (Function.update_of_ne hne ..).trans (hs p)
    | call q c => exact hs p
    | block q => exact hs p

/--
The queue is full, a second sender sleeps, and the message is dropped by a receive with a buffer of
one byte.
-/
def forgottenRun : List QueueAction :=
  [.call 1 (.send (some [0xAA, 0xBB])), .run 1 0xD0000010,
    .call 2 (.send (some [0xCC])), .run 2 null, .block 2,
    .call 3 (.receive (some 1)), .run 3 null]

theorem listsGrow_forgottenRun :
    Along signalStep ListsGrow (SignalSystem.boot 1 16) forgottenRun := by
  unfold forgottenRun
  iterate 7
    intro t ht
    cases ht
    refine ⟨⟨by decide, by decide⟩, ?_⟩
  trivial

/-- **A sender sleeps in front of an empty queue, and no signal is on its way.** -/
theorem sender_forgotten : ∃ s, run signalStep (SignalSystem.boot 1 16) forgottenRun = some s ∧
    s.sys.queue.notFull = [2] ∧ s.sys.pc 2 = .parkedSend [0xCC] true ∧ s.sys.queue.count = 0 ∧
    ¬ NoneForgotten s := by
  refine ⟨_, rfl, rfl, rfl, rfl, ?_⟩
  rintro ⟨hfull, -⟩
  rcases hfull (by decide) with hle | ⟨p, hp⟩
  · exact absurd hle (by decide)
  · rw [signalled_of_listsGrow listsGrow_forgottenRun rfl fun _ => rfl] at hp
    cases hp

end MayaOs.Kernel
