import MayaOs.Properties.MessageFifo

/-!
# The shape of a message queue

The list of a queue, its `last` pointer and its counter, in every run of all operations but
`msgqueue_destroy`, whoever resumes when, and whether `kmalloc` finds memory or not.

* `wellShaped_always` — the list ends in `last`, has `count` nodes, and keeps both bounds
-/

namespace MayaOs.Kernel

open MayaOs.Lib

/-! ## The property -/

/-- The list of `q` consists of the nodes `l`, and nothing contradicts it. -/
structure WellShaped (q : MessageQueue) (l : List MessagePtr) : Prop where
  chain : Chain null q.next q.first l
  count : q.count = l.length
  last : q.last = l.getLast?.getD null
  ends : q.last = null ↔ q.first = null
  bound : q.count ≤ q.maxMessages
  sizes : ∀ msg ∈ l, 1 ≤ (q.mem msg).size ∧ (q.mem msg).size ≤ q.maxSize
  allocated : ∀ msg ∈ l, msg ∈ q.allocated

inductive QueueQuery where
  | getCount
  | isFull
  | isEmpty
  | isClosed
  deriving Repr, DecidableEq

/-- What a query returns; the functions of the queue return a number or a truth value. -/
def QueueQuery.answer (q : MessageQueue) : QueueQuery → Nat ⊕ Bool
  | .getCount => .inl (msgqueueGetCount q)
  | .isFull => .inr (msgqueueIsFull q)
  | .isEmpty => .inr (msgqueueIsEmpty q)
  | .isClosed => .inr (msgqueueIsClosed q)

/-- A step of a process, or a query; the answer is what the caller saw. -/
inductive QueueEvent where
  | step (a : QueueAction)
  | query (process : ProcessPtr) (query : QueueQuery) (answer : Nat ⊕ Bool)

/-- A query reads the queue under its mutex; its caller is in no other call. -/
def eventStep (s : QueueSystem) : QueueEvent → Option QueueSystem
  | .step a => queueStep s a
  | .query p query answer =>
    if s.pc p = .idle ∧ answer = query.answer s.queue then some s else none

/-! ## The invariant -/

/-- The data that a process is about to store. -/
def QueuePc.payload : QueuePc → Option (List UInt8)
  | .send data => some data
  | .trySend data => some data
  | .parkedSend data _ => some data
  | _ => none

/-- Data that the entry checks let through. -/
def Sendable (q : MessageQueue) (data : List UInt8) : Prop :=
  1 ≤ data.length ∧ data.length ≤ q.maxSize

/-- The list is in order, holds nothing but sendable data, and is not too long. -/
structure Shaped (q : MessageQueue) : Prop where
  stored : ∃ l, Stored q l ∧ ∀ msg ∈ l, Sendable q (q.mem msg).data
  bound : q.count ≤ q.maxMessages

structure ShapeInv (s : QueueSystem) : Prop where
  shaped : Shaped s.queue
  payloads : ∀ p data, (s.pc p).payload = some data → Sendable s.queue data

theorem Shaped.wellShaped {q : MessageQueue} (h : Shaped q) : ∃ l, WellShaped q l := by
  obtain ⟨l, hl, hdata⟩ := h.stored
  refine ⟨l, hl.chain, hl.count.symm, hl.last.symm, ?_, h.bound, ?_, hl.allocated⟩
  · rw [← hl.last, ← hl.chain.eq_nil_iff]
    constructor
    · intro hnull
      by_contra hne
      -- the last node is a node, so it is not `NULL`
      rw [List.getLast?_eq_some_getLast hne, Option.getD_some] at hnull
      exact hl.chain.ne_null _ (List.getLast_mem hne) hnull
    · rintro rfl
      rfl
  · intro msg hmsg
    rw [hl.sizes msg hmsg]
    exact hdata msg hmsg

theorem shapeInv_boot (maxMessages maxSize : Nat) : ShapeInv (QueueSystem.boot maxMessages maxSize) where
  shaped := ⟨⟨[], stored_empty maxMessages maxSize, by simp⟩, Nat.zero_le _⟩
  payloads := by
    intro p data h
    cases h

theorem sendable_of_not_refused {q : MessageQueue} {data : List UInt8}
    (h : ¬ sendRefused q data = true) : Sendable q data := by
  simp only [sendRefused, decide_eq_true_eq, not_or] at h
  exact ⟨Nat.one_le_iff_ne_zero.mpr h.1, Nat.not_lt.mp h.2.1⟩

/-- The entry checks refuse what is not sendable. -/
theorem sendable_of_enter {q : MessageQueue} {c : QueueCall} {data : List UInt8}
    (h : (enter q c).payload = some data) : Sendable q data := by
  unfold enter at h
  split at h
  · split at h
    · cases h
    · next hd => cases h; exact sendable_of_not_refused hd
  · split at h
    · cases h
    · next hd => cases h; exact sendable_of_not_refused hd
  · split at h <;> cases h
  · split at h <;> cases h
  all_goals cases h

/-- Waking processes does not change what they are about to store. -/
theorem payload_foldl_wakeProcess (l : List ProcessPtr) (pc : ProcessPtr → QueuePc) (r : ProcessPtr) :
    (l.foldl wakeProcess pc r).payload = (pc r).payload :=
  foldl_wakeProcess_apply (fun _ => rfl) (fun _ => rfl) r l pc

/-! ## Steps -/

/-- A process moves, to a point at which it is to store nothing new, and others are woken. -/
theorem payloads_move {q : MessageQueue} {pc : ProcessPtr → QueuePc}
    (h : ∀ p data, (pc p).payload = some data → Sendable q data) (p : ProcessPtr) {x : QueuePc}
    (hx : ∀ data, x.payload = some data → Sendable q data) (woken : List ProcessPtr) :
    ∀ r data, ((woken.foldl wakeProcess (Function.update pc p x)) r).payload = some data →
      Sendable q data := by
  intro r data hr
  rw [payload_foldl_wakeProcess] at hr
  rcases eq_or_ne r p with rfl | hne
  · rw [Function.update_self] at hr
    exact hx data hr
  · rw [Function.update_of_ne hne] at hr
    exact h r data hr

/-- The waiters and `closed` do not matter to the shape. -/
theorem Shaped.congr {q r : MessageQueue} (h : Shaped q) (hfirst : r.first = q.first)
    (hlast : r.last = q.last) (hcount : r.count = q.count) (hmem : r.mem = q.mem)
    (halloc : r.allocated = q.allocated) (hmessages : r.maxMessages = q.maxMessages)
    (hsize : r.maxSize = q.maxSize) : Shaped r := by
  obtain ⟨l, hl, hdata⟩ := h.stored
  refine ⟨⟨l, (hl.congr hfirst hlast hcount hmem halloc).1, ?_⟩, ?_⟩
  · unfold Sendable at hdata ⊢
    rw [hmem, hsize]
    exact hdata
  · rw [hcount, hmessages]
    exact h.bound

/-- **Storing a message that was let in.** -/
theorem Shaped.link {q : MessageQueue} (h : Shaped q) {msg : MessagePtr} {data : List UInt8}
    (hroom : q.count < q.maxMessages) (hmsg : msg ≠ null) (hfresh : msg ∉ q.allocated)
    (hdata : Sendable q data) : Shaped (linkMessage q data msg) := by
  obtain ⟨l, hl, hl'⟩ := h.stored
  refine ⟨⟨l ++ [msg], (hl.link hmsg hfresh data).1, fun x hx => ?_⟩, ?_⟩
  · obtain ⟨next, hrecord⟩ := linkMessage_record q data msg x
    unfold Sendable
    rw [hrecord, linkMessage_maxSize]
    by_cases hxm : x = msg
    · rw [if_pos hxm]
      exact hdata
    · rw [if_neg hxm]
      exact hl' x (by simpa [hxm] using hx)
  · rw [linkMessage_count, linkMessage_maxMessages]
    exact hroom

/-- **Taking the first message.** -/
theorem Shaped.unlink {q : MessageQueue} (h : Shaped q) (hcount : q.count ≠ 0) :
    Shaped (unlinkFirst q).2 := by
  obtain ⟨l, hl, hl'⟩ := h.stored
  obtain ⟨l, rfl⟩ := hl.exists_cons hcount
  refine ⟨⟨l, hl.unlink.2.1, fun x hx => hl' x (List.mem_cons_of_mem _ hx)⟩, ?_⟩
  exact Nat.le_trans (Nat.sub_le ..) h.bound

/-- **Every step keeps the shape.** -/
theorem shapeInv_step {s t : QueueSystem} {a : QueueAction} (h : ShapeInv s)
    (hs : queueStep s a = some t) : ShapeInv t := by
  obtain ⟨hq, hpay⟩ := h
  have hmove := fun p (x : QueuePc) (hx : ∀ data, x.payload = some data → Sendable s.queue data) woken =>
    payloads_move hpay p hx woken
  -- at most points a process has nothing to store
  have hleave := fun p (x : QueuePc) (hx : x.payload = none) woken =>
    hmove p x (fun data hd => by rw [hx] at hd; cases hd) woken
  cases queueStep_effect hs with
  | called p c hidle ht =>
    subst ht
    exact ⟨hq, hmove p _ (fun _ => sendable_of_enter) []⟩
  | blockedSend p data hpc ht =>
    subst ht
    exact ⟨hq, hmove p _ (fun d hd => hpay p d (by rw [hpc]; exact hd)) []⟩
  | blockedReceive p size hpc ht =>
    subst ht
    exact ⟨hq, hleave p _ rfl []⟩
  | failed p msg hpc ht =>
    subst ht
    exact ⟨hq, hleave p _ rfl []⟩
  | waitsNotFull p msg data hpc hfull ht =>
    subst ht
    exact ⟨hq.congr rfl rfl rfl rfl rfl rfl rfl,
      hmove p _ (fun d hd => hpay p d (by rw [hpc]; exact hd)) []⟩
  | waitsNotEmpty p msg size hpc hempty ht =>
    subst ht
    exact ⟨hq.congr rfl rfl rfl rfl rfl rfl rfl, hleave p _ rfl []⟩
  | stored p msg data hpc hroom hmsg hfresh ht =>
    subst ht
    have hdata : Sendable s.queue data := by
      rcases hpc with ⟨hpc, -⟩ | hpc <;> exact hpay p data (by rw [hpc]; rfl)
    refine ⟨(hq.link hroom hmsg hfresh hdata).congr rfl rfl rfl rfl rfl rfl rfl, ?_⟩
    intro r d hd
    have hsent := hleave p _ rfl _ r d hd
    unfold Sendable at hsent ⊢
    rwa [show ({ linkMessage s.queue data msg with notEmpty := s.queue.notEmpty.drop 1 } :
      MessageQueue).maxSize = s.queue.maxSize from linkMessage_maxSize ..]
  | took p msg size hpc hcount hfits ht =>
    subst ht
    exact ⟨(hq.unlink hcount).congr rfl rfl rfl rfl rfl rfl rfl, hleave p _ rfl _⟩
  | lost p msg size hpc hcount hfits ht =>
    subst ht
    exact ⟨hq.unlink hcount, hleave p _ rfl []⟩
  | closed p msg hpc ht =>
    subst ht
    exact ⟨hq.congr rfl rfl rfl rfl rfl rfl rfl, hleave p _ rfl []⟩
  | wokeNotFull p msg hpc ht =>
    subst ht
    exact ⟨hq.congr rfl rfl rfl rfl rfl rfl rfl, hleave p _ rfl _⟩
  | wokeNotEmpty p msg hpc ht =>
    subst ht
    exact ⟨hq.congr rfl rfl rfl rfl rfl rfl rfl, hleave p _ rfl _⟩

theorem shapeInv_event {s t : QueueSystem} {e : QueueEvent} (h : ShapeInv s)
    (hs : eventStep s e = some t) : ShapeInv t := by
  cases e with
  | step a => exact shapeInv_step h hs
  | query p query answer =>
    simp only [eventStep] at hs
    split at hs
    · cases hs
      exact h
    · cases hs

/-! ## Runs -/

/-- What `msgqueue_create` returns is the queue that the runs start from. -/
theorem msgqueueCreate_eq_boot {maxMessages maxSize : Nat} {allocated : Bool} {q : MessageQueue}
    (h : msgqueueCreate maxMessages maxSize allocated = some q) :
    q = (QueueSystem.boot maxMessages maxSize).queue := by
  unfold msgqueueCreate at h
  split at h
  · cases h
  · split at h
    · cases h
    · exact (Option.some.inj h).symm

/--
**The list is well shaped in every state of every run** of a queue that `msgqueue_create` returned,
and for other limits as well.
-/
theorem wellShaped_always (maxMessages maxSize : Nat) (events : List QueueEvent) :
    (∀ allocated q, msgqueueCreate maxMessages maxSize allocated = some q →
      q = (QueueSystem.boot maxMessages maxSize).queue) ∧
    Always eventStep (fun s => ∃ l, WellShaped s.queue l) (QueueSystem.boot maxMessages maxSize)
      events := by
  constructor
  · intro allocated q h
    exact msgqueueCreate_eq_boot h
  · exact Always.of_invariant (fun _ h => h.shaped.wellShaped) (fun _ _ _ => shapeInv_event)
      (shapeInv_boot maxMessages maxSize)

end MayaOs.Kernel
