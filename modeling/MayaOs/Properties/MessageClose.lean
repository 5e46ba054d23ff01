import MayaOs.Properties.MessageFifo

/-!
# Closed message queues

After `msgqueue_close` has set `closed` nothing more should be put into the queue. A process that
has passed the entry checks before can still be on its way to the mutex: `msgqueue_send` tests
`closed` again when it holds it, `msgqueue_try_send` does not.

* `sealed_iff_lateTrySendFails` — a closed queue stays sealed throughout a run iff every attempt to
  send that comes too late fails for lack of room or memory
* `sent_after_close` — an attempt that succeeds after the close
-/

namespace MayaOs.Kernel

open MayaOs.Lib

/-- The messages that are in the queue, in order. -/
def InQueue (q : MessageQueue) (messages : List (List UInt8)) : Prop :=
  ∃ l, Chain null q.next q.first l ∧ contents q l = messages

/-- If the queue is closed, no send returns true and no message is added. -/
def Sealed (s : QueueSystem) (_ : QueueAction) (t : QueueSystem) : Prop :=
  s.queue.closed = true → t.sent = s.sent ∧
    ∀ messages, InQueue s.queue messages → ∃ rest, InQueue t.queue rest ∧ rest <:+ messages

/-- An attempt to send that reaches the mutex after the close finds no room or gets no memory. -/
def LateTrySendFails (s : QueueSystem) (a : QueueAction) (_ : QueueSystem) : Prop :=
  match a with
  | .run p msg =>
    s.queue.closed = true → ∀ data, s.pc p = .trySend data →
      s.queue.maxMessages ≤ s.queue.count ∨ msg = null
  | .call _ _ => True
  | .block _ => True

/-- The section that comes next puts a message into the queue. -/
def Stores (s : QueueSystem) : QueueAction → Prop
  | .run p msg =>
    (∃ data, (s.pc p = .send data ∧ s.queue.closed = false) ∨ s.pc p = .trySend data) ∧
      s.queue.count < s.queue.maxMessages ∧ msg ≠ null
  | .call _ _ => False
  | .block _ => False

/-! ## Steps -/

/-- A step that leaves the list alone. -/
theorem Stored.unchanged {s t : QueueSystem} {l : List MessagePtr} (h : Stored s.queue l)
    (hfirst : t.queue.first = s.queue.first) (hlast : t.queue.last = s.queue.last)
    (hcount : t.queue.count = s.queue.count) (hmem : t.queue.mem = s.queue.mem)
    (halloc : t.queue.allocated = s.queue.allocated) :
    ∃ l', Stored t.queue l' ∧ contents t.queue l' <:+ contents s.queue l := by
  obtain ⟨hl, hc⟩ := h.congr hfirst hlast hcount hmem halloc
  exact ⟨l, hl, by simp only [hc, List.suffix_rfl]⟩

/-- A step that takes the first message. -/
theorem Stored.unlinked {s t : QueueSystem} {l : List MessagePtr} (h : Stored s.queue l)
    (hne : s.queue.count ≠ 0) (hfirst : t.queue.first = (unlinkFirst s.queue).2.first)
    (hlast : t.queue.last = (unlinkFirst s.queue).2.last)
    (hcount : t.queue.count = (unlinkFirst s.queue).2.count)
    (hmem : t.queue.mem = (unlinkFirst s.queue).2.mem)
    (halloc : t.queue.allocated = (unlinkFirst s.queue).2.allocated) :
    ∃ l', Stored t.queue l' ∧ contents t.queue l' <:+ contents s.queue l := by
  obtain ⟨l', rfl⟩ := h.exists_cons hne
  obtain ⟨-, hl', hc⟩ := h.unlink
  obtain ⟨hl'', hc'⟩ := hl'.congr hfirst hlast hcount hmem halloc
  refine ⟨l', hl'', ?_⟩
  rw [hc', hc]
  exact List.suffix_cons ..

/-- **A step** stores a message, or accepts none and adds none. -/
theorem Stored.step {s t : QueueSystem} {a : QueueAction} {l : List MessagePtr}
    (h : Stored s.queue l) (hs : queueStep s a = some t) :
    (Stores s a ∧ ∃ l', Stored t.queue l') ∨
      (t.sent = s.sent ∧ ∃ l', Stored t.queue l' ∧ contents t.queue l' <:+ contents s.queue l) := by
  cases queueStep_effect hs with
  | called p c hidle ht =>
    exact Or.inr ⟨by rw [ht], by rw [ht]; exact h.unchanged rfl rfl rfl rfl rfl⟩
  | blockedSend p data hpc ht =>
    exact Or.inr ⟨by rw [ht], by rw [ht]; exact h.unchanged rfl rfl rfl rfl rfl⟩
  | blockedReceive p size hpc ht =>
    exact Or.inr ⟨by rw [ht], by rw [ht]; exact h.unchanged rfl rfl rfl rfl rfl⟩
  | failed p msg hpc ht =>
    exact Or.inr ⟨by rw [ht], by rw [ht]; exact h.unchanged rfl rfl rfl rfl rfl⟩
  | waitsNotFull p msg data hpc hfull ht =>
    exact Or.inr ⟨by rw [ht], by rw [ht]; exact h.unchanged rfl rfl rfl rfl rfl⟩
  | waitsNotEmpty p msg size hpc hempty ht =>
    exact Or.inr ⟨by rw [ht], by rw [ht]; exact h.unchanged rfl rfl rfl rfl rfl⟩
  | stored p msg data hpc hroom hmsg hfresh ht =>
    obtain ⟨hl', -⟩ := h.link hmsg hfresh data
    obtain ⟨hl'', -⟩ := hl'.congr (r := t.queue) (by rw [ht]) (by rw [ht]) (by rw [ht])
      (by rw [ht]) (by rw [ht])
    exact Or.inl ⟨⟨⟨data, hpc⟩, hroom, hmsg⟩, _, hl''⟩
  | took p msg size hpc hcount hfits ht =>
    exact Or.inr ⟨by rw [ht], by rw [ht]; exact h.unlinked hcount rfl rfl rfl rfl rfl⟩
  | lost p msg size hpc hcount hfits ht =>
    exact Or.inr ⟨by rw [ht], by rw [ht]; exact h.unlinked hcount rfl rfl rfl rfl rfl⟩
  | closed p msg hpc ht =>
    exact Or.inr ⟨by rw [ht], by rw [ht]; exact h.unchanged rfl rfl rfl rfl rfl⟩
  | wokeNotFull p msg hpc ht =>
    exact Or.inr ⟨by rw [ht], by rw [ht]; exact h.unchanged rfl rfl rfl rfl rfl⟩
  | wokeNotEmpty p msg hpc ht =>
    exact Or.inr ⟨by rw [ht], by rw [ht]; exact h.unchanged rfl rfl rfl rfl rfl⟩

/-- A section that stores a message makes its send return true. -/
theorem sent_ne_of_stores {s t : QueueSystem} {a : QueueAction} (h : Stores s a)
    (hs : queueStep s a = some t) : t.sent ≠ s.sent := by
  cases a with
  | call p c => exact h.elim
  | block p => exact h.elim
  | run p msg =>
    obtain ⟨⟨data, hpc⟩, hroom, hmsg⟩ := h
    simp only [queueStep] at hs
    split at hs
    · cases hs
    · rcases hpc with ⟨hpc, hopen⟩ | hpc
      · have hsend : msgqueueSend s.queue p data msg = storeMessage s.queue data msg := by
          simp [msgqueueSend, Nat.not_le.mpr hroom, hopen]
        simp only [runSection, hpc] at hs
        rw [hsend, after_storeMessage s p _ data hmsg] at hs
        cases hs
        simp
      · have hsend : msgqueueTrySend s.queue data msg = storeMessage s.queue data msg := by
          simp [msgqueueTrySend, Nat.not_le.mpr hroom]
        simp only [runSection, hpc] at hs
        rw [hsend, after_storeMessage s p _ data hmsg] at hs
        cases hs
        simp

/-- In a closed queue only a late attempt to send can store something. -/
theorem stores_iff {s : QueueSystem} {a : QueueAction} {t : QueueSystem} :
    (s.queue.closed = true → ¬ Stores s a) ↔ LateTrySendFails s a t := by
  cases a with
  | call p c => exact iff_of_true (fun _ h => h) trivial
  | block p => exact iff_of_true (fun _ h => h) trivial
  | run p msg =>
    constructor
    · intro h hclosed data hpc
      by_contra hnot
      obtain ⟨hroom, hmsg⟩ := not_or.mp hnot
      exact h hclosed ⟨⟨data, Or.inr hpc⟩, Nat.not_le.mp hroom, hmsg⟩
    · rintro h hclosed ⟨⟨data, ⟨-, hopen⟩ | hpc⟩, hroom, hmsg⟩
      · rw [hclosed] at hopen
        cases hopen
      · rcases h hclosed data hpc with hfull | hnull
        · exact absurd hroom (Nat.not_lt.mpr hfull)
        · exact hmsg hnull

/-! ## Runs -/

/-- There is a list in the queue. -/
def HasList (s : QueueSystem) : Prop := ∃ l, Stored s.queue l

theorem hasList_step {s t : QueueSystem} {a : QueueAction} (h : HasList s)
    (hs : queueStep s a = some t) : HasList t := by
  obtain ⟨l, hl⟩ := h
  rcases hl.step hs with ⟨-, hl'⟩ | ⟨-, l', hl', -⟩
  · exact hl'
  · exact ⟨l', hl'⟩

theorem sealed_iff_not_stores {s t : QueueSystem} {a : QueueAction} (h : HasList s)
    (hs : queueStep s a = some t) : Sealed s a t ↔ (s.queue.closed = true → ¬ Stores s a) := by
  constructor
  · exact fun hsealed hclosed hstores => sent_ne_of_stores hstores hs (hsealed hclosed).1
  · intro hnot hclosed
    obtain ⟨l, hl⟩ := h
    rcases hl.step hs with ⟨hstores, -⟩ | ⟨hsent, l', hl', hsuffix⟩
    · exact absurd hstores (hnot hclosed)
    · refine ⟨hsent, ?_⟩
      rintro messages ⟨l₀, hchain, rfl⟩
      rw [← hl.chain.unique hchain]
      exact ⟨_, ⟨l', hl'.chain, rfl⟩, hsuffix⟩

/--
**A closed queue stays sealed throughout a run iff every late attempt to send fails.**

The run starts with a new queue of any limits; any number of processes use and close it in any
order.
-/
theorem sealed_iff_lateTrySendFails (maxMessages maxSize : Nat) (as : List QueueAction) :
    Along queueStep Sealed (QueueSystem.boot maxMessages maxSize) as ↔
      Along queueStep LateTrySendFails (QueueSystem.boot maxMessages maxSize) as := by
  refine along_congr (I := HasList) ?_ ?_ ⟨[], stored_empty maxMessages maxSize⟩
  · intro s a t hlist hs
    rw [sealed_iff_not_stores hlist hs, stores_iff]
  · intro s a t hlist hs _
    exact hasList_step hlist hs

/-- A process has passed the checks of `msgqueue_try_send` when the queue is closed. -/
def lateRun : List QueueAction :=
  [.call 1 (.trySend (some [0xAA])), .call 2 .close, .run 2 null]

/-- **An attempt to send succeeds after the close.** -/
theorem sent_after_close : ∃ s t, run queueStep (QueueSystem.boot 4 16) lateRun = some s ∧
    s.queue.closed = true ∧ s.sent = [] ∧ InQueue s.queue [] ∧
    queueStep s (.run 1 0xD0000010) = some t ∧ t.sent = [[0xAA]] ∧ InQueue t.queue [[0xAA]] ∧
    ¬ Sealed s (.run 1 0xD0000010) t := by
  refine ⟨_, _, rfl, rfl, rfl, ⟨[], rfl, rfl⟩, rfl, rfl, ⟨[0xD0000010], ?_, rfl⟩, ?_⟩
  · exact ⟨rfl, by decide, rfl⟩
  · intro hsealed
    have hsent := (hsealed rfl).1
    cases hsent

end MayaOs.Kernel
