import MayaOs.Kernel.MessageQueue

/-!
# What one step does to a message queue

Every step of `queueStep` is one of the following; the facts about runs are derived from this list.

* `queueStep_effect` — the list is complete
* `wakeProcess_cases` — what waking changes
-/

namespace MayaOs.Kernel

/-- **What a step does.** -/
inductive QueueEffect (s t : QueueSystem) : QueueAction → Prop where
  | called (p : ProcessPtr) (c : QueueCall) (hidle : s.pc p = .idle)
      (ht : t = { s with pc := Function.update s.pc p (enter s.queue c) }) :
      QueueEffect s t (.call p c)
  | blockedSend (p : ProcessPtr) (data : List UInt8) (hpc : s.pc p = .parkedSend data false)
      (ht : t = { s with pc := Function.update s.pc p (.parkedSend data true) }) :
      QueueEffect s t (.block p)
  | blockedReceive (p : ProcessPtr) (size : Nat) (hpc : s.pc p = .parkedReceive size false)
      (ht : t = { s with pc := Function.update s.pc p (.parkedReceive size true) }) :
      QueueEffect s t (.block p)
  /-- A section that returns false and leaves the queue as it is. -/
  | failed (p : ProcessPtr) (msg : MessagePtr)
      (hpc : (∃ data, s.pc p = .send data ∧ (s.queue.closed = true ∨
          s.queue.count < s.queue.maxMessages ∧ msg = null)) ∨
        (∃ data, s.pc p = .trySend data) ∨
        (∃ size, s.pc p = .receive size ∧ s.queue.closed = true) ∨
        (∃ size, s.pc p = .tryReceive size))
      (ht : t = { s with pc := Function.update s.pc p .idle }) : QueueEffect s t (.run p msg)
  | waitsNotFull (p : ProcessPtr) (msg : MessagePtr) (data : List UInt8)
      (hpc : s.pc p = .send data) (hfull : s.queue.maxMessages ≤ s.queue.count)
      (ht : t = { s with
        queue := { s.queue with notFull := s.queue.notFull ++ [p] }
        pc := Function.update s.pc p (.parkedSend data false) }) : QueueEffect s t (.run p msg)
  | waitsNotEmpty (p : ProcessPtr) (msg : MessagePtr) (size : Nat)
      (hpc : s.pc p = .receive size) (hempty : s.queue.count = 0)
      (ht : t = { s with
        queue := { s.queue with notEmpty := s.queue.notEmpty ++ [p] }
        pc := Function.update s.pc p (.parkedReceive size false) }) : QueueEffect s t (.run p msg)
  | stored (p : ProcessPtr) (msg : MessagePtr) (data : List UInt8)
      (hpc : (s.pc p = .send data ∧ s.queue.closed = false) ∨ s.pc p = .trySend data)
      (hroom : s.queue.count < s.queue.maxMessages) (hmsg : msg ≠ null)
      (hfresh : msg ∉ s.queue.allocated)
      (ht : t = { s with
        queue := { linkMessage s.queue data msg with notEmpty := s.queue.notEmpty.drop 1 }
        pc := (s.queue.notEmpty.take 1).foldl wakeProcess (Function.update s.pc p .idle)
        sent := s.sent ++ [data] }) : QueueEffect s t (.run p msg)
  | took (p : ProcessPtr) (msg : MessagePtr) (size : Nat)
      (hpc : s.pc p = .receive size ∨ s.pc p = .tryReceive size) (hcount : s.queue.count ≠ 0)
      (hfits : (s.queue.mem s.queue.first).size ≤ size)
      (ht : t = { s with
        queue := { (unlinkFirst s.queue).2 with notFull := s.queue.notFull.drop 1 }
        pc := (s.queue.notFull.take 1).foldl wakeProcess (Function.update s.pc p .idle)
        received := s.received ++
          [(s.queue.mem s.queue.first).data.take (s.queue.mem s.queue.first).size] }) :
      QueueEffect s t (.run p msg)
  /-- The buffer is too small for the message that was taken. -/
  | lost (p : ProcessPtr) (msg : MessagePtr) (size : Nat)
      (hpc : s.pc p = .receive size ∨ s.pc p = .tryReceive size) (hcount : s.queue.count ≠ 0)
      (hfits : size < (s.queue.mem s.queue.first).size)
      (ht : t = { s with
        queue := (unlinkFirst s.queue).2, pc := Function.update s.pc p .idle }) :
      QueueEffect s t (.run p msg)
  | closed (p : ProcessPtr) (msg : MessagePtr) (hpc : s.pc p = .close)
      (ht : t = { s with
        queue := { s.queue with closed := true }
        pc := Function.update s.pc p .broadcastNotFull }) : QueueEffect s t (.run p msg)
  | wokeNotFull (p : ProcessPtr) (msg : MessagePtr) (hpc : s.pc p = .broadcastNotFull)
      (ht : t = { s with
        queue := { s.queue with notFull := [] }
        pc := s.queue.notFull.foldl wakeProcess
          (Function.update s.pc p .broadcastNotEmpty) }) : QueueEffect s t (.run p msg)
  | wokeNotEmpty (p : ProcessPtr) (msg : MessagePtr) (hpc : s.pc p = .broadcastNotEmpty)
      (ht : t = { s with
        queue := { s.queue with notEmpty := [] }
        pc := s.queue.notEmpty.foldl wakeProcess (Function.update s.pc p .idle) }) :
      QueueEffect s t (.run p msg)

/-! ## Sections -/

@[simp] theorem linkMessage_last (q : MessageQueue) (data : List UInt8) (msg : MessagePtr) :
    (linkMessage q data msg).last = msg := by
  unfold linkMessage
  split <;> rfl

@[simp] theorem linkMessage_count (q : MessageQueue) (data : List UInt8) (msg : MessagePtr) :
    (linkMessage q data msg).count = q.count + 1 := by
  unfold linkMessage
  split <;> rfl

@[simp] theorem linkMessage_allocated (q : MessageQueue) (data : List UInt8) (msg : MessagePtr) :
    (linkMessage q data msg).allocated = msg :: q.allocated := by
  unfold linkMessage
  split <;> rfl

@[simp] theorem linkMessage_notEmpty (q : MessageQueue) (data : List UInt8) (msg : MessagePtr) :
    (linkMessage q data msg).notEmpty = q.notEmpty := by
  unfold linkMessage
  split <;> rfl

@[simp] theorem linkMessage_notFull (q : MessageQueue) (data : List UInt8) (msg : MessagePtr) :
    (linkMessage q data msg).notFull = q.notFull := by
  unfold linkMessage
  split <;> rfl

@[simp] theorem linkMessage_maxMessages (q : MessageQueue) (data : List UInt8)
    (msg : MessagePtr) : (linkMessage q data msg).maxMessages = q.maxMessages := by
  unfold linkMessage
  split <;> rfl

@[simp] theorem linkMessage_maxSize (q : MessageQueue) (data : List UInt8) (msg : MessagePtr) :
    (linkMessage q data msg).maxSize = q.maxSize := by
  unfold linkMessage
  split <;> rfl

@[simp] theorem linkMessage_closed (q : MessageQueue) (data : List UInt8) (msg : MessagePtr) :
    (linkMessage q data msg).closed = q.closed := by
  unfold linkMessage
  split <;> rfl

/-- A section that ends in a failure without touching the queue. -/
theorem after_failed (s : QueueSystem) (p : ProcessPtr) (parked : QueuePc) (data : List UInt8) :
    s.after p parked data { outcome := .failed none, woken := [], queue := s.queue } =
      { s with pc := Function.update s.pc p .idle } := by
  simp [QueueSystem.after, Outcome.accepted, Outcome.delivered]

theorem after_storeMessage (s : QueueSystem) (p : ProcessPtr) (parked : QueuePc)
    (data : List UInt8) {msg : MessagePtr} (hmsg : msg ≠ null) :
    s.after p parked data (storeMessage s.queue data msg) =
      { s with
        queue := { linkMessage s.queue data msg with notEmpty := s.queue.notEmpty.drop 1 }
        pc := (s.queue.notEmpty.take 1).foldl wakeProcess (Function.update s.pc p .idle)
        sent := s.sent ++ [data] } := by
  simp [QueueSystem.after, storeMessage, hmsg, conditionSignal, Outcome.accepted,
    Outcome.delivered]

/-- The sender's part behind the test for room. -/
theorem effect_storeMessage {s t : QueueSystem} {p : ProcessPtr} {msg : MessagePtr}
    {data : List UInt8} {parked : QueuePc}
    (hpc : (s.pc p = .send data ∧ s.queue.closed = false) ∨ s.pc p = .trySend data)
    (hroom : s.queue.count < s.queue.maxMessages) (hfresh : msg ∉ s.queue.allocated)
    (ht : t = s.after p parked data (storeMessage s.queue data msg)) :
    QueueEffect s t (.run p msg) := by
  by_cases hmsg : msg = null
  · rw [show storeMessage s.queue data msg =
      { outcome := .failed none, woken := [], queue := s.queue } from if_pos hmsg,
      after_failed] at ht
    refine .failed p msg ?_ ht
    rcases hpc with ⟨hpc, -⟩ | hpc
    · exact Or.inl ⟨data, hpc, Or.inr ⟨hroom, hmsg⟩⟩
    · exact Or.inr (Or.inl ⟨data, hpc⟩)
  · rw [after_storeMessage s p parked data hmsg] at ht
    exact .stored p msg data hpc hroom hmsg hfresh ht

/-- The receiver's part behind the test for a message. -/
theorem effect_takeMessage {s t : QueueSystem} {p : ProcessPtr} {msg : MessagePtr} {size : Nat}
    {parked : QueuePc} (hpc : s.pc p = .receive size ∨ s.pc p = .tryReceive size)
    (hcount : s.queue.count ≠ 0)
    (ht : t = s.after p parked [] (takeMessage s.queue size)) : QueueEffect s t (.run p msg) := by
  by_cases hfits : size < (s.queue.mem s.queue.first).size
  · refine .lost p msg size hpc hcount hfits ?_
    rw [ht]
    simp [QueueSystem.after, takeMessage, unlinkFirst, hfits, Outcome.accepted, Outcome.delivered]
  · refine .took p msg size hpc hcount (Nat.not_lt.mp hfits) ?_
    rw [ht]
    simp [QueueSystem.after, takeMessage, unlinkFirst, hfits, conditionSignal, Outcome.accepted,
      Outcome.delivered]

theorem effect_send {s t : QueueSystem} {p : ProcessPtr} {msg : MessagePtr} {data : List UInt8}
    (hpc : s.pc p = .send data) (hfresh : msg ∉ s.queue.allocated)
    (ht : t = s.after p (.parkedSend data false) data (msgqueueSend s.queue p data msg)) :
    QueueEffect s t (.run p msg) := by
  unfold msgqueueSend at ht
  split at ht
  · next hwait =>
    refine .waitsNotFull p msg data hpc hwait.1 ?_
    rw [ht]
    simp [QueueSystem.after, Outcome.accepted, Outcome.delivered]
  · next hwait =>
    split at ht
    · next hclosed =>
      rw [after_failed] at ht
      exact .failed p msg (Or.inl ⟨data, hpc, Or.inl hclosed⟩) ht
    · next hclosed =>
      have hopen : s.queue.closed = false := by simpa using hclosed
      refine effect_storeMessage (Or.inl ⟨hpc, hopen⟩) ?_ hfresh ht
      exact Nat.not_le.mp fun hle => hwait ⟨hle, hopen⟩

theorem effect_trySend {s t : QueueSystem} {p : ProcessPtr} {msg : MessagePtr}
    {data : List UInt8} (hpc : s.pc p = .trySend data) (hfresh : msg ∉ s.queue.allocated)
    (ht : t = s.after p .idle data (msgqueueTrySend s.queue data msg)) :
    QueueEffect s t (.run p msg) := by
  unfold msgqueueTrySend at ht
  split at ht
  · rw [after_failed] at ht
    exact .failed p msg (Or.inr (Or.inl ⟨data, hpc⟩)) ht
  · next hroom => exact effect_storeMessage (Or.inr hpc) (Nat.not_le.mp hroom) hfresh ht

theorem effect_receive {s t : QueueSystem} {p : ProcessPtr} {msg : MessagePtr} {size : Nat}
    (hpc : s.pc p = .receive size)
    (ht : t = s.after p (.parkedReceive size false) [] (msgqueueReceive s.queue p size)) :
    QueueEffect s t (.run p msg) := by
  unfold msgqueueReceive at ht
  split at ht
  · next hwait =>
    refine .waitsNotEmpty p msg size hpc hwait.1 ?_
    rw [ht]
    simp [QueueSystem.after, Outcome.accepted, Outcome.delivered]
  · next hwait =>
    split at ht
    · next hclosed =>
      rw [after_failed] at ht
      exact .failed p msg (Or.inr (Or.inr (Or.inl ⟨size, hpc, hclosed.2⟩))) ht
    · next hclosed =>
      refine effect_takeMessage (Or.inl hpc) (fun hz => ?_) ht
      cases hc : s.queue.closed with
      | false => exact hwait ⟨hz, hc⟩
      | true => exact hclosed ⟨hz, hc⟩

theorem effect_tryReceive {s t : QueueSystem} {p : ProcessPtr} {msg : MessagePtr} {size : Nat}
    (hpc : s.pc p = .tryReceive size)
    (ht : t = s.after p .idle [] (msgqueueTryReceive s.queue size)) :
    QueueEffect s t (.run p msg) := by
  unfold msgqueueTryReceive at ht
  split at ht
  · rw [after_failed] at ht
    exact .failed p msg (Or.inr (Or.inr (Or.inr ⟨size, hpc⟩))) ht
  · next hcount => exact effect_takeMessage (Or.inr hpc) hcount ht

/-- **The list of effects is complete.** -/
theorem queueStep_effect {s t : QueueSystem} {a : QueueAction} (h : queueStep s a = some t) :
    QueueEffect s t a := by
  cases a with
  | call p c =>
    simp only [queueStep] at h
    split at h
    · cases h
    · next hidle => exact .called p c (not_not.mp hidle) (Option.some.inj h).symm
  | block p =>
    simp only [queueStep] at h
    split at h
    · next data hpc => exact .blockedSend p data hpc (Option.some.inj h).symm
    · next size hpc => exact .blockedReceive p size hpc (Option.some.inj h).symm
    · cases h
  | run p msg =>
    simp only [queueStep] at h
    split at h
    · cases h
    · next hfresh =>
      unfold runSection at h
      split at h
      · next data hpc => exact effect_send hpc hfresh (Option.some.inj h).symm
      · next data hpc => exact effect_trySend hpc hfresh (Option.some.inj h).symm
      · next size hpc => exact effect_receive hpc (Option.some.inj h).symm
      · next size hpc => exact effect_tryReceive hpc (Option.some.inj h).symm
      · next hpc => exact .closed p msg hpc (Option.some.inj h).symm
      · next hpc => exact .wokeNotFull p msg hpc (Option.some.inj h).symm
      · next hpc => exact .wokeNotEmpty p msg hpc (Option.some.inj h).symm
      · cases h
      · cases h
      · cases h

/-! ## process_wake -/

/-- A process that is blocked goes on with its call; any other one is left alone. -/
theorem wakeProcess_cases (pc : ProcessPtr → QueuePc) (p : ProcessPtr) :
    wakeProcess pc p = pc ∨
      (∃ data, pc p = .parkedSend data true ∧
        wakeProcess pc p = Function.update pc p (.send data)) ∨
      (∃ size, pc p = .parkedReceive size true ∧
        wakeProcess pc p = Function.update pc p (.receive size)) := by
  unfold wakeProcess
  split
  · next data hpc => exact Or.inr (Or.inl ⟨data, hpc, rfl⟩)
  · next size hpc => exact Or.inr (Or.inr ⟨size, hpc, rfl⟩)
  · exact Or.inl rfl

/-- Waking changes nothing that a sleeping process and one that goes on have in common. -/
theorem wakeProcess_apply {β : Type} {f : QueuePc → β}
    (hsend : ∀ data, f (.send data) = f (.parkedSend data true))
    (hreceive : ∀ size, f (.receive size) = f (.parkedReceive size true))
    (pc : ProcessPtr → QueuePc) (p r : ProcessPtr) : f (wakeProcess pc p r) = f (pc r) := by
  rcases wakeProcess_cases pc p with h | ⟨data, hpc, h⟩ | ⟨size, hpc, h⟩
  · rw [h]
  · rw [h]
    rcases eq_or_ne r p with rfl | hne
    · rw [Function.update_self, hpc, hsend]
    · rw [Function.update_of_ne hne]
  · rw [h]
    rcases eq_or_ne r p with rfl | hne
    · rw [Function.update_self, hpc, hreceive]
    · rw [Function.update_of_ne hne]

/-- As `wakeProcess_apply`, for all the processes that are woken. -/
theorem foldl_wakeProcess_apply {β : Type} {f : QueuePc → β}
    (hsend : ∀ data, f (.send data) = f (.parkedSend data true))
    (hreceive : ∀ size, f (.receive size) = f (.parkedReceive size true)) (r : ProcessPtr) :
    ∀ (l : List ProcessPtr) (pc : ProcessPtr → QueuePc), f (l.foldl wakeProcess pc r) = f (pc r) := by
  intro l
  induction l with
  | nil => intro pc; rfl
  | cons p l ih =>
    intro pc
    rw [List.foldl_cons, ih, wakeProcess_apply hsend hreceive]

theorem wakeProcess_of_ne (pc : ProcessPtr → QueuePc) {p r : ProcessPtr} (hne : r ≠ p) :
    wakeProcess pc p r = pc r := by
  rcases wakeProcess_cases pc p with h | ⟨data, -, h⟩ | ⟨size, -, h⟩
  · rw [h]
  · rw [h, Function.update_of_ne hne]
  · rw [h, Function.update_of_ne hne]

end MayaOs.Kernel
