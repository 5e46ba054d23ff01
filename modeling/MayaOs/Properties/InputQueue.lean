import MayaOs.Lib.RingBuffer
import MayaOs.Properties.InputModifiers

/-!
# The queue of the input manager

* `inputAddKeyEvent_spec`, `inputAddMouseEvent_spec` — a call that offers an event appends it, or
  leaves the queue as it is
* `input_queue` — the events returned are those enqueued, in order, whatever the order of the calls
-/

namespace MayaOs.Gui

open MayaOs.Lib

variable {m m' : InputManager}

/-! ## The ring -/

def InputManager.ring (m : InputManager) : RingBuffer InputEvent where
  buffer := fun i => m.eventQueue.getD i InputEvent.zero
  readPos := m.queueTail
  writePos := m.queueHead
  count := m.queueCount

/-- The events in the queue, oldest first. -/
def InputManager.waiting (m : InputManager) : List InputEvent := m.ring.contents inputQueueSize

structure QueueOk (m : InputManager) : Prop where
  length_eq : m.eventQueue.length = inputQueueSize
  wellFormed : m.ring.WellFormed inputQueueSize

/-- The same queue. -/
structure SameQueue (m m' : InputManager) : Prop where
  eventQueue : m'.eventQueue = m.eventQueue
  queueHead : m'.queueHead = m.queueHead
  queueTail : m'.queueTail = m.queueTail
  queueCount : m'.queueCount = m.queueCount

theorem SameQueue.refl (m : InputManager) : SameQueue m m := ⟨rfl, rfl, rfl, rfl⟩

theorem SameQueue.ring (h : SameQueue m m') : m'.ring = m.ring := by
  unfold InputManager.ring
  rw [h.eventQueue, h.queueHead, h.queueTail, h.queueCount]

theorem SameQueue.waiting (h : SameQueue m m') : m'.waiting = m.waiting := by
  unfold InputManager.waiting
  rw [h.ring]

theorem SameQueue.queueOk (h : SameQueue m m') (hm : QueueOk m) : QueueOk m' :=
  ⟨by rw [h.eventQueue]; exact hm.length_eq, by rw [h.ring]; exact hm.wellFormed⟩

theorem ring_enqueue (h : QueueOk m) (event : InputEvent) :
    (m.enqueue event).ring = m.ring.push inputQueueSize event := by
  have hlt : m.queueHead < m.eventQueue.length := by
    rw [h.length_eq]
    exact h.wellFormed.writePos_lt
  have hbuffer : (fun i => (m.eventQueue.set m.queueHead event).getD i InputEvent.zero) =
      Function.update (fun i => m.eventQueue.getD i InputEvent.zero) m.queueHead event := by
    funext i
    rw [List.getD_eq_getElem?_getD]
    by_cases hi : i = m.queueHead
    · rw [hi, Function.update_self, List.getElem?_set_self hlt]
      rfl
    · rw [Function.update_of_ne hi, List.getElem?_set_ne (Ne.symm hi), List.getD_eq_getElem?_getD]
  unfold InputManager.ring InputManager.enqueue RingBuffer.push
  dsimp only
  rw [hbuffer]

theorem queueOk_enqueue (h : QueueOk m) (hlt : m.queueCount < inputQueueSize)
    (event : InputEvent) :
    QueueOk (m.enqueue event) ∧ (m.enqueue event).waiting = m.waiting ++ [event] := by
  refine ⟨⟨?_, ?_⟩, ?_⟩
  · show (m.eventQueue.set m.queueHead event).length = _
    rw [List.length_set, h.length_eq]
  · rw [ring_enqueue h]
    exact h.wellFormed.push hlt event
  · unfold InputManager.waiting
    rw [ring_enqueue h]
    exact RingBuffer.contents_push h.wellFormed hlt event

/-! ## Offering an event -/

/-- The event that a call offers, with the fields that it is given. -/
def offeredEvent (m : InputManager) : InputOp → Option InputEvent
  | .key ascii scancode pressed now =>
    some
      { type := if pressed then .keyPress else .keyRelease
        data := .key ascii scancode (updateModifiers m.keyModifiers scancode pressed)
        timestamp := now }
  | .mouse x y buttons now =>
    some
      { type :=
          if x ≠ m.mouseX ∨ y ≠ m.mouseY then .mouseMove
          else if m.mouseButtons < buttons then .mouseClick else .mouseRelease
        data := .mouse x y buttons
        timestamp := now }
  | .get => none

/-- A call leaves the queue as it is, or appends the event that was offered while there was room. -/
def Appends (m m' : InputManager) (event : InputEvent) : Prop :=
  SameQueue m m' ∨ m.queueCount < inputQueueSize ∧
    ∃ m₁, SameQueue m m₁ ∧ m' = m₁.enqueue event

theorem inputAddKeyEvent_spec (m : InputManager) (ascii scancode : UInt8) (pressed : Bool)
    (now : UInt32) {event : InputEvent}
    (hop : offeredEvent m (.key ascii scancode pressed now) = some event) :
    Appends m (inputAddKeyEvent m ascii scancode pressed now).2 event := by
  cases hop
  unfold inputAddKeyEvent
  split
  · exact Or.inl (SameQueue.refl m)
  · next hroom =>
    dsimp only
    split
    -- a shortcut
    · exact Or.inl ⟨rfl, rfl, rfl, rfl⟩
    · exact Or.inr ⟨Nat.lt_of_not_le hroom,
        { m with keyModifiers := updateModifiers m.keyModifiers scancode pressed },
        ⟨rfl, rfl, rfl, rfl⟩, rfl⟩

theorem appends_enqueueMouse {m₁ : InputManager} (hlt : m.queueCount < inputQueueSize)
    (h : SameQueue m m₁) (type : InputEventType) (x y : Int) (buttons : UInt8) (now : UInt32) :
    Appends m (m₁.enqueueMouse type x y buttons now)
      { type := type, data := .mouse x y buttons, timestamp := now } :=
  Or.inr ⟨hlt, { m₁ with mouseX := x, mouseY := y, mouseButtons := buttons },
    ⟨h.eventQueue, h.queueHead, h.queueTail, h.queueCount⟩, rfl⟩

theorem inputAddMouseEvent_spec (m : InputManager) (x y : Int) (buttons : UInt8) (now : UInt32)
    {event : InputEvent} (hop : offeredEvent m (.mouse x y buttons now) = some event) :
    Appends m (inputAddMouseEvent m x y buttons now) event := by
  unfold offeredEvent at hop
  dsimp only at hop
  unfold inputAddMouseEvent
  split
  · exact Or.inl (SameQueue.refl m)
  · next hroom =>
    have hlt := Nat.lt_of_not_le hroom
    split
    · next hmove =>
      rw [if_pos hmove] at hop
      cases hop
      exact appends_enqueueMouse hlt (SameQueue.refl m) ..
    · next hstill =>
      rw [if_neg hstill] at hop
      split
      · split
        · next hmore =>
          rw [if_pos hmore] at hop
          cases hop
          refine appends_enqueueMouse hlt ?_ ..
          split <;> exact ⟨rfl, rfl, rfl, rfl⟩
        · next hless =>
          rw [if_neg hless] at hop
          cases hop
          exact appends_enqueueMouse hlt (SameQueue.refl m) ..
      -- no change
      · exact Or.inl (SameQueue.refl m)

/-- **Every way through the two functions** keeps the queue right. -/
theorem Appends.queueOk {event : InputEvent} (h : Appends m m' event) (hm : QueueOk m) :
    QueueOk m' ∧ (m'.waiting = m.waiting ∧ m'.queueCount = m.queueCount ∨
      m.queueCount < inputQueueSize ∧ m'.waiting = m.waiting ++ [event] ∧
        m'.queueCount = m.queueCount + 1) := by
  rcases h with hsame | ⟨hlt, m₁, hsame, rfl⟩
  · exact ⟨hsame.queueOk hm, Or.inl ⟨hsame.waiting, hsame.queueCount⟩⟩
  · have hlt₁ : m₁.queueCount < inputQueueSize := by
      rw [hsame.queueCount]
      exact hlt
    obtain ⟨hok, hwaiting⟩ := queueOk_enqueue (hsame.queueOk hm) hlt₁ event
    refine ⟨hok, Or.inr ⟨hlt, ?_, ?_⟩⟩
    · rw [hwaiting, hsame.waiting]
    · show m₁.queueCount + 1 = _
      rw [hsame.queueCount]

/-! ## Taking an event -/

theorem inputGetEvent_spec (hm : QueueOk m) :
    QueueOk (inputGetEvent m).2 ∧
      (m.queueCount = 0 ∧ (inputGetEvent m).2 = m ∨
        0 < m.queueCount ∧
          m.waiting = (inputGetEvent m).1 :: (inputGetEvent m).2.waiting) := by
  unfold inputGetEvent
  by_cases hpos : 0 < m.queueCount
  · rw [if_pos hpos]
    exact ⟨⟨hm.length_eq, hm.wellFormed.pop hpos⟩, Or.inr ⟨hpos, RingBuffer.contents_pop hpos⟩⟩
  · rw [if_neg hpos]
    exact ⟨hm, Or.inl ⟨Nat.eq_zero_of_not_pos hpos, rfl⟩⟩

/-! ## Runs -/

/-- The input manager, the events that were put in its queue and those that were returned. -/
structure InputHistory where
  manager : InputManager
  enqueued : List InputEvent
  returned : List InputEvent
  deriving Repr, DecidableEq

def InputHistory.boot : InputHistory where
  manager := inputInit
  enqueued := []
  returned := []

/-- A call that offers an event has enqueued it if the count has gone up; `maya_input_get_event` counts
if `maya_input_has_events` said so. -/
def historyStep (s : InputHistory) (op : InputOp) : Option InputHistory :=
  match op with
  | .key ascii scancode pressed now =>
    let m := (inputAddKeyEvent s.manager ascii scancode pressed now).2
    some
      { s with
        manager := m
        enqueued := s.enqueued ++
          if s.manager.queueCount < m.queueCount then (offeredEvent s.manager op).toList else [] }
  | .mouse x y buttons now =>
    let m := inputAddMouseEvent s.manager x y buttons now
    some
      { s with
        manager := m
        enqueued := s.enqueued ++
          if s.manager.queueCount < m.queueCount then (offeredEvent s.manager op).toList else [] }
  | .get =>
    some
      { s with
        manager := (inputGetEvent s.manager).2
        returned := s.returned ++
          if 0 < s.manager.queueCount then [(inputGetEvent s.manager).1] else [] }

/-! ## Main result -/

/-- The three numbers agree, and the events returned are the first of those enqueued. -/
structure InputFifo (s : InputHistory) : Prop where
  count_le : s.manager.queueCount ≤ 32
  head_eq : s.manager.queueHead = (s.manager.queueTail + s.manager.queueCount) % 32
  length_waiting : s.manager.waiting.length = s.manager.queueCount
  fifo : s.enqueued = s.returned ++ s.manager.waiting

/-- A call enqueues the event with the fields that it is given, or nothing; with 32 events waiting it
leaves them as they are. -/
def InputActs (s : InputHistory) (op : InputOp) (s' : InputHistory) : Prop :=
  (s'.enqueued = s.enqueued ∨ ∃ event, offeredEvent s.manager op = some event ∧
    s'.enqueued = s.enqueued ++ [event]) ∧
  (op ≠ .get → s'.returned = s.returned) ∧
  (op ≠ .get → s.manager.queueCount = 32 → s'.manager.waiting = s.manager.waiting)

structure HistoryOk (s : InputHistory) : Prop where
  queueOk : QueueOk s.manager
  fifo : s.enqueued = s.returned ++ s.manager.waiting

theorem HistoryOk.inputFifo {s : InputHistory} (h : HistoryOk s) : InputFifo s :=
  ⟨h.queueOk.wellFormed.count_le, h.queueOk.wellFormed.writePos_eq,
    RingBuffer.length_contents _, h.fifo⟩

/-- A call that offers an event. -/
theorem historyOk_appends {s : InputHistory} (h : HistoryOk s) {op : InputOp} {event : InputEvent}
    (hop : offeredEvent s.manager op = some event) (happends : Appends s.manager m' event)
    {s' : InputHistory}
    (hs' : s' = { s with
      manager := m'
      enqueued := s.enqueued ++
        if s.manager.queueCount < m'.queueCount then (offeredEvent s.manager op).toList
        else [] }) :
    HistoryOk s' ∧ InputActs s op s' := by
  obtain ⟨hok, ⟨hwaiting, hcount⟩ | ⟨hlt, hwaiting, hcount⟩⟩ := happends.queueOk h.queueOk
  · rw [if_neg (by omega), List.append_nil] at hs'
    subst hs'
    exact ⟨⟨hok, by rw [hwaiting]; exact h.fifo⟩, Or.inl rfl, fun _ => rfl, fun _ _ => hwaiting⟩
  · rw [if_pos (by omega), hop] at hs'
    subst hs'
    refine ⟨⟨hok, ?_⟩, Or.inr ⟨event, hop, rfl⟩, fun _ => rfl, fun _ hfull => ?_⟩
    · show s.enqueued ++ [event] = _
      rw [hwaiting, h.fifo, List.append_assoc]
    · rw [hfull] at hlt
      exact absurd hlt (by decide)

/-- **One step.** -/
theorem history_step {s s' : InputHistory} {op : InputOp} (h : HistoryOk s)
    (hs : historyStep s op = some s') : HistoryOk s' ∧ InputActs s op s' := by
  cases op with
  | key ascii scancode pressed now =>
    exact historyOk_appends h rfl (inputAddKeyEvent_spec s.manager ascii scancode pressed now rfl)
      (Option.some.inj hs).symm
  | mouse x y buttons now =>
    exact historyOk_appends h rfl (inputAddMouseEvent_spec s.manager x y buttons now rfl)
      (Option.some.inj hs).symm
  | get =>
    cases hs
    obtain ⟨hok, ⟨hzero, hsame⟩ | ⟨hpos, hwaiting⟩⟩ := inputGetEvent_spec h.queueOk
    · refine ⟨⟨hok, ?_⟩, Or.inl rfl, fun hne => absurd rfl hne, fun hne => absurd rfl hne⟩
      dsimp only
      rw [if_neg (by omega), List.append_nil, hsame]
      exact h.fifo
    · refine ⟨⟨hok, ?_⟩, Or.inl rfl, fun hne => absurd rfl hne, fun hne => absurd rfl hne⟩
      dsimp only
      rw [if_pos hpos, h.fifo, hwaiting, List.append_assoc]
      rfl

theorem historyOk_boot : HistoryOk InputHistory.boot :=
  ⟨⟨List.length_replicate, ⟨by decide, by decide, by decide, rfl⟩⟩, rfl⟩

/--
**The queue of the input manager is first in, first out, whatever the order of the calls.**

Throughout a run the count is at most 32, the head is the count behind the tail, and the events
enqueued are those returned followed by those waiting; each was enqueued with the fields of its call, and
a call that finds 32 events waiting does not touch them.
-/
theorem input_queue (ops : List InputOp) :
    Always historyStep InputFifo InputHistory.boot ops ∧
      Along historyStep InputActs InputHistory.boot ops :=
  have hstep : ∀ s op s', HistoryOk s → historyStep s op = some s' → HistoryOk s' :=
    fun _ _ _ h hs => (history_step h hs).1
  ⟨Always.of_invariant (fun _ => HistoryOk.inputFifo) hstep historyOk_boot,
    Along.of_step (fun _ _ _ h hs => (history_step h hs).2) hstep historyOk_boot⟩

end MayaOs.Gui
