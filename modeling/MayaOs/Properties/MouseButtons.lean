import MayaOs.Properties.InputQueue

/-!
# Presses and releases of the mouse buttons

`maya_input_add_mouse_event` makes one event of a report: a move if the position has changed, else a
click or a release, as the number of the buttons has grown or shrunk.

* `transitions_iff` — when one report gives an event for every button
* `buttonTransitions_iff` — the same along a run
* `buttonTransitions_lost` — a press that comes with a move, and a button pressed as another is released
-/

namespace MayaOs.Gui

open MayaOs.Lib

/-! ## Bits -/

/-- The button `i` is down. -/
def buttonDown (buttons : UInt8) (i : Nat) : Bool := buttons.toNat.testBit i

/-- Every button of `c` is down in `b`. -/
def Includes (b c : UInt8) : Prop := c &&& b = c

instance (b c : UInt8) : Decidable (Includes b c) := inferInstanceAs (Decidable (_ = _))

theorem includes_iff {b c : UInt8} :
    Includes b c ↔ ∀ i, buttonDown c i = true → buttonDown b i = true := by
  unfold Includes buttonDown
  rw [← UInt8.toNat_inj, UInt8.toNat_and]
  constructor
  · intro h i hc
    rw [← h, Nat.testBit_and, Bool.and_eq_true] at hc
    exact hc.2
  · intro h
    refine Nat.eq_of_testBit_eq fun i => ?_
    rw [Nat.testBit_and]
    cases hc : c.toNat.testBit i with
    | false => rfl
    | true => rw [h i hc]; rfl

theorem Includes.le {b c : UInt8} (h : Includes b c) : c ≤ b := by
  have hnat : c.toNat &&& b.toNat = c.toNat := by rw [← UInt8.toNat_and, h]
  rw [UInt8.le_iff_toNat_le, ← hnat]
  exact Nat.and_le_right

/-! ## Reports -/

structure MouseReport where
  x : Int
  y : Int
  buttons : UInt8
  deriving Repr, DecidableEq

/-- `last` is the last report. -/
structure ReportSystem where
  manager : InputManager
  last : Option MouseReport
  deriving Repr, DecidableEq

def ReportSystem.boot : ReportSystem where
  manager := inputInit
  last := none

/-- There is no report while the queue is full. -/
def reportStep (s : ReportSystem) : InputOp → Option ReportSystem
  | .key ascii scancode pressed now =>
    some { s with manager := (inputAddKeyEvent s.manager ascii scancode pressed now).2 }
  | .mouse x y buttons now =>
    if inputQueueSize ≤ s.manager.queueCount then none
    else
      some
        { manager := inputAddMouseEvent s.manager x y buttons now
          last := some ⟨x, y, buttons⟩ }
  | .get => some { s with manager := (inputGetEvent s.manager).2 }

/-- The events that a call has enqueued. -/
def newEvents (m m' : InputManager) : List InputEvent := m'.waiting.drop m.queueCount

/-- An event of this type with the button `i` down or up. -/
def ReportsButton (events : List InputEvent) (type : InputEventType) (i : Nat) (down : Bool) : Prop :=
  ∃ x y buttons now, { type := type, data := .mouse x y buttons, timestamp := now } ∈ events ∧
    buttonDown buttons i = down

/-- A click for every button that was up and is down, a release for every one that was down and is
up. -/
def Transitions (before after : UInt8) (events : List InputEvent) : Prop :=
  ∀ i, (buttonDown before i = false → buttonDown after i = true →
      ReportsButton events .mouseClick i true) ∧
    (buttonDown before i = true → buttonDown after i = false →
      ReportsButton events .mouseRelease i false)

/-- The transitions between a report and the one before it are enqueued. -/
def TransitionsEnqueued (s : ReportSystem) (op : InputOp) (s' : ReportSystem) : Prop :=
  match op with
  | .mouse _ _ buttons _ => ∀ r, s.last = some r →
    Transitions r.buttons buttons (newEvents s.manager s'.manager)
  | _ => True

/-- A report has the same buttons as the one before it; or the same position, and buttons are only
pressed or only released. -/
def OneChange (s : ReportSystem) : InputOp → Prop
  | .mouse x y buttons _ => ∀ r, s.last = some r →
    buttons = r.buttons ∨
      ((x = r.x ∧ y = r.y) ∧ (Includes buttons r.buttons ∨ Includes r.buttons buttons))
  | _ => True

/-! ## One report -/

theorem newEvents_enqueue {m m₁ : InputManager} (hm : QueueOk m)
    (hlt : m.queueCount < inputQueueSize) (h : SameQueue m m₁) (event : InputEvent) :
    newEvents m (m₁.enqueue event) = [event] := by
  have hlt₁ : m₁.queueCount < inputQueueSize := by
    rw [h.queueCount]
    exact hlt
  have hlength : m.waiting.length = m.queueCount := RingBuffer.length_contents _
  unfold newEvents
  rw [(queueOk_enqueue (h.queueOk hm) hlt₁ event).2, h.waiting, ← hlength, List.drop_left]

theorem ReportsButton.type_eq {event : InputEvent} {type : InputEventType} {i : Nat} {down : Bool}
    (h : ReportsButton [event] type i down) : event.type = type := by
  obtain ⟨x, y, buttons, now, hmem, -⟩ := h
  rw [← List.mem_singleton.mp hmem]

/-- With the same buttons there is nothing to enqueue. -/
theorem transitions_refl (b : UInt8) (events : List InputEvent) : Transitions b b events :=
  fun _ => ⟨fun hup hdown => absurd (hup.symm.trans hdown) Bool.false_ne_true,
    fun hdown hup => absurd (hup.symm.trans hdown) Bool.false_ne_true⟩

/-- One event of the type of a click is enough iff no button was released. -/
theorem transitions_click {before after : UInt8} {x y : Int} {now : UInt32} :
    Transitions before after
        [{ type := .mouseClick, data := .mouse x y after, timestamp := now }] ↔
      Includes after before := by
  rw [includes_iff]
  constructor
  · intro h i hbefore
    by_contra hafter
    cases ((h i).2 hbefore ((Bool.not_eq_true _).mp hafter)).type_eq
  · intro h i
    refine ⟨fun _ hdown => ⟨x, y, after, now, List.mem_singleton_self _, hdown⟩, fun hdown hup => ?_⟩
    rw [h i hdown] at hup
    cases hup

/-- One event of the type of a release is enough iff no button was pressed. -/
theorem transitions_release {before after : UInt8} {x y : Int} {now : UInt32} :
    Transitions before after
        [{ type := .mouseRelease, data := .mouse x y after, timestamp := now }] ↔
      Includes before after := by
  rw [includes_iff]
  constructor
  · intro h i hafter
    by_contra hbefore
    cases ((h i).1 ((Bool.not_eq_true _).mp hbefore) hafter).type_eq
  · intro h i
    refine ⟨fun hup hdown => ?_, fun _ hup => ⟨x, y, after, now, List.mem_singleton_self _, hup⟩⟩
    rw [h i hdown] at hup
    cases hup

/-- A move tells of no button. -/
theorem transitions_move {before after : UInt8} {x y : Int} {now : UInt32} :
    Transitions before after
        [{ type := .mouseMove, data := .mouse x y after, timestamp := now }] ↔
      after = before := by
  constructor
  · intro h
    rw [← UInt8.toNat_inj]
    refine Nat.eq_of_testBit_eq fun i => ?_
    change buttonDown after i = buttonDown before i
    cases hafter : buttonDown after i <;> cases hbefore : buttonDown before i
    · rfl
    · cases ((h i).2 hbefore hafter).type_eq
    · cases ((h i).1 hbefore hafter).type_eq
    · rfl
  · rintro rfl
    exact transitions_refl after _

section Report

variable {m : InputManager}

theorem newEvents_enqueueMouse (hm : QueueOk m) (hlt : m.queueCount < inputQueueSize)
    {m₁ : InputManager} (h : SameQueue m m₁) (type : InputEventType) (x y : Int) (buttons : UInt8)
    (now : UInt32) :
    newEvents m (m₁.enqueueMouse type x y buttons now) =
      [{ type := type, data := .mouse x y buttons, timestamp := now }] :=
  newEvents_enqueue hm hlt
    ⟨h.eventQueue, h.queueHead, h.queueTail, h.queueCount⟩ _

theorem newEvents_self (m : InputManager) : newEvents m m = [] := by
  have hlength : m.waiting.length = m.queueCount := RingBuffer.length_contents _
  unfold newEvents
  rw [← hlength, List.drop_length]

/-- **When one report gives an event for every button.** -/
theorem transitions_iff (hm : QueueOk m) (hlt : m.queueCount < inputQueueSize) (x y : Int)
    (buttons : UInt8) (now : UInt32) :
    Transitions m.mouseButtons buttons
        (newEvents m (inputAddMouseEvent m x y buttons now)) ↔
      buttons = m.mouseButtons ∨
        ((x = m.mouseX ∧ y = m.mouseY) ∧
          (Includes buttons m.mouseButtons ∨ Includes m.mouseButtons buttons)) := by
  unfold inputAddMouseEvent
  rw [if_neg (Nat.not_le_of_lt hlt)]
  split
  · next hmove =>
    rw [newEvents_enqueueMouse hm hlt (SameQueue.refl m), transitions_move]
    have hmoved : ¬ (x = m.mouseX ∧ y = m.mouseY) := fun ⟨hx, hy⟩ => by
      rcases hmove with hne | hne
      · exact hne hx
      · exact hne hy
    exact ⟨Or.inl, fun h => h.resolve_right fun hstill => hmoved hstill.1⟩
  · next hmove =>
    have hstill : x = m.mouseX ∧ y = m.mouseY := by
      rw [not_or, not_not, not_not] at hmove
      exact hmove
    split
    · next hne =>
      split
      · next hmore =>
        have hsame : SameQueue m (if buttons = mayaMouseLeft then m.noteClick x y now else m) := by
          split <;> exact ⟨rfl, rfl, rfl, rfl⟩
        dsimp only
        rw [newEvents_enqueueMouse hm hlt hsame, transitions_click]
        refine ⟨fun h => Or.inr ⟨hstill, Or.inl h⟩, fun h => ?_⟩
        rcases h with heq | ⟨-, hin | hin⟩
        · exact absurd heq hne
        · exact hin
        -- fewer buttons are a smaller number
        · exact absurd hin.le (UInt8.not_le.mpr hmore)
      · next hless =>
        rw [newEvents_enqueueMouse hm hlt (SameQueue.refl m), transitions_release]
        refine ⟨fun h => Or.inr ⟨hstill, Or.inr h⟩, fun h => ?_⟩
        rcases h with heq | ⟨-, hin | hin⟩
        · exact absurd heq hne
        · exact absurd (UInt8.le_antisymm (UInt8.not_lt.mp hless) hin.le) hne
        · exact hin
    · next heq =>
      rw [not_not] at heq
      rw [newEvents_self, heq]
      exact iff_of_true (transitions_refl _ _) (Or.inl rfl)

/-- The manager keeps the report. -/
theorem inputAddMouseEvent_report (hlt : m.queueCount < inputQueueSize) (x y : Int)
    (buttons : UInt8) (now : UInt32) :
    (inputAddMouseEvent m x y buttons now).mouseX = x ∧
      (inputAddMouseEvent m x y buttons now).mouseY = y ∧
      (inputAddMouseEvent m x y buttons now).mouseButtons = buttons := by
  unfold inputAddMouseEvent
  rw [if_neg (Nat.not_le_of_lt hlt)]
  split
  · exact ⟨rfl, rfl, rfl⟩
  · next hmove =>
    rw [not_or, not_not, not_not] at hmove
    split
    · split <;> exact ⟨rfl, rfl, rfl⟩
    · next heq =>
      rw [not_not] at heq
      exact ⟨hmove.1.symm, hmove.2.symm, heq.symm⟩

end Report

/-! ## Runs -/

/-- What the manager knows of the mouse is the last report. -/
structure ReportOk (s : ReportSystem) : Prop where
  queueOk : QueueOk s.manager
  last : ∀ r, s.last = some r →
    s.manager.mouseX = r.x ∧ s.manager.mouseY = r.y ∧ s.manager.mouseButtons = r.buttons

theorem inputAddKeyEvent_mouse (m : InputManager) (ascii scancode : UInt8) (pressed : Bool)
    (now : UInt32) :
    (inputAddKeyEvent m ascii scancode pressed now).2.mouseX = m.mouseX ∧
      (inputAddKeyEvent m ascii scancode pressed now).2.mouseY = m.mouseY ∧
      (inputAddKeyEvent m ascii scancode pressed now).2.mouseButtons = m.mouseButtons := by
  unfold inputAddKeyEvent
  split
  · exact ⟨rfl, rfl, rfl⟩
  · dsimp only
    split <;> exact ⟨rfl, rfl, rfl⟩

theorem inputGetEvent_mouse (m : InputManager) :
    (inputGetEvent m).2.mouseX = m.mouseX ∧ (inputGetEvent m).2.mouseY = m.mouseY ∧
      (inputGetEvent m).2.mouseButtons = m.mouseButtons := by
  unfold inputGetEvent
  split <;> exact ⟨rfl, rfl, rfl⟩

theorem reportStep_mouse {s s' : ReportSystem} {x y : Int} {buttons : UInt8} {now : UInt32}
    (hs : reportStep s (.mouse x y buttons now) = some s') :
    s.manager.queueCount < inputQueueSize ∧
      s' = { manager := inputAddMouseEvent s.manager x y buttons now
             last := some ⟨x, y, buttons⟩ } := by
  by_cases hfull : inputQueueSize ≤ s.manager.queueCount
  · cases (if_pos hfull).symm.trans hs
  · exact ⟨Nat.lt_of_not_le hfull, Option.some.inj (hs.symm.trans (if_neg hfull))⟩

theorem reportOk_step {s s' : ReportSystem} {op : InputOp} (h : ReportOk s)
    (hs : reportStep s op = some s') : ReportOk s' := by
  cases op with
  | key ascii scancode pressed now =>
    cases hs
    obtain ⟨hx, hy, hbuttons⟩ := inputAddKeyEvent_mouse s.manager ascii scancode pressed now
    refine ⟨((inputAddKeyEvent_spec _ _ _ _ _ rfl).queueOk h.queueOk).1, fun r hr => ?_⟩
    rw [hx, hy, hbuttons]
    exact h.last r hr
  | mouse x y buttons now =>
    obtain ⟨hroom, rfl⟩ := reportStep_mouse hs
    refine ⟨((inputAddMouseEvent_spec _ _ _ _ _ rfl).queueOk h.queueOk).1, fun r hr => ?_⟩
    cases hr
    exact inputAddMouseEvent_report hroom x y buttons now
  | get =>
    cases hs
    obtain ⟨hx, hy, hbuttons⟩ := inputGetEvent_mouse s.manager
    refine ⟨(inputGetEvent_spec h.queueOk).1, fun r hr => ?_⟩
    rw [hx, hy, hbuttons]
    exact h.last r hr

theorem transitionsEnqueued_step {s s' : ReportSystem} {op : InputOp} (h : ReportOk s)
    (hs : reportStep s op = some s') : TransitionsEnqueued s op s' ↔ OneChange s op := by
  cases op with
  | key ascii scancode pressed now => exact Iff.rfl
  | mouse x y buttons now =>
    obtain ⟨hroom, rfl⟩ := reportStep_mouse hs
    refine forall₂_congr fun r hr => ?_
    obtain ⟨hx, hy, hbuttons⟩ := h.last r hr
    rw [← hx, ← hy, ← hbuttons]
    exact transitions_iff h.queueOk hroom x y buttons now
  | get => exact Iff.rfl

theorem reportOk_boot : ReportOk ReportSystem.boot :=
  ⟨historyOk_boot.queueOk, fun _ hr => nomatch hr⟩

/--
**Every press and every release is enqueued iff each report leaves the buttons as they were, or leaves
the position as it was and only presses or only releases buttons.**

The runs are those in which the queue is not full when a report comes; other events may come in between.
-/
theorem buttonTransitions_iff (ops : List InputOp) :
    Along reportStep TransitionsEnqueued ReportSystem.boot ops ↔
      Along reportStep (fun s op _ => OneChange s op) ReportSystem.boot ops :=
  along_congr (I := ReportOk) (fun _ _ _ => transitionsEnqueued_step)
    (fun _ _ _ h hs _ => reportOk_step h hs) reportOk_boot

/--
A press that comes with a move gives a move only. With the left button released as the right one is
pressed there is a click only.
-/
theorem buttonTransitions_lost :
    ¬ Along reportStep TransitionsEnqueued ReportSystem.boot
        [.mouse 5 5 0 0, .mouse 6 5 1 1] ∧
      ¬ Along reportStep TransitionsEnqueued ReportSystem.boot
        [.mouse 5 5 0 0, .mouse 5 5 1 1, .mouse 5 5 2 2] := by
  constructor
  · intro h
    obtain ⟨-, h⟩ := h _ rfl
    have htransitions := (h _ rfl).1 ⟨5, 5, 0⟩ rfl 0
    cases (htransitions.1 (by decide) (by decide)).type_eq
  · intro h
    obtain ⟨-, h⟩ := h _ rfl
    obtain ⟨-, h⟩ := h _ rfl
    have htransitions := (h _ rfl).1 ⟨5, 5, 1⟩ rfl 0
    cases (htransitions.2 (by decide) (by decide)).type_eq

end MayaOs.Gui
