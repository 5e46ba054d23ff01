import MayaOs.Gui.Input
import MayaOs.Lib.MachineInt
import MayaOs.Lib.Run

/-!
# Modifier keys

* `modifiersExact_iff` — the modifiers are right throughout a run iff no event that changes one is
  offered while the queue is full
* `release_lost` — a Ctrl that stays pressed
-/

namespace MayaOs.Gui

open MayaOs.Lib

/-! ## Runs -/

inductive InputOp where
  | key (ascii scancode : UInt8) (pressed : Bool) (now : UInt32)
  | mouse (x y : Int) (buttons : UInt8) (now : UInt32)
  | get
  deriving Repr, DecidableEq

/-- The key events that were offered are newest first: scancode, and whether it was a press. -/
structure InputSystem where
  manager : InputManager
  offered : List (UInt8 × Bool)
  deriving Repr, DecidableEq

def InputSystem.boot : InputSystem where
  manager := inputInit
  offered := []

def inputStep (s : InputSystem) : InputOp → Option InputSystem
  | .key ascii scancode pressed now =>
    some
      { manager := (inputAddKeyEvent s.manager ascii scancode pressed now).2
        offered := (scancode, pressed) :: s.offered }
  | .mouse x y buttons now =>
    some { s with manager := inputAddMouseEvent s.manager x y buttons now }
  | .get => some { s with manager := (inputGetEvent s.manager).2 }

/-! ## The property -/

/-- The most recent event for the scancode was a press. -/
def lastPressed (offered : List (UInt8 × Bool)) (scancode : UInt8) : Bool :=
  match offered.find? fun o => o.1 == scancode with
  | some o => o.2
  | none => false

structure ModifiersExact (s : InputSystem) : Prop where
  ctrl : inputIsCtrlPressed s.manager = lastPressed s.offered mayaKeyCtrl
  alt : inputIsAltPressed s.manager = lastPressed s.offered mayaKeyAlt
  shift : inputIsShiftPressed s.manager = lastPressed s.offered mayaKeyShift

/-- With the queue full, no event is offered that presses or releases a modifier anew. -/
def ModifiersHeard (s : InputSystem) : InputOp → Prop
  | .key _ scancode pressed _ => inputQueueSize ≤ s.manager.queueCount →
    (scancode = mayaKeyCtrl → pressed = inputIsCtrlPressed s.manager) ∧
    (scancode = mayaKeyAlt → pressed = inputIsAltPressed s.manager) ∧
    (scancode = mayaKeyShift → pressed = inputIsShiftPressed s.manager)
  | _ => True

/-! ## One step -/

theorem lastPressed_cons (scancode : UInt8) (pressed : Bool) (offered : List (UInt8 × Bool))
    (key : UInt8) : lastPressed ((scancode, pressed) :: offered) key =
      if scancode = key then pressed else lastPressed offered key := by
  unfold lastPressed
  by_cases h : scancode = key
  · rw [List.find?_cons_of_pos (by simpa using h), if_pos h]
  · rw [List.find?_cons_of_neg (by simpa using h), if_neg h]

/-- The scancodes of the modifiers, and their bits. -/
def modifierBits : List (UInt8 × UInt8) :=
  [(mayaKeyCtrl, 0x01), (mayaKeyAlt, 0x02), (mayaKeyShift, 0x04)]

theorem or_and_right (m a b : UInt8) : (m ||| a) &&& b = (m &&& b) ||| (a &&& b) :=
  UInt8.toBitVec_inj.mp BitVec.and_or_distrib_right

/-- No two modifiers share a bit. -/
theorem modifierBits_apart : ∀ a ∈ modifierBits, ∀ b ∈ modifierBits,
    (a.1 = b.1 ∧ a.2 &&& b.2 ≠ 0 ∧ ~~~ a.2 &&& b.2 = 0) ∨
      (a.1 ≠ b.1 ∧ a.2 &&& b.2 = 0 ∧ ~~~ a.2 &&& b.2 = b.2) := by
  simp only [modifierBits, List.forall_mem_cons, List.not_mem_nil, false_implies, implies_true,
    and_true]
  decide

/-- Setting and clearing a bit. -/
theorem bits_of_set (m : UInt8) : ∀ a ∈ modifierBits, ∀ b ∈ modifierBits,
    ((m ||| a.2) &&& b.2 != 0) = (a.1 == b.1 || m &&& b.2 != 0) ∧
      ((m &&& ~~~ a.2) &&& b.2 != 0) = (a.1 != b.1 && m &&& b.2 != 0) := by
  intro a ha b hb
  rw [or_and_right, UInt8.and_assoc]
  rcases modifierBits_apart a ha b hb with ⟨hkey, hbit, hclear⟩ | ⟨hkey, hbit, hclear⟩
  · rw [hclear]
    simp [hkey, hbit]
  · rw [hclear, hbit]
    simp [hkey]

/-- An event that is not dropped is heard by its modifier. -/
theorem updateModifiers_bit (modifiers scancode : UInt8) (pressed : Bool) {b : UInt8 × UInt8}
    (hb : b ∈ modifierBits) :
    (updateModifiers modifiers scancode pressed &&& b.2 != 0) =
      if scancode = b.1 then pressed else modifiers &&& b.2 != 0 := by
  have hset : ∀ a ∈ modifierBits, scancode = a.1 →
      ((if pressed then modifiers ||| a.2 else modifiers &&& ~~~ a.2) &&& b.2 != 0) =
        if scancode = b.1 then pressed else modifiers &&& b.2 != 0 := by
    rintro a ha rfl
    obtain ⟨hor, hand⟩ := bits_of_set modifiers a ha b hb
    cases pressed with
    | true =>
      rw [if_pos rfl, hor]
      split
      · next heq => simp [heq]
      · next hne => simp [hne]
    | false =>
      rw [if_neg (by simp), hand]
      split
      · next heq => simp [heq]
      · next hne => simp [hne]
  unfold updateModifiers
  split
  · next hkey => exact hset (mayaKeyCtrl, 0x01) (by simp [modifierBits]) hkey
  · next hctrl =>
    split
    · next hkey => exact hset (mayaKeyAlt, 0x02) (by simp [modifierBits]) hkey
    · next halt =>
      split
      · next hkey => exact hset (mayaKeyShift, 0x04) (by simp [modifierBits]) hkey
      · next hshift =>
        have hne : scancode ≠ b.1 := by
          simp only [modifierBits, List.mem_cons, List.not_mem_nil, or_false] at hb
          rcases hb with rfl | rfl | rfl
          · exact hctrl
          · exact halt
          · exact hshift
        rw [if_neg hne]

theorem inputAddKeyEvent_modifiers {m : InputManager} (h : ¬ inputQueueSize ≤ m.queueCount)
    (ascii scancode : UInt8) (pressed : Bool) (now : UInt32) :
    (inputAddKeyEvent m ascii scancode pressed now).2.keyModifiers =
      updateModifiers m.keyModifiers scancode pressed := by
  unfold inputAddKeyEvent
  rw [if_neg h]
  simp only []
  split <;> rfl

theorem inputAddMouseEvent_modifiers (m : InputManager) (x y : Int) (buttons : UInt8)
    (now : UInt32) : (inputAddMouseEvent m x y buttons now).keyModifiers = m.keyModifiers := by
  unfold inputAddMouseEvent
  split
  · rfl
  · split
    · rfl
    · split
      · split
        · simp only []
          split <;> rfl
        · rfl
      · rfl

theorem inputGetEvent_modifiers (m : InputManager) :
    (inputGetEvent m).2.keyModifiers = m.keyModifiers := by
  unfold inputGetEvent
  split <;> rfl

/-- The modifiers are those of the history, all three. -/
theorem modifiersExact_iff_bits {s : InputSystem} : ModifiersExact s ↔
    ∀ b ∈ modifierBits, (s.manager.keyModifiers &&& b.2 != 0) = lastPressed s.offered b.1 := by
  constructor
  · intro h b hb
    simp only [modifierBits, List.mem_cons, List.not_mem_nil, or_false] at hb
    rcases hb with rfl | rfl | rfl
    · exact h.ctrl
    · exact h.alt
    · exact h.shift
  · intro h
    exact ⟨h (mayaKeyCtrl, 0x01) (by simp [modifierBits]),
      h (mayaKeyAlt, 0x02) (by simp [modifierBits]), h (mayaKeyShift, 0x04) (by simp [modifierBits])⟩

theorem modifiersHeard_iff_bits {s : InputSystem} {ascii scancode : UInt8} {pressed : Bool}
    {now : UInt32} : ModifiersHeard s (.key ascii scancode pressed now) ↔
      (inputQueueSize ≤ s.manager.queueCount → ∀ b ∈ modifierBits, scancode = b.1 →
        pressed = (s.manager.keyModifiers &&& b.2 != 0)) := by
  refine forall_congr' fun _ => ?_
  simp only [modifierBits, List.forall_mem_cons, List.not_mem_nil, false_implies, implies_true,
    and_true]
  rfl

/-- **One step**: the modifiers stay right iff the event is heard. -/
theorem modifiersExact_step {s s' : InputSystem} {op : InputOp} (h : ModifiersExact s)
    (hs : inputStep s op = some s') : ModifiersExact s' ↔ ModifiersHeard s op := by
  rw [modifiersExact_iff_bits] at h ⊢
  cases op with
  | key ascii scancode pressed now =>
    cases hs
    rw [modifiersHeard_iff_bits]
    simp only [lastPressed_cons]
    by_cases hfull : inputQueueSize ≤ s.manager.queueCount
    · have hsame : inputAddKeyEvent s.manager ascii scancode pressed now = (none, s.manager) :=
        if_pos hfull
      simp only [hsame, hfull, true_implies]
      refine forall₂_congr fun b hb => ?_
      rw [h b hb]
      split
      · next heq => exact ⟨fun hp _ => hp.symm, fun hp => (hp heq).symm⟩
      · next hne => exact iff_of_true rfl fun heq => absurd heq hne
    · simp only [inputAddKeyEvent_modifiers hfull, hfull, false_implies, iff_true]
      intro b hb
      rw [updateModifiers_bit _ _ _ hb, h b hb]
  | mouse x y buttons now =>
    cases hs
    simp only [inputAddMouseEvent_modifiers]
    exact iff_of_true h trivial
  | get =>
    cases hs
    simp only [inputGetEvent_modifiers]
    exact iff_of_true h trivial

/-! ## Main result -/

theorem modifiersExact_boot : ModifiersExact InputSystem.boot := ⟨rfl, rfl, rfl⟩

/--
**The modifiers are those of the last events throughout a run iff the queue is never full when a
modifier is pressed or released.**

The calls come in any order, and events may stay in the queue for any time. A press of what is
pressed already, or a release of what is not, is lost without harm.
-/
theorem modifiersExact_iff (ops : List InputOp) :
    Always inputStep ModifiersExact InputSystem.boot ops ↔
      Along inputStep (fun s op _ => ModifiersHeard s op) InputSystem.boot ops :=
  always_iff_along (I := ModifiersExact) (fun _ _ _ => modifiersExact_step)
    (fun _ _ _ h hs hq => (modifiersExact_step h hs).mpr hq) modifiersExact_boot modifiersExact_boot

/-- Ctrl is pressed, 31 other keys follow, and Ctrl is released. -/
def stickingRun : List InputOp :=
  .key 0 29 true 0 :: List.replicate 31 (.key 97 30 true 0) ++ [.key 0 29 false 0]

/-- **The queue is full when Ctrl is released**, and Ctrl stays pressed when it has been emptied. -/
theorem release_lost :
    ¬ Always inputStep ModifiersExact InputSystem.boot stickingRun ∧
      ∃ t, run inputStep InputSystem.boot (stickingRun ++ List.replicate 32 .get) = some t ∧
        t.manager.queueCount = 0 ∧ inputIsCtrlPressed t.manager = true ∧
        lastPressed t.offered mayaKeyCtrl = false := by
  constructor
  · intro halways
    have hrun : (run inputStep InputSystem.boot stickingRun).map (fun t =>
        (inputIsCtrlPressed t.manager, lastPressed t.offered mayaKeyCtrl)) = some (true, false) := by
      decide +kernel
    obtain ⟨t, ht, hread⟩ := Option.map_eq_some_iff.mp hrun
    have hexact := (always_iff_forall_initial.mp halways _ [] t (List.append_nil _).symm ht).ctrl
    simp only [Prod.mk.injEq] at hread
    rw [hread.1, hread.2] at hexact
    cases hexact
  · have hrun : (run inputStep InputSystem.boot (stickingRun ++ List.replicate 32 .get)).map
        (fun t => (t.manager.queueCount, inputIsCtrlPressed t.manager,
          lastPressed t.offered mayaKeyCtrl)) = some (0, true, false) := by
      decide +kernel
    obtain ⟨t, ht, hread⟩ := Option.map_eq_some_iff.mp hrun
    simp only [Prod.mk.injEq] at hread
    exact ⟨t, ht, hread⟩

end MayaOs.Gui
