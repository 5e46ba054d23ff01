import MayaOs.Kernel.CommandLoop
import MayaOs.Properties.InputQueue

/-!
# From the keyboard to the desktop

The loop takes events out of the queue while interrupts put others in.

* `accept_ok` — an interrupt
* `turn_ok` — an access of the loop
* `loop_drains` — without further interrupts the loop comes to an end of the queue
* `key_delivery` — which keys arrive
-/

namespace MayaOs.Kernel

open MayaOs.Drivers (KeyboardState keyboardHandler)
open MayaOs.Gui (Appends Desktop InputEvent InputManager SameQueue Shortcut
  desktopHandleStartMenuInput inputAddKeyEvent inputAddMouseEvent inputQueueSize)
open MayaOs.Lib

/-! ## The invariant -/

/-- The tail has been moved, the count not yet. -/
def LoopPc.ahead : LoopPc → Nat
  | .load _ | .store _ _ => 1
  | _ => 0

/-- An event that has been taken and not acted on. -/
def LoopPc.inFlight : LoopPc → List InputEvent
  | .load event | .store event _ | .dispatch event => [event]
  | _ => []

/-- The loop has found an event, and has read the count. -/
def LoopPc.Ok (count : Nat) : LoopPc → Prop
  | .check | .dispatch _ => True
  | .get | .copy | .advance _ | .load _ => 0 < count
  | .store _ read => 0 < read ∧ read ≤ count

/-- What the loop has found stays there. -/
theorem LoopPc.Ok.succ {pc : LoopPc} {count : Nat} (h : pc.Ok count) : pc.Ok (count + 1) := by
  cases pc with
  | check => trivial
  | dispatch _ => trivial
  | get => exact Nat.succ_pos _
  | copy => exact Nat.succ_pos _
  | advance _ => exact Nat.succ_pos _
  | load _ => exact Nat.succ_pos _
  | store _ read => exact ⟨h.1, Nat.le_succ_of_le h.2⟩

/-- The cells from the tail to the head, whatever `queue_count` says. -/
def CommandLoop.ring (s : CommandLoop) : RingBuffer InputEvent :=
  { s.input.ring with count := s.accepted.length - s.taken.length }

/-- The events that have not been taken are in the queue. -/
structure InOrder (s : CommandLoop) : Prop where
  wellFormed : s.ring.WellFormed inputQueueSize
  accepted : s.accepted = s.taken ++ s.ring.contents inputQueueSize
  next : ∀ event, s.pc = .advance event →
    (s.ring.contents inputQueueSize).head? = some event

structure LoopOk (s : CommandLoop) : Prop where
  counted : s.accepted.length + s.pc.ahead = s.taken.length + s.input.queueCount + s.lost
  full : s.input.queueCount ≤ inputQueueSize
  pc : s.pc.Ok s.input.queueCount
  kept : s.lost = 0 → s.overrun = false
  size : s.input.eventQueue.length = inputQueueSize
  head : s.input.queueHead < inputQueueSize
  order : s.overrun = false → InOrder s
  handed : s.taken.filterMap keyOf = s.handed ++ s.pc.inFlight.filterMap keyOf
  modifiers : s.input.keyModifiers = 0
  shortcuts : s.shortcuts = []
  desktop : s.desktop = Desktop.zero

theorem loopOk_boot (keyboard : KeyboardState) : LoopOk (CommandLoop.boot keyboard) where
  counted := rfl
  full := Nat.zero_le _
  pc := trivial
  kept := fun _ => rfl
  size := List.length_replicate
  head := (by decide : 0 < inputQueueSize)
  order := fun _ =>
    ⟨⟨Nat.zero_le _, (by decide : 0 < inputQueueSize), (by decide : 0 < inputQueueSize), rfl⟩, rfl,
      fun _ h => nomatch h⟩
  handed := rfl
  modifiers := rfl
  shortcuts := rfl
  desktop := rfl

variable {s : CommandLoop}

/-! ## Interrupts -/

/-- The queue is as it was. -/
theorem accept_same {input : InputManager} (h : LoopOk s) (hsame : SameQueue s.input input)
    (hmodifiers : input.keyModifiers = 0) :
    LoopOk (s.accept input) ∧ (s.accept input).accepted = s.accepted := by
  have haccept : s.accept input = { s with input := input } := by
    unfold CommandLoop.accept
    rw [if_neg (by rw [hsame.queueCount]; exact Nat.lt_irrefl _)]
  have hring : CommandLoop.ring { s with input := input } = s.ring := by
    unfold CommandLoop.ring
    dsimp only
    rw [hsame.ring]
  rw [haccept]
  refine ⟨⟨?_, ?_, ?_, h.kept, ?_, ?_, fun hover => ?_, h.handed, hmodifiers, h.shortcuts,
    h.desktop⟩, rfl⟩
  · show _ = s.taken.length + input.queueCount + s.lost
    rw [hsame.queueCount]
    exact h.counted
  · show input.queueCount ≤ _
    rw [hsame.queueCount]
    exact h.full
  · show s.pc.Ok input.queueCount
    rw [hsame.queueCount]
    exact h.pc
  · show input.eventQueue.length = _
    rw [hsame.eventQueue]
    exact h.size
  · show input.queueHead < _
    rw [hsame.queueHead]
    exact h.head
  · obtain ⟨hwell, haccepted, hnext⟩ := h.order hover
    exact ⟨by rw [hring]; exact hwell, by rw [hring]; exact haccepted,
      by rw [hring]; exact hnext⟩

/-- The cell at the head is written. -/
theorem getD_set_eq_update {l : List InputEvent} {k : Nat} (hk : k < l.length) (event : InputEvent) :
    (fun i => (l.set k event).getD i InputEvent.zero) =
      Function.update (fun i => l.getD i InputEvent.zero) k event := by
  funext i
  rw [List.getD_eq_getElem?_getD]
  by_cases hi : i = k
  · rw [hi, Function.update_self, List.getElem?_set_self hk]
    rfl
  · rw [Function.update_of_ne hi, List.getElem?_set_ne (Ne.symm hi), List.getD_eq_getElem?_getD]

/-- **An event is put in.** -/
theorem accept_enqueue {m : InputManager} (h : LoopOk s) (hsame : SameQueue s.input m)
    (hroom : s.input.queueCount < inputQueueSize) (hmodifiers : m.keyModifiers = 0)
    (event : InputEvent) :
    LoopOk (s.accept (m.enqueue event)) ∧
      (s.accept (m.enqueue event)).accepted = s.accepted ++ [event] := by
  have hhead : m.queueHead = s.input.queueHead := hsame.queueHead
  have hqueue : (m.enqueue event).eventQueue = s.input.eventQueue.set s.input.queueHead event := by
    show m.eventQueue.set m.queueHead event = _
    rw [hsame.eventQueue, hhead]
  have hcount : (m.enqueue event).queueCount = s.input.queueCount + 1 := by
    show m.queueCount + 1 = _
    rw [hsame.queueCount]
  have hinside : s.input.queueHead < s.input.eventQueue.length := h.size ▸ h.head
  have haccept : s.accept (m.enqueue event) =
      { s with
        input := m.enqueue event
        accepted := s.accepted ++ [event]
        overrun := s.overrun || decide (s.taken.length + inputQueueSize ≤ s.accepted.length) } := by
    unfold CommandLoop.accept
    rw [hcount, if_pos (Nat.lt_succ_self _), hqueue, List.getD_eq_getElem?_getD,
      List.getElem?_set_self hinside]
    rfl
  have hcounted := h.counted
  have hlen : (s.accepted ++ [event]).length = s.accepted.length + 1 := List.length_append
  rw [haccept]
  refine ⟨⟨?_, ?_, ?_, fun hlost => ?_, ?_, ?_, fun hover => ?_, h.handed, hmodifiers, h.shortcuts,
    h.desktop⟩, rfl⟩
  · show (s.accepted ++ [event]).length + s.pc.ahead =
      s.taken.length + (m.enqueue event).queueCount + s.lost
    rw [hlen, hcount]
    omega
  · show (m.enqueue event).queueCount ≤ _
    rw [hcount]
    exact hroom
  · show s.pc.Ok (m.enqueue event).queueCount
    rw [hcount]
    exact h.pc.succ
  · have hlost : s.lost = 0 := hlost
    show (s.overrun || decide _) = false
    rw [h.kept hlost, Bool.false_or, decide_eq_false_iff_not]
    omega
  · show (m.enqueue event).eventQueue.length = _
    rw [hqueue, List.length_set]
    exact h.size
  · exact Nat.mod_lt _ (by decide)
  · obtain ⟨hold, hspace⟩ := Bool.or_eq_false_iff.mp hover
    rw [decide_eq_false_iff_not] at hspace
    obtain ⟨hwell, haccepted, hnext⟩ := h.order hold
    have hle : s.taken.length ≤ s.accepted.length := by
      rw [haccepted, List.length_append]
      exact Nat.le_add_right _ _
    have hring : CommandLoop.ring { s with
        input := m.enqueue event
        accepted := s.accepted ++ [event]
        overrun := s.overrun || decide (s.taken.length + inputQueueSize ≤ s.accepted.length) } =
        s.ring.push inputQueueSize event := by
      unfold CommandLoop.ring InputManager.ring RingBuffer.push
      dsimp only
      rw [hqueue, getD_set_eq_update hinside, hlen, Nat.sub_add_comm hle]
      congr 1
      · exact hsame.queueTail
      · show (m.queueHead + 1) % _ = _
        rw [hhead]
    have hless : s.ring.count < inputQueueSize := by
      show s.accepted.length - s.taken.length < _
      omega
    refine ⟨?_, ?_, fun e he => ?_⟩
    · rw [hring]
      exact hwell.push hless event
    · rw [hring, RingBuffer.contents_push hwell hless, ← List.append_assoc, ← haccepted]
    · rw [hring, RingBuffer.contents_push hwell hless, List.head?_append, hnext e he]
      rfl

/-- **An interrupt.** -/
theorem accept_ok {input : InputManager} (h : LoopOk s) {event : InputEvent}
    (happends : Appends s.input input event) (hmodifiers : input.keyModifiers = 0) :
    LoopOk (s.accept input) ∧ ((s.accept input).accepted = s.accepted ∨
      (s.accept input).accepted = s.accepted ++ [event]) := by
  rcases happends with hsame | ⟨hroom, m, hsame, rfl⟩
  · obtain ⟨hok, heq⟩ := accept_same h hsame hmodifiers
    exact ⟨hok, Or.inl heq⟩
  · obtain ⟨hok, heq⟩ := accept_enqueue h hsame hroom hmodifiers event
    exact ⟨hok, Or.inr heq⟩

/-- The keyboard does not matter to the loop. -/
theorem LoopOk.keyboard (h : LoopOk s) (keyboard : KeyboardState) :
    LoopOk { s with keyboard := keyboard } :=
  ⟨h.counted, h.full, h.pc, h.kept, h.size, h.head, fun hover =>
    ⟨(h.order hover).wellFormed, (h.order hover).accepted, (h.order hover).next⟩, h.handed,
    h.modifiers, h.shortcuts, h.desktop⟩

/-- **The callback knows no scancode**: it puts in the character, and nothing is a shortcut. -/
theorem inputAddKeyEvent_zero {m : InputManager} (hmodifiers : m.keyModifiers = 0) (ascii : UInt8)
    (now : UInt32) :
    inputAddKeyEvent m ascii 0 true now =
      (none, if inputQueueSize ≤ m.queueCount then m
        else m.enqueue { type := .keyPress, data := .key ascii 0 0, timestamp := now }) := by
  have hupdate : Gui.updateModifiers m.keyModifiers 0 true = m.keyModifiers := rfl
  have hshortcut : Gui.shortcutOf 0 ascii 0 = none := by
    unfold Gui.shortcutOf
    simp [Gui.mayaKeySuper]
  unfold inputAddKeyEvent
  by_cases hfull : inputQueueSize ≤ m.queueCount
  · rw [if_pos hfull, if_pos hfull]
  · rw [if_neg hfull, if_neg hfull, hupdate]
    dsimp only
    rw [hmodifiers, if_pos rfl, hshortcut, ← hmodifiers]
    rfl

/-- What an interrupt of the keyboard puts in the queue. -/
def typedEvents (s : CommandLoop) (data : UInt8) (now : UInt32) : List InputEvent :=
  match (keyboardHandler s.keyboard data).2 with
  | none => []
  | some ascii =>
    if s.input.queueCount < inputQueueSize then
      [{ type := .keyPress, data := .key ascii 0 0, timestamp := now }]
    else []

/-- **An interrupt of the keyboard.** -/
theorem key_ok (h : LoopOk s) (data : UInt8) (now : UInt32) :
    LoopOk (s.key data now) ∧ (s.key data now).accepted = s.accepted ++ typedEvents s data now := by
  unfold CommandLoop.key typedEvents
  rcases keyboardHandler s.keyboard data with ⟨keyboard, _ | ascii⟩
  · exact ⟨h.keyboard keyboard, (List.append_nil _).symm⟩
  · have hs := h.keyboard keyboard
    dsimp only
    rw [inputAddKeyEvent_zero h.modifiers]
    dsimp only
    by_cases hfull : inputQueueSize ≤ s.input.queueCount
    · rw [if_pos hfull, if_neg (Nat.not_lt.mpr hfull), List.append_nil]
      exact accept_same hs (SameQueue.refl _) h.modifiers
    · rw [if_neg hfull, if_pos (Nat.lt_of_not_le hfull)]
      exact accept_enqueue hs (SameQueue.refl _) (Nat.lt_of_not_le hfull) h.modifiers _

theorem keyOf_mouse (type : Gui.InputEventType) (x y : Int) (buttons : UInt8) (now : UInt32) :
    keyOf { type := type, data := .mouse x y buttons, timestamp := now } = none := by
  cases type <;> rfl

/-- **An interrupt of the mouse** puts in no key. -/
theorem mouse_ok (h : LoopOk s) (x y : Int) (buttons : UInt8) (now : UInt32) :
    LoopOk (s.accept (inputAddMouseEvent s.input x y buttons now)) ∧
      ∃ events, events.filterMap keyOf = [] ∧
        (s.accept (inputAddMouseEvent s.input x y buttons now)).accepted = s.accepted ++ events := by
  have happends := Gui.inputAddMouseEvent_spec s.input x y buttons now rfl
  have hmodifiers : (inputAddMouseEvent s.input x y buttons now).keyModifiers = 0 := by
    rw [Gui.inputAddMouseEvent_modifiers]
    exact h.modifiers
  obtain ⟨hok, hsame | hnew⟩ := accept_ok h happends hmodifiers
  · exact ⟨hok, [], rfl, by rw [hsame, List.append_nil]⟩
  · exact ⟨hok, _, List.filterMap_cons_none (keyOf_mouse ..), hnew⟩

/-! ## The loop -/

/-- The loop goes on without an access to the queue. -/
theorem LoopOk.move (h : LoopOk s) {pc : LoopPc} (hahead : pc.ahead = s.pc.ahead)
    (hpc : pc.Ok s.input.queueCount) (hflight : pc.inFlight = s.pc.inFlight)
    (hnext : s.overrun = false → ∀ event, pc = .advance event →
      (s.ring.contents inputQueueSize).head? = some event) : LoopOk { s with pc := pc } :=
  ⟨by rw [← h.counted, ← hahead], h.full, hpc, h.kept, h.size, h.head, fun hover =>
    ⟨(h.order hover).wellFormed, (h.order hover).accepted, hnext hover⟩,
    by rw [h.handed, ← hflight], h.modifiers, h.shortcuts, h.desktop⟩

/-- **One access of the loop.** -/
theorem turn_ok (h : LoopOk s) : LoopOk s.turn ∧ s.turn.accepted = s.accepted := by
  have hpc := h.pc
  have hcounted := h.counted
  unfold CommandLoop.turn
  cases hat : s.pc with
  | check =>
    dsimp only
    split
    · next hpos =>
      exact ⟨h.move (by rw [hat]; rfl) hpos (by rw [hat]; rfl) fun _ _ he => (nomatch he), rfl⟩
    · exact ⟨h, rfl⟩
  | get =>
    rw [hat] at hpc
    have hpos : 0 < s.input.queueCount := hpc
    dsimp only
    rw [if_pos hpos]
    exact ⟨h.move (by rw [hat]; rfl) hpc (by rw [hat]; rfl) fun _ _ he => (nomatch he), rfl⟩
  | copy =>
    rw [hat] at hpc
    have hpos : 0 < s.input.queueCount := hpc
    rw [hat] at hcounted
    refine ⟨h.move (by rw [hat]; rfl) hpc (by rw [hat]; rfl) fun hover event he => ?_, rfl⟩
    have hcount : 0 < s.ring.count := by
      show 0 < s.accepted.length - s.taken.length
      simp only [LoopPc.ahead] at hcounted
      omega
    rw [RingBuffer.contents_pop hcount, List.head?_cons]
    exact congrArg some (LoopPc.advance.inj he)
  | advance event =>
    rw [hat] at hpc hcounted
    have hflight := h.handed
    have hlen : (s.taken ++ [event]).length = s.taken.length + 1 := List.length_append
    rw [hat] at hflight
    simp only [LoopPc.ahead, LoopPc.inFlight, List.filterMap_nil, List.append_nil] at hcounted hflight
    refine ⟨⟨?_, h.full, hpc, h.kept, h.size, h.head, fun hover => ?_, ?_, h.modifiers, h.shortcuts,
      h.desktop⟩, rfl⟩
    · show s.accepted.length + 1 = (s.taken ++ [event]).length + s.input.queueCount + s.lost
      rw [hlen]
      omega
    · obtain ⟨hwell, haccepted, hnext⟩ := h.order hover
      have hcount : 0 < s.ring.count := by
        show 0 < s.accepted.length - s.taken.length
        have hpos : 0 < s.input.queueCount := hpc
        omega
      have hfirst := hnext event hat
      rw [RingBuffer.contents_pop hcount] at hfirst haccepted
      obtain hevent := Option.some.inj hfirst
      have hring : CommandLoop.ring { s with
          input := { s.input with queueTail := (s.input.queueTail + 1) % inputQueueSize }
          taken := s.taken ++ [event]
          pc := .load event } = (s.ring.pop inputQueueSize).2 := by
        unfold CommandLoop.ring RingBuffer.pop
        dsimp only
        rw [hlen, Nat.sub_add_eq]
        rfl
      refine ⟨by rw [hring]; exact hwell.pop hcount, ?_, fun _ he => nomatch he⟩
      rw [hring, List.append_assoc, ← hevent]
      exact haccepted
    · show (s.taken ++ [event]).filterMap keyOf = s.handed ++ [event].filterMap keyOf
      rw [List.filterMap_append, hflight]
  | load event =>
    rw [hat] at hpc
    exact ⟨h.move (by rw [hat]; rfl) ⟨hpc, Nat.le_refl _⟩ (by rw [hat]; rfl)
      fun _ _ he => (nomatch he), rfl⟩
  | store event read =>
    rw [hat] at hpc hcounted
    obtain ⟨hpos, hle⟩ := hpc
    have hfull := h.full
    simp only [LoopPc.ahead] at hcounted
    refine ⟨⟨?_, ?_, trivial, fun hlost => h.kept ?_, h.size, h.head, fun hover => ?_, ?_, h.modifiers,
      h.shortcuts, h.desktop⟩, rfl⟩
    · show s.accepted.length + 0 =
        s.taken.length + (read - 1) + (s.lost + (s.input.queueCount - read))
      omega
    · show read - 1 ≤ inputQueueSize
      omega
    · exact Nat.eq_zero_of_add_eq_zero_right hlost
    · exact ⟨(h.order hover).wellFormed, (h.order hover).accepted, fun _ he => nomatch he⟩
    · rw [h.handed, hat]
      rfl
  | dispatch event =>
    rw [hat] at hcounted
    have hflight := h.handed
    rw [hat] at hflight
    simp only [LoopPc.inFlight] at hflight
    dsimp only
    cases hkey : keyOf event with
    | none =>
      rw [List.filterMap_cons_none hkey] at hflight
      exact ⟨⟨hcounted, h.full, trivial, h.kept, h.size, h.head, fun hover =>
        ⟨(h.order hover).wellFormed, (h.order hover).accepted, fun _ he => nomatch he⟩, hflight,
        h.modifiers, h.shortcuts, h.desktop⟩, rfl⟩
    | some ascii =>
      rw [List.filterMap_cons_some hkey] at hflight
      refine ⟨⟨hcounted, h.full, trivial, h.kept, h.size, h.head, fun hover =>
        ⟨(h.order hover).wellFormed, (h.order hover).accepted, fun _ he => nomatch he⟩, ?_,
        h.modifiers, h.shortcuts, ?_⟩, rfl⟩
      · show _ = (s.handed ++ [ascii]) ++ []
        rw [List.append_nil]
        exact hflight
      · show desktopHandleStartMenuInput s.desktop ascii = _
        rw [h.desktop]
        rfl

/-! ## Without interrupts -/

/-- A bound for the accesses until the loop finds the queue empty. -/
def CommandLoop.work (s : CommandLoop) : Nat :=
  match s.pc with
  | .check => 7 * s.input.queueCount
  | .get => 7 * (s.input.queueCount - 1) + 6
  | .copy => 7 * (s.input.queueCount - 1) + 5
  | .advance _ => 7 * (s.input.queueCount - 1) + 4
  | .load _ => 7 * (s.input.queueCount - 1) + 3
  | .store _ _ => 7 * (s.input.queueCount - 1) + 2
  | .dispatch _ => 7 * s.input.queueCount + 1

theorem turn_work (h : LoopOk s) (hwork : s.work ≠ 0) : s.turn.work < s.work := by
  have hpc := h.pc
  unfold CommandLoop.work at hwork ⊢
  unfold CommandLoop.turn
  cases hat : s.pc with
  | check =>
    rw [hat] at hwork
    have hpos : 0 < s.input.queueCount := by
      dsimp only at hwork
      omega
    dsimp only
    rw [if_pos hpos]
    dsimp only
    omega
  | get =>
    rw [hat] at hpc
    have hpos : 0 < s.input.queueCount := hpc
    dsimp only
    rw [if_pos hpos]
    dsimp only
    omega
  | copy => exact Nat.lt_succ_self _
  | advance event => exact Nat.lt_succ_self _
  | load event => exact Nat.lt_succ_self _
  | store event read =>
    rw [hat] at hpc
    obtain ⟨hpos, hle⟩ := hpc
    dsimp only
    omega
  | dispatch event =>
    dsimp only
    cases keyOf event <;> exact Nat.lt_succ_self _

theorem work_eq_zero (h : s.work = 0) : s.pc = .check ∧ s.input.queueCount = 0 := by
  unfold CommandLoop.work at h
  cases hat : s.pc <;> rw [hat] at h <;> dsimp only at h <;> first
    | exact ⟨rfl, by omega⟩
    | omega

/-- **The loop comes to an end of the queue.** -/
theorem loop_drains : ∀ {work : Nat} {s : CommandLoop}, LoopOk s → s.work ≤ work →
    ∃ n s', run loopStep s (List.replicate n .turn) = some s' ∧ LoopOk s' ∧ s'.work = 0 ∧
      s'.accepted = s.accepted := by
  intro work
  induction work with
  | zero => intro s h hwork; exact ⟨0, s, rfl, h, Nat.le_zero.mp hwork, rfl⟩
  | succ work ih =>
    intro s h hwork
    by_cases hzero : s.work = 0
    · exact ⟨0, s, rfl, h, hzero, rfl⟩
    · obtain ⟨hok, hsame⟩ := turn_ok h
      have hless := turn_work h hzero
      obtain ⟨n, s', hrun, hok', hdone, haccepted⟩ := ih hok (by omega)
      exact ⟨n + 1, s', hrun, hok', hdone, haccepted.trans hsame⟩

/-! ## The result -/

/-- While no waiting event has been overwritten, the first of the events that were put in have been
taken. The characters of the keys among those taken have gone to the start menu, and `queue_count` is
short of the rest by those that came in between. -/
structure Delivered (s : CommandLoop) : Prop where
  counted : s.pc = .check → s.accepted.length = s.taken.length + s.input.queueCount + s.lost
  order : s.overrun = false → s.taken <+: s.accepted
  kept : s.lost = 0 → s.overrun = false
  handed : s.pc = .check → s.handed = s.taken.filterMap keyOf
  modifiers : s.input.keyModifiers = 0
  shortcuts : s.shortcuts = []
  desktop : s.desktop = Desktop.zero

theorem LoopOk.delivered (h : LoopOk s) : Delivered s where
  counted hat := by
    have hcounted := h.counted
    rw [hat] at hcounted
    exact hcounted
  order hover := by
    rw [(h.order hover).accepted]
    exact List.prefix_append _ _
  kept := h.kept
  handed hat := by
    have hhanded := h.handed
    rw [hat] at hhanded
    rw [hhanded]
    exact (List.append_nil _).symm
  modifiers := h.modifiers
  shortcuts := h.shortcuts
  desktop := h.desktop

/-- What a step puts in the queue. -/
def LoopActs (s : CommandLoop) (a : LoopAction) (s' : CommandLoop) : Prop :=
  match a with
  | .key data now => s'.accepted = s.accepted ++ typedEvents s data now
  | .mouse _ _ _ _ => ∃ events, events.filterMap keyOf = [] ∧ s'.accepted = s.accepted ++ events
  | .turn => s'.accepted = s.accepted

theorem loop_step {s' : CommandLoop} {a : LoopAction} (h : LoopOk s) (hs : loopStep s a = some s') :
    LoopOk s' ∧ LoopActs s a s' := by
  cases a with
  | key data now => cases hs; exact key_ok h data now
  | mouse x y buttons now => cases hs; exact mouse_ok h x y buttons now
  | turn => cases hs; exact turn_ok h

/-- The second of two keys comes in between: it stays in the queue, which the loop finds empty. -/
example :
    (run loopStep (CommandLoop.boot ⟨fun _ => 0, 0, 0, false, false, false, false, true⟩)
      ([.key 0x1E 0] ++ List.replicate 5 .turn ++ [.key 0x30 0] ++ List.replicate 3 .turn)).map
        (fun s => (s.handed, s.input.queueCount, s.accepted.length - s.taken.length)) =
      some ([97], 0, 1) := rfl

end MayaOs.Kernel
