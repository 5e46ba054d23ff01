import MayaOs.Drivers.Keyboard
import MayaOs.Lib.Run

/-!
# The queue of the keyboard

* `typed_ne_zero` — the handler queues no zero byte
* `keyboardBufferPush_spec` — what it does to the queue
* `keyboard_queue` — first in, first out, with room for 255 characters, whenever interrupts come
-/

namespace MayaOs.Drivers

open MayaOs.Lib

variable {k k' : KeyboardState} {s s' : KeyboardSystem}

/-! ## The characters -/

theorem xor_ne_zero_of_letter {c : UInt8} (h : isLetter c = true) : c ^^^ 0x20 ≠ 0 := by
  intro hzero
  rw [UInt8.xor_eq_zero_iff] at hzero
  rw [hzero] at h
  exact absurd h (by decide)

/-- The same queue. -/
structure SameQueue (k k' : KeyboardState) : Prop where
  buffer : k'.buffer = k.buffer
  head : k'.head = k.head
  tail : k'.tail = k.tail
  initialized : k'.initialized = k.initialized

/-- **The handler leaves the queue alone or types a character that is not 0.** -/
theorem typed_ne_zero (k : KeyboardState) (data : UInt8) :
    (SameQueue k (keyboardHandler k data).1 ∧ (keyboardHandler k data).2 = none) ∨
      ∃ c, c ≠ 0 ∧ keyboardHandler k data = (keyboardBufferPush k c, some c) := by
  -- a lock key turns its flag round when it is pressed
  have hlock : ∀ {released : Bool} {k' : KeyboardState}, SameQueue k k' →
      SameQueue k (if released = true then k else k') := by
    intro released k' hk
    cases released
    · exact hk
    · exact ⟨rfl, rfl, rfl, rfl⟩
  unfold keyboardHandler
  dsimp only
  by_cases hshift : data &&& ~~~ keyReleaseBit = 0x2A ∨ data &&& ~~~ keyReleaseBit = 0x36
  · rw [if_pos hshift]
    exact Or.inl ⟨⟨rfl, rfl, rfl, rfl⟩, rfl⟩
  rw [if_neg hshift]
  by_cases hcaps : data &&& ~~~ keyReleaseBit = 0x3A
  · rw [if_pos hcaps]
    exact Or.inl ⟨hlock ⟨rfl, rfl, rfl, rfl⟩, rfl⟩
  rw [if_neg hcaps]
  by_cases hnum : data &&& ~~~ keyReleaseBit = 0x45
  · rw [if_pos hnum]
    exact Or.inl ⟨hlock ⟨rfl, rfl, rfl, rfl⟩, rfl⟩
  rw [if_neg hnum]
  by_cases hscroll : data &&& ~~~ keyReleaseBit = 0x46
  · rw [if_pos hscroll]
    exact Or.inl ⟨hlock ⟨rfl, rfl, rfl, rfl⟩, rfl⟩
  rw [if_neg hscroll]
  generalize (if k.shiftPressed = true then _ else _ : UInt8) = c
  by_cases hpressed : (data &&& keyReleaseBit != 0) = false ∧
      (data &&& ~~~ keyReleaseBit).toNat < scancodeToAscii.length
  · rw [if_pos hpressed]
    by_cases hc : c = 0
    · rw [if_pos hc]
      exact Or.inl ⟨⟨rfl, rfl, rfl, rfl⟩, rfl⟩
    · rw [if_neg hc]
      refine Or.inr ⟨_, ?_, rfl⟩
      split
      · next hletter => exact xor_ne_zero_of_letter (Bool.and_eq_true_iff.mp hletter).2
      · exact hc
  · rw [if_neg hpressed]
    exact Or.inl ⟨⟨rfl, rfl, rfl, rfl⟩, rfl⟩

/-! ## The ring -/

/-- The positions are in the buffer. -/
structure PositionsOk (k : KeyboardState) : Prop where
  head_lt : k.head < keyboardBufferSize
  tail_lt : k.tail < keyboardBufferSize

theorem SameQueue.positionsOk (h : SameQueue k k') (hk : PositionsOk k) : PositionsOk k' :=
  ⟨by rw [h.head]; exact hk.head_lt, by rw [h.tail]; exact hk.tail_lt⟩

theorem SameQueue.waiting (h : SameQueue k k') : k'.waiting = k.waiting := by
  unfold KeyboardState.waiting KeyboardState.ring
  rw [h.buffer, h.head, h.tail]

theorem ring_count_lt (k : KeyboardState) : k.ring.count < keyboardBufferSize :=
  Nat.mod_lt _ (by decide)

/-- One cell is always free. -/
theorem length_waiting_le (k : KeyboardState) : k.waiting.length ≤ 255 := by
  have hlt := ring_count_lt k
  unfold keyboardBufferSize at hlt
  unfold KeyboardState.waiting
  rw [RingBuffer.length_contents]
  omega

theorem ring_wellFormed (h : PositionsOk k) : k.ring.WellFormed keyboardBufferSize := by
  obtain ⟨hhead, htail⟩ := h
  refine ⟨Nat.le_of_lt (ring_count_lt k), htail, hhead, ?_⟩
  show k.head = (k.tail + (keyboardBufferSize - k.tail + k.head) % keyboardBufferSize) %
    keyboardBufferSize
  unfold keyboardBufferSize at *
  omega

theorem waiting_eq_nil_iff (h : PositionsOk k) : k.waiting = [] ↔ k.tail = k.head := by
  obtain ⟨hhead, htail⟩ := h
  rw [← List.length_eq_zero_iff, KeyboardState.waiting, RingBuffer.length_contents]
  show (keyboardBufferSize - k.tail + k.head) % keyboardBufferSize = 0 ↔ _
  unfold keyboardBufferSize at *
  omega

/-- **A character is appended unless 255 are waiting.** -/
theorem keyboardBufferPush_spec (h : PositionsOk k) (c : UInt8) :
    (k.waiting.length = 255 ∧ keyboardBufferPush k c = k) ∨
      (k.waiting.length < 255 ∧ PositionsOk (keyboardBufferPush k c) ∧
        (keyboardBufferPush k c).head ≠ k.head ∧
        (keyboardBufferPush k c).initialized = k.initialized ∧
        (keyboardBufferPush k c).waiting = k.waiting ++ [c]) := by
  obtain ⟨hhead, htail⟩ := h
  have hlength : k.waiting.length = (keyboardBufferSize - k.tail + k.head) % keyboardBufferSize :=
    RingBuffer.length_contents _
  have hwf := ring_wellFormed ⟨hhead, htail⟩
  unfold keyboardBufferPush
  dsimp only
  by_cases hfull : (k.head + 1) % keyboardBufferSize = k.tail
  · rw [if_pos hfull]
    refine Or.inl ⟨?_, rfl⟩
    rw [hlength]
    unfold keyboardBufferSize at *
    omega
  · rw [if_neg hfull]
    have hlt : k.ring.count < 255 := by
      show (keyboardBufferSize - k.tail + k.head) % keyboardBufferSize < 255
      unfold keyboardBufferSize at *
      omega
    refine Or.inr ⟨by rw [hlength]; exact hlt, ⟨Nat.mod_lt _ (by decide), htail⟩, ?_, rfl, ?_⟩
    · show (k.head + 1) % keyboardBufferSize ≠ k.head
      unfold keyboardBufferSize at *
      omega
    · -- the count that is computed from the positions has gone up by one
      have hcount : (keyboardBufferSize - k.tail + (k.head + 1) % keyboardBufferSize) %
          keyboardBufferSize = k.ring.count + 1 := by
        show _ = (keyboardBufferSize - k.tail + k.head) % keyboardBufferSize + 1
        unfold keyboardBufferSize at *
        omega
      have hpush : KeyboardState.ring { k with
          buffer := Function.update k.buffer k.head c
          head := (k.head + 1) % keyboardBufferSize } =
          k.ring.push keyboardBufferSize c := by
        unfold KeyboardState.ring RingBuffer.push
        rw [hcount]
        rfl
      unfold KeyboardState.waiting
      rw [hpush]
      exact RingBuffer.contents_push hwf (by unfold keyboardBufferSize; omega) c

/-- **What is taken is the character that has waited longest.** -/
theorem waiting_advance (h : PositionsOk k) (hne : k.waiting ≠ []) :
    PositionsOk { k with tail := (k.tail + 1) % keyboardBufferSize } ∧
      k.waiting = k.buffer k.tail ::
        KeyboardState.waiting { k with tail := (k.tail + 1) % keyboardBufferSize } := by
  have hne' : k.tail ≠ k.head := fun heq => hne ((waiting_eq_nil_iff h).mpr heq)
  obtain ⟨hhead, htail⟩ := h
  have hpos : 0 < k.ring.count := by
    show 0 < (keyboardBufferSize - k.tail + k.head) % keyboardBufferSize
    unfold keyboardBufferSize at *
    omega
  have hcount : (keyboardBufferSize - (k.tail + 1) % keyboardBufferSize + k.head) %
      keyboardBufferSize = k.ring.count - 1 := by
    show _ = (keyboardBufferSize - k.tail + k.head) % keyboardBufferSize - 1
    unfold keyboardBufferSize at *
    omega
  have hpop : KeyboardState.ring { k with tail := (k.tail + 1) % keyboardBufferSize } =
      (k.ring.pop keyboardBufferSize).2 := by
    unfold KeyboardState.ring RingBuffer.pop
    rw [hcount]
    rfl
  refine ⟨⟨hhead, Nat.mod_lt _ (by decide)⟩, ?_⟩
  unfold KeyboardState.waiting
  rw [hpop]
  exact RingBuffer.contents_pop hpos

/-! ## Calls -/

def KeyboardCall.size : KeyboardCall → Nat
  | .getChar => 1
  | .read size => size

/-- The characters that a call has given to its caller; 0 is none. -/
def KeyboardReturn.chars (r : KeyboardReturn) : List UInt8 :=
  match r.value with
  | .char c => if c = 0 then [] else [c]
  | .read buffer => buffer

/-- `keyboard_get_char` has returned the oldest character, 0 only if there was none; `keyboard_read` the
oldest characters, as many as there were and as have room. -/
def KeyboardReturn.Ok (r : KeyboardReturn) : Prop :=
  match r.call, r.value with
  | .getChar, .char c =>
    (c = 0 ∧ r.waiting ++ r.arrived = []) ∨ (c ≠ 0 ∧ (r.waiting ++ r.arrived).head? = some c)
  | .read size, .read buffer =>
    buffer = (r.waiting ++ r.arrived).take size ∧
      buffer.length = min size (r.waiting.length + r.arrived.length)
  | _, _ => False

def KeyboardPc.got : KeyboardPc → List UInt8
  | .idle => []
  | .popping _ got _ => got

/-- Steps until the call returns, at most. -/
def KeyboardPc.remaining : KeyboardPc → Nat
  | .idle => 0
  | .popping call got .check => 3 * (call.size - got.length)
  | .popping call got .load => 3 * (call.size - got.length) - 1
  | .popping call got (.advance _) => 3 * (call.size - got.length) - 2

/-- What the reader knows of the queue. -/
def PopStage.Ok (waiting : List UInt8) : PopStage → Prop
  | .check => True
  | .load => waiting ≠ []
  | .advance c => waiting.head? = some c

/-- A running call: its buffer is not full, and together with the queue it holds what there was. -/
def KeyboardPc.Ok (all waiting : List UInt8) : KeyboardPc → Prop
  | .idle => True
  | .popping call got stage =>
    got.length < call.size ∧ all = got ++ waiting ∧ stage.Ok waiting

theorem PopStage.Ok.append {waiting : List UInt8} {stage : PopStage} (h : stage.Ok waiting)
    (pushed : List UInt8) : stage.Ok (waiting ++ pushed) := by
  cases stage with
  | check => trivial
  | load => exact List.append_ne_nil_of_left_ne_nil h pushed
  | advance c =>
    show (waiting ++ pushed).head? = some c
    rw [List.head?_append, h]
    rfl

theorem KeyboardPc.Ok.append {all waiting : List UInt8} {pc : KeyboardPc}
    (h : pc.Ok all waiting) (pushed : List UInt8) : pc.Ok (all ++ pushed) (waiting ++ pushed) := by
  cases pc with
  | idle => trivial
  | popping call got stage =>
    obtain ⟨hlt, rfl, hstage⟩ := h
    exact ⟨hlt, List.append_assoc got waiting pushed, hstage.append pushed⟩

/-! ## The invariant -/

/-- The queue, and what has been returned of it. -/
structure QueueOk (s : KeyboardSystem) : Prop where
  positions : PositionsOk s.keyboard
  initialized : s.keyboard.initialized = true
  fifo : s.queued = s.taken ++ s.keyboard.waiting
  typed : ∀ c ∈ s.queued, c ≠ 0
  returns : ∀ r ∈ s.returned, r.Ok

/-- Most steps do not touch the queue. -/
theorem QueueOk.congr (h : QueueOk s) (hkeyboard : s'.keyboard = s.keyboard)
    (hqueued : s'.queued = s.queued) (htaken : s'.taken = s.taken)
    (hreturned : s'.returned = s.returned) : QueueOk s' := by
  obtain ⟨hpos, hinit, hfifo, htyped, hreturns⟩ := h
  refine ⟨?_, ?_, ?_, ?_, ?_⟩
  · rwa [hkeyboard]
  · rwa [hkeyboard]
  · rwa [hqueued, htaken, hkeyboard]
  · rwa [hqueued]
  · rwa [hreturned]

structure KeyboardOk (s : KeyboardSystem) : Prop extends QueueOk s where
  delivered : s.taken = s.returned.flatMap KeyboardReturn.chars ++ s.pc.got
  running : s.pc.Ok (s.waiting ++ s.arrived) s.keyboard.waiting

/-- **An interrupt** appends what is typed, unless 255 characters are waiting. -/
theorem interrupt_spec (h : PositionsOk s.keyboard) (data : UInt8) :
    ∃ pushed : List UInt8,
      pushed = (if s.keyboard.waiting.length < 255 then (keyboardHandler s.keyboard data).2.toList
        else []) ∧
      (∀ c ∈ pushed, c ≠ 0) ∧
      PositionsOk (s.interrupt data).keyboard ∧
      (s.interrupt data).keyboard.initialized = s.keyboard.initialized ∧
      (s.interrupt data).keyboard.waiting = s.keyboard.waiting ++ pushed ∧
      (s.interrupt data).queued = s.queued ++ pushed ∧
      (s.interrupt data).arrived = s.arrived ++ pushed := by
  unfold KeyboardSystem.interrupt
  rcases typed_ne_zero s.keyboard data with ⟨hsame, hnone⟩ | ⟨c, hc, htyped⟩
  · dsimp only
    rw [hnone, if_pos hsame.head]
    refine ⟨[], (ite_self _).symm, fun c hc => absurd hc List.not_mem_nil, hsame.positionsOk h,
      hsame.initialized, ?_, rfl, rfl⟩
    rw [hsame.waiting, List.append_nil]
  · rw [htyped]
    dsimp only
    rcases keyboardBufferPush_spec h c with ⟨hfull, heq⟩ | ⟨hlt, hpos, hne, hinit, hwaiting⟩
    · rw [heq, if_pos rfl, hfull]
      refine ⟨[], rfl, fun c hc => absurd hc List.not_mem_nil, h, rfl, ?_, rfl, rfl⟩
      exact (List.append_nil _).symm
    · rw [if_neg hne, if_pos hlt]
      refine ⟨[c], rfl, fun x hx => ?_, hpos, hinit, hwaiting, rfl, rfl⟩
      rw [List.mem_singleton.mp hx]
      exact hc

theorem keyboardOk_interrupt (h : KeyboardOk s) (data : UInt8) :
    KeyboardOk (s.interrupt data) := by
  obtain ⟨pushed, -, hpushed, hpos, hinit, hwaiting, hqueued, harrived⟩ :=
    interrupt_spec h.positions data
  refine ⟨⟨hpos, hinit.trans h.initialized, ?_, fun c hc => ?_, h.returns⟩, h.delivered, ?_⟩
  · rw [hqueued, hwaiting, h.fifo, List.append_assoc]
    rfl
  · rw [hqueued] at hc
    rcases List.mem_append.mp hc with hc | hc
    · exact h.typed c hc
    · exact hpushed c hc
  · show s.pc.Ok (s.waiting ++ (s.interrupt data).arrived) _
    rw [harrived, hwaiting, ← List.append_assoc]
    exact h.running.append pushed

/-- A call returns. -/
theorem keyboardOk_finish (h : QueueOk s) {call : KeyboardCall} {value : KeyboardValue}
    (hok : KeyboardReturn.Ok
      { call := call, waiting := s.waiting, arrived := s.arrived, value := value })
    (hdelivered : s.taken = s.returned.flatMap KeyboardReturn.chars ++ KeyboardReturn.chars
      { call := call, waiting := s.waiting, arrived := s.arrived, value := value }) :
    KeyboardOk (s.finish call value) := by
  refine ⟨⟨h.positions, h.initialized, h.fifo, h.typed, fun r hr => ?_⟩, ?_, trivial⟩
  · rcases List.mem_append.mp hr with hr | hr
    · exact h.returns r hr
    · rw [List.mem_singleton.mp hr]
      exact hok
  · show s.taken = (s.returned ++ [_]).flatMap KeyboardReturn.chars ++ []
    rw [List.append_nil, List.flatMap_append, List.flatMap_singleton]
    exact hdelivered

/-- A call is made. -/
theorem keyboardOk_enter (h : KeyboardOk s) (hidle : s.pc = .idle) (call : KeyboardCall) :
    KeyboardOk (s.enter call) := by
  have hdelivered := h.delivered
  rw [hidle] at hdelivered
  have hqueue : QueueOk { s with waiting := s.keyboard.waiting, arrived := [] } :=
    ⟨h.positions, h.initialized, h.fifo, h.typed, h.returns⟩
  unfold KeyboardSystem.enter
  cases call with
  | getChar =>
    dsimp only
    rw [if_pos h.initialized]
    exact ⟨⟨h.positions, h.initialized, h.fifo, h.typed, h.returns⟩, hdelivered,
      Nat.one_pos, List.append_nil _, trivial⟩
  | read size =>
    dsimp only
    split
    · next hzero =>
      have hsize : size = 0 := hzero.resolve_left (by rw [h.initialized]; decide)
      subst hsize
      exact keyboardOk_finish hqueue ⟨rfl, (Nat.zero_min _).symm⟩ hdelivered
    · next hgo =>
      exact ⟨⟨h.positions, h.initialized, h.fifo, h.typed, h.returns⟩, hdelivered,
        Nat.pos_of_ne_zero fun hsize => hgo (Or.inr hsize), List.append_nil _, trivial⟩

/-- `keyboard_buffer_pop` has found the queue empty. -/
theorem keyboardOk_empty (h : QueueOk s) {call : KeyboardCall} {got : List UInt8}
    (hdelivered : s.taken = s.returned.flatMap KeyboardReturn.chars ++ got)
    (hlt : got.length < call.size) (hall : s.waiting ++ s.arrived = got) :
    KeyboardOk (s.resume call (afterPop call got 0)) := by
  cases call with
  | getChar =>
    have hgot : got = [] := List.length_eq_zero_iff.mp (Nat.lt_one_iff.mp hlt)
    subst hgot
    exact keyboardOk_finish h (Or.inl ⟨rfl, hall⟩) hdelivered
  | read size =>
    change got.length < size at hlt
    refine keyboardOk_finish h ⟨?_, ?_⟩ hdelivered
    · show got = (s.waiting ++ s.arrived).take size
      rw [hall, List.take_of_length_le (Nat.le_of_lt hlt)]
    · show got.length = min size (s.waiting.length + s.arrived.length)
      rw [← List.length_append, hall, Nat.min_eq_right (Nat.le_of_lt hlt)]

/-- `keyboard_buffer_pop` has taken a character. -/
theorem keyboardOk_taken (h : QueueOk s) {call : KeyboardCall} {got : List UInt8} {c : UInt8}
    (hc : c ≠ 0) (hdelivered : s.taken = s.returned.flatMap KeyboardReturn.chars ++ (got ++ [c]))
    (hlt : got.length < call.size)
    (hall : s.waiting ++ s.arrived = (got ++ [c]) ++ s.keyboard.waiting) :
    KeyboardOk (s.resume call (afterPop call got c)) := by
  cases call with
  | getChar =>
    have hgot : got = [] := List.length_eq_zero_iff.mp (Nat.lt_one_iff.mp hlt)
    subst hgot
    refine keyboardOk_finish h (Or.inr ⟨hc, ?_⟩) ?_
    · show (s.waiting ++ s.arrived).head? = some c
      rw [hall]
      rfl
    · unfold KeyboardReturn.chars
      dsimp only
      rw [if_neg hc]
      exact hdelivered
  | read size =>
    have hlength : (got ++ [c]).length = got.length + 1 := List.length_append
    change got.length < size at hlt
    unfold afterPop
    dsimp only
    rw [if_neg hc]
    split
    · next hroom =>
      exact ⟨⟨h.positions, h.initialized, h.fifo, h.typed, h.returns⟩, hdelivered, hroom, hall,
        trivial⟩
    · next hfull =>
      have hsize : (got ++ [c]).length = size := by omega
      refine keyboardOk_finish h ⟨?_, ?_⟩ hdelivered
      · show got ++ [c] = (s.waiting ++ s.arrived).take size
        rw [hall, ← hsize, List.take_left]
      · show (got ++ [c]).length = min size (s.waiting.length + s.arrived.length)
        rw [← List.length_append, hall, hsize, List.length_append, hsize]
        exact (Nat.min_eq_left (Nat.le_add_right _ _)).symm

/-- **A step of the reader.** -/
theorem keyboardOk_advance (h : KeyboardOk s) {call : KeyboardCall} {got : List UInt8}
    {stage : PopStage} (hpc : s.pc = .popping call got stage) :
    KeyboardOk (s.advance call got stage) := by
  have hdelivered := h.delivered
  have hrunning := h.running
  rw [hpc] at hdelivered hrunning
  obtain ⟨hlt, hall, hstage⟩ := hrunning
  cases stage with
  | check =>
    unfold KeyboardSystem.advance
    dsimp only
    split
    · next hempty =>
      rw [(waiting_eq_nil_iff h.positions).mpr hempty, List.append_nil] at hall
      exact keyboardOk_empty h.toQueueOk hdelivered hlt hall
    · next hne =>
      exact ⟨h.toQueueOk.congr rfl rfl rfl rfl, hdelivered, hlt, hall,
        fun hnil => hne ((waiting_eq_nil_iff h.positions).mp hnil)⟩
  | load =>
    refine ⟨h.toQueueOk.congr rfl rfl rfl rfl, hdelivered, hlt, hall, ?_⟩
    show s.keyboard.waiting.head? = _
    rw [(waiting_advance h.positions hstage).2]
    rfl
  | advance c =>
    have hne : s.keyboard.waiting ≠ [] := by
      intro hnil
      change s.keyboard.waiting.head? = some c at hstage
      rw [hnil] at hstage
      cases hstage
    obtain ⟨hpos, hwaiting⟩ := waiting_advance h.positions hne
    -- the character that was loaded is still the oldest one
    have hhead : s.keyboard.buffer s.keyboard.tail = c := by
      change s.keyboard.waiting.head? = some c at hstage
      rw [hwaiting] at hstage
      exact Option.some.inj hstage
    rw [hhead] at hwaiting
    have hc : c ≠ 0 := by
      refine h.typed c ?_
      rw [h.fifo, hwaiting]
      exact List.mem_append_right _ List.mem_cons_self
    have hqueue : QueueOk { s with
        keyboard := { s.keyboard with tail := (s.keyboard.tail + 1) % keyboardBufferSize }
        taken := s.taken ++ [c] } := by
      refine ⟨hpos, h.initialized, ?_, h.typed, h.returns⟩
      show s.queued = (s.taken ++ [c]) ++ _
      rw [h.fifo, hwaiting, List.append_assoc]
      rfl
    refine keyboardOk_taken hqueue hc ?_ hlt ?_
    · show s.taken ++ [c] = _
      rw [hdelivered, List.append_assoc]
      rfl
    · show s.waiting ++ s.arrived = _
      rw [hall, hwaiting, List.append_assoc]
      rfl

/-- What a step can be. -/
theorem keyboardStep_cases {a : KeyboardAction} (hs : keyboardStep s a = some s') :
    (∃ data, a = .interrupt data ∧ s' = s.interrupt data) ∨
      (∃ call, a ≠ .advance ∧ (∀ data, a ≠ .interrupt data) ∧ s.pc = .idle ∧
        s' = s.enter call) ∨
      ∃ call got stage, a = .advance ∧ s.pc = .popping call got stage ∧
        s' = s.advance call got stage := by
  unfold keyboardStep at hs
  cases a with
  | interrupt data => exact Or.inl ⟨data, rfl, (Option.some.inj hs).symm⟩
  | getChar =>
    cases hpc : s.pc with
    | idle =>
      rw [hpc] at hs
      exact Or.inr (Or.inl ⟨.getChar, nofun, nofun, rfl, (Option.some.inj hs).symm⟩)
    | popping call got stage =>
      rw [hpc] at hs
      cases hs
  | read size =>
    cases hpc : s.pc with
    | idle =>
      rw [hpc] at hs
      exact Or.inr (Or.inl ⟨.read (size.getD 0), nofun, nofun, rfl, (Option.some.inj hs).symm⟩)
    | popping call got stage =>
      rw [hpc] at hs
      cases hs
  | advance =>
    cases hpc : s.pc with
    | idle =>
      rw [hpc] at hs
      cases hs
    | popping call got stage =>
      rw [hpc] at hs
      exact Or.inr (Or.inr ⟨call, got, stage, rfl, rfl, (Option.some.inj hs).symm⟩)

theorem keyboardOk_step {a : KeyboardAction} (h : KeyboardOk s) (hs : keyboardStep s a = some s') :
    KeyboardOk s' := by
  rcases keyboardStep_cases hs with ⟨data, -, rfl⟩ | ⟨call, -, -, hidle, rfl⟩ |
    ⟨call, got, stage, -, hpc, rfl⟩
  · exact keyboardOk_interrupt h data
  · exact keyboardOk_enter h hidle call
  · exact keyboardOk_advance h hpc

/-! ## What a step does -/

theorem remaining_resume {call : KeyboardCall} {got : List UInt8} (c : UInt8)
    (hlt : got.length < call.size) :
    (s.resume call (afterPop call got c)).pc.remaining < 3 * (call.size - got.length) - 2 := by
  cases call with
  | getChar =>
    show 0 < _
    omega
  | read size =>
    change got.length < size at hlt
    have hdone : 0 < 3 * (size - got.length) - 2 := by omega
    unfold afterPop
    dsimp only
    split
    · exact hdone
    · split
      · show 3 * (size - (got ++ [c]).length) < 3 * (size - got.length) - 2
        rw [List.length_append, List.length_singleton]
        omega
      · exact hdone

/-- **Every step of the reader brings its call closer to the end.** -/
theorem remaining_advance {call : KeyboardCall} {got : List UInt8} {stage : PopStage}
    (hlt : got.length < call.size) :
    (s.advance call got stage).pc.remaining <
      (KeyboardPc.popping call got stage).remaining := by
  cases stage with
  | check =>
    unfold KeyboardSystem.advance
    dsimp only
    split
    · exact Nat.lt_of_lt_of_le (remaining_resume 0 hlt) (Nat.sub_le _ _)
    · show 3 * (call.size - got.length) - 1 < 3 * (call.size - got.length)
      omega
  | load =>
    show 3 * (call.size - got.length) - 2 < 3 * (call.size - got.length) - 1
    omega
  | advance c => exact remaining_resume c hlt

/-- A call that is not interrupted any more returns. -/
theorem keyboard_ends {s : KeyboardSystem} (h : KeyboardOk s) :
    ∃ n t, run keyboardStep s (List.replicate n .advance) = some t ∧ t.pc = .idle := by
  cases hpc : s.pc with
  | idle => exact ⟨0, s, rfl, hpc⟩
  | popping call got stage =>
    have hlt : got.length < call.size := by
      have hrunning := h.running
      rw [hpc] at hrunning
      exact hrunning.1
    have hstep : keyboardStep s .advance = some (s.advance call got stage) := by
      unfold keyboardStep
      rw [hpc]
    have hless : (s.advance call got stage).pc.remaining < s.pc.remaining := by
      rw [hpc]
      exact remaining_advance hlt
    obtain ⟨n, t, hrun, ht⟩ := keyboard_ends (keyboardOk_step h hstep)
    exact ⟨n + 1, t, run_cons_eq_some.mpr ⟨_, hstep, hrun⟩, ht⟩
termination_by s.pc.remaining

/-- What each action does. -/
def KeyboardActs (s : KeyboardSystem) (a : KeyboardAction) (s' : KeyboardSystem) : Prop :=
  match a with
  | .interrupt data =>
    let pushed := if s.keyboard.waiting.length < 255 then (keyboardHandler s.keyboard data).2.toList
      else []
    s'.keyboard.waiting = s.keyboard.waiting ++ pushed ∧ s'.queued = s.queued ++ pushed ∧
      s'.arrived = s.arrived ++ pushed ∧ s'.waiting = s.waiting ∧ s'.pc = s.pc
  | .advance => s'.pc.remaining < s.pc.remaining ∧ s'.queued = s.queued
  | _ => s'.keyboard = s.keyboard ∧ s'.queued = s.queued ∧ s'.waiting = s.keyboard.waiting ∧
      s'.arrived = []

theorem keyboardActs_enter (s : KeyboardSystem) (call : KeyboardCall) :
    (s.enter call).keyboard = s.keyboard ∧ (s.enter call).queued = s.queued ∧
      (s.enter call).waiting = s.keyboard.waiting ∧ (s.enter call).arrived = [] := by
  unfold KeyboardSystem.enter
  cases call <;> dsimp only <;> split <;> exact ⟨rfl, rfl, rfl, rfl⟩

theorem resume_queued (s : KeyboardSystem) (call : KeyboardCall) (r) :
    (s.resume call r).queued = s.queued := by
  cases r <;> rfl

theorem advance_queued (s : KeyboardSystem) (call : KeyboardCall) (got : List UInt8)
    (stage : PopStage) : (s.advance call got stage).queued = s.queued := by
  cases stage with
  | check =>
    unfold KeyboardSystem.advance
    dsimp only
    split
    · exact resume_queued ..
    · rfl
  | load => rfl
  | advance c => exact resume_queued ..

theorem keyboardActs_step {a : KeyboardAction} (h : KeyboardOk s)
    (hs : keyboardStep s a = some s') : KeyboardActs s a s' := by
  rcases keyboardStep_cases hs with ⟨data, rfl, rfl⟩ | ⟨call, hreader, hinterrupt, -, rfl⟩ |
    ⟨call, got, stage, rfl, hpc, rfl⟩
  · obtain ⟨pushed, rfl, -, -, -, hwaiting, hqueued, harrived⟩ := interrupt_spec h.positions data
    exact ⟨hwaiting, hqueued, harrived, rfl, rfl⟩
  · cases a with
    | interrupt data => exact absurd rfl (hinterrupt data)
    | getChar => exact keyboardActs_enter s call
    | read size => exact keyboardActs_enter s call
    | advance => exact absurd rfl hreader
  · have hrunning := h.running
    rw [hpc] at hrunning
    refine ⟨?_, advance_queued ..⟩
    rw [hpc]
    exact remaining_advance hrunning.1

/-! ## Main result -/

/-- A queue, first in, first out. -/
structure KeyboardFifo (s : KeyboardSystem) : Prop where
  fifo : s.queued = s.taken ++ s.keyboard.waiting
  capacity : s.keyboard.waiting.length ≤ 255
  delivered : s.taken = s.returned.flatMap KeyboardReturn.chars ++ s.pc.got
  returns : ∀ r ∈ s.returned, r.Ok
  ends : ∃ n t, run keyboardStep s (List.replicate n .advance) = some t ∧ t.pc = .idle

theorem KeyboardOk.keyboardFifo (h : KeyboardOk s) : KeyboardFifo s :=
  ⟨h.fifo, length_waiting_le s.keyboard, h.delivered, h.returns, keyboard_ends h⟩

/-- `keyboard_init` empties the queue. -/
theorem keyboardOk_boot {answer : UInt8} (hfirst : k.initialized = false)
    (hinit : keyboardInit k answer = (true, k')) : KeyboardOk (.boot k') := by
  unfold keyboardInit at hinit
  rw [hfirst, if_neg Bool.false_ne_true] at hinit
  dsimp only at hinit
  split at hinit
  · cases hinit
    exact ⟨⟨⟨by decide, by decide⟩, rfl, rfl, fun c hc => absurd hc List.not_mem_nil,
      fun r hr => absurd hr List.not_mem_nil⟩, rfl, trivial⟩
  · cases hinit

/--
**The keyboard is a queue of 255 characters, first in, first out.**

In every run of interrupts and calls, with the interrupts between any two accesses of the reader:
the characters queued are those taken followed by those waiting; those taken are those returned, in
this order; an interrupt appends the character it types, unless 255 are waiting; every call
returns, `keyboard_get_char` 0 only if the queue was empty, `keyboard_read` as many characters as there
were and as have room.
-/
theorem keyboard_queue {answer : UInt8} (hfirst : k.initialized = false)
    (hinit : keyboardInit k answer = (true, k')) (actions : List KeyboardAction) :
    Always keyboardStep KeyboardFifo (.boot k') actions ∧
      Along keyboardStep KeyboardActs (.boot k') actions :=
  have hstep : ∀ s a s', KeyboardOk s → keyboardStep s a = some s' → KeyboardOk s' :=
    fun _ _ _ => keyboardOk_step
  have hboot := keyboardOk_boot hfirst hinit
  ⟨Always.of_invariant (fun _ => KeyboardOk.keyboardFifo) hstep hboot,
    Along.of_step (fun _ _ _ => keyboardActs_step) hstep hboot⟩

/-- The static state before the first `keyboard_init`. -/
def keyboardUnset : KeyboardState where
  buffer := fun _ => 0
  head := 0
  tail := 0
  shiftPressed := false
  capsLock := false
  numLock := false
  scrollLock := false
  initialized := false

/-- The letter a, read while the letter b comes in. -/
theorem keyboard_queue_read :
    Always keyboardStep KeyboardFifo (.boot (keyboardInit keyboardUnset 0xFA).2)
        [.interrupt 30, .read (some 4), .advance, .interrupt 48, .advance] ∧
      Along keyboardStep KeyboardActs (.boot (keyboardInit keyboardUnset 0xFA).2)
        [.interrupt 30, .read (some 4), .advance, .interrupt 48, .advance] :=
  keyboard_queue rfl (rfl : keyboardInit keyboardUnset 0xFA = (true, _)) _

end MayaOs.Drivers
