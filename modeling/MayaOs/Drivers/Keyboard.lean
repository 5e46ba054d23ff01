import MayaOs.Lib.RingBuffer

/-!
# The keyboard (`drivers/keyboard.c`)

The handler is a step; `keyboard_get_char` and `keyboard_read` are cut at the comparison, the load and
the store of `keyboard_buffer_pop`, so that an interrupt may come between any two of them.

In the tables of the source the control characters and the quotes are not escaped; they are taken for
what stands between the quotes.

Left out: the wait for the controller, the installation of the handler, `keyboard_cleanup`. The
callback gets the character that `keyboard_handler` gives back.
-/

namespace MayaOs.Drivers

open MayaOs.Lib

def keyboardBufferSize : Nat := 256
def keyReleaseBit : UInt8 := 0x80

/-- `keyboard_state`. -/
structure KeyboardState where
  buffer : Nat → UInt8
  head : Nat
  tail : Nat
  shiftPressed : Bool
  capsLock : Bool
  numLock : Bool
  scrollLock : Bool
  initialized : Bool

/-! ## The layout -/

/-- "US QWERTY keyboard layout scancode mapping" -/
def scancodeToAscii : List UInt8 :=
  [0, 27, 49, 50, 51, 52, 53, 54, 55, 56, 57, 48, 45, 61, 8,
    9, 113, 119, 101, 114, 116, 121, 117, 105, 111, 112, 91, 93, 10,
    0, 97, 115, 100, 102, 103, 104, 106, 107, 108, 59, 39, 96,
    0, 92, 122, 120, 99, 118, 98, 110, 109, 44, 46, 47, 0,
    42, 0, 32, 0, 0, 0, 0, 0, 0, 0, 0, 0, 0, 0, 0, 0,
    0, 0, 0, 0, 0, 0, 0, 0, 0, 0, 0, 0, 0, 0, 0, 0]

def scancodeToAsciiShift : List UInt8 :=
  [0, 27, 33, 64, 35, 36, 37, 94, 38, 42, 40, 41, 95, 43, 8,
    9, 81, 87, 69, 82, 84, 89, 85, 73, 79, 80, 123, 125, 10,
    0, 65, 83, 68, 70, 71, 72, 74, 75, 76, 58, 34, 126,
    0, 124, 90, 88, 67, 86, 66, 78, 77, 60, 62, 63, 0,
    42, 0, 32, 0, 0, 0, 0, 0, 0, 0, 0, 0, 0, 0, 0, 0,
    0, 0, 0, 0, 0, 0, 0, 0, 0, 0, 0, 0, 0, 0, 0, 0]

/-- A letter from a to z or from A to Z. -/
def isLetter (c : UInt8) : Bool := (97 ≤ c && c ≤ 122) || (65 ≤ c && c ≤ 90)

/-! ## Interrupts -/

def keyboardBufferPush (s : KeyboardState) (c : UInt8) : KeyboardState :=
  let next := (s.head + 1) % keyboardBufferSize
  if next = s.tail then s
  else { s with buffer := Function.update s.buffer s.head c, head := next }

/-- `keyboard_handler` for what it reads from the data port, and the character that is typed. -/
def keyboardHandler (s : KeyboardState) (data : UInt8) : KeyboardState × Option UInt8 :=
  let released := data &&& keyReleaseBit != 0
  let scancode := data &&& ~~~ keyReleaseBit
  -- the two shift keys
  if scancode = 0x2A ∨ scancode = 0x36 then ({ s with shiftPressed := !released }, none)
  else if scancode = 0x3A then
    (if released then s else { s with capsLock := !s.capsLock }, none)
  else if scancode = 0x45 then
    (if released then s else { s with numLock := !s.numLock }, none)
  else if scancode = 0x46 then
    (if released then s else { s with scrollLock := !s.scrollLock }, none)
  else if released = false ∧ scancode.toNat < scancodeToAscii.length then
    let c := if s.shiftPressed then scancodeToAsciiShift.getD scancode.toNat 0
      else scancodeToAscii.getD scancode.toNat 0
    if c = 0 then (s, none)
    else
      let c := if s.capsLock && isLetter c then c ^^^ 0x20 else c
      (keyboardBufferPush s c, some c)
  else (s, none)

/-- `keyboard_init`, with the answer of the keyboard to the reset. -/
def keyboardInit (s : KeyboardState) (answer : UInt8) : Bool × KeyboardState :=
  if s.initialized then (true, s)
  else
    let s : KeyboardState :=
      { buffer := fun _ => 0
        head := 0
        tail := 0
        shiftPressed := false
        capsLock := false
        numLock := false
        scrollLock := false
        initialized := false }
    if answer = 0xFA then (true, { s with initialized := true }) else (false, s)

/-! ## The reader -/

inductive KeyboardCall where
  | getChar
  | read (size : Nat)
  deriving Repr, DecidableEq

/-- What a call returns; `keyboard_read` has also filled its buffer. -/
inductive KeyboardValue where
  | char (c : UInt8)
  | read (buffer : List UInt8)
  deriving Repr, DecidableEq

/-- Where the reader is in `keyboard_buffer_pop`. -/
inductive PopStage where
  /-- about to compare `tail` with `head` -/
  | check
  /-- about to read the character at `tail` -/
  | load
  /-- about to move `tail` on -/
  | advance (c : UInt8)
  deriving Repr, DecidableEq

inductive KeyboardPc where
  | idle
  /-- `got` are the characters that `keyboard_read` has stored so far -/
  | popping (call : KeyboardCall) (got : List UInt8) (stage : PopStage)
  deriving Repr, DecidableEq

/-- A call that is over: what was waiting when it was made, what was queued until it returned. -/
structure KeyboardReturn where
  call : KeyboardCall
  waiting : List UInt8
  arrived : List UInt8
  value : KeyboardValue
  deriving Repr, DecidableEq

/-- `keyboard_buffer_pop` has given `c` to the call: the value it returns, or the characters with which
its loop goes on. -/
def afterPop (call : KeyboardCall) (got : List UInt8) (c : UInt8) : KeyboardValue ⊕ List UInt8 :=
  match call with
  | .getChar => .inl (.char c)
  | .read size =>
    if c = 0 then .inl (.read got)
    else if (got ++ [c]).length < size then .inr (got ++ [c])
    else .inl (.read (got ++ [c]))

/-- The characters in the queue, oldest first. -/
def KeyboardState.ring (s : KeyboardState) : RingBuffer UInt8 where
  buffer := s.buffer
  readPos := s.tail
  writePos := s.head
  count := (keyboardBufferSize - s.tail + s.head) % keyboardBufferSize

def KeyboardState.waiting (s : KeyboardState) : List UInt8 :=
  s.ring.contents keyboardBufferSize

/--
The driver and its reader. `queued` and `taken` are the characters put in the queue and taken out of it
so far, `waiting` those that were in it when the running call was made, `arrived` those put in since.
-/
structure KeyboardSystem where
  keyboard : KeyboardState
  pc : KeyboardPc
  queued : List UInt8
  taken : List UInt8
  waiting : List UInt8
  arrived : List UInt8
  returned : List KeyboardReturn

def KeyboardSystem.boot (keyboard : KeyboardState) : KeyboardSystem where
  keyboard := keyboard
  pc := .idle
  queued := []
  taken := []
  waiting := []
  arrived := []
  returned := []

inductive KeyboardAction where
  | interrupt (data : UInt8)
  | getChar
  /-- `none` for a NULL buffer -/
  | read (size : Option Nat)
  | advance
  deriving Repr, DecidableEq

/-- The handler runs, wherever the reader is. -/
def KeyboardSystem.interrupt (s : KeyboardSystem) (data : UInt8) : KeyboardSystem :=
  let (keyboard, typed) := keyboardHandler s.keyboard data
  let pushed := if keyboard.head = s.keyboard.head then [] else typed.toList
  { s with
    keyboard := keyboard
    queued := s.queued ++ pushed
    arrived := s.arrived ++ pushed }

def KeyboardSystem.finish (s : KeyboardSystem) (call : KeyboardCall) (value : KeyboardValue) :
    KeyboardSystem :=
  { s with
    pc := .idle
    returned := s.returned ++
      [{ call := call, waiting := s.waiting, arrived := s.arrived, value := value }] }

def KeyboardSystem.resume (s : KeyboardSystem) (call : KeyboardCall) :
    KeyboardValue ⊕ List UInt8 → KeyboardSystem
  | .inl value => s.finish call value
  | .inr got => { s with pc := .popping call got .check }

/-- The beginning of a call. -/
def KeyboardSystem.enter (s : KeyboardSystem) (call : KeyboardCall) : KeyboardSystem :=
  let s := { s with waiting := s.keyboard.waiting, arrived := [] }
  match call with
  | .getChar =>
    if s.keyboard.initialized then { s with pc := .popping .getChar [] .check }
    else s.finish .getChar (.char 0)
  | .read size =>
    if s.keyboard.initialized = false ∨ size = 0 then s.finish (.read size) (.read [])
    else { s with pc := .popping (.read size) [] .check }

/-- One step of `keyboard_buffer_pop`. -/
def KeyboardSystem.advance (s : KeyboardSystem) (call : KeyboardCall) (got : List UInt8) :
    PopStage → KeyboardSystem
  | .check =>
    if s.keyboard.tail = s.keyboard.head then s.resume call (afterPop call got 0)
    else { s with pc := .popping call got .load }
  | .load => { s with pc := .popping call got (.advance (s.keyboard.buffer s.keyboard.tail)) }
  | .advance c =>
    let keyboard :=
      { s.keyboard with tail := (s.keyboard.tail + 1) % keyboardBufferSize }
    { s with keyboard := keyboard, taken := s.taken ++ [c] }.resume call (afterPop call got c)

def keyboardStep (s : KeyboardSystem) (a : KeyboardAction) : Option KeyboardSystem :=
  match a, s.pc with
  | .interrupt data, _ => some (s.interrupt data)
  | .getChar, .idle => some (s.enter .getChar)
  | .read size, .idle => some (s.enter (.read (size.getD 0)))
  | .advance, .popping call got stage => some (s.advance call got stage)
  | _, _ => none

end MayaOs.Drivers
