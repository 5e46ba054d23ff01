import MayaOs.Drivers.Serial
import MayaOs.Drivers.Vga

/-!
# Formatted output (`libc/stdio.c`)

`long` and pointers have 32 bits. `output` are the characters that `vprintf` gives to `putchar`; what
`putchar` does with them on the screen and on the serial port comes last.

Left out: `sprintf` and `snprintf`.
-/

namespace MayaOs.Libc

open MayaOs.Lib

/-- `MAX_NUMBER_LENGTH` -/
def maxNumberLength : Nat := 32

/-- What `va_arg` finds: a word, or a pointer to a string, `none` for NULL. -/
inductive VaArg where
  | word (w : UInt32)
  | str (s : Option (List UInt8))
  deriving Repr, DecidableEq

/-! ## Numbers -/

/-- "0123456789ABCDEF" and "0123456789abcdef" -/
def digitsUpper : List UInt8 := [48, 49, 50, 51, 52, 53, 54, 55, 56, 57, 65, 66, 67, 68, 69, 70]
def digitsLower : List UInt8 := [48, 49, 50, 51, 52, 53, 54, 55, 56, 57, 97, 98, 99, 100, 101, 102]

def digit (uppercase : Bool) (d : Nat) : UInt8 :=
  (if uppercase then digitsUpper else digitsLower).getD d 0

/-- The loop of `print_number` that fills the buffer from its end, with so many cells left. -/
def numberLoop (base : Nat) (uppercase : Bool) : Nat → Nat → List UInt8 → List UInt8
  | 0, _, text => text
  | room + 1, num, text =>
    if 0 < num then numberLoop base uppercase room (num / base) (digit uppercase (num % base) :: text)
    else text

/-- `print_number`, and the characters that it prints. -/
def printNumber (num : UInt32) (base : Nat) (isSigned uppercase : Bool) : List UInt8 :=
  let negative := isSigned && decide (num.toInt32 < 0)
  let num := if negative then -num else num
  (if negative then [45] else []) ++
    if num = 0 then [48] else numberLoop base uppercase (maxNumberLength - 1) num.toNat []

/-! ### The buffer of `print_number`

`printNumber` builds the text directly; here are the buffer and the pointer that the source moves
through it. -/

/-- The loop over `num`, with `ptr` at such an index; `none` when it writes before the start. -/
def fillNumber (base : Nat) (uppercase : Bool) :
    Nat → Nat → (Nat → UInt8) → Option (Nat × (Nat → UInt8))
  | 0, num, buffer => if 0 < num then none else some (0, buffer)
  | ptr + 1, num, buffer =>
    if 0 < num then
      fillNumber base uppercase ptr (num / base)
        (Function.update buffer ptr (digit uppercase (num % base)))
    else some (ptr + 1, buffer)

/-- The loop over `*ptr`; `none` when it reads past the end. -/
def putBuffer : List UInt8 → Option (List UInt8)
  | [] => none
  | c :: cells => if c = 0 then some [] else (putBuffer cells).map (c :: ·)

/-- `print_number` with its buffer, whose cells hold anything at first. -/
def printNumberBuffer (buffer : Nat → UInt8) (num : UInt32) (base : Nat)
    (isSigned uppercase : Bool) : Option (List UInt8) :=
  let ptr := maxNumberLength - 1
  let buffer := Function.update buffer ptr 0
  let negative := isSigned && decide (num.toInt32 < 0)
  let num := if negative then -num else num
  let sign : List UInt8 := if negative then [45] else []
  if num = 0 then some (sign ++ [48])
  else
    (fillNumber base uppercase ptr num.toNat buffer).bind fun (ptr, buffer) =>
      (putBuffer (((List.range maxNumberLength).map buffer).drop ptr)).map (sign ++ ·)

/-! ## Formats -/

structure VprintfState where
  written : Int32
  inFormat : Bool
  longArg : Bool
  uppercase : Bool
  zeroPad : Bool
  minWidth : Int32
  args : List VaArg
  output : List UInt8
  deriving Repr, DecidableEq

/-- `va_arg` for an `int`, a `long` or one of the unsigned types; `none` if there is no such
argument. -/
def VprintfState.takeWord (s : VprintfState) : Option (UInt32 × VprintfState) :=
  match s.args with
  | .word w :: args => some (w, { s with args := args })
  | _ => none

def VprintfState.takeStr (s : VprintfState) : Option (Option (List UInt8) × VprintfState) :=
  match s.args with
  | .str p :: args => some (p, { s with args := args })
  | _ => none

/-- Prints and counts, and leaves the directive. -/
def VprintfState.emit (s : VprintfState) (text : List UInt8) (count : Nat) : VprintfState :=
  { s with
    output := s.output ++ text
    written := s.written + Int32.ofNat count
    inFormat := false }

/-- "(null)" -/
def nullText : List UInt8 := [40, 110, 117, 108, 108, 41]

/-- A character of a directive. -/
def vprintfDirective (s : VprintfState) (c : UInt8) : Option VprintfState :=
  -- 'l'
  if c = 108 then some { s with longArg := true }
  -- '0' falls through to the other digits if not at the start of the width
  else if c = 48 ∧ s.minWidth = 0 then some { s with zeroPad := true }
  else if 48 ≤ c ∧ c ≤ 57 then
    some { s with minWidth := s.minWidth * 10 + Int32.ofNat (c.toNat - 48) }
  -- 'd' and 'i'
  else if c = 100 ∨ c = 105 then
    s.takeWord.map fun (w, s) => s.emit (printNumber w 10 true false) 1
  -- 'u'
  else if c = 117 then s.takeWord.map fun (w, s) => s.emit (printNumber w 10 false false) 1
  -- 'x' and 'X'
  else if c = 120 ∨ c = 88 then
    let uppercase := decide (c = 88)
    let s := { s with uppercase := uppercase }
    s.takeWord.map fun (w, s) => s.emit (printNumber w 16 false uppercase) 1
  -- 'c'
  else if c = 99 then s.takeWord.map fun (w, s) => s.emit [w.toUInt8] 1
  -- 's'
  else if c = 115 then
    s.takeStr.map fun (p, s) =>
      let str := cString (p.getD nullText)
      s.emit str str.length
  -- 'p'
  else if c = 112 then
    s.takeWord.map fun (w, s) => s.emit ([48, 120] ++ printNumber w 16 false false) 1
  else if c = 37 then some (s.emit [37] 1)
  else some (s.emit [37, c] 2)

/-- One turn of the loop of `vprintf`. -/
def vprintfChar (s : VprintfState) (c : UInt8) : Option VprintfState :=
  if s.inFormat then vprintfDirective s c
  else if c = 37 then
    some
      { s with
        inFormat := true
        longArg := false
        uppercase := false
        zeroPad := false
        minWidth := 0 }
  else some { s with output := s.output ++ [c], written := s.written + 1 }

/-- `vprintf`: the characters, and what it returns; `none` when `va_arg` does not find what it is to
find. The format is not NULL. -/
def vprintf (initialized : Bool) (format : List UInt8) (args : List VaArg) :
    Option (List UInt8 × Int) :=
  if initialized then
    ((cString format).foldlM vprintfChar
      { written := 0
        inFormat := false
        longArg := false
        uppercase := false
        zeroPad := false
        minWidth := 0
        args := args
        output := [] }).map fun s => (s.output, s.written.toInt)
  else some ([], -1)

/-! ## The console -/

open MayaOs.Drivers

/-- `stdio_initialized`, and the drivers. -/
structure Console where
  initialized : Bool
  vga : VgaState
  serial : Serial

def com1Port : UInt16 := 0x3F8

def eof : Int32 := -1

/-- `vga_init` always returns true. -/
def stdioInit (s : Console) : Bool × Console :=
  if s.initialized then (true, s)
  else
    let vga := vgaInit s.vga
    let (ok, serial) := serialInit s.serial com1Port
    if ok then (true, { initialized := true, vga := vga, serial := serial })
    else (false, { s with vga := vga, serial := serial })

def putchar (s : Console) (c : Int32) : Int32 × Console :=
  if s.initialized = false then (eof, s)
  else
    let ch := c.toInt8.toUInt8
    (c, { s with vga := vgaPutchar s.vga ch, serial := (serialWrite s.serial com1Port (some [ch])).2 })

/-- A `char`, which is signed, as an `int`. -/
def charToInt (c : UInt8) : Int32 := c.toInt8.toInt32

/-- The loop of `puts`, and whether it came to its end. -/
def putsLoop : Console → List UInt8 → Bool × Console
  | s, [] => (true, s)
  | s, c :: str =>
    let (r, s) := putchar s (charToInt c)
    if r = eof then (false, s) else putsLoop s str

def puts (s : Console) (str : Option (List UInt8)) : Int32 × Console :=
  match str with
  | none => (eof, s)
  | some str =>
    if s.initialized = false then (eof, s)
    else
      match putsLoop s (cString str) with
      | (false, s) => (eof, s)
      | (true, s) => (1, (putchar s 10).2)

/-- `printf`; `none` as for `vprintf`. -/
def printf (s : Console) (format : Option (List UInt8)) (args : List VaArg) :
    Option (Int × Console) :=
  match format with
  | none => some (-1, s)
  | some format =>
    (vprintf s.initialized format args).map fun (text, n) =>
      (n, text.foldl (fun s c => (putchar s (charToInt c)).2) s)

inductive ConsoleCall where
  | init
  | putchar (c : Int32)
  | puts (str : Option (List UInt8))
  | printf (format : Option (List UInt8)) (args : List VaArg)
  deriving Repr, DecidableEq

/-- A call, and what it returns. -/
def consoleCall (s : Console) : ConsoleCall → Option (Int × Console)
  | .init => some (if (stdioInit s).1 then 1 else 0, (stdioInit s).2)
  | .putchar c => some ((putchar s c).1.toInt, (putchar s c).2)
  | .puts str => some ((puts s str).1.toInt, (puts s str).2)
  | .printf format args => printf s format args

def consoleCalls : Console → List ConsoleCall → Option (List Int × Console)
  | s, [] => some ([], s)
  | s, c :: cs => do
    let (r, s) ← consoleCall s c
    let (rs, s) ← consoleCalls s cs
    return (r :: rs, s)

end MayaOs.Libc
