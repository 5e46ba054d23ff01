import MayaOs.Kernel.Syscall
import MayaOs.Lib.WordStack

/-!
# The interrupt stubs (`boot/idt.asm`)

The instructions of `isr0` to `isr31`, `irq0` to `irq15`, `isr_common_stub` and `irq_common_stub`, a
processor that executes them, and what the processor does by itself when an interrupt arrives. The
kernel has no task state segment, so an interrupt arrives in ring 0 and the stack stays the same.

* `isrStub`, `irqStub` — the text up to the call of the C handler
* `commonReturn` — the text after the call
* `Processor.deliver`, `Processor.call` — what the processor and the C handler do
* `serveInterrupt` — all of it, up to `iret`
-/

namespace MayaOs.Kernel

open MayaOs.Lib

/-! ## The processor -/

/-- The registers that the stubs have to do with; `sp` is `esp`. -/
structure Processor extends WordStack where
  eax : UInt32
  ecx : UInt32
  edx : UInt32
  ebx : UInt32
  ebp : UInt32
  esi : UInt32
  edi : UInt32
  ds : UInt16
  es : UInt16
  fs : UInt16
  gs : UInt16
  cs : UInt16
  eip : UInt32
  eflags : UInt32

inductive SegmentRegister where
  | ds
  | es
  | fs
  | gs
  deriving Repr, DecidableEq

def Processor.segment (c : Processor) : SegmentRegister → UInt16
  | .ds => c.ds
  | .es => c.es
  | .fs => c.fs
  | .gs => c.gs

def Processor.setSegment (c : Processor) (v : UInt16) : SegmentRegister → Processor
  | .ds => { c with ds := v }
  | .es => { c with es := v }
  | .fs => { c with fs := v }
  | .gs => { c with gs := v }

/-- What the text of the stubs leaves to the processor, the linker and the compiler. -/
structure Platform where
  /-- A selector is pushed with zeros above it; other processors leave those two bytes alone. -/
  zeroExtends : Bool
  /-- the flags after an addition -/
  addFlags : UInt32 → UInt32 → UInt32 → UInt32
  /-- the address of the C handler -/
  handler : UInt32
  /-- the address behind the `call` -/
  returnAddress : UInt32
  /-- what is done from the entry of the function at an address to its `ret`, inclusive -/
  function : UInt32 → Processor → Processor

variable (pl : Platform)

def Processor.push (c : Processor) (w : UInt32) : Processor := { c with toWordStack := c.toWordStack.push w }

def Processor.pop (c : Processor) : Processor := { c with toWordStack := c.toWordStack.pop }

/-- The word on the stack after a selector has been pushed. -/
def Platform.selectorWord (s : WordStack) (v : UInt16) : UInt32 :=
  if pl.zeroExtends then v.toUInt32
  else v.toUInt32 + 65536 * UInt32.ofNat (word s.mem (s.sp - 4).toNat / 65536)

def Processor.pushSelector (c : Processor) (v : UInt16) : Processor := c.push (pl.selectorWord c.toWordStack v)

def interruptFlag : UInt32 := 0x200

/-- The trap flag, the interrupt flag, and the flags NT, RF and VM. -/
def gateClears : UInt32 := 0x34300

/-- An interrupt through an interrupt gate, with an error code for some vectors. -/
def Processor.deliver (sel : UInt16) (base : UInt32) (err : Option UInt32) (c : Processor) : Processor :=
  let c₁ := ((c.push c.eflags).pushSelector pl c.cs).push c.eip
  let c₂ := match err with
    | some e => c₁.push e
    | none => c₁
  { c₂ with cs := sel, eip := base, eflags := c.eflags &&& ~~~gateClears }

/-! ## The instructions -/

inductive StubInstruction where
  | cli
  | pushByte (v : UInt8)
  | pusha
  | popa
  | pushSegment (r : SegmentRegister)
  | popSegment (r : SegmentRegister)
  | movAx (v : UInt16)
  | movSegmentAx (r : SegmentRegister)
  | movEaxEsp
  | pushEax
  | popEax
  /-- `mov eax, isr_handler` -/
  | movEaxHandler
  | callEax
  | addEsp (v : UInt32)
  | iret
  deriving Repr, DecidableEq

/-- A byte on the stack is sign-extended. -/
def signExtend (v : UInt8) : UInt32 := if v < 0x80 then v.toUInt32 else v.toUInt32 + 0xFFFFFF00

def Processor.call (c : Processor) (f : UInt32) : Processor := pl.function f (c.push pl.returnAddress)

/-- `pusha` pushes the `esp` that it finds, `popa` skips it. -/
def StubInstruction.exec (c : Processor) : StubInstruction → Processor
  | .cli => { c with eflags := c.eflags &&& ~~~interruptFlag }
  | .pushByte v => c.push (signExtend v)
  | .pusha =>
    { c with toWordStack :=
      c.toWordStack.pushAll [c.eax, c.ecx, c.edx, c.ebx, c.sp, c.ebp, c.esi, c.edi] }
  | .popa =>
    let s₁ := c.toWordStack
    let s₂ := s₁.pop
    let s₃ := s₂.pop
    let s₅ := s₃.pop.pop
    let s₆ := s₅.pop
    let s₇ := s₆.pop
    let s₈ := s₇.pop
    { c with
      toWordStack := s₈.pop
      edi := s₁.top
      esi := s₂.top
      ebp := s₃.top
      ebx := s₅.top
      edx := s₆.top
      ecx := s₇.top
      eax := s₈.top }
  | .pushSegment r => c.pushSelector pl (c.segment r)
  | .popSegment r => c.pop.setSegment c.top.toUInt16 r
  | .movAx v => { c with eax := c.eax &&& 0xFFFF0000 ||| v.toUInt32 }
  | .movSegmentAx r => c.setSegment c.eax.toUInt16 r
  | .movEaxEsp => { c with eax := c.sp }
  | .pushEax => c.push c.eax
  | .popEax => { c.pop with eax := c.top }
  | .movEaxHandler => { c with eax := pl.handler }
  | .callEax => c.call pl c.eax
  | .addEsp v => { c with sp := c.sp + v, eflags := pl.addFlags c.eflags c.sp v }
  | .iret =>
    { c.pop.pop.pop with
      eip := c.top
      cs := c.pop.top.toUInt16
      eflags := c.pop.pop.top }

def execAll (c : Processor) (is : List StubInstruction) : Processor := is.foldl (StubInstruction.exec pl) c

/-! ## The stubs -/

/-- `ISR_NOERRCODE` -/
def isrNoerrcode (n : UInt8) : List StubInstruction := [.cli, .pushByte 0, .pushByte n]

/-- `ISR_ERRCODE` -/
def isrErrcode (n : UInt8) : List StubInstruction := [.cli, .pushByte n]

/-- `IRQ`; the first argument only names the stub. -/
def irqMacro (_ : Nat) (n : UInt8) : List StubInstruction := [.cli, .pushByte 0, .pushByte n]

/-- The vectors whose stubs are made by `ISR_ERRCODE`. -/
def errcodeVectors : List UInt8 := [8, 10, 11, 12, 13, 14]

/-- `isr_common_stub` and `irq_common_stub` up to the call. -/
def commonCall : List StubInstruction :=
  [.pusha, .pushSegment .ds, .pushSegment .es, .pushSegment .fs, .pushSegment .gs, .movAx 0x10,
    .movSegmentAx .ds, .movSegmentAx .es, .movSegmentAx .fs, .movSegmentAx .gs, .movEaxEsp,
    .pushEax, .movEaxHandler]

/-- The rest of them behind the call. -/
def commonReturn : List StubInstruction :=
  [.popEax, .popSegment .gs, .popSegment .fs, .popSegment .es, .popSegment .ds, .popa, .addEsp 8,
    .iret]

/-- `isr0` to `isr31` are entered for the vectors of these numbers. -/
def isrStub (n : UInt8) : List StubInstruction :=
  if n ∈ errcodeVectors then isrErrcode n else isrNoerrcode n

/-- `irq0` to `irq15` -/
def irqStub (k : Nat) : List StubInstruction := irqMacro k (UInt8.ofNat (32 + k))

/-- The stub of a vector below 48. -/
def vectorStub (n : UInt8) : List StubInstruction :=
  if n < 32 then isrStub n else irqStub (n.toNat - 32)

/-- An interrupt up to the entry of the C handler. -/
def enterHandler (sel : UInt16) (base : UInt32) (n : UInt8) (err : Option UInt32) (c : Processor) :
    Processor :=
  (execAll pl (c.deliver pl sel base err) (vectorStub n ++ commonCall)).push pl.returnAddress

/-- An interrupt up to `iret`. -/
def serveInterrupt (sel : UInt16) (base : UInt32) (n : UInt8) (err : Option UInt32) (c : Processor) :
    Processor :=
  execAll pl (c.deliver pl sel base err) (vectorStub n ++ commonCall ++ [.callEax] ++ commonReturn)

/-! ## `struct registers` -/

/-- The structure at `p`. Without a change of the ring `useresp` and `ss` are what lies above it. -/
def registersAt (m : ByteMemory) (p : Nat) : Registers :=
  let field i := UInt32.ofNat (word m (p + 4 * i))
  { gs := field 0, fs := field 1, es := field 2, ds := field 3, edi := field 4, esi := field 5,
    ebp := field 6, esp := field 7, ebx := field 8, edx := field 9, ecx := field 10,
    eax := field 11, intNo := field 12, errCode := field 13, eip := field 14, cs := field 15,
    eflags := field 16, useresp := field 17, ss := field 18 }

/-- All registers of the structure but `esp`. -/
def Processor.load (c : Processor) (r : Registers) : Processor :=
  { c with
    gs := r.gs.toUInt16
    fs := r.fs.toUInt16
    es := r.es.toUInt16
    ds := r.ds.toUInt16
    edi := r.edi
    esi := r.esi
    ebp := r.ebp
    ebx := r.ebx
    edx := r.edx
    ecx := r.ecx
    eax := r.eax
    eip := r.eip
    cs := r.cs.toUInt16
    eflags := r.eflags }

/-- The argument of a C function at its entry, above the return address. -/
def Processor.argument (c : Processor) : Nat := word c.mem (c.sp.toNat + 4)

end MayaOs.Kernel
