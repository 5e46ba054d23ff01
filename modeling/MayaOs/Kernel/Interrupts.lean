import MayaOs.Lib.ByteMemory

/-!
# The interrupt table (`kernel/interrupts.c`)

The table `idt` is in memory, so that it can be compared with what `lidt` in `boot/idt.asm` loads.
The two interrupt controllers take the initialisation words, masks and ends of interrupts that the
source sends them.

* `idtInstall` — the gates, the controllers, and the load of the table
* `isrHandler`, `irqHandler` — what the C handlers do with the number of an interrupt
* `Pics.accept` — whether the controllers let a line through, and for which vector

Left out: the log and the texts on the screen, the reads of the interrupt flag.
-/

namespace MayaOs.Kernel

open MayaOs.Lib

/-! ## The table -/

def storeHalf (m : ByteMemory) (a : Nat) (v : UInt16) : ByteMemory :=
  storeByte (storeByte m a v.toUInt8) (a + 1) (v >>> 8).toUInt8

def half (m : ByteMemory) (a : Nat) : UInt16 :=
  (m (wrap32 a)).toUInt16 + 256 * (m (wrap32 (a + 1))).toUInt16

/-- `struct idt_entry`. -/
structure IdtEntry where
  baseLo : UInt16
  sel : UInt16
  always0 : UInt8
  flags : UInt8
  baseHi : UInt16
  deriving Repr, DecidableEq

def idtEntryAt (m : ByteMemory) (a : Nat) : IdtEntry where
  baseLo := half m a
  sel := half m (a + 2)
  always0 := m (wrap32 (a + 4))
  flags := m (wrap32 (a + 5))
  baseHi := half m (a + 6)

/-- Where the processor goes through the gate. -/
def IdtEntry.offset (e : IdtEntry) : UInt32 := e.baseLo.toUInt32 + 65536 * e.baseHi.toUInt32

/-- `struct idt_ptr`. -/
structure IdtPtr where
  limit : UInt16
  base : UInt32
  deriving Repr, DecidableEq

/-- `idt_set_gate` on the table at `idt`. -/
def idtSetGate (idt : Nat) (m : ByteMemory) (num : UInt8) (base : UInt32) (sel : UInt16)
    (flags : UInt8) : ByteMemory :=
  let a := idt + 8 * num.toNat
  let m := storeHalf m a (base &&& 0xFFFF).toUInt16
  let m := storeHalf m (a + 6) ((base >>> 16) &&& 0xFFFF).toUInt16
  let m := storeHalf m (a + 2) sel
  let m := storeByte m (a + 4) 0
  storeByte m (a + 5) flags

/-! ## The interrupt controllers -/

inductive InitWord where
  | icw2
  | icw3
  | icw4
  deriving Repr, DecidableEq

structure Pic where
  vectorBase : UInt8
  mask : UInt8
  /-- the lines between an acknowledge and the end of the interrupt -/
  inService : List Nat
  autoEnd : Bool
  /-- what the data port takes next; a mask when there is nothing -/
  awaiting : List InitWord
  deriving Repr, DecidableEq

/-- The command port: `ICW1`, or the end of the interrupt with the highest priority. -/
def Pic.command (p : Pic) (v : UInt8) : Pic :=
  if v &&& 0x10 ≠ 0 then
    { p with
      mask := 0
      autoEnd := false
      awaiting := .icw2 :: ((if v &&& 2 = 0 then [.icw3] else []) ++
        if v &&& 1 = 0 then [] else [.icw4]) }
  else if v = 0x20 then { p with inService := p.inService.erase (p.inService.foldl min 7) }
  else p

def Pic.data (p : Pic) (v : UInt8) : Pic :=
  match p.awaiting with
  | [] => { p with mask := v }
  | .icw2 :: ws => { p with vectorBase := v &&& 0xF8, awaiting := ws }
  | .icw3 :: ws => { p with awaiting := ws }
  | .icw4 :: ws => { p with autoEnd := v &&& 2 ≠ 0, awaiting := ws }

/-- A line goes through if it is not masked and no line of the same or a higher priority is served. -/
def Pic.accepts (p : Pic) (line : Nat) : Bool :=
  p.awaiting.isEmpty && !p.mask.toBitVec.getLsbD line && p.inService.all fun l => line < l

def Pic.acknowledge (p : Pic) (line : Nat) : Pic :=
  if p.autoEnd then p else { p with inService := line :: p.inService }

/-- Line 2 of the first controller comes from the second. -/
structure Pics where
  pic1 : Pic
  pic2 : Pic
  deriving Repr, DecidableEq

def pic1Command : UInt16 := 0x20
def pic1Data : UInt16 := 0x21
def pic2Command : UInt16 := 0xA0
def pic2Data : UInt16 := 0xA1

def Pics.outb (p : Pics) (port : UInt16) (v : UInt8) : Pics :=
  if port = pic1Command then { p with pic1 := p.pic1.command v }
  else if port = pic1Data then { p with pic1 := p.pic1.data v }
  else if port = pic2Command then { p with pic2 := p.pic2.command v }
  else if port = pic2Data then { p with pic2 := p.pic2.data v }
  else p

/-- The vector for a line from 0 to 15, when the processor acknowledges it. -/
def Pics.accept (p : Pics) (irq : Nat) : Option (UInt8 × Pics) :=
  if irq < 8 then
    if p.pic1.accepts irq then
      some (p.pic1.vectorBase + UInt8.ofNat irq, { p with pic1 := p.pic1.acknowledge irq })
    else none
  else if p.pic2.accepts (irq - 8) && p.pic1.accepts 2 then
    some (p.pic2.vectorBase + UInt8.ofNat (irq - 8),
      { pic1 := p.pic1.acknowledge 2, pic2 := p.pic2.acknowledge (irq - 8) })
  else none

/-! ## The state -/

/-- The addresses of the table and of the stubs. -/
structure InterruptLinkage where
  idt : Nat
  isr : Nat → UInt32
  irq : Nat → UInt32

/-- `interruptHandlers` has 256 entries, NULL is 0; behind them lies something else. -/
structure InterruptState where
  mem : ByteMemory
  idtp : IdtPtr
  /-- what `lidt` has loaded -/
  idtr : Option IdtPtr
  interruptHandlers : Nat → UInt32
  interruptsInitialized : Bool
  pics : Pics

variable (ln : InterruptLinkage)

/-- "Remap PIC" -/
def remapWrites : List (UInt16 × UInt8) :=
  [(pic1Command, 0x11), (pic2Command, 0x11), (pic1Data, 0x20), (pic2Data, 0x28), (pic1Data, 0x04),
    (pic2Data, 0x02), (pic1Data, 0x01), (pic2Data, 0x01), (pic1Data, 0x0), (pic2Data, 0x0)]

def Pics.outbs (p : Pics) (ws : List (UInt16 × UInt8)) : Pics :=
  ws.foldl (fun p w => p.outb w.1 w.2) p

/-- The stubs in the order in which their gates are set. -/
def InterruptLinkage.stub (n : Nat) : UInt32 := if n < 32 then ln.isr n else ln.irq (n - 32)

def installGates (m : ByteMemory) : ByteMemory :=
  (List.range 48).foldl (fun m n => idtSetGate ln.idt m (UInt8.ofNat n) (ln.stub n) 0x08 0x8E) m

/-- The operand of `lidt` in `boot/idt.asm`, which has a label `idtp` of its own. -/
def asmIdtp : IdtPtr where
  limit := 2048
  base := 0

/-- `idt_load` -/
def idtLoad (s : InterruptState) : InterruptState := { s with idtr := some asmIdtp }

def idtInstall (s : InterruptState) : InterruptState :=
  if s.interruptsInitialized then s
  else
    let s := { s with
      idtp := { limit := 8 * 256 - 1, base := UInt32.ofNat ln.idt }
      mem := memset s.mem ln.idt 0 (8 * 256)
      interruptHandlers := fun n => if n < 256 then 0 else s.interruptHandlers n
      pics := s.pics.outbs remapWrites }
    let s := { s with mem := installGates ln s.mem }
    let s := idtLoad s
    { s with interruptsInitialized := true }

/-! ## Handlers -/

def registerInterruptHandler (s : InterruptState) (n : UInt8) (handler : UInt32) : InterruptState :=
  { s with interruptHandlers := Function.update s.interruptHandlers n.toNat handler }

/-- The number goes into a `uint8_t` when it is registered. -/
def irqInstallHandler (s : InterruptState) (irq : Int) (handler : UInt32) : InterruptState × Bool :=
  if irq < 0 ∨ 256 ≤ irq ∨ handler = 0 then (s, false)
  else (registerInterruptHandler s (UInt8.ofNat irq.toNat) handler, true)

def irqUninstallHandler (s : InterruptState) (irq : Int) : InterruptState :=
  if 0 ≤ irq ∧ irq < 256 then
    { s with interruptHandlers := Function.update s.interruptHandlers irq.toNat 0 }
  else s

/-- The handler that `isr_handler` calls; without one it only reports the exception. -/
def isrHandler (s : InterruptState) (intNo : UInt32) : Option UInt32 :=
  let handler := s.interruptHandlers intNo.toNat
  if handler ≠ 0 then some handler else none

/-- "Send EOI to PICs", then the handler that `irq_handler` calls. -/
def irqHandler (s : InterruptState) (intNo : UInt32) : InterruptState × Option UInt32 :=
  let pics := if 40 ≤ intNo then s.pics.outb pic2Command 0x20 else s.pics
  let s := { s with pics := pics.outb pic1Command 0x20 }
  let handler := s.interruptHandlers intNo.toNat
  (s, if handler ≠ 0 then some handler else none)

/-! ## Runs -/

inductive InterruptEvent where
  | idtInstall
  | registerInterruptHandler (n : UInt8) (handler : UInt32)
  | irqInstallHandler (irq : Int) (handler : UInt32)
  | irqUninstallHandler (irq : Int)
  /-- a line from 0 to 15 of the two controllers -/
  | interrupt (irq : Nat)
  /-- a line that is gone when the processor acknowledges it: line 7, or line 15 for `true` -/
  | spurious (second : Bool)
  /-- a store of the rest of the kernel -/
  | store (x : Nat) (v : UInt8)
  deriving Repr, DecidableEq

/-- Interrupts are served one after another, they are disabled until `irq_handler` has ended them. -/
def interruptStep (s : InterruptState) : InterruptEvent → Option InterruptState
  | .idtInstall => some (idtInstall ln s)
  | .registerInterruptHandler n handler => some (registerInterruptHandler s n handler)
  | .irqInstallHandler irq handler => some (irqInstallHandler s irq handler).1
  | .irqUninstallHandler irq => some (irqUninstallHandler s irq)
  | .interrupt irq =>
    if s.interruptsInitialized ∧ irq < 16 then
      (s.pics.accept irq).map fun (vector, pics) =>
        (irqHandler { s with pics := pics } vector.toUInt32).1
    else none
  | .spurious second =>
    if s.interruptsInitialized then
      if second then
        some (irqHandler { s with
          pics := { s.pics with pic1 := s.pics.pic1.acknowledge 2 } }
            (s.pics.pic2.vectorBase + 7).toUInt32).1
      else some (irqHandler s (s.pics.pic1.vectorBase + 7).toUInt32).1
    else none
  | .store x v =>
    if x < 2 ^ 32 ∧ (x < ln.idt ∨ ln.idt + 2048 ≤ x) then
      some { s with mem := Function.update s.mem x v }
    else none

/-- The gate that the processor takes for a vector. -/
def processorGate (s : InterruptState) (v : Nat) : Option IdtEntry :=
  s.idtr.bind fun p =>
    if 8 * v + 7 ≤ p.limit.toNat then some (idtEntryAt s.mem (p.base.toNat + 8 * v)) else none

end MayaOs.Kernel
