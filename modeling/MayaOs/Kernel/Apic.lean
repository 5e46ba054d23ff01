import MayaOs.Kernel.Acpi

/-!
# The entries of the MADT (`kernel/apic.c`)

A pointer into the table is its offset from `madt`: a table does not go past the end of the address
space.

Left out: the MSR and the registers of the APIC, the page tables (`memory_map_physical` gives the
address back).
-/

namespace MayaOs.Kernel

open MayaOs.Lib

/-- "APIC" -/
def acpiMadtSignature : List UInt8 := [0x41, 0x50, 0x49, 0x43]

/-- The sizes of `acpi_madt_t`, `madt_entry_header_t`, `madt_lapic_entry_t` and
`madt_ioapic_entry_t`. -/
def madtSize : Nat := 44
def madtEntryHeaderSize : Nat := 2
def madtLapicEntrySize : Nat := 8
def madtIoapicEntrySize : Nat := 12

/-- `apic_state`. -/
structure ApicState where
  apicBase : Nat
  ioapicBase : Nat
  bspApicId : Nat
  initialized : Bool
  deriving Repr, DecidableEq

section Entry

variable (m : ByteMemory) (madt entry : Nat)

def madtByte (o : Nat) : UInt8 := m (wrap32 (madt + o))

def madtEntryType : UInt8 := madtByte m madt entry
def madtEntryLength : Nat := (madtByte m madt (entry + 1)).toNat

/-- The bytes that the entry is taken for. -/
def madtRecordSize : Nat :=
  if madtEntryType m madt entry = 0 then madtLapicEntrySize
  else if madtEntryType m madt entry = 1 then madtIoapicEntrySize
  else madtEntryHeaderSize

/-- The `switch` of `apic_init`. -/
def madtEntry (s : ApicState) : ApicState :=
  if madtEntryType m madt entry = 0 then
    let flags := word m (madt + entry + 4)
    let acpiProcessorId := madtByte m madt (entry + 2)
    if flags % 2 = 1 ∧ acpiProcessorId = 0 then
      { s with bspApicId := (madtByte m madt (entry + 3)).toNat }
    else s
  else if madtEntryType m madt entry = 1 then { s with ioapicBase := word m (madt + entry + 4) }
  else s

end Entry

/-- A part of the table that is read. -/
structure MadtRead where
  offset : Nat
  size : Nat
  deriving Repr, DecidableEq

/-- The loop of `apic_init`, and what it reads; `none`: it is still going after `n` steps. -/
def madtWalk (m : ByteMemory) (madt : Nat) :
    Nat → Nat → ApicState → Option (ApicState × List MadtRead)
  | 0, _, _ => none
  | n + 1, entry, s =>
    if entry < acpiLength m madt then
      (madtWalk m madt n (entry + madtEntryLength m madt entry) (madtEntry m madt entry s)).map
        fun (t, reads) => (t, ⟨entry, madtRecordSize m madt entry⟩ :: reads)
    else some (s, [])

/-- `apic_init`; `none`: its loop is still going after `n` steps. -/
def apicInit (n : Nat) (m : ByteMemory) (acpi : AcpiState) (s : ApicState) :
    Option (Bool × ApicState) :=
  if s.initialized then some (true, s)
  else
    let madt := acpiGetTable m acpi acpiMadtSignature
    if madt = 0 then some (false, s)
    else
      -- `madt->local_apic_addr`
      let s := { s with apicBase := word m (madt + acpiHeaderSize) }
      if s.apicBase = 0 then some (false, s)
      else (madtWalk m madt n madtSize s).map fun (t, _) => (true, { t with initialized := true })

end MayaOs.Kernel
