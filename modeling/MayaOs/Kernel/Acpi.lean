import MayaOs.Lib.ByteMemory

/-!
# The ACPI tables (`kernel/acpi.c`)

Addresses are `uint32_t`, 0 is NULL. The memory does not change.

Left out: `acpi_enable`, `acpi_shutdown`, and the fields of the FADT.
-/

namespace MayaOs.Kernel

open MayaOs.Lib

/-- `n` bytes of memory. -/
def bytesAt (m : ByteMemory) (a n : Nat) : List UInt8 :=
  (List.range n).map fun i => m (wrap32 (a + i))

/-- "RSD PTR " -/
def acpiRsdpSignature : List UInt8 := [0x52, 0x53, 0x44, 0x20, 0x50, 0x54, 0x52, 0x20]
/-- "FACP" -/
def acpiFadtSignature : List UInt8 := [0x46, 0x41, 0x43, 0x50]

/-- The sizes of `acpi_rsdp_t` and `acpi_header_t`. -/
def acpiRsdpSize : Nat := 20
def acpiHeaderSize : Nat := 36

-- the fields that are used

def acpiRsdtAddress (m : ByteMemory) (rsdp : Nat) : Nat := word m (rsdp + 16)
def acpiSignature (m : ByteMemory) (table : Nat) : List UInt8 := bytesAt m table 4
def acpiLength (m : ByteMemory) (table : Nat) : Nat := word m (table + 4)

/-- `rsdt->tables[i]`. -/
def acpiEntry (m : ByteMemory) (rsdt i : Nat) : Nat := word m (rsdt + acpiHeaderSize + 4 * i)

/-- `acpi_state`. -/
structure AcpiState where
  rsdp : Nat
  rsdt : Nat
  fadt : Nat
  initialized : Bool
  deriving Repr, DecidableEq

def acpiValidateTable (m : ByteMemory) (table length : Nat) : Bool :=
  (bytesAt m table length).foldl (· + ·) 0 == 0

/-- The table has the signature, and its bytes add up to 0. -/
def acpiAccepts (m : ByteMemory) (signature : List UInt8) (table : Nat) : Bool :=
  acpiSignature m table == signature && acpiValidateTable m table (acpiLength m table)

/-- The loop of `acpi_find_table` with `n` entries to go, from the entry `i` on: the result, and the
entries that were read. -/
def acpiFindLoop (m : ByteMemory) (rsdt : Nat) (signature : List UInt8) :
    Nat → Nat → Nat × List Nat
  | 0, _ => (0, [])
  | n + 1, i =>
    if acpiAccepts m signature (acpiEntry m rsdt i) then (acpiEntry m rsdt i, [i])
    else
      let (table, reads) := acpiFindLoop m rsdt signature n (i + 1)
      (table, i :: reads)

/-- `entries`; the subtraction is one of unsigned numbers. -/
def acpiEntryCount (m : ByteMemory) (rsdt : Nat) : Nat :=
  wrap32 (2 ^ 32 - acpiHeaderSize + acpiLength m rsdt) / 4

/-- `acpi_find_table`, and the entries that it reads. -/
def acpiFindTable (m : ByteMemory) (rsdt : Nat) (signature : List UInt8) : Nat × List Nat :=
  acpiFindLoop m rsdt signature (acpiEntryCount m rsdt) 0

/-- "Search for RSDP in BIOS memory areas". -/
def acpiSearchRsdp (m : ByteMemory) : Option Nat :=
  ((List.range 0x2000).map fun i => 0xE0000 + 16 * i).find? fun a =>
    bytesAt m a 8 == acpiRsdpSignature

def acpiInit (m : ByteMemory) (s : AcpiState) : Bool × AcpiState :=
  if s.initialized then (true, s)
  else
    let s := { s with rsdp := (acpiSearchRsdp m).getD s.rsdp }
    if s.rsdp = 0 then (false, s)
    else if acpiValidateTable m s.rsdp acpiRsdpSize = false then (false, s)
    else
      let s := { s with rsdt := acpiRsdtAddress m s.rsdp }
      if acpiValidateTable m s.rsdt (acpiLength m s.rsdt) = false then (false, s)
      else
        let s := { s with fadt := (acpiFindTable m s.rsdt acpiFadtSignature).1 }
        if s.fadt = 0 then (false, s) else (true, { s with initialized := true })

def acpiGetTable (m : ByteMemory) (s : AcpiState) (signature : List UInt8) : Nat :=
  if s.initialized then (acpiFindTable m s.rsdt signature).1 else 0

end MayaOs.Kernel
