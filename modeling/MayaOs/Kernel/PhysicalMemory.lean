import MayaOs.Lib.ByteMemory

/-!
# The memory map of the boot loader (`kernel/memory.c`)

`struct memory_map` has a 64-bit base address, a 64-bit length and a 32-bit type. The base address
is not looked at. The reads of the map are recorded, each as an address and a number of bytes.
-/

namespace MayaOs.Kernel

open MayaOs.Lib

/-- What `pmm_init` reads of `struct multiboot_info`. -/
structure MultibootInfo where
  flags : UInt32
  mmapLength : UInt32
  mmapAddr : UInt32
  deriving Repr, DecidableEq

/-- The static variables `memory_map`, an address, and `total_memory`. -/
structure PhysicalMemory where
  memoryMap : Nat
  totalMemory : Nat
  deriving Repr, DecidableEq

/-- The 64-bit value at `a`. -/
def doubleWord (m : ByteMemory) (a : Nat) : Nat := word m a + 2 ^ 32 * word m (a + 4)

/-- `memory_map->length`. -/
def recordLength (m : ByteMemory) (memoryMap : Nat) : Nat := doubleWord m (memoryMap + 8)

/-- `memory_map->type`. -/
def recordType (m : ByteMemory) (memoryMap : Nat) : Nat := word m (memoryMap + 16)

/-- The reads of one round; the length is read a second time when the type is 1. -/
def recordReads (memoryMap : Nat) : List (Nat × Nat) := [(memoryMap + 16, 4), (memoryMap + 8, 8)]

/-- "Calculate total available memory", `none` when the loop is still going after so many rounds. -/
def pmmLoop (m : ByteMemory) (mmapEnd : Nat) :
    Nat → PhysicalMemory → Option (PhysicalMemory × List (Nat × Nat))
  | 0, _ => none
  | fuel + 1, s =>
    if s.memoryMap < mmapEnd then
      let total := if recordType m s.memoryMap = 1 then
        wrap32 (s.totalMemory + recordLength m s.memoryMap) else s.totalMemory
      (pmmLoop m mmapEnd fuel
        { memoryMap := wrap32 (s.memoryMap + recordLength m s.memoryMap + 4)
          totalMemory := total }).map fun r => (r.1, recordReads s.memoryMap ++ r.2)
    else some (s, [])

/-- `pmm_init`, NULL as `none`; the result, the variables and the reads. -/
def pmmInit (m : ByteMemory) (fuel : Nat) (s : PhysicalMemory) (mbi : Option MultibootInfo) :
    Option (Bool × PhysicalMemory × List (Nat × Nat)) :=
  match mbi with
  | none => some (false, s, [])
  | some mbi =>
    if mbi.flags &&& 0x40 = 0 then some (false, s, [])
    else
      let mmapEnd := wrap32 (mbi.mmapAddr.toNat + mbi.mmapLength.toNat)
      (pmmLoop m mmapEnd fuel { memoryMap := mbi.mmapAddr.toNat, totalMemory := 0 }).map
        fun r => (true, r)

end MayaOs.Kernel
