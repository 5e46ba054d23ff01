import MayaOs.Drivers.Ata
import MayaOs.Fs.Fat32

/-!
# Mounting a FAT32 volume (`fs/fat32.c`)

`fat32_init` and `fat32_cleanup`, with the heap blocks they take and give back. A block is a number;
the outcomes of the calls of `kmalloc` to come are a list, and a call without an outcome fails. The
entries of `fat_table` are those that were read from the disk.

* `fat32Init_cases` — everything a call for an unmounted volume can do
-/

namespace MayaOs.Fs

open MayaOs.Lib

/-! ## The boot sector -/

def fat32Signature : UInt16 := 0xAA55

/-- A sector with the signature of a boot sector. -/
structure BootSector where
  bytes : Bytes
  length_bytes : bytes.length = 512
  signature : u16At bytes 510 = fat32Signature

-- the fields of `fat32_boot_sector_t` that are used

def sectorsPerCluster (sector : Bytes) : UInt8 := byteAt sector 13
def reservedSectors (sector : Bytes) : UInt16 := u16At sector 14
def numFats (sector : Bytes) : UInt8 := byteAt sector 16
def totalSectors32 (sector : Bytes) : UInt32 := u32At sector 32
def sectorsPerFat32 (sector : Bytes) : UInt32 := u32At sector 36
def rootCluster (sector : Bytes) : UInt32 := u32At sector 44

/-- `sizeof(fat32_boot_sector_t)`. -/
def bootSectorSize : UInt32 := 90

/-! ## The heap -/

inductive HeapCall where
  | kmalloc (block : Nat)
  | kfree (block : Nat)
  deriving Repr, DecidableEq

/-- The outcomes of `kmalloc` to come, and the calls so far. -/
structure FatHeap where
  outcomes : List (Option Nat)
  calls : List HeapCall

def FatHeap.kmalloc (heap : FatHeap) (size : UInt32) : Option Nat × FatHeap :=
  if size = 0 then (none, heap)
  else
    match heap.outcomes with
    | [] => (none, heap)
    | none :: rest => (none, { heap with outcomes := rest })
    | some block :: rest =>
      (some block, { outcomes := rest, calls := heap.calls ++ [.kmalloc block] })

def FatHeap.kfree (heap : FatHeap) (block : Nat) : FatHeap :=
  { heap with calls := heap.calls ++ [.kfree block] }

/-! ## fat32_init and fat32_cleanup -/

/-- The static variables; a pointer is a block. -/
structure Fat32Driver where
  fs : Fat32Fs
  bootSector : Option Nat
  fatTable : Option Nat
  clusterBuffer : Option Nat

inductive MountFault where
  | divideError
  | memory (fault : Fault)
  deriving Repr, DecidableEq

/-- The 32-bit words of a buffer. -/
def words32 (data : Bytes) : List UInt32 :=
  (List.range (data.length / 4)).map fun i => u32At data (4 * i)

/-- `fat32_fs` after "Calculate filesystem parameters". -/
def withGeometry (fs : Fat32Fs) (sector : Bytes) : Fat32Fs :=
  let dataStart := (reservedSectors sector).toUInt32 +
    (numFats sector).toUInt32 * sectorsPerFat32 sector
  { fs with
    rootCluster := rootCluster sector
    sectorsPerCluster := sectorsPerCluster sector
    dataStart := dataStart
    clustersCount := (totalSectors32 sector - dataStart) / (sectorsPerCluster sector).toUInt32 }

/-- `read` is `ata_read_sectors` for the drive, `boot` what it gives for the boot sector. -/
def fat32InitFrom (s : Fat32Driver) (boot : Option Bytes) (read : UInt32 → UInt8 → Option Bytes)
    (heap : FatHeap) : Except MountFault (Bool × Fat32Driver × FatHeap) :=
  if s.fs.mounted then .ok (true, s, heap)
  else
    match heap.kmalloc 512 with
    | (none, heap) => .ok (false, { s with clusterBuffer := none }, heap)
    | (some buffer, heap) =>
      let s := { s with clusterBuffer := some buffer }
      match boot with
      | none => .ok (false, s, heap.kfree buffer)
      | some sector =>
        match heap.kmalloc bootSectorSize with
        | (none, heap) => .ok (false, { s with bootSector := none }, heap.kfree buffer)
        | (some boot, heap) =>
          let s := { s with bootSector := some boot }
          if u16At sector 510 ≠ fat32Signature then .ok (false, s, (heap.kfree boot).kfree buffer)
          else if sectorsPerCluster sector = 0 then .error .divideError
          else
            let s := { s with fs := withGeometry s.fs sector }
            let fatSectors := sectorsPerFat32 sector
            match heap.kmalloc (fatSectors * 512) with
            | (none, heap) =>
              .ok (false, { s with fatTable := none }, (heap.kfree boot).kfree buffer)
            | (some table, heap) =>
              let s := { s with fatTable := some table }
              -- the number of sectors is a `uint8_t`
              match read (reservedSectors sector).toUInt32 fatSectors.toUInt8 with
              | none => .ok (false, s, ((heap.kfree table).kfree boot).kfree buffer)
              | some data =>
                if (fatSectors * 512).toNat < data.length then
                  .error (.memory (.outOfBounds (fatSectors * 512).toNat))
                else
                  .ok (true,
                    { s with
                      fs := { s.fs with
                        fatTable := words32 data, mounted := true, ataReadSectors := read } },
                    heap)

/-- The drive gives the same for the boot sector at any time. -/
def fat32Init (s : Fat32Driver) (read : UInt32 → UInt8 → Option Bytes) (heap : FatHeap) :
    Except MountFault (Bool × Fat32Driver × FatHeap) :=
  fat32InitFrom s (read 0 1) read heap

/-- `fat32_fs` after `memset`. -/
def Fat32Fs.zero (fs : Fat32Fs) : Fat32Fs where
  rootCluster := 0
  sectorsPerCluster := 0
  fatTable := []
  dataStart := 0
  clustersCount := 0
  mounted := false
  ataReadSectors := fs.ataReadSectors

/-- `if (p) kfree(p);`. -/
def FatHeap.kfreeIfSet (heap : FatHeap) : Option Nat → FatHeap
  | none => heap
  | some block => heap.kfree block

def fat32Cleanup (s : Fat32Driver) (heap : FatHeap) : Fat32Driver × FatHeap :=
  if s.fs.mounted = false then (s, heap)
  else
    ({ s with fs := s.fs.zero, bootSector := none, fatTable := none },
      ((heap.kfreeIfSet s.bootSector).kfreeIfSet s.fatTable).kfreeIfSet s.clusterBuffer)

/-! ## What a call does -/

/-- The ways a call for an unmounted volume can end. -/
inductive InitResult (s : Fat32Driver) (read : UInt32 → UInt8 → Option Bytes) :
    Except MountFault (Bool × Fat32Driver × FatHeap) → Prop where
  | refused (s' : Fat32Driver) (heap : FatHeap) (hfs : s'.fs.mounted = false) :
    InitResult s read (.ok (false, s', heap))
  | divideError (sector : Bytes) (hread : read 0 1 = some sector)
    (hzero : sectorsPerCluster sector = 0) : InitResult s read (.error .divideError)
  | overflow (sector data : Bytes) (fault : Fault)
    (hdata : read (reservedSectors sector).toUInt32 (sectorsPerFat32 sector).toUInt8 = some data)
    (hlong : (sectorsPerFat32 sector * 512).toNat < data.length) :
    InitResult s read (.error (.memory fault))
  | mounted (s' : Fat32Driver) (heap : FatHeap) (sector data : Bytes)
    (hread : read 0 1 = some sector) (hpos : sectorsPerCluster sector ≠ 0)
    (hdata : read (reservedSectors sector).toUInt32 (sectorsPerFat32 sector).toUInt8 = some data)
    (hfs : s'.fs = { withGeometry s.fs sector with
      fatTable := words32 data, mounted := true, ataReadSectors := read }) :
    InitResult s read (.ok (true, s', heap))

/-- **There are no others.** -/
theorem fat32Init_cases {s : Fat32Driver} (hs : s.fs.mounted = false)
    (read : UInt32 → UInt8 → Option Bytes) (heap : FatHeap) :
    InitResult s read (fat32Init s read heap) := by
  unfold fat32Init fat32InitFrom
  rw [if_neg (by rw [hs]; decide)]
  rcases heap.kmalloc 512 with ⟨- | buffer, heap₁⟩
  · exact .refused _ _ hs
  · dsimp only
    cases hread : read 0 1 with
    | none => exact .refused _ _ hs
    | some sector =>
      dsimp only
      rcases heap₁.kmalloc bootSectorSize with ⟨- | boot, heap₂⟩
      · exact .refused _ _ hs
      · dsimp only
        by_cases hsig : u16At sector 510 ≠ fat32Signature
        · rw [if_pos hsig]
          exact .refused _ _ hs
        · rw [if_neg hsig]
          by_cases hzero : sectorsPerCluster sector = 0
          · rw [if_pos hzero]
            exact .divideError sector hread hzero
          · rw [if_neg hzero]
            rcases heap₂.kmalloc (sectorsPerFat32 sector * 512) with ⟨- | table, heap₃⟩
            · exact .refused _ _ hs
            · dsimp only
              cases hdata : read (reservedSectors sector).toUInt32
                  (sectorsPerFat32 sector).toUInt8 with
              | none => exact .refused _ _ hs
              | some data =>
                dsimp only
                split
                · next hlong => exact .overflow sector data _ hdata hlong
                · exact .mounted _ _ sector data hread hzero hdata rfl

end MayaOs.Fs
