import MayaOs.Lib.Bytes

/-!
# The disk (`drivers/ata.c`)

What `ata_read_sectors` transfers, without the registers it goes through. The source has three
prototypes of it; here it has the arguments and the result of its definition.

* `length_ataReadSectors` — a successful call reads whole sectors
-/

namespace MayaOs.Drivers

open MayaOs.Lib

/-- The contents of a disk, in sectors of 512 bytes. -/
structure Disk where
  sector : Nat → Bytes
  length_sector : ∀ n, (sector n).length = 512

/-- `count` sectors from `lba` on. -/
def Disk.sectors (d : Disk) (lba count : Nat) : Bytes :=
  (List.range count).flatMap fun i => d.sector (lba + i)

theorem Disk.length_sectors (d : Disk) (lba count : Nat) :
    (d.sectors lba count).length = 512 * count := by
  rw [Disk.sectors, List.length_flatMap, List.map_congr_left fun i _ => d.length_sector _,
    List.map_const', List.sum_replicate_nat, List.length_range, Nat.mul_comm]

/-- A disk that starts with the sector `first` and is 0 elsewhere. -/
def Disk.startingWith (first : Bytes) (h : first.length = 512) : Disk where
  sector n := if n = 0 then first else List.replicate 512 0
  length_sector n := by
    split
    · exact h
    · exact List.length_replicate

structure AtaState where
  initialized : Bool
  disk : Disk

/-- Sector `lba` and those behind it; 28 bits of `lba` go to the drive. -/
def ataReadSectors (s : AtaState) (lba : UInt32) (sectorCount : UInt8) : Option Bytes :=
  if s.initialized = false ∨ sectorCount = 0 then none
  else some (s.disk.sectors (lba.toNat % 2 ^ 28) sectorCount.toNat)

theorem length_ataReadSectors {s : AtaState} {lba : UInt32} {sectorCount : UInt8} {data : Bytes}
    (h : ataReadSectors s lba sectorCount = some data) : data.length = 512 * sectorCount.toNat := by
  unfold ataReadSectors at h
  split at h
  · cases h
  · cases h
    exact s.disk.length_sectors _ _

theorem ataReadSectors_eq {s : AtaState} (h : s.initialized = true) (lba : UInt32)
    {sectorCount : UInt8} (hcount : sectorCount ≠ 0) :
    ataReadSectors s lba sectorCount =
      some (s.disk.sectors (lba.toNat % 2 ^ 28) sectorCount.toNat) := by
  refine if_neg ?_
  rw [h]
  simpa using hcount

/-- The first sector. -/
theorem ataReadSectors_first {s : AtaState} (h : s.initialized = true) :
    ataReadSectors s 0 1 = some (s.disk.sector 0) := by
  rw [ataReadSectors_eq h 0 (by decide)]
  simp [Disk.sectors]

theorem eq_of_ataReadSectors_first {s : AtaState} {data : Bytes}
    (h : ataReadSectors s 0 1 = some data) : data = s.disk.sector 0 := by
  cases hinit : s.initialized with
  | false =>
    unfold ataReadSectors at h
    rw [if_pos (Or.inl hinit)] at h
    cases h
  | true =>
    rw [ataReadSectors_first hinit] at h
    exact (Option.some.inj h).symm

end MayaOs.Drivers
