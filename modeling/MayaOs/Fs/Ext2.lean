import MayaOs.Drivers.Ata

/-!
# ext2 (`fs/ext2.c`)

`ext2_init` and `ext2_read_inode`. The structures have their standard layout. The disk driver is a
parameter: the three arguments and the result that `ext2.c` expects of `ata_read_sectors` are those
of `ata.c`, but `ata.h` declares another function, and the test after the first call takes 0 for
success. The number of sectors is a `uint8_t` in both. A call of `kmalloc` without an outcome on the
list fails.
-/

namespace MayaOs.Fs

open MayaOs.Lib MayaOs.Drivers

/-! ## The disk driver -/

/-- `read` gives the result of a call and what it has transferred, if anything. -/
structure SectorDriver where
  /-- `ata_get_sector_size()` -/
  sectorSize : UInt32
  sectorSize_eq : sectorSize = 512
  read : UInt32 → UInt8 → UInt32 × Option Bytes
  length_read : ∀ lba count data, (read lba count).2 = some data →
    data.length = 512 * count.toNat

/-- The driver of `ata.c`, where true is success. -/
def ataDriver (s : AtaState) : SectorDriver where
  sectorSize := 512
  sectorSize_eq := rfl
  read lba count :=
    (if (ataReadSectors s lba count).isSome then 1 else 0, ataReadSectors s lba count)
  length_read _ _ _ h := length_ataReadSectors h

/-- A driver that never fails, and reports `ok` after each call. -/
def diskDriver (disk : Disk) (ok : UInt32) : SectorDriver where
  sectorSize := 512
  sectorSize_eq := rfl
  read lba count := (ok, some (disk.sectors lba.toNat count.toNat))
  length_read _ _ data h := by
    cases h
    exact disk.length_sectors _ _

/-! ## The structures -/

def ext2SuperMagic : UInt16 := 0xEF53

-- the fields of `ext2_superblock_t` that are used

def sInodesCount (superblock : Bytes) : UInt32 := u32At superblock 0
def sBlocksCount (superblock : Bytes) : UInt32 := u32At superblock 4
def sLogBlockSize (superblock : Bytes) : UInt32 := u32At superblock 24
def sBlocksPerGroup (superblock : Bytes) : UInt32 := u32At superblock 32
def sInodesPerGroup (superblock : Bytes) : UInt32 := u32At superblock 40
def sMagic (superblock : Bytes) : UInt16 := u16At superblock 56
def sInodeSize (superblock : Bytes) : UInt16 := u16At superblock 88

/-- `sizeof(ext2_bgd_t)`. -/
def bgdSize : UInt32 := 32

/-- `sizeof(ext2_inode_t)`. -/
def inodeRecordSize : Nat := 128

/-- `ext2_state`. -/
structure Ext2State where
  superblock : Bytes
  blockGroupDescs : Bytes
  blockSize : UInt32
  blockGroupCount : UInt32
  initialized : Bool

inductive Ext2Fault where
  | divideError
  /-- the disk driver writes behind the buffer -/
  | bufferOverflow
  | memory (fault : Fault)
  deriving Repr, DecidableEq

/-! ## ext2_read_block -/

/-- A block of memory; the outcomes to come are its former contents, or `none`. -/
def kmallocBlock (allocs : List (Option (Nat → UInt8))) (size : UInt32) :
    Option Bytes × List (Option (Nat → UInt8)) :=
  if size = 0 then (none, allocs)
  else
    match allocs with
    | [] => (none, [])
    | none :: rest => (none, rest)
    | some junk :: rest => (some ((List.range size.toNat).map junk), rest)

/-- The result is the one of the driver, as a `bool`. -/
def ext2ReadBlock (s : Ext2State) (driver : SectorDriver) (block : UInt32) (buffer : Bytes) :
    Except Ext2Fault (Bool × Bytes) :=
  let sectorsPerBlock := s.blockSize / driver.sectorSize
  let r := driver.read (block * sectorsPerBlock) sectorsPerBlock.toUInt8
  match r.2 with
  | none => .ok (r.1 != 0, buffer)
  | some data =>
    if buffer.length < data.length then .error .bufferOverflow
    else .ok (r.1 != 0, data ++ buffer.drop data.length)

/-! ## ext2_init -/

/-- The variables after the superblock has been read. -/
def withSuperblock (s : Ext2State) (driver : SectorDriver) : Ext2State :=
  { s with
    superblock :=
      (driver.read (1024 / driver.sectorSize) (1024 / driver.sectorSize).toUInt8).2.getD
        s.superblock }

/-- The shift takes five bits of `s_log_block_size`, as the processor does. -/
def ext2BlockSize (superblock : Bytes) : UInt32 := 1024 <<< sLogBlockSize superblock

def ext2BlockGroupCount (superblock : Bytes) : UInt32 :=
  (sBlocksCount superblock + sBlocksPerGroup superblock - 1) / sBlocksPerGroup superblock

/-- `ext2_init` from the block size on. -/
def ext2ReadGroups (s : Ext2State) (driver : SectorDriver)
    (allocs : List (Option (Nat → UInt8))) :
    Except Ext2Fault (Bool × Ext2State × List (Option (Nat → UInt8))) :=
  let s := { s with blockSize := ext2BlockSize s.superblock }
  if sBlocksPerGroup s.superblock = 0 then .error .divideError
  else
    let s := { s with blockGroupCount := ext2BlockGroupCount s.superblock }
    match kmallocBlock allocs (s.blockGroupCount * bgdSize) with
    | (none, allocs) => .ok (false, { s with blockGroupDescs := [] }, allocs)
    | (some descs, allocs) =>
      if s.blockSize = 0 then .error .divideError
      else
        match ext2ReadBlock s driver (2048 / s.blockSize) descs with
        | .error fault => .error fault
        | .ok (false, _) => .ok (false, { s with blockGroupDescs := [] }, allocs)
        | .ok (true, descs) =>
          .ok (true, { s with blockGroupDescs := descs, initialized := true }, allocs)

def ext2Init (s : Ext2State) (driver : SectorDriver) (allocs : List (Option (Nat → UInt8))) :
    Except Ext2Fault (Bool × Ext2State × List (Option (Nat → UInt8))) :=
  if s.initialized then .ok (true, s, allocs)
  else
    let status := (driver.read (1024 / driver.sectorSize) (1024 / driver.sectorSize).toUInt8).1
    let s := withSuperblock s driver
    -- `ata_read_sectors(...) != 0` is taken for a failure
    if status ≠ 0 then .ok (false, s, allocs)
    else if sMagic s.superblock ≠ ext2SuperMagic then .ok (false, s, allocs)
    else ext2ReadGroups s driver allocs

/-! ## ext2_read_inode -/

def inodeGroup (s : Ext2State) (inodeNum : UInt32) : UInt32 :=
  (inodeNum - 1) / sInodesPerGroup s.superblock

/-- Where the record is in the table of its group, in bytes. -/
def inodeOffset (s : Ext2State) (inodeNum : UInt32) : UInt32 :=
  (inodeNum - 1) % sInodesPerGroup s.superblock * (sInodeSize s.superblock).toUInt32

/-- The record, if the call returns true. -/
def ext2ReadInode (s : Ext2State) (driver : SectorDriver) (inodeNum : UInt32)
    (allocs : List (Option (Nat → UInt8))) :
    Except Ext2Fault (Option Bytes × List (Option (Nat → UInt8))) :=
  if inodeNum = 0 then .ok (none, allocs)
  else if sInodesPerGroup s.superblock = 0 then .error .divideError
  else
    match read32 s.blockGroupDescs (32 * (inodeGroup s inodeNum).toNat + 8) with
    | .error fault => .error (.memory fault)
    | .ok table =>
      match kmallocBlock allocs s.blockSize with
      | (none, allocs) => .ok (none, allocs)
      | (some buffer, allocs) =>
        if s.blockSize = 0 then .error .divideError
        else
          let offset := inodeOffset s inodeNum
          match ext2ReadBlock s driver (table + offset / s.blockSize) buffer with
          | .error fault => .error fault
          | .ok (false, _) => .ok (none, allocs)
          | .ok (true, buffer) =>
            match slice buffer (offset % s.blockSize).toNat inodeRecordSize with
            | .error fault => .error (.memory fault)
            | .ok record => .ok (some record, allocs)

end MayaOs.Fs
