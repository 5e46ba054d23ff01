import MayaOs.Properties.Ext2Safety

/-!
# Mounting a valid ext2 file system

What a file system on a disk contains, and what `ext2_init` and `ext2_read_inode` should find in it.
The first call of `ata_read_sectors` is tested for 0, the second one for something else than 0.

* `readStatus_ne_of_init` — `ext2_init` returns true only if the driver reports its two reads
  differently
* `never_works` — with a driver that reports success in one way, no valid image is ever mounted
* `smallVolume_refused` — a valid image, with the driver of `ata.c`
-/

namespace MayaOs.Fs

open MayaOs.Lib MayaOs.Drivers

/-! ## Valid images -/

/-- The bytes of a disk from an offset on. -/
def diskBytes (disk : Disk) (offset length : Nat) : Bytes :=
  (List.range length).map fun i =>
    byteAt (disk.sector ((offset + i) / 512)) ((offset + i) % 512)

def sFirstDataBlock (superblock : Bytes) : UInt32 := u32At superblock 20

/-- A block in bytes. -/
def exactBlockSize (superblock : Bytes) : Nat := 1024 * 2 ^ (sLogBlockSize superblock).toNat

/-- The number of block groups. -/
def exactGroupCount (superblock : Bytes) : Nat :=
  ((sBlocksCount superblock).toNat - (sFirstDataBlock superblock).toNat +
    (sBlocksPerGroup superblock).toNat - 1) / (sBlocksPerGroup superblock).toNat

/-- The blocks that `n` bytes take. -/
def blocksFor (superblock : Bytes) (n : Nat) : Nat :=
  (n + exactBlockSize superblock - 1) / exactBlockSize superblock

/-- The descriptor table starts in the block behind the superblock; `bg_inode_table`. -/
def inodeTable (disk : Disk) (superblock : Bytes) (group : Nat) : Nat :=
  (u32At (diskBytes disk (((sFirstDataBlock superblock).toNat + 1) * exactBlockSize superblock +
    32 * group) 32) 8).toNat

/-- The blocks in front of the inode tables. -/
def blocksInFront (superblock : Bytes) : Nat :=
  (sFirstDataBlock superblock).toNat + 1 + blocksFor superblock (32 * exactGroupCount superblock)

/-- A disk with a valid ext2 file system, of block size 1024, 2048 or 4096. -/
structure Ext2Image where
  disk : Disk
  superblock : Bytes
  superblock_eq : superblock = disk.sectors 2 2
  magic : sMagic superblock = ext2SuperMagic
  blockSize : (sLogBlockSize superblock).toNat ≤ 2
  firstDataBlock : (sFirstDataBlock superblock).toNat =
    if (sLogBlockSize superblock).toNat = 0 then 1 else 0
  blocksPerGroup : 0 < (sBlocksPerGroup superblock).toNat ∧
    (sBlocksPerGroup superblock).toNat ≤ 8 * exactBlockSize superblock
  groups : 0 < exactGroupCount superblock
  inodesPerGroup : 0 < (sInodesPerGroup superblock).toNat
  inodesCount : (sInodesCount superblock).toNat =
    exactGroupCount superblock * (sInodesPerGroup superblock).toNat
  inodeSize : inodeRecordSize ≤ (sInodeSize superblock).toNat ∧
    (sInodeSize superblock).toNat ∣ exactBlockSize superblock
  /-- the inode table of a group lies behind the descriptors, and inside the volume -/
  inodeTables : ∀ group < exactGroupCount superblock,
    blocksInFront superblock ≤ inodeTable disk superblock group ∧
      inodeTable disk superblock group + blocksFor superblock
        ((sInodesPerGroup superblock).toNat * (sInodeSize superblock).toNat) ≤
      (sBlocksCount superblock).toNat

/-- The record at index `(n - 1) % s_inodes_per_group` of the table of group
`(n - 1) / s_inodes_per_group`. -/
def Ext2Image.inodeRecord (image : Ext2Image) (n : Nat) : Bytes :=
  diskBytes image.disk
    (inodeTable image.disk image.superblock
        ((n - 1) / (sInodesPerGroup image.superblock).toNat) * exactBlockSize image.superblock +
      (n - 1) % (sInodesPerGroup image.superblock).toNat * (sInodeSize image.superblock).toNat)
    inodeRecordSize

/-- The file system is mounted and its inodes are found, when every read succeeds with the result `ok`
and every allocation succeeds. -/
def Works (image : Ext2Image) (ok : UInt32) : Prop :=
  ∀ junk allocs, ∃ s',
    ext2Init Ext2State.start (diskDriver image.disk ok) (some junk :: allocs) =
        .ok (true, s', allocs) ∧
      ∀ n : UInt32, 1 ≤ n → n ≤ sInodesCount image.superblock → ∀ junk allocs,
        ext2ReadInode s' (diskDriver image.disk ok) n (some junk :: allocs) =
          .ok (some (image.inodeRecord n.toNat), allocs)

/-! ## The two tests -/

/-- The read of the descriptors is taken for a success when its result is not 0. -/
theorem descsRead_of_groups {s s' : Ext2State} {driver : SectorDriver}
    {allocs rest : List (Option (Nat → UInt8))}
    (h : ext2ReadGroups s driver allocs = .ok (true, s', rest)) :
    (descsRead s.superblock driver).1 ≠ 0 := by
  have hcases := ext2ReadGroups_cases s driver allocs
  rw [h] at hcases
  generalize hres : Except.ok (true, s', rest) = r at hcases
  cases hcases with
  | read => exact bne_iff_ne.mp (Prod.mk.inj (Except.ok.inj hres)).1.symm
  | _ => cases hres

/-- **`ext2_init` returns true only if the driver reports 0 for the first read, and something else
for the second one.** -/
theorem readStatus_ne_of_init {s s' : Ext2State} {driver : SectorDriver}
    {allocs rest : List (Option (Nat → UInt8))}
    (h : ext2Init s.unmounted driver allocs = .ok (true, s', rest)) :
    (driver.read (1024 / driver.sectorSize) (1024 / driver.sectorSize).toUInt8).1 = 0 ∧
      (descsRead (superblockOf s.unmounted driver) driver).1 ≠ 0 := by
  by_cases hacc : AcceptsSuperblock s.unmounted driver
  · rw [ext2Init_accepted hacc] at h
    exact ⟨hacc.1, descsRead_of_groups h⟩
  · rw [ext2Init_refused hacc] at h
    cases h

/-- **Whichever result stands for success, no valid image is mounted.** -/
theorem never_works (image : Ext2Image) (ok : UInt32) : ¬ Works image ok := by
  intro hworks
  obtain ⟨s', hinit, -⟩ := hworks (fun _ => 0) []
  -- both reads have the same result
  obtain ⟨hfirst, hsecond⟩ := readStatus_ne_of_init (s := Ext2State.start) hinit
  exact hsecond hfirst

/-! ## A small volume -/

/-- 16 blocks of 1024 bytes, 8 inodes in one group; the inode table is block 5. -/
def smallDisk : Disk where
  sector n :=
    if n = 2 then
      le32 8 ++ le32 16 ++ List.replicate 12 0 ++ le32 1 ++ le32 0 ++ List.replicate 4 0 ++
        le32 8192 ++ List.replicate 4 0 ++ le32 8 ++ List.replicate 12 0 ++ le16 0xEF53 ++
        List.replicate 30 0 ++ le16 128 ++ List.replicate 422 0
    else if n = 4 then le32 3 ++ le32 4 ++ le32 5 ++ List.replicate 500 0
    else List.replicate 512 0
  length_sector n := by
    split
    · simp only [List.length_append, length_le32, length_le16, List.length_replicate]
    · split
      · simp only [List.length_append, length_le32, List.length_replicate]
      · exact List.length_replicate

theorem inodeTable_smallDisk : inodeTable smallDisk (smallDisk.sectors 2 2) 0 = 5 := rfl

/-- The image on it. -/
def smallVolume : Ext2Image where
  disk := smallDisk
  superblock := smallDisk.sectors 2 2
  superblock_eq := rfl
  magic := rfl
  blockSize := by decide
  firstDataBlock := rfl
  blocksPerGroup := ⟨by decide, by decide⟩
  groups := by decide
  inodesPerGroup := by decide
  inodesCount := rfl
  inodeSize := ⟨by decide, ⟨8, rfl⟩⟩
  inodeTables group hgroup := by
    have hone : exactGroupCount (smallDisk.sectors 2 2) = 1 := rfl
    obtain rfl : group = 0 := by omega
    rw [inodeTable_smallDisk]
    exact ⟨by decide, by decide⟩

/-- **The driver of `ata.c` reads the superblock, and `ext2_init` returns false.** -/
theorem smallVolume_refused :
    (∃ s', ext2Init Ext2State.start (ataDriver { initialized := true, disk := smallVolume.disk })
      [some fun _ => 0] = .ok (false, s', [some fun _ => 0])) ∧
      ¬ Works smallVolume 1 := by
  refine ⟨ext2Init_ataDriver Ext2State.start rfl _, fun hworks => ?_⟩
  obtain ⟨s', hinit, -⟩ := hworks (fun _ => 0) []
  obtain ⟨hfirst, -⟩ := readStatus_ne_of_init (s := Ext2State.start) hinit
  cases hfirst

end MayaOs.Fs
