import MayaOs.Fs.Ext2

/-!
# Safety of the ext2 driver

`ext2_init` checks the magic number, and uses the other fields of the superblock as they are.

* `ext2Init_ataDriver` — with the driver of `ata.c`, no superblock that was read is accepted
* `runSafe_iff` — with any driver, when mounting and reading an inode divide by zero, read the
  descriptor of a group that does not exist, or let the driver write behind a buffer
* `zero_blocks_per_group_divides` — `s_blocks_per_group` is 0
-/

namespace MayaOs.Fs

open MayaOs.Lib MayaOs.Drivers

/-! ## Reading a block -/

/-- What the driver transfers for a block. -/
def blockRead (blockSize : UInt32) (driver : SectorDriver) (block : UInt32) :
    UInt32 × Option Bytes :=
  driver.read (block * (blockSize / driver.sectorSize)) (blockSize / driver.sectorSize).toUInt8

/-- The number of sectors is cut to 8 bits. -/
def blockReadBytes (blockSize : UInt32) : Nat := 512 * (blockSize.toNat / 512 % 256)

theorem length_blockRead {blockSize block : UInt32} {driver : SectorDriver} {data : Bytes}
    (h : (blockRead blockSize driver block).2 = some data) :
    data.length = blockReadBytes blockSize := by
  rw [driver.length_read _ _ _ h, UInt32.toNat_toUInt8, UInt32.toNat_div, driver.sectorSize_eq]
  rfl

theorem blockReadBytes_le (blockSize : UInt32) : blockReadBytes blockSize ≤ blockSize.toNat := by
  unfold blockReadBytes
  omega

/-- **A read of a block overflows the buffer, or gives the result of the driver.** -/
theorem ext2ReadBlock_cases (s : Ext2State) (driver : SectorDriver) (block : UInt32)
    (buffer : Bytes) :
    (ext2ReadBlock s driver block buffer = .error .bufferOverflow ∧
        (blockRead s.blockSize driver block).2.isSome ∧
        buffer.length < blockReadBytes s.blockSize) ∨
      ((blockRead s.blockSize driver block).2.isSome → blockReadBytes s.blockSize ≤ buffer.length) ∧
        ∃ buffer', ext2ReadBlock s driver block buffer =
          .ok ((blockRead s.blockSize driver block).1 != 0, buffer') := by
  unfold ext2ReadBlock
  dsimp only
  cases hdata : (blockRead s.blockSize driver block).2 with
  | none =>
    have hdata' := hdata
    unfold blockRead at hdata'
    rw [hdata']
    exact Or.inr ⟨by simp, buffer, rfl⟩
  | some data =>
    have hdata' := hdata
    have hlen := length_blockRead hdata
    unfold blockRead at hdata'
    rw [hdata']
    dsimp only
    by_cases hlong : buffer.length < data.length
    · rw [if_pos hlong]
      exact Or.inl ⟨rfl, rfl, by omega⟩
    · rw [if_neg hlong]
      exact Or.inr ⟨fun _ => by omega, _, rfl⟩

theorem length_kmallocBlock {allocs rest : List (Option (Nat → UInt8))} {size : UInt32}
    {block : Bytes} (h : kmallocBlock allocs size = (some block, rest)) :
    size ≠ 0 ∧ block.length = size.toNat := by
  unfold kmallocBlock at h
  split at h
  · cases h
  · next hsize =>
    refine ⟨hsize, ?_⟩
    split at h
    · cases h
    · cases h
    · cases h
      rw [List.length_map, List.length_range]

/-! ## What is asked of the superblock -/

/-- The superblock, after the first read. -/
def superblockOf (s : Ext2State) (driver : SectorDriver) : Bytes :=
  (withSuperblock s driver).superblock

/-- The first read is taken for a success, and the magic number matches. -/
def AcceptsSuperblock (s : Ext2State) (driver : SectorDriver) : Prop :=
  (driver.read (1024 / driver.sectorSize) (1024 / driver.sectorSize).toUInt8).1 = 0 ∧
    sMagic (superblockOf s driver) = ext2SuperMagic

/-- The bytes allocated for the descriptors. -/
def descsSize (superblock : Bytes) : UInt32 := ext2BlockGroupCount superblock * bgdSize

/-- The read of the descriptors. -/
def descsRead (superblock : Bytes) (driver : SectorDriver) : UInt32 × Option Bytes :=
  blockRead (ext2BlockSize superblock) driver (2048 / ext2BlockSize superblock)

/-- The inode belongs to a group. -/
def InodeFits (superblock : Bytes) (inodeNum : UInt32) : Prop :=
  inodeNum ≠ 0 → sInodesPerGroup superblock ≠ 0 ∧
    (inodeNum - 1) / sInodesPerGroup superblock < ext2BlockGroupCount superblock

/-- With memory for the descriptors: there is a block size, the block that is read is not larger than
this memory, and the inode belongs to a group. -/
structure GroupsFit (superblock : Bytes) (driver : SectorDriver) (inodeNum : UInt32) : Prop where
  blockSize : ext2BlockSize superblock ≠ 0
  descs : (descsRead superblock driver).2.isSome →
    blockReadBytes (ext2BlockSize superblock) ≤ (descsSize superblock).toNat
  inode : (descsRead superblock driver).1 ≠ 0 → InodeFits superblock inodeNum

/-- The condition on the superblock, as far as the run gets. -/
def RunFits (s : Ext2State) (driver : SectorDriver) (allocs : List (Option (Nat → UInt8)))
    (inodeNum : UInt32) : Prop :=
  AcceptsSuperblock s driver →
    sBlocksPerGroup (superblockOf s driver) ≠ 0 ∧
      ((kmallocBlock allocs (descsSize (superblockOf s driver))).1.isSome →
        GroupsFit (superblockOf s driver) driver inodeNum)

/-- Nothing goes wrong in `ext2_read_inode`. -/
structure InodeReadSafe (s : Ext2State) (driver : SectorDriver)
    (allocs : List (Option (Nat → UInt8))) (inodeNum : UInt32) : Prop where
  noDivide : ext2ReadInode s driver inodeNum allocs ≠ .error .divideError
  noOverflow : ext2ReadInode s driver inodeNum allocs ≠ .error .bufferOverflow
  group : inodeNum ≠ 0 → inodeGroup s inodeNum < s.blockGroupCount

/-- Nothing goes wrong in `ext2_init`, and if it returns true, in `ext2_read_inode` after it. -/
structure RunSafe (s : Ext2State) (driver : SectorDriver) (allocs : List (Option (Nat → UInt8)))
    (inodeNum : UInt32) : Prop where
  noDivide : ext2Init s driver allocs ≠ .error .divideError
  noOverflow : ext2Init s driver allocs ≠ .error .bufferOverflow
  inode : ∀ s' allocs', ext2Init s driver allocs = .ok (true, s', allocs') →
    InodeReadSafe s' driver allocs' inodeNum

/-! ## ext2_read_inode -/

theorem inodeReadSafe_iff {s : Ext2State} (driver : SectorDriver)
    (allocs : List (Option (Nat → UInt8))) (inodeNum : UInt32) (hsize : s.blockSize ≠ 0)
    (hgroups : s.blockGroupCount = ext2BlockGroupCount s.superblock) :
    InodeReadSafe s driver allocs inodeNum ↔ InodeFits s.superblock inodeNum := by
  constructor
  · intro hsafe hnum
    refine ⟨fun hzero => hsafe.noDivide ?_, ?_⟩
    · unfold ext2ReadInode
      rw [if_neg hnum, if_pos hzero]
    · rw [← hgroups]
      exact hsafe.group hnum
  · intro hfits
    by_cases hnum : inodeNum = 0
    · have hres : ext2ReadInode s driver inodeNum allocs = .ok (none, allocs) := if_pos hnum
      exact ⟨by rw [hres]; simp, by rw [hres]; simp, fun hne => absurd hnum hne⟩
    · obtain ⟨hipg, hgroup⟩ := hfits hnum
      -- the record may still lie outside of what was read
      have hres : ∃ r, ext2ReadInode s driver inodeNum allocs = r ∧
          r ≠ .error .divideError ∧ r ≠ .error .bufferOverflow := by
        refine ⟨_, rfl, ?_⟩
        unfold ext2ReadInode
        rw [if_neg hnum, if_neg hipg]
        cases read32 s.blockGroupDescs (32 * (inodeGroup s inodeNum).toNat + 8) with
        | error fault => exact ⟨by simp, by simp⟩
        | ok table =>
          dsimp only
          cases hk : kmallocBlock allocs s.blockSize with
          | mk block rest =>
            cases block with
            | none => exact ⟨by simp, by simp⟩
            | some buffer =>
              obtain ⟨-, hbuffer⟩ := length_kmallocBlock hk
              dsimp only
              rw [if_neg hsize]
              rcases ext2ReadBlock_cases s driver (table + inodeOffset s inodeNum / s.blockSize)
                buffer with ⟨-, -, hlong⟩ | ⟨-, buffer', hread⟩
              · have := blockReadBytes_le s.blockSize
                omega
              · rw [hread]
                cases (blockRead s.blockSize driver
                  (table + inodeOffset s inodeNum / s.blockSize)).1 != 0 with
                | false => exact ⟨by simp, by simp⟩
                | true =>
                  dsimp only
                  cases slice buffer' (inodeOffset s inodeNum % s.blockSize).toNat inodeRecordSize with
                  | error fault => exact ⟨by simp, by simp⟩
                  | ok record => exact ⟨by simp, by simp⟩
      obtain ⟨r, hr, hdivide, hoverflow⟩ := hres
      exact ⟨hr ▸ hdivide, hr ▸ hoverflow, fun _ => by rw [hgroups]; exact hgroup⟩

/-! ## ext2_init -/

/-- The variables before a successful call. -/
def Ext2State.unmounted (s : Ext2State) : Ext2State := { s with initialized := false }

section Init

variable {s : Ext2State} {driver : SectorDriver} {allocs : List (Option (Nat → UInt8))}

/-- A superblock that is not accepted. -/
theorem ext2Init_refused (h : ¬ AcceptsSuperblock s.unmounted driver) :
    ext2Init s.unmounted driver allocs = .ok (false, withSuperblock s.unmounted driver, allocs) := by
  unfold ext2Init
  rw [if_neg (by exact Bool.noConfusion)]
  dsimp only
  split
  · rfl
  · next hstatus =>
    refine if_pos fun hmagic => h ⟨not_not.mp hstatus, hmagic⟩

theorem ext2Init_accepted (h : AcceptsSuperblock s.unmounted driver) :
    ext2Init s.unmounted driver allocs =
      ext2ReadGroups (withSuperblock s.unmounted driver) driver allocs := by
  unfold ext2Init
  obtain ⟨hstatus, hmagic⟩ := h
  unfold superblockOf at hmagic
  rw [if_neg (by exact Bool.noConfusion)]
  dsimp only
  rw [if_neg (not_not.mpr hstatus), if_neg (not_not.mpr hmagic)]

/-- The ways `ext2_init` can end after it has accepted the superblock. -/
inductive GroupsResult (s : Ext2State) (driver : SectorDriver)
    (allocs : List (Option (Nat → UInt8))) :
    Except Ext2Fault (Bool × Ext2State × List (Option (Nat → UInt8))) → Prop where
  | noGroups (hbpg : sBlocksPerGroup s.superblock = 0) :
    GroupsResult s driver allocs (.error .divideError)
  | noMemory (s' : Ext2State) (rest : List (Option (Nat → UInt8)))
    (hbpg : sBlocksPerGroup s.superblock ≠ 0)
    (hk : (kmallocBlock allocs (descsSize s.superblock)).1 = none) :
    GroupsResult s driver allocs (.ok (false, s', rest))
  | noBlockSize (hk : (kmallocBlock allocs (descsSize s.superblock)).1.isSome)
    (hsize : ext2BlockSize s.superblock = 0) : GroupsResult s driver allocs (.error .divideError)
  | overflow (hk : (kmallocBlock allocs (descsSize s.superblock)).1.isSome)
    (hdata : (descsRead s.superblock driver).2.isSome)
    (hlong : (descsSize s.superblock).toNat < blockReadBytes (ext2BlockSize s.superblock)) :
    GroupsResult s driver allocs (.error .bufferOverflow)
  | read (s' : Ext2State) (rest : List (Option (Nat → UInt8)))
    (hbpg : sBlocksPerGroup s.superblock ≠ 0)
    (hk : (kmallocBlock allocs (descsSize s.superblock)).1.isSome)
    (hsize : ext2BlockSize s.superblock ≠ 0)
    (hdescs : (descsRead s.superblock driver).2.isSome →
      blockReadBytes (ext2BlockSize s.superblock) ≤ (descsSize s.superblock).toNat)
    (hsuperblock : s'.superblock = s.superblock)
    (hblockSize : s'.blockSize = ext2BlockSize s.superblock)
    (hgroups : s'.blockGroupCount = ext2BlockGroupCount s.superblock) :
    GroupsResult s driver allocs (.ok ((descsRead s.superblock driver).1 != 0, s', rest))

/-- **There are no others.** -/
theorem ext2ReadGroups_cases (s : Ext2State) (driver : SectorDriver)
    (allocs : List (Option (Nat → UInt8))) :
    GroupsResult s driver allocs (ext2ReadGroups s driver allocs) := by
  unfold ext2ReadGroups
  dsimp only
  by_cases hbpg : sBlocksPerGroup s.superblock = 0
  · rw [if_pos hbpg]
    exact .noGroups hbpg
  · rw [if_neg hbpg]
    obtain ⟨block, rest, hk⟩ : ∃ block rest,
        kmallocBlock allocs (descsSize s.superblock) = (block, rest) := ⟨_, _, rfl⟩
    have hk' := hk
    unfold descsSize at hk'
    rw [hk']
    cases block with
    | none => exact .noMemory _ _ hbpg (by rw [hk])
    | some descs =>
      obtain ⟨-, hlen⟩ := length_kmallocBlock hk
      have hsome : (kmallocBlock allocs (descsSize s.superblock)).1.isSome := by rw [hk]; rfl
      dsimp only
      by_cases hsize : ext2BlockSize s.superblock = 0
      · rw [if_pos hsize]
        exact .noBlockSize hsome hsize
      · rw [if_neg hsize]
        rcases ext2ReadBlock_cases
          { s with
            blockSize := ext2BlockSize s.superblock
            blockGroupCount := ext2BlockGroupCount s.superblock }
          driver (2048 / ext2BlockSize s.superblock) descs with
          ⟨hread, hdata, hlong⟩ | ⟨hfits, b, hread⟩
        · rw [hread]
          exact .overflow hsome hdata (hlen ▸ hlong)
        · rw [hread]
          have hdescs := fun hdata => hlen ▸ hfits hdata
          -- the result of the driver is the one of the function
          have hres : ∀ s', s'.superblock = s.superblock →
              s'.blockSize = ext2BlockSize s.superblock →
              s'.blockGroupCount = ext2BlockGroupCount s.superblock →
              GroupsResult s driver allocs
                (.ok ((descsRead s.superblock driver).1 != 0, s', rest)) :=
            fun s' => .read s' rest hbpg hsome hsize hdescs
          unfold descsRead at hres
          dsimp only
          cases hstatus : (blockRead (ext2BlockSize s.superblock) driver
              (2048 / ext2BlockSize s.superblock)).1 != 0 with
          | false =>
            rw [hstatus] at hres
            exact hres _ rfl rfl rfl
          | true =>
            rw [hstatus] at hres
            exact hres _ rfl rfl rfl

/-- What is asked after the superblock has been accepted. -/
theorem groups_safe_iff (s : Ext2State) (driver : SectorDriver)
    (allocs : List (Option (Nat → UInt8))) (inodeNum : UInt32) :
    (ext2ReadGroups s driver allocs ≠ .error .divideError ∧
        ext2ReadGroups s driver allocs ≠ .error .bufferOverflow ∧
        ∀ s' allocs', ext2ReadGroups s driver allocs = .ok (true, s', allocs') →
          InodeReadSafe s' driver allocs' inodeNum) ↔
      sBlocksPerGroup s.superblock ≠ 0 ∧
        ((kmallocBlock allocs (descsSize s.superblock)).1.isSome →
          GroupsFit s.superblock driver inodeNum) := by
  have hcases := ext2ReadGroups_cases s driver allocs
  generalize ext2ReadGroups s driver allocs = r at hcases ⊢
  cases hcases with
  | noGroups hbpg => exact ⟨fun h => absurd rfl h.1, fun h => absurd hbpg h.1⟩
  | noMemory s' rest hbpg hk =>
    exact ⟨fun _ => ⟨hbpg, by rw [hk]; simp⟩, fun _ => ⟨by simp, by simp, by simp⟩⟩
  | noBlockSize hk hsize =>
    exact ⟨fun h => absurd rfl h.1, fun h => absurd hsize (h.2 hk).blockSize⟩
  | overflow hk hdata hlong =>
    exact ⟨fun h => absurd rfl h.2.1, fun h => absurd ((h.2 hk).descs hdata) (by omega)⟩
  | read s' rest hbpg hk hsize hdescs hsuperblock hblockSize hgroups =>
    have hiff := inodeReadSafe_iff driver rest inodeNum (s := s') (by rw [hblockSize]; exact hsize)
      (by rw [hgroups, hsuperblock])
    rw [hsuperblock] at hiff
    constructor
    · rintro ⟨-, -, hinode⟩
      exact ⟨hbpg, fun _ => ⟨hsize, hdescs, fun hstatus =>
        hiff.mp (hinode s' rest (by rw [bne_iff_ne.mpr hstatus]))⟩⟩
    · rintro ⟨-, hfit⟩
      refine ⟨by simp, by simp, fun s'' allocs' heq => ?_⟩
      obtain ⟨hstatus, heq⟩ := Prod.mk.inj (Except.ok.inj heq)
      cases heq
      exact hiff.mpr ((hfit hk).inode (bne_iff_ne.mp hstatus))

end Init

/--
**Mounting and then reading an inode is safe iff the superblock is not accepted, or its fields fit
as far as the run gets.**
-/
theorem runSafe_iff (s : Ext2State) (driver : SectorDriver) (allocs : List (Option (Nat → UInt8)))
    (inodeNum : UInt32) :
    RunSafe s.unmounted driver allocs inodeNum ↔ RunFits s.unmounted driver allocs inodeNum := by
  by_cases hacc : AcceptsSuperblock s.unmounted driver
  · have hiff := groups_safe_iff (withSuperblock s.unmounted driver) driver allocs inodeNum
    constructor
    · intro hsafe _
      refine hiff.mp ⟨?_, ?_, ?_⟩
      · exact ext2Init_accepted hacc ▸ hsafe.noDivide
      · exact ext2Init_accepted hacc ▸ hsafe.noOverflow
      · exact ext2Init_accepted hacc ▸ hsafe.inode
    · intro hfits
      obtain ⟨hdivide, hoverflow, hinode⟩ := hiff.mpr (hfits hacc)
      refine ⟨?_, ?_, ?_⟩
      · rw [ext2Init_accepted hacc]
        exact hdivide
      · rw [ext2Init_accepted hacc]
        exact hoverflow
      · rw [ext2Init_accepted hacc]
        exact hinode
  · refine ⟨fun _ h => absurd h hacc, fun _ => ⟨?_, ?_, ?_⟩⟩
    all_goals
      rw [ext2Init_refused hacc]
      simp

/-! ## The fields -/

/-- The shift leaves nothing from 22 on. -/
theorem ext2BlockSize_eq_zero_iff (superblock : Bytes) :
    ext2BlockSize superblock = 0 ↔ 22 ≤ (sLogBlockSize superblock).toNat % 32 := by
  have hall : ∀ l < 32, ((1024 <<< l) % 2 ^ 32 = 0 ↔ 22 ≤ l) := by decide
  have hnat : (ext2BlockSize superblock).toNat =
      (1024 <<< ((sLogBlockSize superblock).toNat % 32)) % 2 ^ 32 := UInt32.toNat_shiftLeft ..
  rw [← UInt32.toNat_inj, hnat]
  exact hall _ (Nat.mod_lt _ (by decide))

/-- **With the driver of `ata.c`, a superblock that was read is refused**: true is taken for a
failure. -/
theorem ext2Init_ataDriver (s : Ext2State) {ata : AtaState} (hinit : ata.initialized = true)
    (allocs : List (Option (Nat → UInt8))) :
    ∃ s', ext2Init s.unmounted (ataDriver ata) allocs = .ok (false, s', allocs) := by
  refine ⟨_, ext2Init_refused fun hacc => ?_⟩
  have hstatus : (if (ataReadSectors ata (1024 / 512) (1024 / 512 : UInt32).toUInt8).isSome then 1
      else 0 : UInt32) = 0 := hacc.1
  rw [ataReadSectors_eq hinit _ (by decide)] at hstatus
  cases hstatus

/-! ## A superblock of zeros -/

/-- `ext2_state` at the start. -/
def Ext2State.start : Ext2State where
  superblock := List.replicate 1024 0
  blockGroupDescs := []
  blockSize := 0
  blockGroupCount := 0
  initialized := false

/-- A disk of zeros, but for the magic number of the superblock. -/
def markedDisk : Disk where
  sector n :=
    if n = 2 then List.replicate 56 0 ++ [0x53, 0xEF] ++ List.replicate 454 0
    else List.replicate 512 0
  length_sector n := by
    split
    · simp only [List.length_append, List.length_replicate]
      rfl
    · exact List.length_replicate

/-- **`s_blocks_per_group` is 0, and `ext2_init` divides by it.** -/
theorem zero_blocks_per_group_divides :
    ext2Init Ext2State.start (diskDriver markedDisk 0) [] = .error .divideError ∧
      ¬ RunSafe Ext2State.start.unmounted (diskDriver markedDisk 0) [] 2 := by
  have hdivide : ext2Init Ext2State.start (diskDriver markedDisk 0) [] = .error .divideError := rfl
  exact ⟨hdivide, fun hsafe => hsafe.noDivide hdivide⟩

end MayaOs.Fs
