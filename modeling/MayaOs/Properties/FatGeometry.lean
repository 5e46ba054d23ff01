import MayaOs.Fs.Fat32Mount

/-!
# The geometry of a FAT32 volume

`fat32_init` takes the fields of the boot sector as they are.

* `sound_iff` — the boot sectors for which mounting does not divide by zero, and leaves every cluster
  inside the volume, the loaded table and the buffer
* `zero_sector_divides` — a sector of zeros with a signature
-/

namespace MayaOs.Fs

open MayaOs.Lib MayaOs.Drivers

/-! ## Exact arithmetic -/

/-- The first sector of the data area. -/
def exactDataStart (b : BootSector) : Nat :=
  (reservedSectors b.bytes).toNat + (numFats b.bytes).toNat * (sectorsPerFat32 b.bytes).toNat

/-- Sectors from the data area to the end of the volume, in `uint32_t` arithmetic. -/
def wrappedDataSectors (b : BootSector) : Nat :=
  (2 ^ 32 - exactDataStart b % 2 ^ 32 + (totalSectors32 b.bytes).toNat) % 2 ^ 32

/-- Entries of the table that are loaded: the number of sectors is cut to 8 bits. -/
def loadedEntries (b : BootSector) : Nat := 128 * ((sectorsPerFat32 b.bytes).toNat % 256)

/-! ## Sound boot sectors -/

/-- The cluster lies in the data area, the loaded table has an entry for it. -/
structure InVolume (b : BootSector) (fs : Fat32Fs) (cluster : UInt32) : Prop where
  sectors : exactDataStart b + (cluster.toNat - 2) * (sectorsPerCluster b.bytes).toNat +
    (sectorsPerCluster b.bytes).toNat ≤ (totalSectors32 b.bytes).toNat
  entry : cluster.toNat < fs.fatTable.length

/-- What is expected of `fs` after mounting. -/
structure Mounted (b : BootSector) (fs : Fat32Fs) : Prop where
  clusters : ∀ cluster, Accepted fs cluster → InVolume b fs cluster
  buffer : 512 * fs.sectorsPerCluster.toNat ≤ 512

/-- Whatever else is on the disk, and however the allocations end, mounting is safe. -/
def Sound (b : BootSector) : Prop :=
  ∀ (s : Fat32Driver) (ata : AtaState) (heap : FatHeap), s.fs.mounted = false →
    ata.disk.sector 0 = b.bytes →
    fat32Init s (ataReadSectors ata) heap ≠ .error .divideError ∧
      ∀ s' heap', fat32Init s (ataReadSectors ata) heap = .ok (true, s', heap') →
        Mounted b s'.fs

/-- The clusters of a volume with one sector each are in the volume and in the table. -/
def ClustersFit (b : BootSector) : Prop :=
  wrappedDataSectors b = 0 ∨ 2 ^ 32 - 2 ≤ wrappedDataSectors b ∨
    exactDataStart b ≤ (totalSectors32 b.bytes).toNat ∧
      (totalSectors32 b.bytes).toNat - exactDataStart b + 2 ≤ loadedEntries b

/-- The volume is refused, or it is one that the driver can handle. -/
def GeometryFits (b : BootSector) : Prop :=
  sectorsPerCluster b.bytes ≠ 0 ∧
    ((sectorsPerFat32 b.bytes).toNat % 256 = 0 ∨ sectorsPerCluster b.bytes = 1 ∧ ClustersFit b)

/-! ## The computed fields -/

theorem toNat_clustersCount (fs : Fat32Fs) (b : BootSector) :
    (withGeometry fs b.bytes).clustersCount.toNat =
      wrappedDataSectors b / (sectorsPerCluster b.bytes).toNat := by
  have hstart : ((reservedSectors b.bytes).toUInt32 +
      (numFats b.bytes).toUInt32 * sectorsPerFat32 b.bytes).toNat = exactDataStart b % 2 ^ 32 := by
    rw [UInt32.toNat_add, UInt32.toNat_mul, UInt16.toNat_toUInt32, UInt8.toNat_toUInt32,
      Nat.add_mod_mod]
    rfl
  show ((totalSectors32 b.bytes - _) / (sectorsPerCluster b.bytes).toUInt32).toNat = _
  rw [UInt32.toNat_div, UInt32.toNat_sub, hstart, UInt8.toNat_toUInt32]
  rfl

theorem length_words32 (data : Bytes) : (words32 data).length = data.length / 4 := by
  rw [words32, List.length_map, List.length_range]

/-- What was loaded is at most what was allocated. -/
theorem loaded_le_allocated (sectors : UInt32) :
    512 * sectors.toUInt8.toNat ≤ (sectors * 512).toNat := by
  have hmul : (sectors * 512).toNat = sectors.toNat * 512 % 2 ^ 32 := UInt32.toNat_mul sectors 512
  rw [hmul, UInt32.toNat_toUInt8]
  omega

/-- The state after mounting from this boot sector. -/
structure MountedFrom (b : BootSector) (ata : AtaState) (fs : Fat32Fs) : Prop where
  mounted : fs.mounted = true
  sectorsPerCluster : fs.sectorsPerCluster = sectorsPerCluster b.bytes
  clustersCount : fs.clustersCount.toNat =
    wrappedDataSectors b / (Fs.sectorsPerCluster b.bytes).toNat
  length_fatTable : fs.fatTable.length = loadedEntries b
  loaded : (sectorsPerFat32 b.bytes).toNat % 256 ≠ 0

theorem mountedFrom_of_read {b : BootSector} {ata : AtaState} {fs fs' : Fat32Fs} {data : Bytes}
    (hdata : ataReadSectors ata (reservedSectors b.bytes).toUInt32
      (sectorsPerFat32 b.bytes).toUInt8 = some data)
    (hfs : fs' = { withGeometry fs b.bytes with
      fatTable := words32 data, mounted := true, ataReadSectors := ataReadSectors ata }) :
    MountedFrom b ata fs' := by
  have hlen := length_ataReadSectors hdata
  subst hfs
  refine ⟨rfl, rfl, toNat_clustersCount fs b, ?_, fun hz => ?_⟩
  · show (words32 data).length = _
    rw [length_words32, hlen, UInt32.toNat_toUInt8, loadedEntries]
    omega
  · -- a read of no sectors is refused
    have hz8 : (sectorsPerFat32 b.bytes).toUInt8 = 0 :=
      UInt8.toNat_inj.mp (by rw [UInt32.toNat_toUInt8]; exact hz)
    unfold ataReadSectors at hdata
    rw [if_pos (Or.inr hz8)] at hdata
    cases hdata

/-- With one sector to a cluster. -/
theorem accepted_iff {b : BootSector} {ata : AtaState} {fs : Fat32Fs} (h : MountedFrom b ata fs)
    (hone : sectorsPerCluster b.bytes = 1) (cluster : UInt32) :
    Accepted fs cluster ↔
      2 ≤ cluster.toNat ∧ cluster.toNat < (wrappedDataSectors b + 2) % 2 ^ 32 := by
  have hcount : (fs.clustersCount + 2).toNat = (wrappedDataSectors b + 2) % 2 ^ 32 := by
    rw [UInt32.toNat_add, h.clustersCount, hone]
    show (wrappedDataSectors b / 1 + 2) % 2 ^ 32 = _
    rw [Nat.div_one]
  rw [← hcount, ← UInt32.lt_iff_toNat_lt]
  exact ⟨fun hacc => ⟨UInt32.le_iff_toNat_le.mp hacc.2.1, hacc.2.2⟩,
    fun hacc => ⟨h.mounted, UInt32.le_iff_toNat_le.mpr hacc.1, hacc.2⟩⟩

theorem wrappedDataSectors_lt (b : BootSector) : wrappedDataSectors b < 2 ^ 32 :=
  Nat.mod_lt _ (by decide)

/-- A data area that starts inside the volume: the subtraction is exact. -/
theorem wrappedDataSectors_of_le {b : BootSector}
    (hle : exactDataStart b ≤ (totalSectors32 b.bytes).toNat) :
    wrappedDataSectors b = (totalSectors32 b.bytes).toNat - exactDataStart b := by
  have htotal := (totalSectors32 b.bytes).toNat_lt
  unfold wrappedDataSectors
  omega

/-- The last cluster is inside only if the subtraction is exact. -/
theorem start_le_of_end_le {b : BootSector}
    (hend : exactDataStart b + wrappedDataSectors b ≤ (totalSectors32 b.bytes).toNat) :
    exactDataStart b ≤ (totalSectors32 b.bytes).toNat := by
  omega

/-! ## Both directions -/

theorem mounted_of_fits {b : BootSector} {ata : AtaState} {fs : Fat32Fs} (h : MountedFrom b ata fs)
    (hone : sectorsPerCluster b.bytes = 1) (hfit : ClustersFit b) : Mounted b fs := by
  have hn := wrappedDataSectors_lt b
  refine ⟨fun cluster hacc => ?_, ?_⟩
  · obtain ⟨hlow, hhigh⟩ := (accepted_iff h hone cluster).mp hacc
    rcases hfit with hzero | hwrap | ⟨hle, hentries⟩
    · omega
    · omega
    · have hexact := wrappedDataSectors_of_le hle
      have hspc : (sectorsPerCluster b.bytes).toNat = 1 := by rw [hone]; rfl
      refine ⟨?_, ?_⟩
      · rw [hspc]
        omega
      · rw [h.length_fatTable]
        omega
  · rw [h.sectorsPerCluster, hone]
    decide

theorem fits_of_mounted {b : BootSector} {ata : AtaState} {fs : Fat32Fs} (h : MountedFrom b ata fs)
    (hpos : sectorsPerCluster b.bytes ≠ 0) (hm : Mounted b fs) :
    sectorsPerCluster b.bytes = 1 ∧ ClustersFit b := by
  have hone : sectorsPerCluster b.bytes = 1 := by
    have hbuffer := hm.buffer
    rw [h.sectorsPerCluster] at hbuffer
    have hne : (sectorsPerCluster b.bytes).toNat ≠ 0 := fun hz => hpos (UInt8.toNat_inj.mp hz)
    apply UInt8.toNat_inj.mp
    show (sectorsPerCluster b.bytes).toNat = 1
    omega
  refine ⟨hone, ?_⟩
  have hn := wrappedDataSectors_lt b
  by_cases hzero : wrappedDataSectors b = 0
  · exact Or.inl hzero
  · by_cases hwrap : 2 ^ 32 - 2 ≤ wrappedDataSectors b
    · exact Or.inr (Or.inl hwrap)
    · -- the last cluster that is accepted
      obtain ⟨cluster, hcluster⟩ : ∃ c : UInt32, c.toNat = wrappedDataSectors b + 1 :=
        ⟨UInt32.ofNat (wrappedDataSectors b + 1), by
          rw [UInt32.toNat_ofNat', Nat.mod_eq_of_lt (by omega)]⟩
      have hin := hm.clusters cluster ((accepted_iff h hone cluster).mpr (by omega))
      have hsectors := hin.sectors
      have hentry := hin.entry
      have hspc : (sectorsPerCluster b.bytes).toNat = 1 := by rw [hone]; rfl
      rw [hspc, hcluster] at hsectors
      rw [hcluster, h.length_fatTable] at hentry
      have hle := start_le_of_end_le (b := b) (by omega)
      have hexact := wrappedDataSectors_of_le hle
      exact Or.inr (Or.inr ⟨hle, by omega⟩)

theorem mountedFrom_of_init {s s' : Fat32Driver} (hs : s.fs.mounted = false) {ata : AtaState}
    {heap heap' : FatHeap} {b : BootSector} (hdisk : ata.disk.sector 0 = b.bytes)
    (hres : fat32Init s (ataReadSectors ata) heap = .ok (true, s', heap')) :
    sectorsPerCluster b.bytes ≠ 0 ∧ MountedFrom b ata s'.fs := by
  have hcases := fat32Init_cases hs (ataReadSectors ata) heap
  rw [hres] at hcases
  cases hcases with
  | mounted _ _ sector data hread hpos hdata hfs =>
    obtain rfl : sector = b.bytes := (eq_of_ataReadSectors_first hread).trans hdisk
    exact ⟨hpos, mountedFrom_of_read hdata hfs⟩

/-- What the directories of a mounted volume are read with gives whole sectors. -/
theorem wholeSectors_of_init {s s' : Fat32Driver} (hs : s.fs.mounted = false) {ata : AtaState}
    {heap heap' : FatHeap} (hres : fat32Init s (ataReadSectors ata) heap = .ok (true, s', heap')) :
    WholeSectors s'.fs := by
  have hcases := fat32Init_cases hs (ataReadSectors ata) heap
  rw [hres] at hcases
  cases hcases with
  | mounted _ _ sector data _ _ _ hfs =>
    intro lba count data hdata
    rw [hfs] at hdata
    exact length_ataReadSectors hdata

/-- A call that comes to the end, with memory for everything. -/
theorem fat32Init_mounts {s : Fat32Driver} (hs : s.fs.mounted = false) {ata : AtaState}
    (hinit : ata.initialized = true) (b : BootSector) (hdisk : ata.disk.sector 0 = b.bytes)
    (hpos : sectorsPerCluster b.bytes ≠ 0) (hloaded : (sectorsPerFat32 b.bytes).toNat % 256 ≠ 0) :
    ∃ s' heap', fat32Init s (ataReadSectors ata)
        { outcomes := [some 1, some 2, some 3], calls := [] } = .ok (true, s', heap') := by
  have hcount : (sectorsPerFat32 b.bytes).toUInt8 ≠ 0 := by
    intro hz
    have hz' := congrArg UInt8.toNat hz
    rw [UInt32.toNat_toUInt8] at hz'
    exact hloaded hz'
  obtain ⟨data, hdata⟩ : ∃ data, ataReadSectors ata (reservedSectors b.bytes).toUInt32
      (sectorsPerFat32 b.bytes).toUInt8 = some data :=
    ⟨_, ataReadSectors_eq hinit _ hcount⟩
  have hsize : sectorsPerFat32 b.bytes * 512 ≠ 0 := by
    intro hz
    have hle := loaded_le_allocated (sectorsPerFat32 b.bytes)
    rw [hz, UInt32.toNat_toUInt8] at hle
    have : (0 : UInt32).toNat = 0 := rfl
    omega
  have hroom : ¬ (sectorsPerFat32 b.bytes * 512).toNat < data.length := by
    rw [length_ataReadSectors hdata]
    exact Nat.not_lt.mpr (loaded_le_allocated _)
  unfold fat32Init fat32InitFrom
  rw [if_neg (by rw [hs]; decide), ataReadSectors_first hinit, hdisk]
  simp only [FatHeap.kmalloc, bootSectorSize, b.signature, hpos, hsize, hdata, hroom, if_false,
    ne_eq, not_true_eq_false]
  exact ⟨_, _, rfl⟩

/-- With a divisor of 0 the division is reached. -/
theorem fat32Init_divides {s : Fat32Driver} (hs : s.fs.mounted = false) {ata : AtaState}
    (hinit : ata.initialized = true) (b : BootSector) (hdisk : ata.disk.sector 0 = b.bytes)
    (hzero : sectorsPerCluster b.bytes = 0) :
    fat32Init s (ataReadSectors ata) { outcomes := [some 1, some 2], calls := [] } =
      .error .divideError := by
  unfold fat32Init fat32InitFrom
  rw [if_neg (by rw [hs]; decide), ataReadSectors_first hinit, hdisk]
  simp only [FatHeap.kmalloc, bootSectorSize, b.signature, hzero, if_true, if_false, ne_eq,
    not_true_eq_false]
  rfl

/-- The static variables at the start. -/
def Fat32Driver.start : Fat32Driver where
  fs :=
    { rootCluster := 0, sectorsPerCluster := 0, fatTable := [], dataStart := 0, clustersCount := 0
      mounted := false, ataReadSectors := fun _ _ => none }
  bootSector := none
  fatTable := none
  clusterBuffer := none

/-- A drive with this boot sector. -/
def BootSector.drive (b : BootSector) : AtaState where
  initialized := true
  disk := Disk.startingWith b.bytes b.length_bytes

/--
**Mounting a volume with this boot sector is safe iff a cluster has a sector, and either the volume
is refused or a cluster has one sector only and all of them fit in the volume and in the table.**
-/
theorem sound_iff (b : BootSector) : Sound b ↔ GeometryFits b := by
  constructor
  · intro hsound
    have hpos : sectorsPerCluster b.bytes ≠ 0 := by
      intro hzero
      exact (hsound Fat32Driver.start b.drive { outcomes := [some 1, some 2], calls := [] } rfl
        rfl).1 (fat32Init_divides rfl rfl b rfl hzero)
    refine ⟨hpos, ?_⟩
    by_cases hloaded : (sectorsPerFat32 b.bytes).toNat % 256 = 0
    · exact Or.inl hloaded
    · have hinit : b.drive.initialized = true := rfl
      have hdisk : b.drive.disk.sector 0 = b.bytes := rfl
      have hstart : Fat32Driver.start.fs.mounted = false := rfl
      obtain ⟨s', heap', hres⟩ := fat32Init_mounts hstart hinit b hdisk hpos hloaded
      have hm := (hsound Fat32Driver.start b.drive _ hstart hdisk).2 s' heap' hres
      exact Or.inr (fits_of_mounted (mountedFrom_of_init hstart hdisk hres).2 hpos hm)
  · rintro ⟨hpos, hfits⟩ s ata heap hs hdisk
    refine ⟨fun hdiv => ?_, fun s' heap' hres => ?_⟩
    · have hcases := fat32Init_cases hs (ataReadSectors ata) heap
      rw [hdiv] at hcases
      cases hcases with
      | divideError sector hread hzero =>
        obtain rfl : sector = b.bytes := (eq_of_ataReadSectors_first hread).trans hdisk
        exact hpos hzero
    · obtain ⟨-, hfrom⟩ := mountedFrom_of_init hs hdisk hres
      rcases hfits with hrefused | ⟨hone, hclusters⟩
      · exact absurd hrefused hfrom.loaded
      · exact mounted_of_fits hfrom hone hclusters

/-- Zeros and a signature. -/
def zeroSector : BootSector where
  bytes := List.replicate 510 0 ++ [0x55, 0xAA]
  length_bytes := by rw [List.length_append, List.length_replicate]; rfl
  signature := by
    simp only [u16At, byteAt, List.getD_eq_getElem?_getD, List.length_replicate, le_refl,
      List.getElem?_append_right, Nat.le_add_right]
    decide

/-- **A sector of zeros with a signature makes `fat32_init` divide by zero.** -/
theorem zero_sector_divides :
    fat32Init Fat32Driver.start (ataReadSectors zeroSector.drive)
        { outcomes := [some 1, some 2], calls := [] } = .error .divideError ∧
      ¬ Sound zeroSector := by
  have hdiv : fat32Init Fat32Driver.start (ataReadSectors zeroSector.drive)
      { outcomes := [some 1, some 2], calls := [] } = .error .divideError :=
    fat32Init_divides rfl rfl zeroSector rfl (by decide)
  exact ⟨hdiv, fun hsound => (hsound Fat32Driver.start zeroSector.drive _ rfl rfl).1 hdiv⟩

end MayaOs.Fs
