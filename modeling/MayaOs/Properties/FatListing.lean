import MayaOs.Properties.FatSearch

/-!
# The listing of a directory by its bytes

The contents of a directory are the contents of its clusters, one behind the other, and its entries
are the records of 32 bytes in them. Only a cluster of one sector fits in the buffer that it is read
into.

* `flatten_clusterEntries` — no record crosses the border of a cluster
* `readdir_lists_iff` — when `fat32_readdir` reports the entries that are listed, by their number
* `two_sectors_overrun` — a directory on a volume with two sectors to a cluster
-/

namespace MayaOs.Fs

open MayaOs.Lib

/-! ## Chains and contents -/

/-- The clusters from `c` on, each linked to the next by its word in the table, until a link leads to
no cluster. -/
inductive FatChain (fs : Fat32Fs) : UInt32 → List UInt32 → Prop where
  | stop {c : UInt32} (hend : ¬ (2 ≤ c ∧ c < fat32Eoc)) : FatChain fs c []
  | link {c next : UInt32} {cs : List UInt32} (hin : 2 ≤ c ∧ c < fat32Eoc)
      (htable : fs.fatTable[c.toNat]? = some next) (hrest : FatChain fs next cs) :
      FatChain fs c (c :: cs)

/-- The read succeeds and gives all sectors of the cluster. -/
def ReadsWhole (fs : Fat32Fs) (c : UInt32) : Prop := ∃ data, ClusterRead fs c data

/-- What the drive gives for the cluster. -/
def clusterBytes (fs : Fat32Fs) (c : UInt32) : Bytes :=
  (fs.ataReadSectors (fat32ClusterToLba fs c) fs.sectorsPerCluster).getD []

/-- The contents of a chain of clusters. -/
def chainBytes (fs : Fat32Fs) (cs : List UInt32) : Bytes := cs.flatMap (clusterBytes fs)

/-- The records of 32 bytes. -/
def directoryEntries (bytes : Bytes) : List DirEntry :=
  (List.range (bytes.length / 32)).map (entryAt bytes)

/-- What a directory with these contents is listed as. -/
def listing (bytes : Bytes) : List VfsDirent :=
  (listed (directoryEntries bytes)).map DirEntry.toDirent

/-! ## Records -/

/-- An entry is read from 32 bytes. -/
theorem entryAt_congr {a b : Bytes} {i j : Nat}
    (h : ∀ k < 32, byteAt a (32 * i + k) = byteAt b (32 * j + k)) : entryAt a i = entryAt b j := by
  have h16 : ∀ k, k + 1 < 32 → u16At a (32 * i + k) = u16At b (32 * j + k) := by
    intro k hk
    unfold u16At
    rw [h k (by omega), Nat.add_assoc, h (k + 1) hk, Nat.add_assoc]
  have h32 : u32At a (32 * i + 28) = u32At b (32 * j + 28) := by
    unfold u32At
    simp only [Nat.add_assoc, Nat.reduceAdd]
    rw [h 28 (by omega), h 29 (by omega), h 30 (by omega), h 31 (by omega)]
  have hname : (List.range 11).map (fun k => byteAt a (32 * i + k)) =
      (List.range 11).map fun k => byteAt b (32 * j + k) :=
    List.map_congr_left fun k hk => h k (by have := List.mem_range.mp hk; omega)
  unfold entryAt
  rw [hname, h 11 (by omega), h16 20 (by omega), h16 26 (by omega), h32]

theorem directoryEntries_nil : directoryEntries [] = [] := by
  simp [directoryEntries]

theorem directoryEntries_append {a : Bytes} {n : Nat} (ha : a.length = 32 * n) (b : Bytes) :
    directoryEntries (a ++ b) = directoryEntries a ++ directoryEntries b := by
  have hlen : (a ++ b).length / 32 = n + b.length / 32 := by
    rw [List.length_append, ha]
    omega
  have hcount : a.length / 32 = n := by omega
  unfold directoryEntries
  rw [hlen, hcount, List.range_add, List.map_append, List.map_map]
  congr 1
  · refine List.map_congr_left fun i hi => entryAt_congr fun k hk => byteAt_append_left ?_
    have := List.mem_range.mp hi
    omega
  · refine List.map_congr_left fun i _ => entryAt_congr fun k _ => ?_
    rw [Nat.mul_add, ← ha, Nat.add_assoc]
    exact byteAt_append_right a b _

theorem ClusterRead.clusterBytes_eq {fs : Fat32Fs} {c : UInt32} {data : Bytes}
    (h : ClusterRead fs c data) : clusterBytes fs c = data := by
  unfold clusterBytes
  rw [h.read]
  rfl

theorem clusterEntries_eq {fs : Fat32Fs} {buffer : Bytes}
    (h : buffer.length = 512 * fs.sectorsPerCluster.toNat) :
    clusterEntries fs buffer = directoryEntries buffer := by
  unfold clusterEntries directoryEntries
  rw [h]

/-- **The entries of the clusters are the entries of the contents.** -/
theorem flatten_clusterEntries {fs : Fat32Fs} : ∀ {cs : List UInt32}, (∀ c ∈ cs, ReadsWhole fs c) →
    (cs.map fun c => clusterEntries fs (clusterBytes fs c)).flatten =
      directoryEntries (chainBytes fs cs) := by
  intro cs
  induction cs with
  | nil =>
    intro _
    exact directoryEntries_nil.symm
  | cons c cs ih =>
    intro hread
    obtain ⟨hc, hcs⟩ := List.forall_mem_cons.mp hread
    obtain ⟨buffer, hbuffer⟩ := hc
    have hbytes := hbuffer.clusterBytes_eq
    have hlen := hbuffer.length_data
    have hrecords : buffer.length = 32 * (16 * fs.sectorsPerCluster.toNat) := by omega
    have hcons : chainBytes fs (c :: cs) = buffer ++ chainBytes fs cs := by
      rw [chainBytes, List.flatMap_cons, hbytes]
      rfl
    rw [List.map_cons, List.flatten_cons, ih hcs, hbytes, clusterEntries_eq hlen, hcons,
      directoryEntries_append hrecords]

/-! ## The listing -/

/-- A chain of clusters that can be read is a directory. -/
theorem FatChain.directory {fs : Fat32Fs} {c : UInt32} {cs : List UInt32} (h : FatChain fs c cs) :
    (∀ c ∈ cs, ReadsWhole fs c) →
      Directory fs c (cs.map fun c => clusterEntries fs (clusterBytes fs c)) := by
  induction h with
  | stop hend => exact fun _ => .stop hend
  | @link c next cs hin htable _ ih =>
    intro hread
    obtain ⟨hc, hcs⟩ := List.forall_mem_cons.mp hread
    obtain ⟨buffer, hbuffer⟩ := hc
    rw [List.map_cons, hbuffer.clusterBytes_eq]
    refine .step hin hbuffer ?_ (ih hcs)
    unfold nextCluster
    rw [htable]

theorem ReadsWhole.mounted {fs : Fat32Fs} {c : UInt32} (h : ReadsWhole fs c) : fs.mounted = true := by
  obtain ⟨data, hdata⟩ := h
  exact hdata.accepted.1

section Listing

variable {fs : Fat32Fs} {inode : UInt32} {cs : List UInt32}

/-- With one sector to a cluster the listed entry with the index is reported, and NULL behind the last
one. -/
theorem fat32Readdir_listing (hchain : FatChain fs inode cs) (hread : ∀ c ∈ cs, ReadsWhole fs c)
    (hone : fs.sectorsPerCluster ≤ 1) (index : UInt32) {fuel : Nat} (hfuel : cs.length < fuel) :
    fat32Readdir fs fuel inode index =
      some (.ok (listing (chainBytes fs cs))[index.toNat]?) := by
  have hloop := readdirLoop_eq hone index (hchain.directory hread) fuel
    (by rw [List.length_map]; exact hfuel) 0 (Nat.zero_le _)
  rw [flatten_clusterEntries hread] at hloop
  unfold fat32Readdir readdirEntry listing
  by_cases hmounted : fs.mounted = false
  · -- nothing can be read, so there is no cluster
    have hnil : cs = [] := by
      cases cs with
      | nil => rfl
      | cons c cs =>
        rw [(hread c List.mem_cons_self).mounted] at hmounted
        cases hmounted
    have hempty : directoryEntries (chainBytes fs []) = [] := directoryEntries_nil
    rw [if_pos hmounted, hnil, hempty]
    rfl
  · rw [if_neg hmounted, hloop, List.getElem?_map]
    rfl

/-- No cluster: nothing is read. -/
theorem fat32Readdir_nil (hchain : FatChain fs inode []) (index : UInt32) {fuel : Nat}
    (hfuel : 0 < fuel) : fat32Readdir fs fuel inode index = some (.ok none) := by
  obtain ⟨n, rfl⟩ := Nat.exists_eq_add_one_of_ne_zero (Nat.ne_zero_of_lt hfuel)
  cases hchain with
  | stop hend =>
    unfold fat32Readdir readdirEntry
    split
    · rfl
    · rw [readdirLoop, if_neg hend]
      rfl

/-- More sectors than the buffer has room for: the first read overruns it. -/
theorem fat32Readdir_overruns {c : UInt32} (hchain : FatChain fs inode (c :: cs))
    (hread : ReadsWhole fs c) (hmany : ¬ fs.sectorsPerCluster ≤ 1) (index : UInt32) (fuel : Nat) :
    fat32Readdir fs (fuel + 1) inode index = some (.error (.outOfBounds clusterBufferSize)) := by
  have hmounted := hread.mounted
  obtain ⟨data, hdata⟩ := hread
  cases hchain with
  | link hin _ _ =>
    unfold fat32Readdir readdirEntry
    rw [if_neg (by rw [hmounted]; decide), readdirLoop, if_pos hin, hdata.overruns hmany]
    rfl

/--
**`fat32_readdir` reports the listed entry with the index, and NULL behind the last one, iff a cluster
has one sector**, or there is no cluster to be read.

The chain may be of any length; the loop is left in the turn after the last cluster, if not before.
-/
theorem readdir_lists_iff (hchain : FatChain fs inode cs) (hread : ∀ c ∈ cs, ReadsWhole fs c)
    (index : UInt32) {fuel : Nat} (hfuel : cs.length < fuel) :
    fat32Readdir fs fuel inode index = some (.ok (listing (chainBytes fs cs))[index.toNat]?) ↔
      fs.sectorsPerCluster ≤ 1 ∨ cs = [] := by
  constructor
  · intro h
    by_contra hno
    rw [not_or] at hno
    obtain ⟨hmany, hne⟩ := hno
    obtain ⟨n, rfl⟩ := Nat.exists_eq_add_one_of_ne_zero (Nat.ne_zero_of_lt hfuel)
    cases cs with
    | nil => exact hne rfl
    | cons c cs =>
      rw [fat32Readdir_overruns hchain (hread c List.mem_cons_self) hmany] at h
      cases h
  · rintro (hone | rfl)
    · exact fat32Readdir_listing hchain hread hone index hfuel
    · have hempty : listing (chainBytes fs []) = [] := by
        rw [listing, chainBytes, List.flatMap_nil, directoryEntries_nil]
        rfl
      rw [fat32Readdir_nil hchain index hfuel, hempty]
      rfl

end Listing

/-! ## A directory of two clusters -/

/-- A record with this name and attribute byte; the file starts at cluster 5 + 65536 * 3. -/
def exampleRecord (name : Bytes) (attributes : UInt8) : Bytes :=
  name ++ [attributes] ++ List.replicate 8 0 ++ [3, 0, 0, 0, 0, 0, 5, 0, 0, 0, 0, 0]

/-- A deleted file, `B.C`, and volume labels. -/
def fullSector : Bytes :=
  exampleRecord (0xE5 :: (fatName [0x42]).tail) 0x20 ++
    exampleRecord (fatName [0x42, 0x2E, 0x43]) 0x20 ++
    (List.range 14).flatMap fun _ => exampleRecord (fatName [0x56]) 0x08

def twoClusterFs : Fat32Fs where
  rootCluster := 2
  sectorsPerCluster := 1
  fatTable := [0x0FFFFFF8, 0x0FFFFFFF, 4, 0x0FFFFFFF, 0x0FFFFFFF]
  dataStart := 34
  clustersCount := 3
  mounted := true
  ataReadSectors := fun lba _ => some (if lba = 34 then fullSector else fileSector (fatName readme))

theorem fatChain_twoClusterFs : FatChain twoClusterFs 2 [2, 4] :=
  have hlast : twoClusterFs.fatTable[(4 : UInt32).toNat]? = some 0x0FFFFFFF := rfl
  .link (by decide) rfl (.link (by decide) hlast (.stop (by decide)))

/-- The second one listed is the first record of the second cluster. -/
theorem readdir_lists_two_clusters :
    fat32Readdir twoClusterFs 3 2 1 =
      some (.ok (listing (chainBytes twoClusterFs [2, 4]))[(1 : UInt32).toNat]?) := by
  have hread : ∀ c ∈ [2, 4], ReadsWhole twoClusterFs c := by
    intro c hc
    simp only [List.mem_cons, List.not_mem_nil, or_false] at hc
    rcases hc with rfl | rfl
    · exact ⟨fullSector, ⟨rfl, by decide, by decide⟩, rfl, by decide +kernel⟩
    · exact ⟨fileSector (fatName readme), ⟨rfl, by decide, by decide⟩, rfl, by decide +kernel⟩
  exact (readdir_lists_iff fatChain_twoClusterFs hread 1 (by decide)).mpr (Or.inl (by decide))

/-- Two sectors to a cluster, with the same table. -/
def twoSectorFs : Fat32Fs :=
  { twoClusterFs with
    sectorsPerCluster := 2
    ataReadSectors := fun _ _ => some (fullSector ++ fileSector (fatName readme)) }

/-- **A directory on a volume with two sectors to a cluster**: the chain is in order and every cluster
is read, but behind the end of the buffer too, and nothing is reported. -/
theorem two_sectors_overrun :
    FatChain twoSectorFs 2 [2, 4] ∧ (∀ c ∈ [2, 4], ReadsWhole twoSectorFs c) ∧
      fat32Readdir twoSectorFs 3 2 0 = some (.error (.outOfBounds 512)) ∧
      ∀ fuel, fat32Readdir twoSectorFs fuel 2 0 ≠
        some (.ok (listing (chainBytes twoSectorFs [2, 4]))[(0 : UInt32).toNat]?) := by
  have hlast : twoSectorFs.fatTable[(4 : UInt32).toNat]? = some 0x0FFFFFFF := rfl
  have hchain : FatChain twoSectorFs 2 [2, 4] :=
    .link (by decide) rfl (.link (by decide) hlast (.stop (by decide)))
  have hread : ∀ c ∈ [2, 4], ReadsWhole twoSectorFs c := by
    intro c hc
    simp only [List.mem_cons, List.not_mem_nil, or_false] at hc
    refine ⟨fullSector ++ fileSector (fatName readme), ⟨rfl, ?_, ?_⟩, rfl, by decide +kernel⟩
    all_goals rcases hc with rfl | rfl <;> decide
  have hfault : ∀ fuel, fat32Readdir twoSectorFs (fuel + 1) 2 0 = some (.error (.outOfBounds 512)) :=
    fat32Readdir_overruns hchain (hread 2 (by simp)) (by decide) 0
  refine ⟨hchain, hread, hfault 2, fun fuel => ?_⟩
  cases fuel with
  | zero => nofun
  | succ n =>
    rw [hfault n]
    nofun

end MayaOs.Fs
