import MayaOs.Lib.Bytes

/-!
# Directories of a FAT32 volume (`fs/fat32.c`)

The search for a file in the root directory, and the listing of a directory. Both follow a chain of
clusters; the fuel is the number of clusters they may visit, and `none` means that the loop is still
going.

A cluster is read into a buffer of 512 bytes, however many sectors it has. The blocks of
`boot_sector` and `fat_table` were allocated behind it, so that what the code does after a longer read
is not defined: it is a fault.

Left out: mounting, and the copying of file contents, which in the source stands after
`fat32_readdir`, outside any function. What `ata_read_sectors` reads is a parameter.
-/

namespace MayaOs.Fs

open MayaOs.Lib

def fat32Eoc : UInt32 := 0x0FFFFFF8

/-- `fat32_fs`, and what can be read from the drive. -/
structure Fat32Fs where
  rootCluster : UInt32
  sectorsPerCluster : UInt8
  fatTable : List UInt32
  dataStart : UInt32
  clustersCount : UInt32
  mounted : Bool
  ataReadSectors : UInt32 → UInt8 → Option Bytes

/-- `fat32_dir_entry_t`, as far as it is used. -/
structure DirEntry where
  name : Bytes
  attributes : UInt8
  firstClusterHigh : UInt16
  firstClusterLow : UInt16
  fileSize : UInt32
  deriving Repr, DecidableEq

/-- `(first_cluster_high << 16) | first_cluster_low`. -/
def DirEntry.firstCluster (e : DirEntry) : UInt32 :=
  (e.firstClusterHigh.toUInt32 <<< 16) ||| e.firstClusterLow.toUInt32

/-! ## Clusters -/

def fat32ClusterToLba (fs : Fat32Fs) (cluster : UInt32) : UInt32 :=
  fs.dataStart + (cluster - 2) * fs.sectorsPerCluster.toUInt32

/-- What `kmalloc` was asked for in `fat32_init`, whatever the size of a cluster. -/
def clusterBufferSize : Nat := 512

/-- `ata_read_sectors` into `cluster_buffer`, which the sectors of a cluster need not fit in. -/
def intoClusterBuffer : Option Bytes → Except Fault (Option Bytes)
  | none => .ok none
  | some data =>
    if clusterBufferSize < data.length then .error (.outOfBounds clusterBufferSize)
    else .ok (some data)

def fat32ReadCluster (fs : Fat32Fs) (cluster : UInt32) : Except Fault (Option Bytes) :=
  if fs.mounted = false ∨ cluster < 2 ∨ cluster ≥ fs.clustersCount + 2 then .ok none
  else intoClusterBuffer (fs.ataReadSectors (fat32ClusterToLba fs cluster) fs.sectorsPerCluster)

/-- `fat32_read_cluster` reads the cluster from the disk. -/
def Accepted (fs : Fat32Fs) (cluster : UInt32) : Prop :=
  fs.mounted = true ∧ 2 ≤ cluster ∧ cluster < fs.clustersCount + 2

/-- A read gives all sectors that were asked for. -/
def WholeSectors (fs : Fat32Fs) : Prop :=
  ∀ lba count data, fs.ataReadSectors lba count = some data → data.length = 512 * count.toNat

/-- The cluster is read, and these are its sectors. -/
structure ClusterRead (fs : Fat32Fs) (cluster : UInt32) (data : Bytes) : Prop where
  accepted : Accepted fs cluster
  read : fs.ataReadSectors (fat32ClusterToLba fs cluster) fs.sectorsPerCluster = some data
  length_data : data.length = 512 * fs.sectorsPerCluster.toNat

theorem intoClusterBuffer_fits {data : Bytes} (h : data.length ≤ clusterBufferSize) :
    intoClusterBuffer (some data) = .ok (some data) :=
  if_neg (Nat.not_lt.mpr h)

theorem intoClusterBuffer_overruns {data : Bytes} (h : clusterBufferSize < data.length) :
    intoClusterBuffer (some data) = .error (.outOfBounds clusterBufferSize) :=
  if_pos h

theorem fat32ReadCluster_accepted {fs : Fat32Fs} {cluster : UInt32} (h : Accepted fs cluster) :
    fat32ReadCluster fs cluster = intoClusterBuffer
      (fs.ataReadSectors (fat32ClusterToLba fs cluster) fs.sectorsPerCluster) := by
  unfold fat32ReadCluster
  obtain ⟨hm, hlow, hhigh⟩ := h
  rw [if_neg]
  rintro (hno | hno | hno)
  · rw [hm] at hno
    cases hno
  · exact absurd hlow (UInt32.not_le.mpr hno)
  · exact absurd hhigh (UInt32.not_lt.mpr hno)

theorem fat32ReadCluster_refused {fs : Fat32Fs} {cluster : UInt32} (h : ¬ Accepted fs cluster) :
    fat32ReadCluster fs cluster = .ok none := by
  unfold fat32ReadCluster
  refine if_pos ?_
  by_contra hno
  simp only [not_or, Bool.not_eq_false, ge_iff_le, UInt32.not_lt, UInt32.not_le] at hno
  exact h hno

/-- A cluster of one sector fits in the buffer. -/
theorem ClusterRead.fits {fs : Fat32Fs} {cluster : UInt32} {data : Bytes}
    (h : ClusterRead fs cluster data) (hone : fs.sectorsPerCluster ≤ 1) :
    fat32ReadCluster fs cluster = .ok (some data) := by
  have hle : fs.sectorsPerCluster.toNat ≤ 1 := UInt8.le_iff_toNat_le.mp hone
  have hlen := h.length_data
  rw [fat32ReadCluster_accepted h.accepted, h.read, intoClusterBuffer_fits]
  show data.length ≤ 512
  omega

/-- A larger one is written over what stands behind the buffer. -/
theorem ClusterRead.overruns {fs : Fat32Fs} {cluster : UInt32} {data : Bytes}
    (h : ClusterRead fs cluster data) (hmany : ¬ fs.sectorsPerCluster ≤ 1) :
    fat32ReadCluster fs cluster = .error (.outOfBounds clusterBufferSize) := by
  have hlt : ¬ fs.sectorsPerCluster.toNat ≤ 1 := fun hle => hmany (UInt8.le_iff_toNat_le.mpr hle)
  have hlen := h.length_data
  rw [fat32ReadCluster_accepted h.accepted, h.read, intoClusterBuffer_overruns]
  show 512 < data.length
  omega

/-- `entries[i]` of the cluster buffer. -/
def entryAt (buffer : Bytes) (i : Nat) : DirEntry where
  name := (List.range 11).map fun j => byteAt buffer (32 * i + j)
  attributes := byteAt buffer (32 * i + 11)
  firstClusterHigh := u16At buffer (32 * i + 20)
  firstClusterLow := u16At buffer (32 * i + 26)
  fileSize := u32At buffer (32 * i + 28)

/-- The entries that the loops over a cluster go through, where the read has left `boot_sector`
alone. -/
def clusterEntries (fs : Fat32Fs) (buffer : Bytes) : List DirEntry :=
  (List.range (512 * fs.sectorsPerCluster.toNat / 32)).map (entryAt buffer)

/-- `fat_table[cluster]`. -/
def nextCluster (fs : Fat32Fs) (cluster : UInt32) : Except Fault UInt32 :=
  match fs.fatTable[cluster.toNat]? with
  | some next => .ok next
  | none => .error (.outOfBounds cluster.toNat)

/-! ## Names -/

def space : UInt8 := 0x20
def dot : UInt8 := 0x2E

/-- What follows the first dot, if there is one. -/
def extension (filename : Bytes) : Option Bytes :=
  match filename.dropWhile (· != dot) with
  | [] => none
  | _ :: ext => some ext

/-- `n` bytes, filled up with spaces. -/
def padded (bs : Bytes) (n : Nat) : Bytes := bs ++ List.replicate (n - bs.length) space

/-- "Convert filename to FAT format (8.3)": a long name is cut, a long extension left out. -/
def fatName (filename : Bytes) : Bytes :=
  let name := (filename.takeWhile (· != dot)).take 8
  let ext :=
    match extension filename with
    | some ext => if ext.length ≤ 3 then ext else []
    | none => []
  padded name 8 ++ padded ext 3

/-- "Convert FAT name to normal name". -/
def normalName (name : Bytes) : Bytes :=
  (name.take 8).takeWhile (· != space) ++
    if byteAt name 8 ≠ space then dot :: ((name.drop 8).take 3).takeWhile (· != space) else []

/-! ## The search in `fat32_read_file` -/

def searchLoop (fs : Fat32Fs) (fatName : Bytes) : Nat → UInt32 →
    Option (Except Fault (Option DirEntry))
  | 0, _ => none
  | fuel + 1, cluster =>
    if 2 ≤ cluster ∧ cluster < fat32Eoc then
      match fat32ReadCluster fs cluster with
      | .error fault => some (.error fault)
      | .ok none => some (.ok none)
      | .ok (some buffer) =>
        match (clusterEntries fs buffer).find? fun e => e.name = fatName with
        | some e => some (.ok (some e))
        | none =>
          match nextCluster fs cluster with
          | .ok next => searchLoop fs fatName fuel next
          | .error fault => some (.error fault)
    else some (.ok none)

/-- `fat32_read_file` up to the entry it selects. -/
def fat32FindFile (fs : Fat32Fs) (fuel : Nat) (filename : Bytes) :
    Option (Except Fault (Option DirEntry)) :=
  if fs.mounted = false then some (.ok none)
  else searchLoop fs (fatName filename) fuel fs.rootCluster

/-! ## The listing -/

/-- `name[0]`. -/
def DirEntry.first (e : DirEntry) : UInt8 := byteAt e.name 0

/-- How the loop over one cluster ends: `readdir` returns, or goes on with a count. -/
inductive Scan where
  | returned (e : Option DirEntry)
  | continued (count : UInt32)
  deriving Repr, DecidableEq

def readdirEntries (index : UInt32) : List DirEntry → UInt32 → Scan
  | [], count => .continued count
  | e :: es, count =>
    if e.first = 0x00 then .returned none
    else if e.first = 0xE5 then readdirEntries index es count
    else if e.attributes &&& 0x08 ≠ 0 then readdirEntries index es count
    else if count = index then .returned (some e)
    else readdirEntries index es (count + 1)

def readdirLoop (fs : Fat32Fs) (index : UInt32) : Nat → UInt32 → UInt32 →
    Option (Except Fault (Option DirEntry))
  | 0, _, _ => none
  | fuel + 1, cluster, count =>
    if 2 ≤ cluster ∧ cluster < fat32Eoc then
      match fat32ReadCluster fs cluster with
      | .error fault => some (.error fault)
      | .ok none => some (.ok none)
      | .ok (some buffer) =>
        match readdirEntries index (clusterEntries fs buffer) count with
        | .returned e => some (.ok e)
        | .continued count =>
          match nextCluster fs cluster with
          | .ok next => readdirLoop fs index fuel next count
          | .error fault => some (.error fault)
    else some (.ok none)

/-- The entry that `fat32_readdir` reports for the directory at `inode`. -/
def readdirEntry (fs : Fat32Fs) (fuel : Nat) (inode index : UInt32) :
    Option (Except Fault (Option DirEntry)) :=
  if fs.mounted = false then some (.ok none) else readdirLoop fs index fuel inode 0

/-- `struct vfs_dirent`. -/
structure VfsDirent where
  name : Bytes
  inode : UInt32
  deriving Repr, DecidableEq

def DirEntry.toDirent (e : DirEntry) : VfsDirent where
  name := normalName e.name
  inode := e.firstCluster

def fat32Readdir (fs : Fat32Fs) (fuel : Nat) (inode index : UInt32) :
    Option (Except Fault (Option VfsDirent)) :=
  (readdirEntry fs fuel inode index).map fun r => r.map fun e => e.map DirEntry.toDirent

end MayaOs.Fs
