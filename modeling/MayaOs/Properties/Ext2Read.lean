import MayaOs.Fs.Ext2File
import MayaOs.Properties.Ext2Mount

/-!
# Reading a file of an ext2 volume

A file is read block by block up to the first hole. Blocks from the twelfth on have their pointers in
the indirect block, and an inode that has none has 0 in its place; `ext2_get_block_from_inode` takes
that for block 0.

* `FileRead.turn` — one turn of the loop copies what the block has of the range
* `ext2_read_iff` — `ext2_read` delivers the bytes of the file iff block 0 is not taken for an indirect
  block with a pointer in it
* `ext2_read_block_zero` — it is
-/

namespace MayaOs.Fs

open MayaOs.Lib MayaOs.Drivers

/-! ## Files -/

section File

variable (s : Ext2State) (driver : SectorDriver) (record : Bytes)

/-- The read succeeds and transfers the block. -/
def BlockReads (block : UInt32) : Prop :=
  (blockRead s.blockSize driver block).1 ≠ 0 ∧ (blockRead s.blockSize driver block).2.isSome

def blockContents (block : UInt32) : Bytes := (blockRead s.blockSize driver block).2.getD []

/-- The `n`th pointer in the block that `i_block[12]` names. -/
def indirectWord (n : Nat) : UInt32 :=
  u32At (blockContents s driver (iBlock record ext2IndBlock)) (4 * n)

/-- The pointer of the `i`th block of a file. -/
def filePointer (i : Nat) : UInt32 :=
  if i < 12 then iBlock record i
  else if iBlock record ext2IndBlock = 0 then 0
  else indirectWord s driver record (i - 12)

/-- What the code takes for it. -/
def codePointer (i : Nat) : UInt32 :=
  if i < 12 then iBlock record i else indirectWord s driver record (i - 12)

def fileByte (x : Nat) : UInt8 :=
  byteAt (blockContents s driver (filePointer s driver record (x / s.blockSize.toNat)))
    (x % s.blockSize.toNat)

/-- The `n` bytes from `offset` on. -/
def fileBytes (offset n : Nat) : Bytes :=
  (List.range n).map fun k => fileByte s driver record (offset + k)

/-- What the file has of a range. -/
def clampedSize (offset : UInt64) (size : UInt32) : Nat :=
  min size.toNat ((iSize record).toNat - offset.toNat)

/-- The blocks that cover the range. -/
def rangeBlocks (offset n : Nat) : List Nat :=
  if n = 0 then []
  else List.range' (offset / s.blockSize.toNat)
    ((offset + n - 1) / s.blockSize.toNat + 1 - offset / s.blockSize.toNat)

end File

/-- A call of `ext2_read` for a file, with the reads and the allocations that it makes. -/
structure FileCall where
  s : Ext2State
  driver : SectorDriver
  node : FsNode
  offset : UInt64
  size : UInt32
  buffer : Bytes
  allocs : List (Option (Nat → UInt8))
  record : Bytes
  rest : List (Option (Nat → UInt8))

namespace FileCall

variable (f : FileCall)

def bs : Nat := f.s.blockSize.toNat

def pointer (i : Nat) : UInt32 := filePointer f.s f.driver f.record i

/-- The bytes asked for that are in the file. -/
def clamped : Nat := clampedSize f.record f.offset f.size

def blocks : List Nat := rangeBlocks f.s f.offset.toNat f.clamped

/-- The read comes to this block. -/
def Reaches (i : Nat) : Prop := i ∈ f.blocks ∧ ∀ j ∈ f.blocks, j < i → f.pointer j ≠ 0

/-- The bytes asked for that stand before the first hole. -/
def readable : Nat :=
  (f.blocks.find? fun i => f.pointer i = 0).elim f.clamped fun i => i * f.bs - f.offset.toNat

end FileCall

/-- The volume is mounted, the allocations and the reads succeed, and the first pointer that cannot be
used, if there is one, is zero. -/
structure FileRead extends FileCall where
  initialized : s.initialized = true
  blockSize : ∃ k ≤ 2, s.blockSize.toNat = 1024 * 2 ^ k
  isFile : node.isFile = true
  inodeRead : ext2ReadInode s driver node.inode allocs = .ok (some record, rest)
  small : (iSize record).toNat < 2 ^ 31
  positive : 0 < size.toNat
  room : toFileCall.clamped ≤ buffer.length
  allocations : 0 < toFileCall.clamped → ∀ n ≤ toFileCall.blocks.length,
    ∃ junk, rest[n]? = some (some junk)
  usable : ∀ i, toFileCall.Reaches i → i < 12 + toFileCall.bs / 4
  indirectReads : (∃ i, toFileCall.Reaches i ∧ 12 ≤ i) →
    BlockReads s driver (iBlock record ext2IndBlock)
  blockReads : ∀ i, toFileCall.Reaches i → toFileCall.pointer i ≠ 0 →
    BlockReads s driver (toFileCall.pointer i)

/-- The bytes before the first hole are delivered, and nothing behind them is written. -/
def FileCall.Delivers (f : FileCall) : Prop :=
  ∃ fuel, ext2Read f.s f.driver (some f.node) f.offset f.size (some f.buffer) f.allocs fuel =
    some (.ok {
      value := f.readable
      buffer := some (fileBytes f.s f.driver f.record f.offset.toNat f.readable ++
        f.buffer.drop f.readable) })

/-- The read does not come to a block from the twelfth on, or there is an indirect block, or block 0
has a zero where the pointer would be. -/
def FileCall.IndirectSound (f : FileCall) : Prop :=
  iBlock f.record ext2IndBlock = 0 → ∀ i, f.Reaches i → 12 ≤ i →
    indirectWord f.s f.driver f.record (i - 12) = 0

/-! ## Reading a block -/

section Block

variable {s : Ext2State} {driver : SectorDriver} {record : Bytes}

/-- The block sizes of the volumes that are read. -/
def SmallBlocks (s : Ext2State) : Prop := ∃ k ≤ 2, s.blockSize.toNat = 1024 * 2 ^ k

theorem SmallBlocks.cases (h : SmallBlocks s) :
    s.blockSize.toNat = 1024 ∨ s.blockSize.toNat = 2048 ∨ s.blockSize.toNat = 4096 := by
  obtain ⟨k, hk, heq⟩ := h
  rw [heq]
  obtain rfl | rfl | rfl : k = 0 ∨ k = 1 ∨ k = 2 := by omega
  · exact Or.inl rfl
  · exact Or.inr (Or.inl rfl)
  · exact Or.inr (Or.inr rfl)

theorem SmallBlocks.blockReadBytes (h : SmallBlocks s) :
    blockReadBytes s.blockSize = s.blockSize.toNat := by
  unfold MayaOs.Fs.blockReadBytes
  have := h.cases
  omega

theorem length_blockContents (h : SmallBlocks s) {block : UInt32}
    (hread : BlockReads s driver block) :
    (blockContents s driver block).length = s.blockSize.toNat := by
  obtain ⟨data, hdata⟩ := Option.isSome_iff_exists.mp hread.2
  unfold blockContents
  rw [hdata, Option.getD_some, length_blockRead hdata, h.blockReadBytes]

theorem ext2ReadBlock_reads (h : SmallBlocks s) {block : UInt32} (hread : BlockReads s driver block)
    {buffer : Bytes} (hlen : buffer.length = s.blockSize.toNat) :
    ext2ReadBlock s driver block buffer = .ok (true, blockContents s driver block) := by
  have hcontents := length_blockContents h hread
  obtain ⟨data, hdata⟩ := Option.isSome_iff_exists.mp hread.2
  have hok : ((blockRead s.blockSize driver block).1 != 0) = true := bne_iff_ne.mpr hread.1
  unfold blockContents at hcontents ⊢
  rw [hdata, Option.getD_some] at hcontents ⊢
  unfold blockRead at hdata hok
  unfold ext2ReadBlock
  simp only [hdata, hok]
  rw [if_neg (by omega), List.drop_of_length_le (by omega), List.append_nil]

/-- Calls of `kmalloc` that will succeed. -/
def Succeed (allocs : List (Option (Nat → UInt8))) (count : Nat) : Prop :=
  ∀ n < count, ∃ junk, allocs[n]? = some (some junk)

theorem Succeed.kmallocBlock {allocs : List (Option (Nat → UInt8))} {count : Nat}
    (h : Succeed allocs (count + 1)) {size : UInt32} (hsize : size ≠ 0) :
    ∃ block rest, kmallocBlock allocs size = (some block, rest) ∧ block.length = size.toNat ∧
      Succeed rest count := by
  obtain ⟨junk, hjunk⟩ := h 0 (Nat.succ_pos count)
  cases allocs with
  | nil => cases hjunk
  | cons a rest =>
    cases hjunk
    refine ⟨(List.range size.toNat).map junk, rest, ?_, by simp, fun n hn => h (n + 1) (by omega)⟩
    unfold MayaOs.Fs.kmallocBlock
    rw [if_neg hsize]

theorem Succeed.mono {allocs : List (Option (Nat → UInt8))} {m n : Nat} (h : Succeed allocs n)
    (hle : m ≤ n) : Succeed allocs m :=
  fun i hi => h i (Nat.lt_of_lt_of_le hi hle)

theorem SmallBlocks.ne_zero (h : SmallBlocks s) : s.blockSize ≠ 0 := by
  intro hzero
  have := h.cases
  rw [hzero] at this
  revert this
  decide

/-- **`ext2_get_block_from_inode` gives the pointer**, and has taken at most one block of memory. -/
theorem ext2GetBlockFromInode_eq (h : SmallBlocks s) {i : Nat} {block : UInt32}
    (hblock : block.toNat = i) (hi : i < 12 + s.blockSize.toNat / 4)
    (hread : 12 ≤ i → BlockReads s driver (iBlock record ext2IndBlock))
    {allocs : List (Option (Nat → UInt8))} {count : Nat} (hallocs : Succeed allocs (count + 1)) :
    ∃ rest, ext2GetBlockFromInode s driver record block allocs =
      .ok (codePointer s driver record i, rest) ∧ Succeed rest count := by
  have hsmall := h.cases
  have hdirect : block < ext2NdirBlocks ↔ i < 12 := by
    rw [UInt32.lt_iff_toNat_lt, hblock]
    rfl
  unfold ext2GetBlockFromInode codePointer
  by_cases h12 : i < 12
  · refine ⟨allocs, ?_, hallocs.mono (Nat.le_succ count)⟩
    simp only [if_pos (hdirect.mpr h12), if_pos h12, hblock]
  · have hindirect : block < ext2NdirBlocks + s.blockSize / 4 := by
      rw [UInt32.lt_iff_toNat_lt, UInt32.toNat_add, UInt32.toNat_div, hblock]
      show i < (12 + s.blockSize.toNat / 4) % 2 ^ 32
      omega
    have hsub : (block - ext2NdirBlocks).toNat = i - 12 := by
      have hle : ext2NdirBlocks ≤ block := UInt32.not_lt.mp fun hlt => h12 (hdirect.mp hlt)
      rw [UInt32.toNat_sub_of_le _ _ hle, hblock]
      rfl
    obtain ⟨buffer, rest, halloc, hlen, hrest⟩ := hallocs.kmallocBlock h.ne_zero
    have hind := hread (by omega)
    have hcontents := length_blockContents h hind
    have hword : read32 (blockContents s driver (iBlock record ext2IndBlock)) (4 * (i - 12)) =
        .ok (indirectWord s driver record (i - 12)) := read32_eq (by omega)
    refine ⟨rest, ?_, hrest⟩
    simp only [if_neg (fun hlt => h12 (hdirect.mp hlt)), if_pos hindirect, if_neg h12, halloc,
      ext2ReadBlock_reads h hind hlen, hsub, hword]

end Block

/-! ## The bytes of a file -/

section Bytes

variable {s : Ext2State} {driver : SectorDriver} {record : Bytes}

theorem length_fileBytes (offset n : Nat) : (fileBytes s driver record offset n).length = n := by
  unfold fileBytes
  rw [List.length_map, List.length_range]

theorem getElem_fileBytes {offset n k : Nat}
    (h : k < (fileBytes s driver record offset n).length) :
    (fileBytes s driver record offset n)[k] = fileByte s driver record (offset + k) := by
  simp [fileBytes]

theorem fileBytes_add (offset m n : Nat) :
    fileBytes s driver record offset (m + n) =
      fileBytes s driver record offset m ++ fileBytes s driver record (offset + m) n := by
  unfold fileBytes
  rw [List.range_add, List.map_append, List.map_map]
  congr 1
  refine List.map_congr_left fun k _ => ?_
  rw [Function.comp_apply, Nat.add_assoc]

/-- A part of a block is a part of the file. -/
theorem fileBytes_block {i d n : Nat} (hin : d + n ≤ s.blockSize.toNat)
    (hlen : (blockContents s driver (filePointer s driver record i)).length = s.blockSize.toNat) :
    ((blockContents s driver (filePointer s driver record i)).drop d).take n =
      fileBytes s driver record (i * s.blockSize.toNat + d) n := by
  refine List.ext_getElem ?_ fun k hk hk' => ?_
  · rw [List.length_take, List.length_drop, length_fileBytes, hlen]
    omega
  · rw [length_fileBytes] at hk'
    have hpos : 0 < s.blockSize.toNat := by omega
    have hdiv : (i * s.blockSize.toNat + d + k) / s.blockSize.toNat = i := by
      rw [Nat.add_assoc, Nat.mul_comm, Nat.mul_add_div hpos, Nat.div_eq_of_lt (by omega),
        Nat.add_zero]
    have hmod : (i * s.blockSize.toNat + d + k) % s.blockSize.toNat = d + k := by
      rw [Nat.add_assoc, Nat.mul_comm, Nat.mul_add_mod, Nat.mod_eq_of_lt (by omega)]
    rw [List.getElem_take, List.getElem_drop, getElem_fileBytes, fileByte, hdiv, hmod, byteAt,
      List.getD_eq_getElem?_getD, List.getElem?_eq_getElem (by omega), Option.getD_some]

end Bytes

/-! ## The loop -/

namespace FileRead

variable (f : FileRead)

theorem smallBlocks : SmallBlocks f.s := f.blockSize

theorem bs_cases : f.bs = 1024 ∨ f.bs = 2048 ∨ f.bs = 4096 := f.smallBlocks.cases

theorem offset_add_clamped (h : 0 < f.clamped) : f.offset.toNat + f.clamped < 2 ^ 31 := by
  have hsmall := f.small
  unfold FileCall.clamped clampedSize at h ⊢
  omega

theorem mem_blocks {i : Nat} :
    i ∈ f.blocks ↔ 0 < f.clamped ∧ f.offset.toNat / f.bs ≤ i ∧
      i * f.bs < f.offset.toNat + f.clamped := by
  have hbs : 0 < f.bs := by
    have := f.bs_cases
    omega
  unfold FileCall.blocks rangeBlocks
  by_cases hzero : f.clamped = 0
  · rw [if_pos hzero]
    simp [hzero]
  · rw [if_neg hzero, List.mem_range'_1]
    have hlast : i ≤ (f.offset.toNat + f.clamped - 1) / f.bs ↔
        i * f.bs ≤ f.offset.toNat + f.clamped - 1 := Nat.le_div_iff_mul_le hbs
    show f.offset.toNat / f.bs ≤ i ∧ i < f.offset.toNat / f.bs +
      ((f.offset.toNat + f.clamped - 1) / f.bs + 1 - f.offset.toNat / f.bs) ↔ _
    omega

theorem length_blocks (h : 0 < f.clamped) :
    f.offset.toNat / f.bs + f.blocks.length = (f.offset.toNat + f.clamped - 1) / f.bs + 1 := by
  have hle : f.offset.toNat / f.bs ≤ (f.offset.toNat + f.clamped - 1) / f.bs :=
    Nat.div_le_div_right (by omega)
  unfold FileCall.blocks rangeBlocks
  rw [if_neg (by omega), List.length_range']
  show f.offset.toNat / f.bs + ((f.offset.toNat + f.clamped - 1) / f.bs + 1 - f.offset.toNat / f.bs) =
    _
  omega

/-- The start of a block in the range, or of the one behind it. -/
theorem start_bounds {i : Nat} (h : f.offset.toNat / f.bs ≤ i) : f.offset.toNat < i * f.bs + f.bs := by
  have hbs : 0 < f.bs := by
    have := f.bs_cases
    omega
  have := Nat.lt_div_mul_add (a := f.offset.toNat) hbs
  have hmul := Nat.mul_le_mul_right f.bs h
  omega

/-- The variables before the turn for the block `i`, or behind the last block. -/
structure Progress (i : Nat) (st : ReadState) : Prop where
  first : f.offset.toNat / f.bs ≤ i
  block : st.i.toNat = i
  inBlock : st.offsetInBlock.toNat = f.offset.toNat - i * f.bs
  bytesRead : st.bytesRead.toNat = min f.clamped (i * f.bs - f.offset.toNat)
  temp : st.tempBuffer.length = f.bs
  buffer : st.buffer =
    fileBytes f.s f.driver f.record f.offset.toNat st.bytesRead.toNat ++
      f.buffer.drop st.bytesRead.toNat
  allocs : Succeed st.allocs (f.offset.toNat / f.bs + f.blocks.length - i)

/-- The code finds the pointer of a block. -/
def Agrees (i : Nat) : Prop := codePointer f.s f.driver f.record i = f.pointer i

variable {f} {i : Nat} {st : ReadState} {size : UInt32}

theorem Progress.lt (h : f.Progress i st) (hi : i ∈ f.blocks) :
    st.bytesRead.toNat = i * f.bs - f.offset.toNat ∧ st.bytesRead.toNat < f.clamped := by
  have hbytes := h.bytesRead
  obtain ⟨hpos, hfirst, hlast⟩ := (mem_blocks f).mp hi
  omega

/-- The pointer, in a turn. -/
theorem Progress.pointer (h : f.Progress i st) (hi : f.Reaches i) :
    ∃ rest, ext2GetBlockFromInode f.s f.driver f.record st.i st.allocs =
      .ok (codePointer f.s f.driver f.record i, rest) ∧
      Succeed rest (f.offset.toNat / f.bs + f.blocks.length - (i + 1)) := by
  obtain ⟨hpos, hfirst, hlast⟩ := (mem_blocks f).mp hi.1
  have hbs : 0 < f.bs := by
    have := f.bs_cases
    omega
  have hcount := length_blocks f hpos
  have hle : i ≤ (f.offset.toNat + f.clamped - 1) / f.bs :=
    (Nat.le_div_iff_mul_le hbs).mpr (by omega)
  refine ext2GetBlockFromInode_eq f.smallBlocks h.block (f.usable i hi)
    (fun h12 => f.indirectReads ⟨i, hi, h12⟩) ?_
  have hallocs := h.allocs
  rwa [show f.offset.toNat / f.bs + f.blocks.length - i =
    f.offset.toNat / f.bs + f.blocks.length - (i + 1) + 1 by omega] at hallocs

/-- A hole. -/
theorem Progress.turn_hole (h : f.Progress i st) (hi : f.Reaches i)
    (hzero : codePointer f.s f.driver f.record i = 0) :
    ext2ReadTurn f.s f.driver f.record size st = .ok (.left st.bytesRead st.buffer) := by
  obtain ⟨rest, hget, -⟩ := h.pointer hi
  unfold ext2ReadTurn
  rw [hget]
  exact if_pos hzero

/-- The variables are where they may be. -/
structure Sane (f : FileRead) (st : ReadState) : Prop where
  bytesRead : st.bytesRead.toNat ≤ f.clamped
  inBlock : st.offsetInBlock.toNat < f.bs

theorem Progress.sane (h : f.Progress i st) : f.Sane st := by
  have hstart := start_bounds f h.first
  refine ⟨?_, ?_⟩
  · rw [h.bytesRead]
    exact Nat.min_le_left _ _
  · rw [h.inBlock]
    have := f.bs_cases
    omega

/-- How much a turn copies. -/
theorem Sane.toNat_toRead (h : f.Sane st) (hpos : 0 < f.clamped) (hsize : size.toNat = f.clamped) :
    (if size < st.bytesRead + (f.s.blockSize - st.offsetInBlock) then size - st.bytesRead
      else f.s.blockSize - st.offsetInBlock).toNat =
      min (f.bs - st.offsetInBlock.toNat) (f.clamped - st.bytesRead.toNat) := by
  have hbs := f.bs_cases
  have hsmall := f.offset_add_clamped hpos
  have hbytes := h.bytesRead
  have hin := h.inBlock
  have hrest : (f.s.blockSize - st.offsetInBlock).toNat = f.bs - st.offsetInBlock.toNat :=
    UInt32.toNat_sub_of_le _ _ (UInt32.le_iff_toNat_le.mpr (Nat.le_of_lt hin))
  have hsum : (st.bytesRead + (f.s.blockSize - st.offsetInBlock)).toNat =
      st.bytesRead.toNat + (f.bs - st.offsetInBlock.toNat) := by
    rw [UInt32.toNat_add, hrest, Nat.mod_eq_of_lt (by omega)]
  by_cases hclamp : size < st.bytesRead + (f.s.blockSize - st.offsetInBlock)
  · rw [if_pos hclamp]
    rw [UInt32.lt_iff_toNat_lt, hsum] at hclamp
    rw [UInt32.toNat_sub_of_le _ _ (UInt32.le_iff_toNat_le.mpr (by omega))]
    omega
  · rw [if_neg hclamp, hrest]
    rw [UInt32.lt_iff_toNat_lt, hsum] at hclamp
    omega

theorem Sane.toNat_add (h : f.Sane st) (hpos : 0 < f.clamped) {n : UInt32}
    (hn : n.toNat ≤ f.clamped - st.bytesRead.toNat) :
    (st.bytesRead + n).toNat = st.bytesRead.toNat + n.toNat := by
  have hsmall := f.offset_add_clamped hpos
  have hbytes := h.bytesRead
  rw [UInt32.toNat_add, Nat.mod_eq_of_lt (by omega)]

/-- The part of the block that the copy begins at. -/
theorem Progress.slice (h : f.Progress i st) (hi : i ∈ f.blocks) {n : Nat}
    (hcontents : (blockContents f.s f.driver (f.pointer i)).length = f.bs)
    (hn : st.offsetInBlock.toNat + n ≤ f.bs) :
    slice (blockContents f.s f.driver (f.pointer i)) st.offsetInBlock.toNat n =
      .ok (fileBytes f.s f.driver f.record (f.offset.toNat + st.bytesRead.toNat) n) := by
  obtain ⟨hdone, -⟩ := h.lt hi
  have hin := h.inBlock
  have hpart : i * f.bs + st.offsetInBlock.toNat = f.offset.toNat + st.bytesRead.toNat := by omega
  rw [slice_eq (by omega), ← hpart]
  exact congrArg _ (fileBytes_block hn hcontents)

/-- The buffer, after the next bytes of the file. -/
theorem Progress.write (h : f.Progress i st) {n : Nat}
    (hroom : st.bytesRead.toNat + n ≤ f.buffer.length) :
    write st.buffer st.bytesRead.toNat
        (fileBytes f.s f.driver f.record (f.offset.toNat + st.bytesRead.toNat) n) =
      .ok (fileBytes f.s f.driver f.record f.offset.toNat (st.bytesRead.toNat + n) ++
        f.buffer.drop (st.bytesRead.toNat + n)) := by
  rw [h.buffer, write_append (length_fileBytes _ _).symm
    (by rw [length_fileBytes, List.length_drop]; omega), length_fileBytes, fileBytes_add,
    List.drop_drop]

/-- How much has been copied after a turn, for a block that begins at `start`. -/
theorem copied_succ {offset clamped start bs within done n : Nat} (hstart : offset < start + bs)
    (hwithin : within = offset - start) (hdone : done = start - offset) (hlt : done < clamped)
    (hn : n = min (bs - within) (clamped - done)) :
    done + n = min clamped (start + bs - offset) := by
  omega

/-- **A turn copies what the block has of the range.** -/
theorem Progress.turn (h : f.Progress i st) (hi : f.Reaches i) (hagrees : f.Agrees i)
    (hne : f.pointer i ≠ 0) (hsize : size.toNat = f.clamped) :
    ∃ st', ext2ReadTurn f.s f.driver f.record size st = .ok (.next st') ∧ f.Progress (i + 1) st' := by
  obtain ⟨rest, hget, hrest⟩ := h.pointer hi
  obtain ⟨hn, hlt⟩ := h.lt hi.1
  obtain ⟨hpos, hfirst, hlast⟩ := (mem_blocks f).mp hi.1
  have hstart := start_bounds f hfirst
  have hbs := f.bs_cases
  have hsmall := f.offset_add_clamped hpos
  have hread := f.blockReads i hi hne
  have hcontents : (blockContents f.s f.driver (f.pointer i)).length = f.bs :=
    length_blockContents f.smallBlocks hread
  have hin := h.inBlock
  have hcount := h.sane.toNat_toRead hpos hsize
  generalize htoRead : (if size < st.bytesRead + (f.s.blockSize - st.offsetInBlock) then
    size - st.bytesRead else f.s.blockSize - st.offsetInBlock) = toRead at hcount
  have hroom := f.room
  have hslice := h.slice hi.1 (n := toRead.toNat) hcontents (by omega)
  have hwrite := h.write (n := toRead.toNat) (by omega)
  have hsum : (st.bytesRead + toRead).toNat = st.bytesRead.toNat + toRead.toNat :=
    h.sane.toNat_add hpos (by omega)
  have hnext : (i + 1) * f.bs = i * f.bs + f.bs := Nat.succ_mul i f.bs
  have hblock : (st.i + 1).toNat = i + 1 := by
    have hle : i ≤ i * f.bs := Nat.le_mul_of_pos_right i (by omega)
    rw [UInt32.toNat_add, h.block]
    show (i + 1) % 2 ^ 32 = i + 1
    omega
  refine ⟨{
    i := st.i + 1
    offsetInBlock := 0
    bytesRead := st.bytesRead + toRead
    tempBuffer := blockContents f.s f.driver (f.pointer i)
    buffer := fileBytes f.s f.driver f.record f.offset.toNat (st.bytesRead.toNat + toRead.toNat) ++
      f.buffer.drop (st.bytesRead.toNat + toRead.toNat)
    allocs := rest }, ?_, ⟨by omega, hblock, ?_, ?_, hcontents, by rw [hsum], hrest⟩⟩
  · have hpointer : codePointer f.s f.driver f.record i = f.pointer i := hagrees
    unfold ext2ReadTurn
    simp only [hget, hpointer, if_neg hne, ext2ReadBlock_reads f.smallBlocks hread h.temp, htoRead,
      hslice, hwrite]
  · exact (Nat.sub_eq_zero_of_le (by omega)).symm
  · refine hsum.trans ?_
    rw [hnext]
    exact copied_succ hstart hin hn hlt hcount

/-! ### The whole loop -/

variable {endBlock : UInt32}

/-- The last block of the range. -/
def lastBlock (f : FileRead) : Nat := (f.offset.toNat + f.clamped - 1) / f.bs

theorem mem_blocks_iff_le (hpos : 0 < f.clamped) (hfirst : f.offset.toNat / f.bs ≤ i) :
    i ∈ f.blocks ↔ i ≤ f.lastBlock := by
  have hbs : 0 < f.bs := by
    have := f.bs_cases
    omega
  have hlast : i ≤ f.lastBlock ↔ i * f.bs ≤ f.offset.toNat + f.clamped - 1 :=
    Nat.le_div_iff_mul_le hbs
  rw [mem_blocks f, hlast]
  omega

theorem Progress.left_iff (h : f.Progress i st) (hpos : 0 < f.clamped)
    (hend : endBlock.toNat = f.lastBlock) : endBlock < st.i ↔ i ∉ f.blocks := by
  rw [mem_blocks_iff_le hpos h.first, UInt32.lt_iff_toNat_lt, hend, h.block, Nat.not_le]

/-- The loop comes to a block if it finds the pointers of those before it. -/
theorem Progress.advance (hsize : size.toNat = f.clamped) (hend : endBlock.toNat = f.lastBlock)
    {j : Nat} (hj : f.Reaches j) (hagrees : ∀ i, i < j → f.Reaches i → f.Agrees i) :
    ∀ {n : Nat} {i : Nat} {st : ReadState}, f.Progress i st → i + n = j →
      ∃ st', f.Progress j st' ∧ ∀ fuel,
        ext2ReadLoop f.s f.driver f.record size endBlock (fuel + n) st =
          ext2ReadLoop f.s f.driver f.record size endBlock fuel st' := by
  intro n
  induction n with
  | zero =>
    rintro i st h rfl
    exact ⟨st, h, fun fuel => rfl⟩
  | succ n ih =>
    intro i st h hij
    have hlt : i < j := by omega
    obtain ⟨hpos, -, -⟩ := (mem_blocks f).mp hj.1
    have hmem : i ∈ f.blocks := by
      have hle := (mem_blocks_iff_le hpos ((mem_blocks f).mp hj.1).2.1).mp hj.1
      exact (mem_blocks_iff_le hpos h.first).mpr (by omega)
    have hreach : f.Reaches i := ⟨hmem, fun k hk hki => hj.2 k hk (by omega)⟩
    obtain ⟨st₁, hturn, h₁⟩ := h.turn hreach (hagrees i hlt hreach) (hj.2 i hmem hlt) hsize
    obtain ⟨st', h', hloop⟩ := ih h₁ (by omega)
    refine ⟨st', h', fun fuel => ?_⟩
    rw [← Nat.add_assoc, ext2ReadLoop, if_neg fun hleft => (h.left_iff hpos hend).mp hleft hmem,
      hturn]
    exact hloop fuel

/-! ### What is to be read -/

theorem readable_cases (f : FileRead) :
    ((∀ i ∈ f.blocks, f.pointer i ≠ 0) ∧ f.readable = f.clamped) ∨
      ∃ m, f.Reaches m ∧ f.pointer m = 0 ∧ f.readable = m * f.bs - f.offset.toNat := by
  unfold FileCall.readable
  cases hfind : f.blocks.find? fun i => f.pointer i = 0 with
  | none =>
    refine Or.inl ⟨fun i hi => ?_, rfl⟩
    simpa using List.find?_eq_none.mp hfind i hi
  | some m =>
    obtain ⟨hm, before, behind, hsplit, hbefore⟩ := List.find?_eq_some_iff_append.mp hfind
    refine Or.inr ⟨m, ⟨by rw [hsplit]; simp, fun j hj hlt => ?_⟩, by simpa using hm, rfl⟩
    -- the blocks stand in order
    have hsorted : f.blocks.Pairwise (· < ·) := by
      unfold FileCall.blocks rangeBlocks
      split
      · exact List.Pairwise.nil
      · exact List.pairwise_lt_range'
    rw [hsplit] at hj hsorted
    rcases List.mem_append.mp hj with hj | hj
    · simpa using hbefore j hj
    · rcases List.mem_cons.mp hj with rfl | hj
      · exact absurd hlt (Nat.lt_irrefl j)
      · have := (List.pairwise_cons.mp (List.pairwise_append.mp hsorted).2.1).1 j hj
        omega

theorem readable_of_hole {m : Nat} (hm : f.Reaches m) (hzero : f.pointer m = 0) :
    f.readable = m * f.bs - f.offset.toNat := by
  rcases f.readable_cases with ⟨hall, -⟩ | ⟨m', hm', hzero', hreadable⟩
  · exact absurd hzero (hall m hm.1)
  · rcases Nat.lt_trichotomy m m' with hlt | rfl | hlt
    · exact absurd hzero (hm'.2 m hm.1 hlt)
    · exact hreadable
    · exact absurd hzero' (hm.2 m' hm'.1 hlt)

theorem pointer_eq (i : Nat) (h : ¬ (12 ≤ i ∧ iBlock f.record ext2IndBlock = 0)) : f.Agrees i := by
  unfold Agrees codePointer FileCall.pointer filePointer
  by_cases h12 : i < 12
  · rw [if_pos h12, if_pos h12]
  · rw [if_neg h12, if_neg h12, if_neg fun hzero => h ⟨by omega, hzero⟩]

/-- With a zero where the pointer would be, the code finds the hole. -/
theorem agrees_of_sound (h : f.IndirectSound) (hi : f.Reaches i) : f.Agrees i := by
  by_cases hcase : 12 ≤ i ∧ iBlock f.record ext2IndBlock = 0
  · obtain ⟨h12, hzero⟩ := hcase
    unfold Agrees codePointer FileCall.pointer filePointer
    rw [if_neg (by omega), if_neg (by omega), if_pos hzero]
    exact h hzero i hi h12
  · exact pointer_eq i hcase

/-- **The loop delivers what is to be read.** -/
theorem Progress.loop (hpos : 0 < f.clamped) (hsize : size.toNat = f.clamped)
    (hend : endBlock.toNat = f.lastBlock) (h : f.Progress (f.offset.toNat / f.bs) st)
    (hsound : f.IndirectSound) :
    ∃ fuel bytesRead buffer, ext2ReadLoop f.s f.driver f.record size endBlock fuel st =
        some (.ok (bytesRead, buffer)) ∧ bytesRead.toNat = f.readable ∧
      buffer = fileBytes f.s f.driver f.record f.offset.toNat f.readable ++
        f.buffer.drop f.readable := by
  have hbs : 0 < f.bs := by
    have := f.bs_cases
    omega
  have hfirst : f.offset.toNat / f.bs ≤ f.lastBlock := Nat.div_le_div_right (by omega)
  rcases f.readable_cases with ⟨hall, hreadable⟩ | ⟨m, hm, hzero, hreadable⟩
  · -- no hole: to the last block, and one more turn
    have hmem : f.lastBlock ∈ f.blocks := (mem_blocks_iff_le hpos hfirst).mpr (Nat.le_refl _)
    have hreach : f.Reaches f.lastBlock := ⟨hmem, fun j hj _ => hall j hj⟩
    obtain ⟨st₁, h₁, hloop⟩ := h.advance hsize hend hreach
      (fun i _ hi => agrees_of_sound hsound hi) (Nat.add_sub_cancel' hfirst)
    obtain ⟨st₂, hturn, h₂⟩ :=
      h₁.turn hreach (agrees_of_sound hsound hreach) (hall _ hmem) hsize
    have hbehind : f.lastBlock + 1 ∉ f.blocks := by
      rw [mem_blocks_iff_le hpos h₂.first]
      omega
    have hcover : ¬ (f.lastBlock + 1) * f.bs < f.offset.toNat + f.clamped := by
      have hnot := (mem_blocks f).not.mp hbehind
      have := h₂.first
      tauto
    have hcount : st₂.bytesRead.toNat = f.readable := by
      rw [h₂.bytesRead, hreadable]
      omega
    refine ⟨2 + (f.lastBlock - f.offset.toNat / f.bs), st₂.bytesRead, st₂.buffer, ?_, hcount, ?_⟩
    · rw [hloop, ext2ReadLoop, if_neg fun hleft => (h₁.left_iff hpos hend).mp hleft hmem, hturn]
      exact if_pos ((h₂.left_iff hpos hend).mpr hbehind)
    · rw [h₂.buffer, hcount]
  · -- up to the hole
    have hle : f.offset.toNat / f.bs ≤ m := ((mem_blocks f).mp hm.1).2.1
    obtain ⟨st₁, h₁, hloop⟩ := h.advance hsize hend hm
      (fun i _ hi => agrees_of_sound hsound hi) (Nat.add_sub_cancel' hle)
    have hcount : st₁.bytesRead.toNat = f.readable := by
      rw [hreadable]
      exact (h₁.lt hm.1).1
    have hcode : codePointer f.s f.driver f.record m = 0 := (agrees_of_sound hsound hm).trans hzero
    refine ⟨1 + (m - f.offset.toNat / f.bs), st₁.bytesRead, st₁.buffer, ?_, hcount, ?_⟩
    · rw [hloop, ext2ReadLoop, if_neg fun hleft => (h₁.left_iff hpos hend).mp hleft hm.1,
        h₁.turn_hole hm hcode]
    · rw [h₁.buffer, hcount]

/-! ### A block that should be a hole -/

/-- A turn ends the loop at a hole or with an error, or copies something. -/
theorem Sane.turn_cases (h : f.Sane st) (hpos : 0 < f.clamped) (hsize : size.toNat = f.clamped)
    {r : ReadTurn} (hturn : ext2ReadTurn f.s f.driver f.record size st = .ok r) :
    (r = .left st.bytesRead st.buffer ∧
      ∃ rest, ext2GetBlockFromInode f.s f.driver f.record st.i st.allocs = .ok (0, rest)) ∨
    r = .left (-1) st.buffer ∨
    ∃ st', r = .next st' ∧ f.Sane st' ∧ st.bytesRead.toNat ≤ st'.bytesRead.toNat ∧
      (st.bytesRead.toNat < f.clamped → st.bytesRead.toNat < st'.bytesRead.toNat) := by
  have hin := h.inBlock
  have hbytes := h.bytesRead
  have hcount := h.toNat_toRead hpos hsize
  unfold ext2ReadTurn at hturn
  split at hturn
  · cases hturn
  · next physBlock rest hget =>
    split at hturn
    · next hzero =>
      cases hturn
      exact Or.inl ⟨rfl, rest, by rw [hget, hzero]⟩
    · split at hturn
      · cases hturn
      · cases hturn
        exact Or.inr (Or.inl rfl)
      · dsimp only at hturn
        generalize (if size < st.bytesRead + (f.s.blockSize - st.offsetInBlock) then
          size - st.bytesRead else f.s.blockSize - st.offsetInBlock) = toRead at hturn hcount
        split at hturn
        · cases hturn
        · split at hturn
          · cases hturn
          · cases hturn
            have hsum := h.toNat_add hpos (n := toRead) (by omega)
            refine Or.inr (Or.inr ⟨_, rfl, ⟨?_, ?_⟩, ?_⟩)
            · show (st.bytesRead + toRead).toNat ≤ f.clamped
              omega
            · show 0 < f.bs
              omega
            · show st.bytesRead.toNat ≤ (st.bytesRead + toRead).toNat ∧
                (_ → st.bytesRead.toNat < (st.bytesRead + toRead).toNat)
              omega

/-- The loop never gives back what it has read. -/
theorem Sane.loop (hpos : 0 < f.clamped) (hsize : size.toNat = f.clamped) {b : UInt32}
    {buffer : Bytes} : ∀ {fuel : Nat} {st : ReadState}, f.Sane st →
      ext2ReadLoop f.s f.driver f.record size endBlock fuel st = some (.ok (b, buffer)) →
        b = -1 ∨ (st.bytesRead.toNat ≤ b.toNat ∧ b.toNat ≤ f.clamped) := by
  intro fuel
  induction fuel with
  | zero =>
    intro st _ hloop
    cases hloop
  | succ fuel ih =>
    intro st h hloop
    rw [ext2ReadLoop] at hloop
    split at hloop
    · cases hloop
      exact Or.inr ⟨Nat.le_refl _, h.bytesRead⟩
    · cases hturn : ext2ReadTurn f.s f.driver f.record size st with
      | error fault =>
        rw [hturn] at hloop
        cases hloop
      | ok r =>
        rw [hturn] at hloop
        rcases h.turn_cases hpos hsize hturn with ⟨rfl, -⟩ | rfl | ⟨st', rfl, h', hle, -⟩
        · cases hloop
          exact Or.inr ⟨Nat.le_refl _, h.bytesRead⟩
        · cases hloop
          exact Or.inl rfl
        · rcases ih h' hloop with hneg | ⟨hmore, hfit⟩
          · exact Or.inl hneg
          · exact Or.inr ⟨Nat.le_trans hle hmore, hfit⟩

/-- **From a pointer where there is a hole the loop reads on, or fails.** -/
theorem Progress.loop_astray (hpos : 0 < f.clamped) (hsize : size.toNat = f.clamped)
    (hend : endBlock.toNat = f.lastBlock) (h : f.Progress i st) (hi : f.Reaches i)
    (hne : codePointer f.s f.driver f.record i ≠ 0) {fuel : Nat} {b : UInt32} {buffer : Bytes}
    (hloop : ext2ReadLoop f.s f.driver f.record size endBlock fuel st = some (.ok (b, buffer))) :
    b = -1 ∨ (st.bytesRead.toNat < b.toNat ∧ b.toNat ≤ f.clamped) := by
  cases fuel with
  | zero => cases hloop
  | succ fuel =>
    rw [ext2ReadLoop, if_neg fun hleft => (h.left_iff hpos hend).mp hleft hi.1] at hloop
    cases hturn : ext2ReadTurn f.s f.driver f.record size st with
    | error fault =>
      rw [hturn] at hloop
      cases hloop
    | ok r =>
      rw [hturn] at hloop
      rcases h.sane.turn_cases hpos hsize hturn with
        ⟨-, rest, hget⟩ | rfl | ⟨st', rfl, h', -, hlt⟩
      · obtain ⟨rest', hget', -⟩ := h.pointer hi
        have hpair := Except.ok.inj (hget.symm.trans hget')
        exact absurd (congrArg Prod.fst hpair).symm hne
      · cases hloop
        exact Or.inl rfl
      · have hmore := hlt (h.lt hi.1).2
        rcases h'.loop hpos hsize hloop with hneg | ⟨hle, hfit⟩
        · exact Or.inl hneg
        · exact Or.inr ⟨by omega, hfit⟩

theorem ext2ReadLoop_add {s : Ext2State} {driver : SectorDriver} {record : Bytes}
    {r : Except Ext2Fault (UInt32 × Bytes)} (n : Nat) : ∀ {fuel : Nat} {st : ReadState},
      ext2ReadLoop s driver record size endBlock fuel st = some r →
        ext2ReadLoop s driver record size endBlock (fuel + n) st = some r := by
  intro fuel
  induction fuel with
  | zero =>
    intro st hloop
    cases hloop
  | succ fuel ih =>
    intro st hloop
    rw [Nat.add_right_comm, ext2ReadLoop]
    rw [ext2ReadLoop] at hloop
    split at hloop
    · next hleft => rw [if_pos hleft, hloop]
    · next hin =>
      rw [if_neg hin]
      cases hturn : ext2ReadTurn s driver record size st with
      | error fault =>
        rw [hturn] at hloop
        exact hloop
      | ok r' =>
        rw [hturn] at hloop
        cases r' with
        | left b buffer => exact hloop
        | next st' => exact ih hloop

/-! ### The call -/

theorem toNat_iSize64 (f : FileRead) : (iSize f.record).toUInt64.toNat = (iSize f.record).toNat :=
  UInt32.toNat_toUInt64 _

/-- At the end of the file. -/
theorem ext2Read_end (f : FileRead) (hzero : f.clamped = 0) (fuel : Nat) :
    ext2Read f.s f.driver (some f.node) f.offset f.size (some f.buffer) f.allocs fuel =
      some (.ok { value := 0, buffer := some f.buffer }) := by
  have hle : (iSize f.record).toUInt64 ≤ f.offset := by
    rw [UInt64.le_iff_toNat_le, f.toNat_iSize64]
    have := f.positive
    unfold FileCall.clamped clampedSize at hzero
    omega
  unfold ext2Read
  simp only [f.isFile, Bool.true_eq_false, if_false, f.inodeRead, if_pos hle]

/-- The size that is left of `size`. -/
theorem toNat_clamp (f : FileRead) :
    (if (iSize f.record).toUInt64 < f.offset + f.size.toUInt64 then
      ((iSize f.record).toUInt64 - f.offset).toUInt32 else f.size).toNat = f.clamped ∨
      f.clamped = 0 := by
  by_cases hpos : 0 < f.clamped
  · left
    have hsmall := f.small
    have hsize := f.size.toNat_lt
    have hcl : f.clamped = min f.size.toNat ((iSize f.record).toNat - f.offset.toNat) := rfl
    have hsum : (f.offset + f.size.toUInt64).toNat = f.offset.toNat + f.size.toNat := by
      rw [UInt64.toNat_add, UInt32.toNat_toUInt64, Nat.mod_eq_of_lt (by omega)]
    by_cases hover : (iSize f.record).toUInt64 < f.offset + f.size.toUInt64
    · rw [if_pos hover]
      rw [UInt64.lt_iff_toNat_lt, f.toNat_iSize64, hsum] at hover
      rw [UInt64.toNat_toUInt32, UInt64.toNat_sub_of_le _ _ (UInt64.le_iff_toNat_le.mpr (by
        rw [f.toNat_iSize64]; omega)), f.toNat_iSize64, Nat.mod_eq_of_lt (by omega)]
      omega
    · rw [if_neg hover]
      rw [UInt64.lt_iff_toNat_lt, f.toNat_iSize64, hsum] at hover
      omega
  · right
    omega

/-- Inside the file the call is a run of the loop. -/
theorem ext2Read_loop (f : FileRead) (hpos : 0 < f.clamped) :
    ∃ size endBlock st, size.toNat = f.clamped ∧ endBlock.toNat = f.lastBlock ∧
      f.Progress (f.offset.toNat / f.bs) st ∧
      ∀ fuel, ext2Read f.s f.driver (some f.node) f.offset f.size (some f.buffer) f.allocs fuel =
        (ext2ReadLoop f.s f.driver f.record size endBlock fuel st).map fun r => r.map fun r =>
          { value := r.1.toBitVec.toInt, buffer := some r.2 } := by
  have hsize := f.toNat_clamp.resolve_right (by omega)
  generalize hclamp : (if (iSize f.record).toUInt64 < f.offset + f.size.toUInt64 then
    ((iSize f.record).toUInt64 - f.offset).toUInt32 else f.size) = size at hsize
  have hbs := f.bs_cases
  have hsmall := f.offset_add_clamped hpos
  have hbs64 : f.s.blockSize.toUInt64.toNat = f.bs := UInt32.toNat_toUInt64 _
  have hnot : ¬ (iSize f.record).toUInt64 ≤ f.offset := by
    rw [UInt64.le_iff_toNat_le, f.toNat_iSize64]
    unfold FileCall.clamped clampedSize at hpos
    omega
  have hcalls : Succeed f.rest (f.blocks.length + 1) := fun n hn => f.allocations hpos n (by omega)
  obtain ⟨temp, rest, halloc, htemp, hrest⟩ := hcalls.kmallocBlock f.smallBlocks.ne_zero
  have hstart : ((f.offset / f.s.blockSize.toUInt64).toUInt32).toNat = f.offset.toNat / f.bs := by
    have := Nat.div_le_self f.offset.toNat f.bs
    rw [UInt64.toNat_toUInt32, UInt64.toNat_div, hbs64, Nat.mod_eq_of_lt (by omega)]
  have hend : (((f.offset + size.toUInt64 - 1) / f.s.blockSize.toUInt64).toUInt32).toNat =
      f.lastBlock := by
    have hsum : (f.offset + size.toUInt64).toNat = f.offset.toNat + f.clamped := by
      rw [UInt64.toNat_add, UInt32.toNat_toUInt64, hsize, Nat.mod_eq_of_lt (by omega)]
    have hone : (1 : UInt64) ≤ f.offset + size.toUInt64 := by
      rw [UInt64.le_iff_toNat_le, hsum]
      show 1 ≤ _
      omega
    have hsub : (f.offset + size.toUInt64 - 1).toNat = f.offset.toNat + f.clamped - 1 := by
      rw [UInt64.toNat_sub_of_le _ _ hone, hsum]
      rfl
    have := Nat.div_le_self (f.offset.toNat + f.clamped - 1) f.bs
    rw [UInt64.toNat_toUInt32, UInt64.toNat_div, hbs64, hsub, Nat.mod_eq_of_lt (by omega)]
    rfl
  have hinBlock : ((f.offset % f.s.blockSize.toUInt64).toUInt32).toNat =
      f.offset.toNat - f.offset.toNat / f.bs * f.bs := by
    have hmod : f.offset.toNat % f.bs < f.bs := Nat.mod_lt _ (by omega)
    have hsplit := Nat.div_add_mod' f.offset.toNat f.bs
    rw [UInt64.toNat_toUInt32, UInt64.toNat_mod, hbs64, Nat.mod_eq_of_lt (by omega)]
    omega
  refine ⟨size, _, {
    i := (f.offset / f.s.blockSize.toUInt64).toUInt32
    offsetInBlock := (f.offset % f.s.blockSize.toUInt64).toUInt32
    bytesRead := 0
    tempBuffer := temp
    buffer := f.buffer
    allocs := rest }, hsize, hend, ⟨Nat.le_refl _, hstart, hinBlock, ?_, htemp, rfl, ?_⟩, fun fuel => ?_⟩
  · have := Nat.div_mul_le_self f.offset.toNat f.bs
    show 0 = _
    omega
  · refine hrest.mono ?_
    omega
  · unfold ext2Read ext2ReadBlocks
    simp only [f.isFile, Bool.true_eq_false, if_false, f.inodeRead, if_neg hnot, hclamp,
      if_neg f.smallBlocks.ne_zero, halloc]

theorem readable_le (f : FileRead) : f.readable ≤ f.clamped := by
  rcases f.readable_cases with ⟨-, heq⟩ | ⟨m, hm, -, heq⟩
  · exact Nat.le_of_eq heq
  · obtain ⟨-, -, hlast⟩ := (mem_blocks f).mp hm.1
    omega

/-- The bits of a number of bytes. -/
theorem toInt_eq {b : UInt32} (h : b.toNat < 2 ^ 31) : b.toBitVec.toInt = b.toNat := by
  rw [BitVec.toInt_eq_toNat_of_lt]
  · rfl
  · show 2 * b.toNat < 2 ^ 32
    omega

theorem delivers_of_sound (f : FileRead) (h : f.IndirectSound) : f.Delivers := by
  by_cases hpos : 0 < f.clamped
  · obtain ⟨size, endBlock, st, hsize, hend, hstart, hcall⟩ := f.ext2Read_loop hpos
    obtain ⟨fuel, b, buffer, hloop, hb, hbuffer⟩ := hstart.loop hpos hsize hend h
    have hsmall := f.offset_add_clamped hpos
    have hle := f.readable_le
    refine ⟨fuel, ?_⟩
    rw [hcall, hloop, hbuffer]
    show some (Except.ok (Ext2ReadResult.mk b.toBitVec.toInt _)) = _
    rw [toInt_eq (by omega), hb]
  · have hzero : f.clamped = 0 := by omega
    have hreadable : f.readable = 0 := by
      have := f.readable_le
      omega
    refine ⟨0, ?_⟩
    rw [f.ext2Read_end hzero, hreadable]
    rfl

theorem sound_of_delivers (f : FileRead) (h : f.Delivers) : f.IndirectSound := by
  intro hzero i hi h12
  by_contra hword
  obtain ⟨hpos, hfirst, -⟩ := (mem_blocks f).mp hi.1
  obtain ⟨size, endBlock, st, hsize, hend, hstart, hcall⟩ := f.ext2Read_loop hpos
  obtain ⟨fuel, hfuel⟩ := h
  have hhole : f.pointer i = 0 := by
    unfold FileCall.pointer filePointer
    rw [if_neg (by omega), if_pos hzero]
  have hne : codePointer f.s f.driver f.record i ≠ 0 := by
    unfold codePointer
    rwa [if_neg (by omega)]
  -- the blocks before it are no holes, so they have direct pointers
  have hbefore : ∀ j, j < i → f.Reaches j → f.Agrees j := by
    intro j hj hreach
    refine pointer_eq j fun hno => hi.2 j hreach.1 hj ?_
    unfold FileCall.pointer filePointer
    rw [if_neg (by omega), if_pos hzero]
  obtain ⟨st', h', hloop⟩ := hstart.advance hsize hend hi hbefore (Nat.add_sub_cancel' hfirst)
  rw [hcall] at hfuel
  cases hres : ext2ReadLoop f.s f.driver f.record size endBlock fuel st with
  | none =>
    rw [hres] at hfuel
    cases hfuel
  | some r =>
    have hlater := ext2ReadLoop_add (i - f.offset.toNat / f.bs) hres
    rw [hloop] at hlater
    rw [hres] at hfuel
    cases r with
    | error fault => cases hfuel
    | ok r =>
      have hresult := Except.ok.inj (Option.some.inj hfuel)
      have hvalue : r.1.toBitVec.toInt = f.readable := congrArg Ext2ReadResult.value hresult
      have hreadable := readable_of_hole hi hhole
      have hsmall := f.offset_add_clamped hpos
      obtain ⟨hcount, -⟩ := h'.lt hi.1
      rcases h'.loop_astray hpos hsize hend hi hne hlater with hneg | ⟨hlt, hle⟩
      · rw [hneg] at hvalue
        have hminus : (-1 : UInt32).toBitVec.toInt = -1 := by decide
        omega
      · rw [toInt_eq (by omega)] at hvalue
        omega

end FileRead

/--
**A file is read correctly iff block 0 is not taken for an indirect block with a pointer in it.**

The block size is 1024, 2048 or 4096; the offset and the size are arbitrary.
-/
theorem ext2_read_iff (f : FileRead) : f.Delivers ↔ f.IndirectSound :=
  ⟨f.sound_of_delivers, f.delivers_of_sound⟩

/-! ## A file without an indirect block -/

/-- The volume of `smallDisk` with a file of 13 blocks, the last one a hole; block 0 holds sevens. -/
def sparseDisk : Disk where
  sector n :=
    if n = 0 then List.replicate 512 7
    else if n = 10 then
      List.replicate 4 0 ++ le32 13312 ++ List.replicate 32 0 ++
        (List.range 12).flatMap (fun _ => le32 6) ++ List.replicate 424 0
    else List.replicate 512 0
  length_sector n := by
    split
    · exact List.length_replicate
    · split
      · simp only [List.length_append, length_le32, List.length_replicate]
        rfl
      · exact List.length_replicate

def sparseState : Ext2State where
  superblock := smallDisk.sectors 2 2
  blockGroupDescs := smallDisk.sectors 4 2
  blockSize := 1024
  blockGroupCount := 1
  initialized := true

/-- `size` bytes from `offset` on, with enough memory. -/
def sparseCall (offset : UInt64) (size : UInt32) : FileCall where
  s := sparseState
  driver := diskDriver sparseDisk 1
  node := { inode := 1, isFile := true }
  offset := offset
  size := size
  buffer := List.replicate 2048 0
  allocs := List.replicate 20 (some fun _ => 0)
  record := (sparseDisk.sector 10).take 128
  rest := List.replicate 19 (some fun _ => 0)

theorem sparse_blockReads (block : UInt32) :
    BlockReads sparseState (diskDriver sparseDisk 1) block :=
  ⟨show (1 : UInt32) ≠ 0 by decide, rfl⟩

theorem sparse_smallBlocks : SmallBlocks sparseState := ⟨0, by decide, rfl⟩

theorem sparse_inodeRead :
    ext2ReadInode sparseState (diskDriver sparseDisk 1) 1 (List.replicate 20 (some fun _ => 0)) =
      .ok (some ((sparseDisk.sector 10).take 128), List.replicate 19 (some fun _ => 0)) := by
  have hgroups : sInodesPerGroup sparseState.superblock ≠ 0 := by decide +kernel
  have htable : read32 sparseState.blockGroupDescs (32 * (inodeGroup sparseState 1).toNat + 8) =
      .ok 5 := by decide +kernel
  have halloc : kmallocBlock (List.replicate 20 (some fun _ => 0)) sparseState.blockSize =
      (some ((List.range 1024).map fun _ => 0), List.replicate 19 (some fun _ => 0)) := by
    unfold kmallocBlock
    rw [if_neg (by decide)]
    rfl
  have hblock : (5 : UInt32) + inodeOffset sparseState 1 / sparseState.blockSize = 5 := by
    decide +kernel
  have hlen : ((List.range 1024).map fun _ => (0 : UInt8)).length = sparseState.blockSize.toNat := by
    rw [List.length_map, List.length_range]
    rfl
  have hread := ext2ReadBlock_reads sparse_smallBlocks (sparse_blockReads 5) hlen
  have hslice : slice (blockContents sparseState (diskDriver sparseDisk 1) 5)
      (inodeOffset sparseState 1 % sparseState.blockSize).toNat inodeRecordSize =
      .ok ((sparseDisk.sector 10).take 128) := by decide +kernel
  unfold ext2ReadInode
  rw [if_neg (by decide), if_neg hgroups, htable]
  simp only [halloc]
  rw [if_neg (by decide), hblock, hread]
  simp only [hslice]

theorem blocks_sparseCall : (sparseCall 12288 1024).blocks = [12] := by decide +kernel

/-- The last block of the file. -/
def sparseRead : FileRead where
  toFileCall := sparseCall 12288 1024
  initialized := rfl
  blockSize := sparse_smallBlocks
  isFile := rfl
  inodeRead := sparse_inodeRead
  small := by decide +kernel
  positive := by decide
  room := by decide +kernel
  allocations _ n hn := by
    rw [blocks_sparseCall] at hn
    have hlt : n < 19 := Nat.lt_of_le_of_lt hn (by decide)
    exact ⟨fun _ => 0, List.getElem?_replicate_of_lt hlt⟩
  usable i hi := by
    have hmem := hi.1
    rw [blocks_sparseCall] at hmem
    obtain rfl := List.mem_singleton.mp hmem
    decide
  indirectReads _ := sparse_blockReads _
  blockReads _ _ _ := sparse_blockReads _

theorem reaches_sparseRead : sparseRead.Reaches 12 := by
  have hblocks : sparseRead.blocks = [12] := blocks_sparseCall
  refine ⟨by rw [hblocks]; decide, fun j hj hlt => ?_⟩
  rw [hblocks] at hj
  obtain rfl := List.mem_singleton.mp hj
  exact absurd hlt (Nat.lt_irrefl 12)

/-- **Block 0 is taken for an indirect block**: nothing should be read here. -/
theorem ext2_read_block_zero : sparseRead.readable = 0 ∧ ¬ sparseRead.Delivers := by
  have hzero : iBlock sparseRead.record ext2IndBlock = 0 := by decide +kernel
  have hword : indirectWord sparseRead.s sparseRead.driver sparseRead.record 0 ≠ 0 := by
    decide +kernel
  have hhole : sparseRead.pointer 12 = 0 := by
    show filePointer sparseRead.s sparseRead.driver sparseRead.record 12 = 0
    unfold filePointer
    rw [if_neg (by decide), if_pos hzero]
  refine ⟨?_, fun h => ?_⟩
  · rw [FileRead.readable_of_hole reaches_sparseRead hhole]
    decide +kernel
  · exact hword (sparseRead.sound_of_delivers h hzero 12 reaches_sparseRead (Nat.le_refl 12))

end MayaOs.Fs
