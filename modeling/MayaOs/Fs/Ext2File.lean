import MayaOs.Fs.Ext2

/-!
# Reading a file of an ext2 volume (`fs/ext2.c`)

`ext2_get_block_from_inode` and `ext2_read`. The inode is the record that `ext2_read_inode` gives;
where the source has `i_.size` it means `i_size`. The fuel is the number of turns of the loop over the
blocks, and `none` means that the loop is still going.
-/

namespace MayaOs.Fs

open MayaOs.Lib

/-! ## The inode -/

def ext2NdirBlocks : UInt32 := 12
def ext2IndBlock : Nat := 12

-- the fields of `ext2_inode_t` that are used

def iSize (record : Bytes) : UInt32 := u32At record 4
def iBlock (record : Bytes) (n : Nat) : UInt32 := u32At record (40 + 4 * n)

/-- `fs_node_t`; `isFile` is `flags & FS_FILE`. -/
structure FsNode where
  inode : UInt32
  isFile : Bool
  deriving Repr, DecidableEq

/-- The result of the read of the indirect block is not looked at. -/
def ext2GetBlockFromInode (s : Ext2State) (driver : SectorDriver) (record : Bytes) (blockNum : UInt32)
    (allocs : List (Option (Nat → UInt8))) :
    Except Ext2Fault (UInt32 × List (Option (Nat → UInt8))) :=
  let pPerBlock := s.blockSize / 4
  if blockNum < ext2NdirBlocks then .ok (iBlock record blockNum.toNat, allocs)
  else if blockNum < ext2NdirBlocks + pPerBlock then
    match kmallocBlock allocs s.blockSize with
    | (none, allocs) => .ok (0, allocs)
    | (some indirectBlock, allocs) =>
      match ext2ReadBlock s driver (iBlock record ext2IndBlock) indirectBlock with
      | .error fault => .error fault
      | .ok (_, indirectBlock) =>
        match read32 indirectBlock (4 * (blockNum - ext2NdirBlocks).toNat) with
        | .error fault => .error (.memory fault)
        | .ok block => .ok (block, allocs)
  -- "Not implemented for deeper levels"
  else .ok (0, allocs)

/-! ## ext2_read -/

/-- The variables of the loop; `bytesRead` has the 32 bits of an `ssize_t`. -/
structure ReadState where
  i : UInt32
  offsetInBlock : UInt32
  bytesRead : UInt32
  tempBuffer : Bytes
  buffer : Bytes
  allocs : List (Option (Nat → UInt8))

inductive ReadTurn where
  | left (bytesRead : UInt32) (buffer : Bytes)
  | next (st : ReadState)

/-- One turn of the loop, for the block `i`. -/
def ext2ReadTurn (s : Ext2State) (driver : SectorDriver) (record : Bytes) (size : UInt32)
    (st : ReadState) : Except Ext2Fault ReadTurn :=
  match ext2GetBlockFromInode s driver record st.i st.allocs with
  | .error fault => .error fault
  | .ok (physBlock, allocs) =>
    -- "Hole in file"
    if physBlock = 0 then .ok (.left st.bytesRead st.buffer)
    else
      match ext2ReadBlock s driver physBlock st.tempBuffer with
      | .error fault => .error fault
      | .ok (false, _) => .ok (.left (-1) st.buffer)
      | .ok (true, tempBuffer) =>
        let toRead := s.blockSize - st.offsetInBlock
        let toRead := if size < st.bytesRead + toRead then size - st.bytesRead else toRead
        match slice tempBuffer st.offsetInBlock.toNat toRead.toNat with
        | .error fault => .error (.memory fault)
        | .ok bytes =>
          match write st.buffer st.bytesRead.toNat bytes with
          | .error fault => .error (.memory fault)
          | .ok buffer =>
            .ok (.next {
              i := st.i + 1
              offsetInBlock := 0
              bytesRead := st.bytesRead + toRead
              tempBuffer := tempBuffer
              buffer := buffer
              allocs := allocs })

def ext2ReadLoop (s : Ext2State) (driver : SectorDriver) (record : Bytes) (size endBlock : UInt32) :
    Nat → ReadState → Option (Except Ext2Fault (UInt32 × Bytes))
  | 0, _ => none
  | fuel + 1, st =>
    if endBlock < st.i then some (.ok (st.bytesRead, st.buffer))
    else
      match ext2ReadTurn s driver record size st with
      | .error fault => some (.error fault)
      | .ok (.left bytesRead buffer) => some (.ok (bytesRead, buffer))
      | .ok (.next st) => ext2ReadLoop s driver record size endBlock fuel st

/-- What is returned, and the caller's buffer. -/
structure Ext2ReadResult where
  value : Int
  buffer : Option Bytes
  deriving Repr, DecidableEq

/-- `ext2_read` from the clamped size on. -/
def ext2ReadBlocks (s : Ext2State) (driver : SectorDriver) (record : Bytes) (offset : UInt64)
    (size : UInt32) (buffer : Bytes) (allocs : List (Option (Nat → UInt8))) (fuel : Nat) :
    Option (Except Ext2Fault Ext2ReadResult) :=
  if s.blockSize = 0 then some (.error .divideError)
  else
    let startBlock := (offset / s.blockSize.toUInt64).toUInt32
    let endBlock := ((offset + size.toUInt64 - 1) / s.blockSize.toUInt64).toUInt32
    match kmallocBlock allocs s.blockSize with
    | (none, _) => some (.ok { value := -1, buffer := some buffer })
    | (some tempBuffer, allocs) =>
      let st := {
        i := startBlock
        offsetInBlock := (offset % s.blockSize.toUInt64).toUInt32
        bytesRead := 0
        tempBuffer := tempBuffer
        buffer := buffer
        allocs := allocs }
      (ext2ReadLoop s driver record size endBlock fuel st).map fun r => r.map fun r =>
        { value := r.1.toBitVec.toInt, buffer := some r.2 }

/-- `none` is the NULL pointer; the buffer is the memory from its pointer on. -/
def ext2Read (s : Ext2State) (driver : SectorDriver) (node : Option FsNode) (offset : UInt64)
    (size : UInt32) (buffer : Option Bytes) (allocs : List (Option (Nat → UInt8))) (fuel : Nat) :
    Option (Except Ext2Fault Ext2ReadResult) :=
  match node, buffer with
  | some node, some buffer =>
    if node.isFile = false then some (.ok { value := -1, buffer := some buffer })
    else
      match ext2ReadInode s driver node.inode allocs with
      | .error fault => some (.error fault)
      | .ok (none, _) => some (.ok { value := -1, buffer := some buffer })
      | .ok (some record, allocs) =>
        if (iSize record).toUInt64 ≤ offset then some (.ok { value := 0, buffer := some buffer })
        else
          let size :=
            if (iSize record).toUInt64 < offset + size.toUInt64 then
              ((iSize record).toUInt64 - offset).toUInt32
            else size
          ext2ReadBlocks s driver record offset size buffer allocs fuel
  | _, buffer => some (.ok { value := -1, buffer := buffer })

end MayaOs.Fs
