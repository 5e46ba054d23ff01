import Mathlib.Data.Fin.Basic
import MayaOs.Kernel.State

/-!
# File descriptors (`fs/file.c`)

`current` is what `process_get_current` returns. A process record has been cleared by
`process_create`, so that no descriptor is in use at first. The field `count` of `fd_table_t` is not
looked at.
-/

namespace MayaOs.Fs

open MayaOs.Kernel

def maxFilesPerProcess : Nat := 32

/-- `vfs_node_t*`, `null` for NULL. -/
abbrev NodePtr := Nat

/-- `file_descriptor_t`. -/
structure FileDescriptor where
  node : NodePtr
  offset : UInt32
  flags : UInt32
  deriving Repr, DecidableEq

/-- `fd_table_t`. -/
abbrev FdTable := Fin maxFilesPerProcess → FileDescriptor

def FileDescriptor.zero : FileDescriptor where
  node := null
  offset := 0
  flags := 0

structure FdState where
  current : ProcessPtr
  tables : ProcessPtr → FdTable

/-- The table of the current process with descriptor `i` changed. -/
def FdState.modify (s : FdState) (i : Fin maxFilesPerProcess)
    (f : FileDescriptor → FileDescriptor) : FdState :=
  { s with
    tables := Function.update s.tables s.current
      (Function.update (s.tables s.current) i (f (s.tables s.current i))) }

def fdAlloc (s : FdState) (node : NodePtr) (flags : UInt32) : Int × FdState :=
  if s.current = null then (-1, s)
  else
    match Fin.find? fun i => (s.tables s.current i).node == null with
    | none => (-1, s)
    | some i => (i, s.modify i fun _ => { node := node, offset := 0, flags := flags })

/-- The check `fd < 0 || fd >= MAX_FILES_PER_PROCESS`. -/
def fdIndex (fd : Int) : Option (Fin maxFilesPerProcess) :=
  if h : fd < 0 ∨ maxFilesPerProcess ≤ fd then none else some ⟨fd.toNat, by omega⟩

/-- The flags stay. -/
def fdFree (s : FdState) (fd : Int) : FdState :=
  if s.current = null then s
  else
    match fdIndex fd with
    | none => s
    | some i => s.modify i fun d => { d with node := null, offset := 0 }

/-- What the returned pointer points to. -/
def fdGet (s : FdState) (fd : Int) : Option FileDescriptor :=
  if s.current = null then none
  else
    match fdIndex fd with
    | none => none
    | some i => if (s.tables s.current i).node = null then none else some (s.tables s.current i)

/-- `fd_get(fd)->offset = offset`, as far as there is a descriptor. -/
def fdSetOffset (s : FdState) (fd : Int) (offset : UInt32) : FdState :=
  match fdIndex fd, fdGet s fd with
  | some i, some _ => s.modify i fun d => { d with offset := offset }
  | _, _ => s

end MayaOs.Fs
