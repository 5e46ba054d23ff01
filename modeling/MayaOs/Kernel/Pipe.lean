import MayaOs.Kernel.State
import MayaOs.Lib.MachineInt
import MayaOs.Lib.RingBuffer

/-!
# Pipes (`kernel/pipe.c`)

`pipe_read`, `pipe_write` and `pipe_close` are cut at the semaphores and at the mutex of the pipe:
the wait, the test of `closed` behind it, the section under the mutex, the signal, and the test at
the end of the loop are steps of their own. The semaphores are counters.

The pipe pointer is not NULL.
-/

namespace MayaOs.Kernel

open MayaOs.Lib

def pipeBufferSize : Nat := 4096

/-- `pipe_t` without its mutex. -/
structure Pipe extends RingBuffer UInt8 where
  readSem : Int
  writeSem : Int
  closed : Bool

/-- "Initialize pipe", with what `kmalloc` found in the buffer. -/
def pipeCreate (buffer : Nat → UInt8) : Pipe where
  buffer := buffer
  readPos := 0
  writePos := 0
  count := 0
  readSem := 0
  writeSem := pipeBufferSize
  closed := false

/-! ## The sections under the mutex -/

/-- "Read data": the bytes copied out, for a call that still wants `wanted` bytes. -/
def readSection (pipe : Pipe) (wanted : Nat) : List UInt8 × Pipe :=
  let available := pipe.count
  let toRead := if available < wanted then available else wanted
  let r := pipe.toRingBuffer.popMany pipeBufferSize toRead
  (r.1, { pipe with toRingBuffer := r.2 })

/-- "Write data": the bytes copied in, out of those the call has not written yet. -/
def writeSection (pipe : Pipe) (rest : List UInt8) : List UInt8 × Pipe :=
  let available := pipeBufferSize - pipe.count
  let toWrite := if available < rest.length then available else rest.length
  (rest.take toWrite,
    { pipe with toRingBuffer := pipe.toRingBuffer.pushMany pipeBufferSize (rest.take toWrite) })

/-! ## Processes -/

/-- A call, with `none` for a NULL buffer. -/
inductive PipeCall where
  | read (size : Option Nat)
  | write (data : Option (List UInt8))
  | close
  deriving Repr, DecidableEq

/-- Where a process is in the loop of `pipe_read` or `pipe_write`. -/
inductive PipeStage where
  /-- in `semaphore_wait` -/
  | wait
  /-- about to test `closed` -/
  | check
  /-- about to take the mutex -/
  | copy
  /-- about to call `semaphore_signal` -/
  | signal
  /-- at the test that ends the loop -/
  | test
  deriving Repr, DecidableEq

/-- Where a process is in `pipe_close`. -/
inductive CloseStage where
  | lock
  | signalRead
  | signalWrite
  deriving Repr, DecidableEq

inductive PipePc where
  | idle
  /-- `got` are the bytes read so far -/
  | reading (stage : PipeStage) (size : Nat) (got : List UInt8)
  /-- the first `done` bytes have been written -/
  | writing (stage : PipeStage) (data : List UInt8) (done : Nat)
  | closing (stage : CloseStage)
  deriving Repr, DecidableEq

/--
A pipe and its users. `returned` is what the last call of a process returned, and the two lists are
the pieces copied out and in by the sections, in the order of the mutex.
-/
structure PipeSystem where
  pipe : Pipe
  pc : ProcessPtr → PipePc
  returned : ProcessPtr → Option Int
  copiedOut : List (List UInt8)
  copiedIn : List (List UInt8)

def PipeSystem.boot (buffer : Nat → UInt8) : PipeSystem where
  pipe := pipeCreate buffer
  pc := fun _ => .idle
  returned := fun _ => none
  copiedOut := []
  copiedIn := []

inductive PipeAction where
  | call (process : ProcessPtr) (c : PipeCall)
  | advance (process : ProcessPtr)
  deriving Repr, DecidableEq

/-- The entry checks; `none` when the call returns -1 at once. -/
def pipeEnter (pipe : Pipe) : PipeCall → Option PipePc
  | .read (some size) => if size = 0 ∨ pipe.closed then none else some (.reading .wait size [])
  | .write (some data) => if data = [] ∨ pipe.closed then none else some (.writing .wait data 0)
  | .close => some (.closing .lock)
  | .read none => none
  | .write none => none

def PipeSystem.goto (s : PipeSystem) (p : ProcessPtr) (pc : PipePc) : PipeSystem :=
  { s with pc := Function.update s.pc p pc }

/-- The call of `p` returns; `ssize_t` has 32 bits. -/
def PipeSystem.ret (s : PipeSystem) (p : ProcessPtr) (value : Int) : PipeSystem :=
  { s with
    pc := Function.update s.pc p .idle
    returned := Function.update s.returned p (some (int32 value)) }

/-- The next step of a process in `pipe_read`. -/
def readAdvance (s : PipeSystem) (p : ProcessPtr) (size : Nat) (got : List UInt8) :
    PipeStage → PipeSystem
  | .wait =>
    { s.goto p (.reading .check size got) with
      pipe := { s.pipe with readSem := s.pipe.readSem - 1 } }
  | .check =>
    if s.pipe.closed then s.ret p (if 0 < got.length then got.length else -1)
    else s.goto p (.reading .copy size got)
  | .copy =>
    let r := readSection s.pipe (size - got.length)
    { s.goto p (.reading .signal size (got ++ r.1)) with
      pipe := r.2, copiedOut := s.copiedOut ++ [r.1] }
  | .signal =>
    { s.goto p (.reading .test size got) with
      pipe := { s.pipe with writeSem := s.pipe.writeSem + 1 } }
  | .test =>
    if got.length = size ∨ s.pipe.closed then s.ret p got.length
    else s.goto p (.reading .wait size got)

/-- The next step of a process in `pipe_write`. A closed pipe makes it forget what it has written. -/
def writeAdvance (s : PipeSystem) (p : ProcessPtr) (data : List UInt8) (done : Nat) :
    PipeStage → PipeSystem
  | .wait =>
    { s.goto p (.writing .check data done) with
      pipe := { s.pipe with writeSem := s.pipe.writeSem - 1 } }
  | .check =>
    if s.pipe.closed then s.ret p (-1) else s.goto p (.writing .copy data done)
  | .copy =>
    let r := writeSection s.pipe (data.drop done)
    { s.goto p (.writing .signal data (done + r.1.length)) with
      pipe := r.2, copiedIn := s.copiedIn ++ [r.1] }
  | .signal =>
    { s.goto p (.writing .test data done) with
      pipe := { s.pipe with readSem := s.pipe.readSem + 1 } }
  | .test =>
    if done = data.length ∨ s.pipe.closed then s.ret p done
    else s.goto p (.writing .wait data done)

/-- The next step of a process in `pipe_close`. -/
def closeAdvance (s : PipeSystem) (p : ProcessPtr) : CloseStage → PipeSystem
  | .lock =>
    { s.goto p (.closing .signalRead) with pipe := { s.pipe with closed := true } }
  | .signalRead =>
    { s.goto p (.closing .signalWrite) with
      pipe := { s.pipe with readSem := s.pipe.readSem + 1 } }
  | .signalWrite =>
    { s.goto p .idle with pipe := { s.pipe with writeSem := s.pipe.writeSem + 1 } }

/-- One step of one process; `semaphore_wait` may return at any time. -/
def pipeStep (s : PipeSystem) : PipeAction → Option PipeSystem
  | .call p c =>
    if s.pc p ≠ .idle then none
    else
      match pipeEnter s.pipe c with
      | none => some (s.ret p (-1))
      | some pc => some (s.goto p pc)
  | .advance p =>
    match s.pc p with
    | .idle => none
    | .reading stage size got => some (readAdvance s p size got stage)
    | .writing stage data done => some (writeAdvance s p data done stage)
    | .closing stage => some (closeAdvance s p stage)

/-- The semaphore for which the next step of a process has to wait. -/
def waitsFor (pipe : Pipe) : PipePc → Option Int
  | .reading .wait _ _ => some pipe.readSem
  | .writing .wait _ _ => some pipe.writeSem
  | _ => none

/-- `semaphore_wait` of a counting semaphore returns only when the value is positive. -/
def semaphoreStep (s : PipeSystem) (a : PipeAction) : Option PipeSystem :=
  match a with
  | .call _ _ => pipeStep s a
  | .advance p =>
    match waitsFor s.pipe (s.pc p) with
    | some value => if 0 < value then pipeStep s a else none
    | none => pipeStep s a

end MayaOs.Kernel
