import MayaOs.Lib.Run
import MayaOs.Kernel.Pipe

/-!
# The ring of a pipe

* `ring_keeps_bytes` — in every state the positions agree, and the bytes copied in are the bytes
  copied out followed by those in the ring
-/

namespace MayaOs.Kernel

open MayaOs.Lib

/-! ## The sections -/

/-- A section of `pipe_read` takes what is there, up to what is wanted. -/
theorem readSection_spec {pipe : Pipe} (hw : pipe.toRingBuffer.WellFormed pipeBufferSize)
    (wanted : Nat) :
    (readSection pipe wanted).2.toRingBuffer.WellFormed pipeBufferSize ∧
      (readSection pipe wanted).2.count = pipe.count - min pipe.count wanted ∧
      (readSection pipe wanted).1.length = min pipe.count wanted ∧
      pipe.toRingBuffer.contents pipeBufferSize = (readSection pipe wanted).1 ++
        (readSection pipe wanted).2.toRingBuffer.contents pipeBufferSize := by
  have hmin : (if pipe.count < wanted then pipe.count else wanted) = min pipe.count wanted := by
    split <;> omega
  unfold readSection
  simp only [hmin]
  exact RingBuffer.popMany_spec _ hw (by omega)

/-- A section of `pipe_write` stores what fits. -/
theorem writeSection_spec {pipe : Pipe} (hw : pipe.toRingBuffer.WellFormed pipeBufferSize)
    (rest : List UInt8) :
    (writeSection pipe rest).2.toRingBuffer.WellFormed pipeBufferSize ∧
      (writeSection pipe rest).2.count = pipe.count + (writeSection pipe rest).1.length ∧
      (writeSection pipe rest).1 = rest.take (pipeBufferSize - pipe.count) ∧
      (writeSection pipe rest).2.toRingBuffer.contents pipeBufferSize =
        pipe.toRingBuffer.contents pipeBufferSize ++ (writeSection pipe rest).1 := by
  have htake : rest.take (if pipeBufferSize - pipe.count < rest.length then
      pipeBufferSize - pipe.count else rest.length) = rest.take (pipeBufferSize - pipe.count) := by
    split
    · rfl
    · rw [List.take_length, List.take_of_length_le (by omega)]
  have hle := hw.count_le
  have hfits : pipe.count + (rest.take (pipeBufferSize - pipe.count)).length ≤ pipeBufferSize := by
    rw [List.length_take]
    omega
  obtain ⟨hw', hc, hcontents⟩ := RingBuffer.pushMany_spec _ hw hfits
  unfold writeSection
  simp only [htake]
  exact ⟨hw', hc, trivial, hcontents⟩

/-! ## Steps -/

/-- The positions agree and no byte is lost, doubled or moved. -/
structure RingOk (s : PipeSystem) : Prop where
  wellFormed : s.pipe.toRingBuffer.WellFormed pipeBufferSize
  bytes : s.copiedIn.flatten =
    s.copiedOut.flatten ++ s.pipe.toRingBuffer.contents pipeBufferSize

theorem ringOk_boot (buffer : Nat → UInt8) : RingOk (PipeSystem.boot buffer) := by
  refine ⟨⟨Nat.zero_le _, ?_, ?_, rfl⟩, rfl⟩
  · show 0 < pipeBufferSize
    decide
  · show 0 < pipeBufferSize
    decide

variable {s s' : PipeSystem} {p : ProcessPtr}

/-- Most steps do not touch the ring. -/
theorem RingOk.congr (h : RingOk s) (hring : s'.pipe.toRingBuffer = s.pipe.toRingBuffer)
    (hout : s'.copiedOut = s.copiedOut) (hin : s'.copiedIn = s.copiedIn) : RingOk s' :=
  ⟨by rw [hring]; exact h.wellFormed, by rw [hring, hout, hin]; exact h.bytes⟩

theorem ringOk_readAdvance (h : RingOk s) (p : ProcessPtr) (size : Nat) (got : List UInt8)
    (stage : PipeStage) : RingOk (readAdvance s p size got stage) := by
  cases stage with
  | wait => exact h.congr rfl rfl rfl
  | check =>
    simp only [readAdvance]
    split <;> exact h.congr rfl rfl rfl
  | copy =>
    obtain ⟨hw, -, -, hcontents⟩ := readSection_spec h.wellFormed (size - got.length)
    refine ⟨hw, ?_⟩
    have hbytes := h.bytes
    rw [hcontents] at hbytes
    simp only [readAdvance, PipeSystem.goto]
    rw [hbytes]
    simp
  | signal => exact h.congr rfl rfl rfl
  | test =>
    simp only [readAdvance]
    split <;> exact h.congr rfl rfl rfl

theorem ringOk_writeAdvance (h : RingOk s) (p : ProcessPtr) (data : List UInt8) (done : Nat)
    (stage : PipeStage) : RingOk (writeAdvance s p data done stage) := by
  cases stage with
  | wait => exact h.congr rfl rfl rfl
  | check =>
    simp only [writeAdvance]
    split <;> exact h.congr rfl rfl rfl
  | copy =>
    obtain ⟨hw, -, -, hcontents⟩ := writeSection_spec h.wellFormed (data.drop done)
    refine ⟨hw, ?_⟩
    simp only [writeAdvance, PipeSystem.goto]
    rw [hcontents]
    simp [h.bytes]
  | signal => exact h.congr rfl rfl rfl
  | test =>
    simp only [writeAdvance]
    split <;> exact h.congr rfl rfl rfl

/-- **One step** keeps the ring right. -/
theorem ringOk_step {a : PipeAction} (h : RingOk s) (hs : pipeStep s a = some s') : RingOk s' := by
  cases a with
  | call p c =>
    simp only [pipeStep] at hs
    split at hs
    · cases hs
    · split at hs <;> cases hs <;> exact h.congr rfl rfl rfl
  | advance p =>
    simp only [pipeStep] at hs
    cases hpc : s.pc p with
    | idle =>
      rw [hpc] at hs
      cases hs
    | reading stage size got =>
      rw [hpc] at hs
      cases hs
      exact ringOk_readAdvance h p size got stage
    | writing stage data done =>
      rw [hpc] at hs
      cases hs
      exact ringOk_writeAdvance h p data done stage
    | closing stage =>
      rw [hpc] at hs
      cases hs
      cases stage <;> exact h.congr rfl rfl rfl

def PipeAction.process : PipeAction → ProcessPtr
  | .call p _ => p
  | .advance p => p

/-- A step moves the process that takes it, and nobody else. -/
theorem pipeStep_pc {a : PipeAction} (hs : pipeStep s a = some s') :
    ∃ pc, s'.pc = Function.update s.pc a.process pc := by
  cases a with
  | call p c =>
    simp only [pipeStep] at hs
    split at hs
    · cases hs
    · split at hs <;> cases hs <;> exact ⟨_, rfl⟩
  | advance p =>
    simp only [pipeStep] at hs
    split at hs
    · cases hs
    · rename_i stage size got _
      cases hs
      cases stage <;> simp only [readAdvance] <;> (try split) <;> exact ⟨_, rfl⟩
    · rename_i stage data done _
      cases hs
      cases stage <;> simp only [writeAdvance] <;> (try split) <;> exact ⟨_, rfl⟩
    · rename_i stage _
      cases hs
      cases stage <;> exact ⟨_, rfl⟩

/-! ## Runs -/

/--
**A pipe keeps its bytes in order.**

The run is any interleaving of reads, writes and closes, whatever is in the buffer at the start and
whenever the semaphores let a process go on. The number of bytes in the ring never exceeds its size,
both positions stay inside it, and the one follows from the other.
-/
theorem ring_keeps_bytes (buffer : Nat → UInt8) (as : List PipeAction) :
    Always pipeStep (fun s =>
      s.pipe.count ≤ 4096 ∧ s.pipe.readPos < 4096 ∧ s.pipe.writePos < 4096 ∧
      s.pipe.writePos = (s.pipe.readPos + s.pipe.count) % 4096 ∧
      s.copiedIn.flatten =
        s.copiedOut.flatten ++ s.pipe.toRingBuffer.contents 4096) (PipeSystem.boot buffer) as := by
  refine Always.of_invariant ?_ (fun _ _ _ => ringOk_step) (ringOk_boot buffer)
  rintro s ⟨⟨hc, hr, hwr, heq⟩, hbytes⟩
  exact ⟨hc, hr, hwr, heq, hbytes⟩

/-- Three bytes are written and two of them read; the calls report what they copied. -/
example : (run pipeStep (PipeSystem.boot fun _ => 0)
      ([.call 1 (.write (some [7, 8, 9]))] ++ List.replicate 5 (.advance 1) ++
        [.call 2 (.read (some 2))] ++ List.replicate 5 (.advance 2))).map
      (fun s => (s.returned 1, s.copiedIn.flatten, s.returned 2, s.copiedOut.flatten,
        s.pipe.toRingBuffer.contents pipeBufferSize)) =
    some (some 3, [7, 8, 9], some 2, [7, 8], [9]) := by
  decide +kernel

end MayaOs.Kernel
