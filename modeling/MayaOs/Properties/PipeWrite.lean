import MayaOs.Properties.PipeRing

/-!
# What `pipe_write` returns

A call should return the number of bytes it has put into the ring, and -1 only if there are none.
`pipe_read` remembers what it has read when it finds the pipe closed; `pipe_write` does not.

* `returnsAppended_iff` — the exact condition, over every run
* `closed_after_chunk` — a call that has written 4096 bytes returns -1
-/

namespace MayaOs.Kernel

open MayaOs.Lib

/-! ## Counting bytes -/

/-- A pipe, and the bytes that the last call of each process has put into the ring. -/
structure WriteSystem where
  sys : PipeSystem
  appended : ProcessPtr → Nat

def WriteSystem.boot (buffer : Nat → UInt8) : WriteSystem where
  sys := PipeSystem.boot buffer
  appended := fun _ => 0

/-- The bytes copied into the ring between two states. -/
def newBytes (s t : PipeSystem) : Nat := (t.copiedIn.drop s.copiedIn.length).flatten.length

/-- The counters after a step to `t`. A call starts at 0. -/
def WriteSystem.count (s : WriteSystem) (t : PipeSystem) : PipeAction → ProcessPtr → Nat
  | .call p _ => Function.update s.appended p 0
  | .advance p => Function.update s.appended p (s.appended p + newBytes s.sys t)

def writeStep (s : WriteSystem) (a : PipeAction) : Option WriteSystem :=
  (pipeStep s.sys a).map fun t => { sys := t, appended := s.count t a }

/-! ## The property -/

/-- The step is the end of a call of `pipe_write` by `p`. -/
def EndsWrite (s : WriteSystem) (p : ProcessPtr) (t : WriteSystem) : PipeAction → Prop
  | .call q c => q = p ∧ (∃ data, c = .write data) ∧ t.sys.pc p = .idle
  | .advance q => q = p ∧ (∃ stage data done, s.sys.pc p = .writing stage data done) ∧
    t.sys.pc p = .idle

/-- The value returned is the number of bytes put into the ring, or -1 if there are none. -/
def ReturnsAppended (s : WriteSystem) (a : PipeAction) (t : WriteSystem) : Prop :=
  ∀ p value, EndsWrite s p t a → t.sys.returned p = some value →
    (0 < t.appended p → value = t.appended p) ∧ (value = -1 → t.appended p = 0)

/--
A call that finds the pipe closed behind `semaphore_wait` has written nothing yet, and one that
returns its count has written fewer than 2^31 bytes.
-/
def ClosedBefore (s : WriteSystem) : PipeAction → Prop
  | .call _ _ => True
  | .advance p =>
    (∀ data done, s.sys.pc p = .writing .check data done → s.sys.pipe.closed = true → done = 0) ∧
    (∀ data done, s.sys.pc p = .writing .test data done →
      done = data.length ∨ s.sys.pipe.closed = true → done < 2 ^ 31)

/-! ## One step -/

/-- What a process has written is what it counts. -/
def CountsRight (s : WriteSystem) : Prop :=
  ∀ p stage data done, s.sys.pc p = .writing stage data done → s.appended p = done

theorem countsRight_boot (buffer : Nat → UInt8) : CountsRight (WriteSystem.boot buffer) := by
  intro p stage data done hpc
  cases hpc

theorem newBytes_of_eq {s t : PipeSystem} (h : t.copiedIn = s.copiedIn) : newBytes s t = 0 := by
  unfold newBytes
  rw [h, List.drop_length]
  rfl

theorem writeStep_eq_some {s t : WriteSystem} {a : PipeAction} (h : writeStep s a = some t) :
    pipeStep s.sys a = some t.sys ∧ t.appended = s.count t.sys a := by
  obtain ⟨u, hu, rfl⟩ := Option.map_eq_some_iff.mp h
  exact ⟨hu, rfl⟩

/-- A call goes to the loop or returns at once. -/
theorem pipeStep_call {s t : PipeSystem} {p : ProcessPtr} {c : PipeCall}
    (h : pipeStep s (.call p c) = some t) :
    (∃ pc, pipeEnter s.pipe c = some pc ∧ t = s.goto p pc) ∨ t = s.ret p (-1) := by
  simp only [pipeStep] at h
  split at h
  · cases h
  · split at h
    · cases h
      exact Or.inr rfl
    · next pc hpc =>
      cases h
      exact Or.inl ⟨pc, hpc, rfl⟩

theorem pipeEnter_writing {pipe : Pipe} {c : PipeCall} {stage : PipeStage} {data : List UInt8}
    {done : Nat} (h : pipeEnter pipe c = some (.writing stage data done)) : done = 0 := by
  unfold pipeEnter at h
  split at h
  · split at h <;> cases h
  · split at h
    · cases h
    · cases h
      rfl
  · cases h
  · cases h
  · cases h

theorem pipeStep_advance {s t : PipeSystem} {p : ProcessPtr} {stage : PipeStage}
    {data : List UInt8} {done : Nat} (hpc : s.pc p = .writing stage data done)
    (h : pipeStep s (.advance p) = some t) : t = writeAdvance s p data done stage := by
  simp only [pipeStep, hpc, Option.some.injEq] at h
  exact h.symm

/-- A process that is not in `pipe_write` gets there by a call only. -/
theorem pipeStep_advance_other {s t : PipeSystem} {p : ProcessPtr}
    (hpc : ∀ stage data done, s.pc p ≠ .writing stage data done)
    (h : pipeStep s (.advance p) = some t) (stage : PipeStage) (data : List UInt8) (done : Nat) :
    t.pc p ≠ .writing stage data done := by
  simp only [pipeStep] at h
  split at h
  · cases h
  · rename_i stage' size got _
    cases h
    cases stage' <;> simp only [readAdvance, PipeSystem.goto, PipeSystem.ret] <;>
      (try split) <;> simp [Function.update_self]
  · next stage' data' done' heq => exact absurd heq (hpc stage' data' done')
  · rename_i stage' _
    cases h
    cases stage' <;> simp [closeAdvance, PipeSystem.goto]

theorem newBytes_append {s t : PipeSystem} {piece : List UInt8}
    (h : t.copiedIn = s.copiedIn ++ [piece]) : newBytes s t = piece.length := by
  unfold newBytes
  rw [h, List.drop_left]
  simp

theorem writeAdvance_copiedIn (s : PipeSystem) (p : ProcessPtr) (data : List UInt8) (done : Nat)
    {stage : PipeStage} (hstage : stage ≠ .copy) :
    (writeAdvance s p data done stage).copiedIn = s.copiedIn := by
  cases stage with
  | wait => rfl
  | check => simp only [writeAdvance]; split <;> rfl
  | copy => exact absurd rfl hstage
  | signal => rfl
  | test => simp only [writeAdvance]; split <;> rfl

/-- What a process in `pipe_write` counts, if it is still there after the step. -/
theorem writeAdvance_done {s : PipeSystem} {p : ProcessPtr} {data data' : List UInt8}
    {done done' : Nat} {stage stage' : PipeStage}
    (hpc : (writeAdvance s p data done stage).pc p = .writing stage' data' done') :
    done' = done + newBytes s (writeAdvance s p data done stage) := by
  by_cases hstage : stage = .copy
  · subst hstage
    have hcopied : (writeAdvance s p data done .copy).copiedIn =
        s.copiedIn ++ [(writeSection s.pipe (data.drop done)).1] := rfl
    rw [newBytes_append hcopied]
    simp only [writeAdvance, PipeSystem.goto, Function.update_self, PipePc.writing.injEq] at hpc
    exact hpc.2.2.symm
  · rw [newBytes_of_eq (writeAdvance_copiedIn s p data done hstage)]
    cases stage with
    | wait =>
      simp only [writeAdvance, PipeSystem.goto, Function.update_self, PipePc.writing.injEq] at hpc
      exact hpc.2.2.symm
    | check =>
      simp only [writeAdvance] at hpc
      split at hpc
      · simp [PipeSystem.ret] at hpc
      · simp only [PipeSystem.goto, Function.update_self, PipePc.writing.injEq] at hpc
        exact hpc.2.2.symm
    | copy => exact absurd rfl hstage
    | signal =>
      simp only [writeAdvance, PipeSystem.goto, Function.update_self, PipePc.writing.injEq] at hpc
      exact hpc.2.2.symm
    | test =>
      simp only [writeAdvance] at hpc
      split at hpc
      · simp [PipeSystem.ret] at hpc
      · simp only [PipeSystem.goto, Function.update_self, PipePc.writing.injEq] at hpc
        exact hpc.2.2.symm

/-- **One step** keeps the counters right. -/
theorem countsRight_step {s t : WriteSystem} {a : PipeAction} (h : CountsRight s)
    (hs : writeStep s a = some t) : CountsRight t := by
  obtain ⟨hstep, hcount⟩ := writeStep_eq_some hs
  intro p stage data done hpc
  by_cases hp : p = a.process
  · subst hp
    cases a with
    | call p c =>
      rw [hcount]
      show Function.update s.appended p 0 p = done
      rw [Function.update_self]
      rcases pipeStep_call hstep with ⟨pc, henter, heq⟩ | heq
      · have hsame : t.sys.pc p = pc := by rw [heq]; exact Function.update_self ..
        rw [show t.sys.pc p = _ from hpc] at hsame
        rw [← hsame] at henter
        exact (pipeEnter_writing henter).symm
      · have hidle : t.sys.pc p = .idle := by rw [heq]; exact Function.update_self ..
        rw [show t.sys.pc p = _ from hpc] at hidle
        cases hidle
    | advance p =>
      by_cases hwriting : ∃ stage data done, s.sys.pc p = .writing stage data done
      · obtain ⟨stage', data', done', hpc'⟩ := hwriting
        have heq := pipeStep_advance hpc' hstep
        change t.sys.pc p = _ at hpc
        rw [heq] at hpc
        rw [hcount, writeAdvance_done hpc, ← heq, ← h p _ _ _ hpc']
        exact Function.update_self ..
      · simp only [not_exists] at hwriting
        exact absurd hpc (pipeStep_advance_other hwriting hstep stage data done)
  · obtain ⟨pc, hupdate⟩ := pipeStep_pc hstep
    rw [hupdate, Function.update_of_ne hp] at hpc
    rw [← h p stage data done hpc, hcount]
    cases a with
    | call q c => exact Function.update_of_ne hp ..
    | advance q => exact Function.update_of_ne hp ..

/-! ## What is returned -/

/-- A number of bytes survives as an `ssize_t` iff it is below 2^31. -/
theorem int32_returns_iff (done : Nat) :
    (0 < done → int32 done = done) ∧ (int32 done = -1 → done = 0) ↔ done < 2 ^ 31 := by
  constructor
  · rintro ⟨hret, -⟩
    by_contra hlarge
    have hlt := int32_lt done
    rw [hret (by omega)] at hlt
    omega
  · intro hlt
    rw [int32_eq_self (by omega) (by omega)]
    omega

/-- The two ends of the loop in `pipe_write`. -/
theorem writeAdvance_returns {s : PipeSystem} {p : ProcessPtr} {data : List UInt8} {done : Nat}
    {stage : PipeStage} {value : Int} :
    (writeAdvance s p data done stage).pc p = .idle ∧
        (writeAdvance s p data done stage).returned p = some value ↔
      (stage = .check ∧ s.pipe.closed = true ∧ value = -1) ∨
      (stage = .test ∧ (done = data.length ∨ s.pipe.closed = true) ∧ value = int32 done) := by
  have hminus : int32 (-1) = -1 := by decide
  cases stage with
  | wait => simp [writeAdvance, PipeSystem.goto]
  | check =>
    simp only [writeAdvance]
    split
    · next hclosed =>
      simp only [PipeSystem.ret, Function.update_self, hminus, hclosed, Option.some.injEq, true_and,
        reduceCtorEq, false_and, or_false]
      exact eq_comm
    · next hopen => simp [PipeSystem.goto, hopen]
  | copy => simp [writeAdvance, PipeSystem.goto]
  | signal => simp [writeAdvance, PipeSystem.goto]
  | test =>
    simp only [writeAdvance]
    split
    · next hover =>
      simp only [PipeSystem.ret, Function.update_self, hover, Option.some.injEq, true_and,
        reduceCtorEq, false_and, false_or]
      exact eq_comm
    · next hmore => simp [PipeSystem.goto, hmore]

theorem closedBefore_iff {s : WriteSystem} {p : ProcessPtr} {stage : PipeStage}
    {data : List UInt8} {done : Nat} (hpc : s.sys.pc p = .writing stage data done) :
    ClosedBefore s (.advance p) ↔
      (stage = .check → s.sys.pipe.closed = true → done = 0) ∧
      (stage = .test → done = data.length ∨ s.sys.pipe.closed = true → done < 2 ^ 31) := by
  simp only [ClosedBefore, hpc, PipePc.writing.injEq]
  constructor
  · rintro ⟨hcheck, htest⟩
    exact ⟨fun hs => hcheck data done ⟨hs, rfl, rfl⟩, fun hs => htest data done ⟨hs, rfl, rfl⟩⟩
  · rintro ⟨hcheck, htest⟩
    constructor
    · rintro data' done' ⟨hs, rfl, rfl⟩
      exact hcheck hs
    · rintro data' done' ⟨hs, rfl, rfl⟩
      exact htest hs

/-- **One step**: a call that ends returns what it should iff it was not cut off. -/
theorem returnsAppended_step {s t : WriteSystem} {a : PipeAction} (h : CountsRight s)
    (hs : writeStep s a = some t) : ReturnsAppended s a t ↔ ClosedBefore s a := by
  obtain ⟨hstep, hcount⟩ := writeStep_eq_some hs
  cases a with
  | call p c =>
    refine iff_of_true ?_ trivial
    rintro q value ⟨rfl, -, -⟩ -
    rw [hcount]
    show (0 < Function.update s.appended p 0 p → _) ∧ (_ → Function.update s.appended p 0 p = 0)
    rw [Function.update_self]
    exact ⟨fun h0 => absurd h0 (Nat.lt_irrefl 0), fun _ => rfl⟩
  | advance p =>
    by_cases hwriting : ∃ stage data done, s.sys.pc p = .writing stage data done
    · obtain ⟨stage, data, done, hpc⟩ := hwriting
      have heq := pipeStep_advance hpc hstep
      have happended : t.appended p = done + newBytes s.sys t.sys := by
        rw [hcount, ← h p _ _ _ hpc]
        exact Function.update_self ..
      have hreturns : ReturnsAppended s (.advance p) t ↔ ∀ value,
          (t.sys.pc p = .idle ∧ t.sys.returned p = some value) →
            (0 < t.appended p → value = t.appended p) ∧ (value = -1 → t.appended p = 0) := by
        constructor
        · rintro hr value ⟨hidle, hv⟩
          exact hr p value ⟨rfl, ⟨stage, data, done, hpc⟩, hidle⟩ hv
        · rintro hr q value ⟨rfl, -, hidle⟩ hv
          exact hr value ⟨hidle, hv⟩
      rw [hreturns, closedBefore_iff hpc, happended, heq]
      simp only [writeAdvance_returns]
      -- the stages at which the call can end copy nothing
      have hnone : stage = .check ∨ stage = .test →
          newBytes s.sys (writeAdvance s.sys p data done stage) = 0 := by
        intro hstage
        refine newBytes_of_eq (writeAdvance_copiedIn _ _ _ _ ?_)
        rintro rfl
        rcases hstage with h | h <;> cases h
      constructor
      · intro hr
        constructor
        · intro hcheck hclosed
          have hlast := (hr (-1) (Or.inl ⟨hcheck, hclosed, rfl⟩)).2 rfl
          omega
        · intro htest hover
          have hlast := hr (int32 done) (Or.inr ⟨htest, hover, rfl⟩)
          rw [hnone (Or.inr htest)] at hlast
          exact (int32_returns_iff done).mp hlast
      · rintro ⟨hcheck, htest⟩ value (⟨hs, hclosed, -⟩ | ⟨hs, hover, hvalue⟩)
        · rw [hnone (Or.inl hs), hcheck hs hclosed]
          exact ⟨fun h0 => absurd h0 (Nat.lt_irrefl 0), fun _ => rfl⟩
        · rw [hnone (Or.inr hs), hvalue]
          exact (int32_returns_iff done).mpr (htest hs hover)
    · simp only [not_exists] at hwriting
      refine iff_of_true ?_ ⟨fun data done hpc => absurd hpc (hwriting _ _ _),
        fun data done hpc => absurd hpc (hwriting _ _ _)⟩
      rintro q value ⟨rfl, ⟨stage, data, done, hpc⟩, -⟩
      exact absurd hpc (hwriting _ _ _)

/-! ## Main result -/

/--
**Every call of `pipe_write` returns what it should throughout a run iff none is cut off by a close
after it has written something, and none writes 2^31 bytes.**

The run is any interleaving of reads, writes of any length and closes.
-/
theorem returnsAppended_iff (buffer : Nat → UInt8) (as : List PipeAction) :
    Along writeStep ReturnsAppended (WriteSystem.boot buffer) as ↔
      Along writeStep (fun s a _ => ClosedBefore s a) (WriteSystem.boot buffer) as :=
  along_congr (I := CountsRight) (fun _ _ _ => returnsAppended_step)
    (fun _ _ _ h hs _ => countsRight_step h hs) (countsRight_boot buffer)

/-- What a process in `pipe_write` counts. -/
def PipePc.written : PipePc → Option Nat
  | .writing _ _ done => some done
  | _ => none

theorem PipePc.eq_writing {pc : PipePc} {n : Nat} (h : pc.written = some n) :
    ∃ stage data done, pc = .writing stage data done := by
  cases pc with
  | writing stage data done => exact ⟨stage, data, done, rfl⟩
  | idle => cases h
  | reading stage size got => cases h
  | closing stage => cases h

/-- 4097 bytes are written, and the pipe is closed while the writer waits for space. -/
def closedWriteRun : List PipeAction :=
  .call 1 (.write (some (List.replicate 4097 0))) :: List.replicate 5 (.advance 1) ++
    .call 2 .close :: List.replicate 3 (.advance 2) ++ [.advance 1]

/-- **4096 bytes have been written when the call returns -1.** -/
theorem closed_after_chunk :
    (run semaphoreStep (PipeSystem.boot fun _ => 0) (closedWriteRun ++ [.advance 1])).isSome = true ∧
      ¬ Along writeStep ReturnsAppended (WriteSystem.boot fun _ => 0)
        (closedWriteRun ++ [.advance 1]) := by
  constructor
  · decide +kernel
  · intro halong
    have hrun : (run writeStep (WriteSystem.boot fun _ => 0) closedWriteRun).map (fun t =>
        ((t.sys.pc 1).written, (writeStep t (.advance 1)).map fun u =>
          (u.sys.pc 1, u.sys.returned 1, u.appended 1))) =
          some (some 4096, some (.idle, some (-1), 4096)) := by
      decide +kernel
    obtain ⟨t, ht, hread⟩ := Option.map_eq_some_iff.mp hrun
    simp only [Prod.mk.injEq] at hread
    obtain ⟨hpc, hlast⟩ := hread
    obtain ⟨u, hu, hend⟩ := Option.map_eq_some_iff.mp hlast
    simp only [Prod.mk.injEq] at hend
    obtain ⟨hidle, hreturned, happended⟩ := hend
    have hret := along_iff_forall_initial.mp halong _ _ [] t u rfl ht hu 1 (-1)
      ⟨rfl, PipePc.eq_writing hpc, hidle⟩ hreturned
    rw [happended] at hret
    exact absurd (hret.2 rfl) (by decide)

end MayaOs.Kernel
