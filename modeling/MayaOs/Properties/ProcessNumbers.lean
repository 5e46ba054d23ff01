import MayaOs.Lib.Run
import MayaOs.Properties.Context

/-!
# The numbering of the process table

Runs of `process_create`, `process_destroy` and `process_schedule` from boot. A process is
destroyed only while it exists, and `kmalloc` returns no record that is in use.

* `numbered_always` — the used part of the table is the existing processes, each at its `pid`
-/

namespace MayaOs.Kernel

open MayaOs.Lib

/-! ## Calls -/

inductive ProcessCall where
  | init
  | create (name : Option (List UInt8)) (entry : UInt32) (block : ProcessPtr) (stack : UInt32)
  | destroy (process : ProcessPtr)
  | schedule

def processStep (k : KernelState) : ProcessCall → Option KernelState
  | .init => some (processInit k)
  | .create name entry block stack =>
    if block ∈ k.live then none else some (createProcess k name entry block stack)
  | .destroy process => if process ∈ k.live then some (destroyProcess k process) else none
  | .schedule => some (processSchedule k)

/-- The first `process_count` entries of `pm.processes`. -/
def usedProcesses (k : KernelState) : List ProcessPtr := k.pm.processes.take k.pm.processCount

/-- The table is dense, numbered by position, and lists exactly the existing processes. -/
structure Numbered (k : KernelState) : Prop where
  length : (usedProcesses k).length = k.pm.processCount
  nonnull : null ∉ usedProcesses k
  nodup : (usedProcesses k).Nodup
  existing : ∀ p, p ∈ usedProcesses k ↔ p ∈ k.live
  pids : ∀ i p, (usedProcesses k)[i]? = some p → (k.mem p).pid = i
  current : k.pm.currentProcess = null ∨ k.pm.currentProcess ∈ k.live

/-- A `process_create` that returns `NULL` changes neither the table nor an existing record. -/
def FailureKeeps (k : KernelState) (call : ProcessCall) (k' : KernelState) : Prop :=
  ∀ name entry block stack, call = .create name entry block stack →
    (processCreate k name entry block stack).1 = null →
      k'.pm = k.pm ∧ k'.live = k.live ∧ ∀ p ∈ k.live, k'.mem p = k.mem p

/-! ## The invariant -/

/-- The table is in order, and no process exists before `process_init`. -/
structure ProcessInv (k : KernelState) : Prop where
  table : ∃ l, Table k l
  current : k.pm.currentProcess = null ∨ k.pm.currentProcess ∈ k.live
  initialized : k.live ≠ [] → k.pm.initialized = true

theorem ProcessInv.numbered {k : KernelState} (h : ProcessInv k) : Numbered k := by
  obtain ⟨l, ht⟩ := h.table
  have hused : usedProcesses k = l := ht.used
  constructor
  · rw [hused]
    exact ht.length
  · rw [hused]
    exact ht.nonnull
  · rw [hused]
    exact ht.nodup
  · rw [hused]
    exact ht.live
  · rw [hused]
    exact ht.pids
  · exact h.current

theorem processInv_boot : ProcessInv KernelState.boot where
  table := ⟨[], table_processInit_boot.congr rfl rfl rfl fun _ _ => rfl⟩
  current := Or.inl rfl
  initialized := fun h => absurd rfl h

theorem ProcessInv.init {k : KernelState} (h : ProcessInv k) : ProcessInv (processInit k) := by
  unfold processInit
  split
  · exact h
  · next hinit =>
    -- nothing exists yet, so clearing the table loses nothing
    have hlive : k.live = [] := by
      by_contra hne
      exact hinit (h.initialized hne)
    refine ⟨⟨[], ?_⟩, Or.inl rfl, fun _ => rfl⟩
    exact table_processInit_boot.congr rfl rfl hlive fun p hp => by cases hp

/-- `process_create` does not touch the current process. -/
theorem createProcess_currentProcess (k : KernelState) (name : Option (List UInt8))
    (entry : UInt32) (block : ProcessPtr) (stack : UInt32) :
    (createProcess k name entry block stack).pm.currentProcess = k.pm.currentProcess := by
  rcases createProcess_cases k name entry block stack with ⟨-, h | ⟨r, -, h⟩⟩ | ⟨-, nm, h⟩ <;>
    simp only [h, KernelState.modify_pm, appendProcess, enterProcess]

theorem ProcessInv.create {k : KernelState} (h : ProcessInv k) (name : Option (List UInt8))
    (entry : UInt32) {block : ProcessPtr} (stack : UInt32) (hfresh : block ∉ k.live) :
    ProcessInv (createProcess k name entry block stack) := by
  obtain ⟨l, ht⟩ := h.table
  have hcur := createProcess_currentProcess k name entry block stack
  refine ⟨ht.createProcess name entry stack hfresh, ?_, ?_⟩
  · rw [hcur]
    obtain ⟨-, -, hlive | hlive⟩ := createProcess_frame k name entry block stack
    · rw [hlive]
      exact h.current
    · rw [hlive]
      exact h.current.imp_right (List.mem_cons_of_mem block)
  · intro hne
    rcases createProcess_cases k name entry block stack with ⟨-, heq | ⟨r, -, heq⟩⟩ | ⟨hok, nm, heq⟩
    · rw [heq] at hne ⊢
      exact h.initialized hne
    · rw [heq] at hne ⊢
      exact h.initialized hne
    · rw [heq]
      exact hok.2.1

/-- What `process_destroy` leaves as the current process. -/
theorem processDestroy_currentProcess {k : KernelState} (hinit : k.pm.initialized = true)
    {p : ProcessPtr} (hp : p ≠ null) :
    (processDestroy k p).pm.currentProcess
      = if k.pm.currentProcess = p then null else k.pm.currentProcess := by
  have hremove : (removeProcess k p).pm.currentProcess = k.pm.currentProcess := by
    unfold removeProcess
    split
    · rfl
    · next i _ =>
      obtain ⟨mem, processes, heq⟩ := shiftProcesses_eq (k.pm.processCount - 1 - i) k i
      rw [heq]
  unfold processDestroy
  rw [if_neg (by simp [hinit, hp])]
  simp only [hremove]
  split
  · rfl
  · exact hremove

theorem ProcessInv.destroy {k : KernelState} (h : ProcessInv k) {p : ProcessPtr}
    (hp : p ∈ k.live) : ProcessInv (destroyProcess k p) := by
  obtain ⟨l, ht⟩ := h.table
  have hinit : k.pm.initialized = true := h.initialized (List.ne_nil_of_mem hp)
  have hpn : p ≠ null := fun he => ht.null_not_live (he ▸ hp)
  refine ⟨⟨_, ht.destroy hinit (ht.getElem?_pid hp)⟩, ?_, fun _ => ?_⟩
  · rw [destroyProcess_live k hpn, destroyProcess_eq k hpn]
    simp only [processDestroy_currentProcess hinit hpn]
    by_cases hcur : k.pm.currentProcess = p
    · rw [if_pos hcur]
      exact Or.inl rfl
    · rw [if_neg hcur]
      exact h.current.imp_right fun hmem => ht.liveNodup.mem_erase_iff.mpr ⟨hcur, hmem⟩
  · rw [destroyProcess_initialized]
    exact hinit

theorem ProcessInv.schedule {k : KernelState} (h : ProcessInv k) :
    ProcessInv (processSchedule k) := by
  obtain ⟨l, ht⟩ := h.table
  obtain ⟨-, hlive, hinit⟩ := processSchedule_frame k
  refine ⟨⟨l, ht.schedule⟩, ?_, ?_⟩
  · rw [hlive]
    by_cases hskip : k.pm.initialized = false ∨ k.pm.processCount = 0
    · unfold processSchedule
      rw [if_pos hskip]
      exact h.current
    · simp only [not_or, Bool.not_eq_false] at hskip
      have hmem := ht.scheduleTarget_mem hskip.2
      have hne : scheduleTarget k ≠ null := fun he => ht.null_not_live (he ▸ hmem)
      rw [(processSchedule_spec hskip.1 hskip.2 hne).1]
      exact Or.inr hmem
  · rw [hlive, hinit]
    exact h.initialized

/-- **Every call keeps the table in order.** -/
theorem processInv_step {k k' : KernelState} {call : ProcessCall} (h : ProcessInv k)
    (hs : processStep k call = some k') : ProcessInv k' := by
  cases call with
  | init =>
    cases hs
    exact h.init
  | create name entry block stack =>
    simp only [processStep] at hs
    split at hs
    · cases hs
    · next hfresh =>
      cases hs
      exact h.create name entry stack hfresh
  | destroy p =>
    simp only [processStep] at hs
    split at hs
    · next hp =>
      cases hs
      exact h.destroy hp
    · cases hs
  | schedule =>
    cases hs
    exact h.schedule

/-- A failed `process_create` has written at most to a record that was free. -/
theorem failureKeeps_step {k k' : KernelState} {call : ProcessCall}
    (hs : processStep k call = some k') : FailureKeeps k call k' := by
  rintro name entry block stack rfl hnull
  simp only [processStep] at hs
  split at hs
  · cases hs
  · next hfresh =>
    cases hs
    rw [createProcess, hnull, KernelState.noteCreated_null]
    rcases processCreate_cases k name entry block stack with ⟨-, h | ⟨r, -, h⟩⟩ | ⟨hok, nm, h⟩
    · rw [h]
      exact ⟨rfl, rfl, fun _ _ => rfl⟩
    · rw [h]
      refine ⟨rfl, rfl, fun p hp => ?_⟩
      show (k.modify block fun _ => r).mem p = k.mem p
      exact KernelState.modify_mem_ne _ _ _ fun he : p = block => hfresh (he ▸ hp)
    · rw [h] at hnull
      exact absurd hnull hok.2.2.2.2.1

/-! ## Runs -/

/--
**The used part of the table is the existing processes, each at the index that is its `pid`, in
every state of every run**, the current process is one of them or `NULL`, and a failed
`process_create` changes none of it.
-/
theorem numbered_always (calls : List ProcessCall) :
    Always processStep Numbered KernelState.boot calls ∧
      Along processStep FailureKeeps KernelState.boot calls := by
  constructor
  · exact Always.of_invariant (fun _ h => ProcessInv.numbered h) (fun _ _ _ => processInv_step)
      processInv_boot
  · exact Along.of_step (fun _ _ _ _ => failureKeeps_step) (fun _ _ _ => processInv_step)
      processInv_boot

/-- Two processes are created and the first is destroyed: the other one moves up. -/
example : (run processStep KernelState.boot
      [.init, .create (some [0x61]) 0x1000 0xD0000010 0xD0001000,
        .create (some [0x62]) 0x2000 0xD0000200 0xD0006000, .destroy 0xD0000010]).map
      (fun k => (usedProcesses k, k.live, (k.mem 0xD0000200).pid)) =
    some ([0xD0000200], [0xD0000200], 0) := by
  decide +kernel

end MayaOs.Kernel
