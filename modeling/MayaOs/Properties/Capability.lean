import MayaOs.Lib.Run
import MayaOs.Kernel.Security
import MayaOs.Properties.ProcessTable

/-!
# Capabilities belong to processes

The purpose of the capability table, stated without process numbers: a ledger that gives every
process the capabilities granted to it and not revoked since its creation. The table is keyed by
the number in the process record, `process_destroy` renumbers the records, and the table is not
told.

* `capabilities_iff_undisturbed` — the table agrees with the ledger throughout a run iff every
  creation finds its number unused and every destruction moves nobody to a number with other
  capabilities
* `capabilities_lost` — a run after which a process has lost its capabilities to a renumbering
-/

namespace MayaOs.Kernel

open MayaOs.Lib

/-! ## The ledger -/

/-- The capabilities of each process, by identity. -/
abbrev Ledger := ProcessPtr → UInt32

inductive CapOp where
  | create (name : Option (List UInt8)) (entry : UInt32) (block : ProcessPtr) (stack : UInt32)
  | destroy (process : ProcessPtr)
  | grant (process : ProcessPtr) (caps : UInt32)
  | revoke (process : ProcessPtr) (caps : UInt32)

/-- Process table and capability table side by side, and the ledger. -/
structure CapSystem where
  kernel : KernelState
  sec : SecState
  ledger : Ledger

/-- After `process_init` and `sec_init`. -/
def CapSystem.boot : CapSystem where
  kernel := processInit KernelState.boot
  sec := secInit SecState.unset
  ledger := fun _ => 0

/-- A new process starts with nothing. -/
def ledgerCreate (ledger : Ledger) (p : ProcessPtr) : Ledger :=
  if p = null then ledger else Function.update ledger p 0

def ledgerGrant (ledger : Ledger) (p : ProcessPtr) (caps : UInt32) : Ledger :=
  Function.update ledger p (ledger p ||| caps)

def ledgerRevoke (ledger : Ledger) (p : ProcessPtr) (caps : UInt32) : Ledger :=
  Function.update ledger p (ledger p &&& ~~~caps)

/--
One call. `kmalloc` returns NULL or a record that is not in use; the other operations are given
live processes, and grants and revokes go to the number the process has at that moment.
-/
def capStep (s : CapSystem) : CapOp → Option CapSystem
  | .create name entry block stack =>
    if block ∈ s.kernel.live then none
    else
      some { s with
        kernel := createProcess s.kernel name entry block stack
        ledger := ledgerCreate s.ledger (processCreate s.kernel name entry block stack).1 }
  | .destroy p =>
    if p ∈ s.kernel.live then some { s with kernel := destroyProcess s.kernel p } else none
  | .grant p caps =>
    if p ∈ s.kernel.live then
      let r := secGrantCap s.sec (s.kernel.mem p).pid caps
      some { s with sec := r.2, ledger := if r.1 then ledgerGrant s.ledger p caps else s.ledger }
    else none
  | .revoke p caps =>
    if p ∈ s.kernel.live then
      some { s with
        sec := (secRevokeCap s.sec (s.kernel.mem p).pid caps).2
        ledger := ledgerRevoke s.ledger p caps }
    else none

/-- The capability table says of every live process what the ledger says. -/
def CapsOk (s : CapSystem) : Prop :=
  ∀ p ∈ s.kernel.live, secGetCaps s.sec (s.kernel.mem p).pid = s.ledger p

/--
The number a new process gets has no capabilities on record, and the processes that a destruction
moves down by one find the capabilities they had.
-/
def Undisturbed (s : CapSystem) : CapOp → Prop
  | .create name entry block stack =>
    CreateOk s.kernel name entry block stack → secGetCaps s.sec s.kernel.pm.processCount = 0
  | .destroy p =>
    ∀ q ∈ s.kernel.live, (s.kernel.mem p).pid < (s.kernel.mem q).pid →
      secGetCaps s.sec ((s.kernel.mem q).pid - 1) = secGetCaps s.sec (s.kernel.mem q).pid
  | .grant _ _ => True
  | .revoke _ _ => True

/-! ## The invariant -/

structure CapInv (s : CapSystem) : Prop where
  table : ∃ l, Table s.kernel l
  initialized : s.kernel.pm.initialized = true
  caps : CapsOk s

theorem capInv_boot : CapInv CapSystem.boot where
  table := ⟨[], table_processInit_boot⟩
  initialized := rfl
  caps := by intro p hp; cases hp

/-! ## One call -/

/-- A failed `process_create` writes at most a record that is not in use. -/
theorem capsOk_create_failed {s : CapSystem} (h : CapInv s) {block : ProcessPtr}
    (hfresh : block ∉ s.kernel.live) (r : Process) :
    CapInv { s with kernel := s.kernel.modify block fun _ => r } := by
  have hmem : ∀ q ∈ s.kernel.live, (s.kernel.modify block fun _ => r).mem q = s.kernel.mem q :=
    fun q hq => KernelState.modify_mem_ne _ _ _ (fun he => hfresh (he ▸ hq))
  obtain ⟨l, ht⟩ := h.table
  refine ⟨⟨l, ht.congr rfl rfl rfl fun p hp => by rw [hmem p hp]⟩, h.initialized, fun p hp => ?_⟩
  show secGetCaps s.sec ((s.kernel.modify block fun _ => r).mem p).pid = s.ledger p
  rw [hmem p hp]
  exact h.caps p hp

/-- A successful `process_create` keeps the table; the new process has what its number has. -/
theorem capsOk_create {s : CapSystem} (h : CapInv s) {block : ProcessPtr} {r : Process}
    (hfresh : block ∉ s.kernel.live) (hblock : block ≠ null)
    (hcount : s.kernel.pm.processCount < maxProcesses) (hr : r.pid = s.kernel.pm.processCount) :
    (∃ l, Table (appendProcess s.kernel block r) l) ∧
    (CapsOk { s with
        kernel := appendProcess s.kernel block r, ledger := ledgerCreate s.ledger block } ↔
      secGetCaps s.sec s.kernel.pm.processCount = 0) := by
  obtain ⟨l, ht⟩ := h.table
  refine ⟨⟨_, ht.create hfresh hblock hcount hr⟩, ?_⟩
  have hself : (appendProcess s.kernel block r).mem block = r := Function.update_self ..
  have hmem : ∀ q ∈ s.kernel.live, (appendProcess s.kernel block r).mem q = s.kernel.mem q :=
    fun q hq => Function.update_of_ne (fun he : q = block => hfresh (he ▸ hq)) ..
  have hledger : ∀ q, ledgerCreate s.ledger block q = if q = block then 0 else s.ledger q := by
    intro q
    rw [ledgerCreate, if_neg hblock, Function.update_apply]
  constructor
  · intro hok
    have hb := hok block List.mem_cons_self
    simp only [hself, hr, hledger, if_true] at hb
    exact hb
  · intro hzero p hp
    rcases List.mem_cons.mp hp with rfl | hp
    · simp only [hself, hr, hledger, if_true]
      exact hzero
    · simp only [hmem p hp, hledger, if_neg (fun he : p = block => hfresh (he ▸ hp))]
      exact h.caps p hp

/-- `process_destroy` keeps the table; the others have what their new numbers have. -/
theorem capsOk_destroy {s : CapSystem} (h : CapInv s) {p : ProcessPtr} (hp : p ∈ s.kernel.live) :
    (∃ l, Table (destroyProcess s.kernel p) l) ∧
    (CapsOk { s with kernel := destroyProcess s.kernel p } ↔ Undisturbed s (.destroy p)) := by
  obtain ⟨l, ht⟩ := h.table
  have hlive := destroyProcess_live s.kernel fun he : p = null => ht.null_not_live (he ▸ hp)
  refine ⟨⟨_, ht.destroy h.initialized (ht.getElem?_pid hp)⟩, ?_⟩
  constructor
  · intro hok q hq hlt
    have hqp : q ≠ p := by
      rintro rfl
      omega
    have hq' := hok q (by rw [hlive, ht.liveNodup.mem_erase_iff]; exact ⟨hqp, hq⟩)
    simp only [ht.destroy_mem h.initialized hp hq, if_pos hlt] at hq'
    rw [hq', h.caps q hq]
  · intro hund q hq
    simp only [hlive, ht.liveNodup.mem_erase_iff] at hq
    simp only [ht.destroy_mem h.initialized hp hq.2]
    split
    · next hlt => rw [hund q hq.2 hlt, h.caps q hq.2]
    · exact h.caps q hq.2

/-- A change for the number of `p` that matches the ledger keeps the agreement. -/
theorem capsOk_update {s : CapSystem} (h : CapInv s) {p : ProcessPtr} (hp : p ∈ s.kernel.live)
    {sec' : SecState} {c : UInt32} (hsec : ∀ q, secGetCaps sec' q
      = if q = (s.kernel.mem p).pid then c else secGetCaps s.sec q) :
    CapsOk { s with sec := sec', ledger := Function.update s.ledger p c } := by
  obtain ⟨l, ht⟩ := h.table
  intro q hq
  simp only [hsec, Function.update_apply]
  by_cases hqp : q = p
  · rw [if_pos (by rw [hqp]), if_pos hqp]
  · rw [if_neg (fun he => hqp (ht.pid_inj hq hp he)), if_neg hqp]
    exact h.caps q hq

/-- **One call**: the tables agree afterwards iff the call disturbs nobody. -/
theorem capsOk_step {s s' : CapSystem} {op : CapOp} (h : CapInv s) (hs : capStep s op = some s') :
    (∃ l, Table s'.kernel l) ∧ s'.kernel.pm.initialized = true ∧ (CapsOk s' ↔ Undisturbed s op) := by
  cases op with
  | create name entry block stack =>
    simp only [capStep] at hs
    split at hs
    · cases hs
    · next hfresh =>
      cases hs
      unfold createProcess
      rcases processCreate_cases s.kernel name entry block stack with
        ⟨hno, heq | ⟨r, -, heq⟩⟩ | ⟨hok, nm, heq⟩
      · rw [heq]
        simp only [KernelState.noteCreated_null]
        exact ⟨h.table, h.initialized, fun _ hc => absurd hc hno, fun _ => h.caps⟩
      · rw [heq]
        simp only [KernelState.noteCreated_null]
        have hinv := capsOk_create_failed h hfresh r
        exact ⟨hinv.table, h.initialized, fun _ hc => absurd hc hno, fun _ => hinv.caps⟩
      · rw [heq]
        obtain ⟨-, hi, -, hcount, hblock, -⟩ := id hok
        simp only [KernelState.noteCreated, if_neg hblock]
        obtain ⟨ht, hiff⟩ := capsOk_create h hfresh hblock hcount
          (r := createdProcess s.kernel.pm.processCount nm entry stack) rfl
        exact ⟨ht, hi, hiff.trans ⟨fun hz _ => hz, fun hu => hu hok⟩⟩
  | destroy p =>
    simp only [capStep] at hs
    split at hs
    · next hp =>
      cases hs
      obtain ⟨ht, hiff⟩ := capsOk_destroy h hp
      exact ⟨ht, by rw [destroyProcess_initialized]; exact h.initialized, hiff⟩
    · cases hs
  | grant p caps =>
    simp only [capStep] at hs
    split at hs
    · next hp =>
      cases hs
      refine ⟨h.table, h.initialized, fun _ => trivial, fun _ => ?_⟩
      cases hg : secGrantCap s.sec (s.kernel.mem p).pid caps with
      | mk ok sec' =>
        cases ok with
        | false =>
          -- the table is full: nothing is granted, and the ledger says so
          obtain rfl := secGrantCap_false hg
          exact h.caps
        | true =>
          refine capsOk_update h hp fun q => ?_
          rw [secGetCaps_grant hg, h.caps p hp]
    · cases hs
  | revoke p caps =>
    simp only [capStep] at hs
    split at hs
    · next hp =>
      cases hs
      refine ⟨h.table, h.initialized, fun _ => trivial, fun _ => ?_⟩
      refine capsOk_update h hp fun q => ?_
      rw [secGetCaps_revoke, h.caps p hp]
    · cases hs

/-! ## Runs -/

/--
**The capability table agrees with the ledger throughout a run iff no call disturbs anybody.**

The run starts after `process_init` and `sec_init` and is any sequence of creations (succeeding or
failing), destructions, grants and revokes.
-/
theorem capabilities_iff_undisturbed (ops : List CapOp) :
    Always capStep CapsOk CapSystem.boot ops ↔
      Along capStep (fun s op _ => Undisturbed s op) CapSystem.boot ops := by
  refine always_iff_along (I := CapInv) ?_ ?_ capInv_boot capInv_boot.caps
  · intro s op s' hs hstep
    exact (capsOk_step hs hstep).2.2
  · intro s op s' hs hstep hq
    obtain ⟨ht, hi, hiff⟩ := capsOk_step hs hstep
    exact ⟨ht, hi, hiff.mpr hq⟩

/-- Two processes; the second is granted a capability and the first destroyed. -/
def renumberRun : List CapOp :=
  [.create (some [0x61]) 0x1000 0xD0000010 0xD0001000,
   .create (some [0x62]) 0x1000 0xD0000200 0xD0006000,
   .grant 0xD0000200 1,
   .destroy 0xD0000010]

/-- **A process loses its capabilities when another one is destroyed.** -/
theorem capabilities_lost : ∃ s, run capStep CapSystem.boot renumberRun = some s ∧
    0xD0000200 ∈ s.kernel.live ∧ s.ledger 0xD0000200 = 1 ∧
    secGetCaps s.sec (s.kernel.mem 0xD0000200).pid = 0 ∧ ¬ CapsOk s := by
  refine ⟨_, rfl, by decide +kernel, by decide +kernel, by decide +kernel, fun h => ?_⟩
  exact absurd (h 0xD0000200 (by decide +kernel)) (by decide +kernel)

end MayaOs.Kernel
