import Mathlib.Logic.Function.Basic
import MayaOs.Kernel.Syscall

/-!
# Which handler a system call reaches

The system call table as a map from numbers to handlers. A registration overwrites what the map says
about its number; `syscall_init` should start it off with the eight defaults.

* `dispatch_iff_registered` — a call reaches the right handler exactly when its number is not one of
  the defaults', or has been registered since
* `default_not_called` — `getpid` does not exist
-/

namespace MayaOs.Kernel

/-! ## Registrations -/

/-- One call of `syscall_register`. -/
structure Registration (U : Type) where
  num : UInt32
  handler : Option (SyscallHandler U)
  name : Option String
  argCount : UInt32

variable {U : Type}

/-- The call succeeds once the table is initialised. -/
def Registration.Valid (g : Registration U) : Prop :=
  g.num < maxSyscalls ∧ g.handler.isSome = true ∧ g.name.isSome = true

instance (g : Registration U) : Decidable g.Valid := inferInstanceAs (Decidable (_ ∧ _))

def registerAll (s : SyscallState U) (gs : List (Registration U)) : SyscallState U :=
  gs.foldl (fun s g => (syscallRegister s g.num g.handler g.name g.argCount).2) s

/-- For each number the handler and its argument count. -/
abbrev HandlerMap (U : Type) := UInt32 → Option (SyscallHandler U × UInt32)

/-- The most recent registration counts. -/
def HandlerMap.register (m : HandlerMap U) (g : Registration U) : HandlerMap U :=
  if g.Valid then Function.update m g.num (g.handler.map fun h => (h, g.argCount)) else m

/-- The eight calls of `syscall_init_defaults`. -/
def defaultMap : HandlerMap U :=
  fun n => (syscallDefaults.find? fun d => d.1 = n).map fun d => (d.2.1, d.2.2.2)

/-- What a system call should do, given the map. -/
def dispatch (user : UserHandlers U) (m : HandlerMap U) (r : Registers) (w : SyscallWorld) :
    Dispatched U :=
  match m r.eax with
  | none => { called := none, regs := { r with eax := syscallError }, world := w }
  | some (handler, argCount) =>
    let args := [r.ebx, r.ecx, r.edx, r.esi, r.edi]
    let result := invokeHandler user handler args argCount w
    { called := some (handler, args, argCount)
      regs := { r with eax := result.1 }
      world := result.2 }

/-! ## The map -/

/-- Once its number has been registered it does not matter what the map said before. -/
theorem register_congr {n : UInt32} : ∀ (gs : List (Registration U)) (m m' : HandlerMap U),
    (∃ g ∈ gs, g.Valid ∧ g.num = n) ∨ m n = m' n →
      gs.foldl HandlerMap.register m n = gs.foldl HandlerMap.register m' n := by
  intro gs
  induction gs with
  | nil =>
    rintro m m' (⟨g, hg, -⟩ | h)
    · simp at hg
    · exact h
  | cons g gs ih =>
    intro m m' h
    refine ih _ _ ?_
    by_cases hv : g.Valid ∧ g.num = n
    · obtain ⟨hv, rfl⟩ := hv
      right
      simp [HandlerMap.register, hv]
    · rcases h with ⟨g', hg', hv'⟩ | h
      · rcases List.mem_cons.mp hg' with rfl | hmem
        · exact absurd hv' hv
        · exact Or.inl ⟨g', hmem, hv'⟩
      · right
        unfold HandlerMap.register
        split
        · rename_i hvalid
          have hne : n ≠ g.num := fun heq => hv ⟨hvalid, heq.symm⟩
          rw [Function.update_of_ne hne, Function.update_of_ne hne, h]
        · exact h

/-- A number that nobody registers keeps what the map says. -/
theorem register_of_not_registered {n : UInt32} : ∀ (gs : List (Registration U))
    (m : HandlerMap U), (¬ ∃ g ∈ gs, g.Valid ∧ g.num = n) →
      gs.foldl HandlerMap.register m n = m n := by
  intro gs
  induction gs with
  | nil => intro m _; rfl
  | cons g gs ih =>
    intro m h
    rw [List.foldl_cons, ih _ fun ⟨g', hg', hv⟩ => h ⟨g', List.mem_cons_of_mem g hg', hv⟩]
    unfold HandlerMap.register
    split
    · rename_i hvalid
      refine Function.update_of_ne ?_ ..
      rintro rfl
      exact h ⟨g, List.mem_cons_self, hvalid, rfl⟩
    · rfl

theorem defaultMap_eq_none (n : UInt32) :
    (defaultMap n : Option (SyscallHandler U × UInt32)) = none ↔ 8 ≤ n := by
  unfold defaultMap
  rw [Option.map_eq_none_iff, List.find?_eq_none]
  simp only [syscallDefaults, List.forall_mem_cons, decide_eq_true_eq, ← UInt32.toNat_inj,
    UInt32.le_iff_toNat_le]
  simp
  omega

/-! ## The table holds the map -/

/-- The table agrees with the map, and everything in it is below `syscall_count`. -/
structure Represents (s : SyscallState U) (m : HandlerMap U) : Prop where
  initialized : s.initialized = true
  length : s.syscalls.length = maxSyscalls.toNat
  entry : ∀ n : UInt32, m n = (s.syscalls.getD n.toNat SyscallEntry.zero).handler.map
    fun h => (h, (s.syscalls.getD n.toNat SyscallEntry.zero).argCount)
  count : ∀ n : UInt32, m n ≠ none → n < s.syscallCount

/-- The defaults are refused, because the table is not initialised yet. -/
theorem syscallInitDefaults_zero :
    syscallInitDefaults SyscallState.zero = (SyscallState.zero : SyscallState U) := rfl

theorem represents_syscallInit :
    Represents (syscallInit (SyscallState.zero : SyscallState U)).2 fun _ => none := by
  have hinit : (syscallInit (SyscallState.zero : SyscallState U)).2 =
      { SyscallState.zero with initialized := true } :=
    congrArg (fun s : SyscallState U => { s with initialized := true }) syscallInitDefaults_zero
  rw [hinit]
  refine ⟨rfl, List.length_replicate, fun n => ?_, fun n h => absurd rfl h⟩
  have hzero : (List.replicate maxSyscalls.toNat (SyscallEntry.zero : SyscallEntry U)).getD n.toNat
      SyscallEntry.zero = SyscallEntry.zero := by
    rw [List.getD_eq_getElem?_getD, List.getElem?_replicate]
    split
    · rfl
    · rfl
  simp only [SyscallState.zero, hzero]
  rfl

/-- `syscall_count` covers the new entry and whatever it covered before. -/
theorem lt_syscallCount {num count n : UInt32} (hnum : num < maxSyscalls)
    (h : n = num ∨ n < count) : n < if num ≥ count then num + 1 else count := by
  have hmax : num.toNat < 128 := UInt32.lt_iff_toNat_lt.mp hnum
  have hsucc : (num + 1).toNat = num.toNat + 1 := by
    rw [UInt32.toNat_add, Nat.mod_eq_of_lt]
    · rfl
    · show num.toNat + 1 < 2 ^ 32
      omega
  split
  · next hge =>
    rw [UInt32.lt_iff_toNat_lt, hsucc]
    rw [ge_iff_le, UInt32.le_iff_toNat_le] at hge
    rcases h with rfl | hlt
    · omega
    · rw [UInt32.lt_iff_toNat_lt] at hlt
      omega
  · next hge =>
    rcases h with rfl | hlt
    · exact UInt32.not_le.mp hge
    · exact hlt

/-- `syscall_register` checks what `Valid` says, besides that the table is initialised. -/
theorem Represents.refused_iff {s : SyscallState U} {m : HandlerMap U} (h : Represents s m)
    (g : Registration U) :
    (s.initialized = false ∨ g.num ≥ maxSyscalls ∨ g.handler = none ∨ g.name = none) ↔
      ¬ g.Valid := by
  unfold Registration.Valid
  rw [h.initialized, ge_iff_le, ← UInt32.not_lt, Option.isSome_iff_ne_none,
    Option.isSome_iff_ne_none]
  tauto

theorem Represents.register {s : SyscallState U} {m : HandlerMap U} (h : Represents s m)
    (g : Registration U) :
    Represents (syscallRegister s g.num g.handler g.name g.argCount).2 (m.register g) := by
  by_cases hv : g.Valid
  · have hreg : m.register g = Function.update m g.num (g.handler.map fun h => (h, g.argCount)) :=
      if_pos hv
    rw [hreg, syscallRegister, if_neg fun hrefused => (h.refused_iff g).mp hrefused hv]
    have hlt : g.num.toNat < s.syscalls.length := by
      rw [h.length]
      exact UInt32.lt_iff_toNat_lt.mp hv.1
    refine ⟨h.initialized, by rw [List.length_set, h.length], fun n => ?_, fun n hn => ?_⟩
    · rw [List.getD_eq_getElem?_getD, List.getElem?_set]
      by_cases hn : n = g.num
      · rw [hn, Function.update_self, if_pos rfl, if_pos hlt]
        rfl
      · have hne : g.num.toNat ≠ n.toNat := fun heq => hn (UInt32.toNat_inj.mp heq).symm
        rw [Function.update_of_ne hn, if_neg hne, ← List.getD_eq_getElem?_getD]
        exact h.entry n
    · refine lt_syscallCount hv.1 ?_
      by_cases heq : n = g.num
      · exact Or.inl heq
      · rw [Function.update_of_ne heq] at hn
        exact Or.inr (h.count n hn)
  · have hreg : m.register g = m := if_neg hv
    rw [hreg, syscallRegister, if_pos ((h.refused_iff g).mpr hv)]
    exact h

theorem Represents.registerAll : ∀ (gs : List (Registration U)) {s : SyscallState U}
    {m : HandlerMap U}, Represents s m →
      Represents (registerAll s gs) (gs.foldl HandlerMap.register m) := by
  intro gs
  induction gs with
  | nil => intro s m h; exact h
  | cons g gs ih => intro s m h; exact ih (h.register g)

/-- The table decides as the map does. -/
theorem Represents.dispatch {s : SyscallState U} {m : HandlerMap U} (h : Represents s m)
    (user : UserHandlers U) (r : Registers) (w : SyscallWorld) :
    syscallHandler user s r w = dispatch user m r w := by
  have hentry := h.entry r.eax
  unfold syscallHandler MayaOs.Kernel.dispatch
  by_cases hcount : r.eax ≥ s.syscallCount
  · have hnone : m r.eax = none := by
      by_contra hsome
      exact absurd (h.count r.eax hsome) (UInt32.not_lt.mpr hcount)
    simp only [if_pos hcount, hnone]
  · simp only [if_neg hcount]
    cases hhandler : (s.syscalls.getD r.eax.toNat SyscallEntry.zero).handler with
    | none =>
      rw [hhandler] at hentry
      rw [hentry]
      rfl
    | some handler =>
      rw [hhandler] at hentry
      rw [hentry]
      rfl

/-! ## Main results -/

/-- Which handler is called shows. -/
theorem dispatch_inj {user : UserHandlers U} {m m' : HandlerMap U} {r : Registers}
    {w : SyscallWorld} :
    dispatch user m r w = dispatch user m' r w ↔ m r.eax = m' r.eax := by
  constructor
  · intro h
    have hcalled := congrArg Dispatched.called h
    unfold dispatch at hcalled
    rcases hm : m r.eax with _ | ⟨h1, c1⟩ <;> rcases hm' : m' r.eax with _ | ⟨h2, c2⟩ <;>
      simp only [hm, hm'] at hcalled
    · rfl
    · cases hcalled
    · cases hcalled
    · cases hcalled
      rfl
  · intro h
    unfold dispatch
    rw [h]

/-- **A system call after `syscall_init` reaches the handler most recently registered for its
number exactly when** the number is not one of the defaults', or it has been registered since. -/
theorem dispatch_iff_registered (user : UserHandlers U) (gs : List (Registration U))
    (r : Registers) (w : SyscallWorld) :
    syscallHandler user (registerAll (syscallInit SyscallState.zero).2 gs) r w =
        dispatch user (gs.foldl HandlerMap.register defaultMap) r w ↔
      8 ≤ r.eax ∨ ∃ g ∈ gs, g.Valid ∧ g.num = r.eax := by
  rw [(represents_syscallInit.registerAll gs).dispatch user r w, dispatch_inj]
  constructor
  · intro h
    by_cases hreg : ∃ g ∈ gs, g.Valid ∧ g.num = r.eax
    · exact Or.inr hreg
    · left
      rw [register_of_not_registered gs _ hreg, register_of_not_registered gs _ hreg] at h
      exact (defaultMap_eq_none r.eax).mp h.symm
  · rintro (hhigh | hreg)
    · exact register_congr gs _ _ (Or.inr ((defaultMap_eq_none r.eax).mpr hhigh).symm)
    · exact register_congr gs _ _ (Or.inl hreg)

/-- A frame with `eax` = 5, the number of `getpid`. -/
def getpidFrame : Registers where
  gs := 0x23
  fs := 0x23
  es := 0x23
  ds := 0x23
  edi := 0
  esi := 0
  ebp := 0
  esp := 0
  ebx := 0
  edx := 0
  ecx := 0
  eax := 5
  intNo := 0x80
  errCode := 0
  eip := 0x08048000
  cs := 0x1B
  eflags := 0x202
  useresp := 0xBFFFF000
  ss := 0x23

/-- Right after `syscall_init` no handler is called for `getpid`, though the defaults have one. -/
theorem default_not_called :
    (syscallInit (SyscallState.zero : SyscallState Empty)).1 = true ∧
    ∀ w : SyscallWorld,
      (syscallHandler Empty.elim (syscallInit SyscallState.zero).2 getpidFrame w).called = none ∧
      (syscallHandler Empty.elim (syscallInit SyscallState.zero).2 getpidFrame w).regs.eax =
        syscallError ∧
      (dispatch Empty.elim defaultMap getpidFrame w).called =
        some (.sysGetpid, [0, 0, 0, 0, 0], 0) :=
  ⟨rfl, fun _ => ⟨rfl, rfl, rfl⟩⟩

end MayaOs.Kernel
