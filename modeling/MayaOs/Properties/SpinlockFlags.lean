import MayaOs.Lib.Run
import MayaOs.Kernel.Spinlock

/-!
# Exclusion and interrupt flags under a spinlock

The lock excludes, whatever the CPUs do. The interrupt flag of a CPU is saved in the lock word
before the CPU has the lock and read back after it has given it up, so another CPU can overwrite it
in between.

* `spinlock_flags` — one CPU at a time is inside; the flags are right as long as nobody overwrites
  them with a different value
* `flags_overwritten` — a CPU leaves with its interrupts disabled
-/

namespace MayaOs.Kernel

open MayaOs.Lib

/-! ## Where a CPU is -/

/-- From the successful `__sync_lock_test_and_set` to `lock->locked = 0`. -/
def SpinPc.owns : SpinPc → Bool
  | .setOwner => true
  | .critical => true
  | .verifyOwner => true
  | .clearOwner => true
  | .clearLocked => true
  | _ => false

/-- The part of it in which `lock->cpu` is the id of the CPU. -/
def SpinPc.named : SpinPc → Bool
  | .critical => true
  | .verifyOwner => true
  | .clearOwner => true
  | _ => false

/-- The branch for a recursive call. -/
def SpinPc.recursive : SpinPc → Bool
  | .reloadFlags => true
  | .undoDisable _ => true
  | _ => false

/-- From the return of `spinlock_acquire` to `lock->locked = 0`. -/
def SpinPc.inside : SpinPc → Bool
  | .setOwner => false
  | pc => pc.owns

/-- The lock word describes the CPU that owns it. -/
structure SpinInv (s : SpinSystem) : Prop where
  locked : s.lock.locked = true ↔ ∃ c, (s.pc c).owns = true
  unique : ∀ c d, (s.pc c).owns = true → (s.pc d).owns = true → c = d
  named : ∀ c : Nat, s.lock.cpu = c ↔ (s.pc c).named = true
  recursive : ∀ c, (s.pc c).recursive = false

theorem spinInv_boot (irq : Nat → Bool) : SpinInv (SpinSystem.boot irq) := by
  refine ⟨?_, ?_, ?_, ?_⟩
  · simp [SpinSystem.boot, spinlockInit, SpinPc.owns]
  · simp [SpinSystem.boot, SpinPc.owns]
  · intro c
    simp [SpinSystem.boot, spinlockInit, SpinPc.named]
  · simp [SpinSystem.boot, SpinPc.recursive]

theorem SpinPc.owns_of_named {pc : SpinPc} (h : pc.named = true) : pc.owns = true := by
  cases pc <;> simp_all [SpinPc.named, SpinPc.owns]

theorem SpinPc.owns_of_inside {pc : SpinPc} (h : pc.inside = true) : pc.owns = true := by
  cases pc <;> simp_all [SpinPc.inside, SpinPc.owns]

/-! ## Exclusion -/

variable {s s' : SpinSystem} {c : Nat} {pc : SpinPc}

/-- A CPU takes a step that changes neither who owns the lock nor who is named in it. -/
theorem SpinInv.move (h : SpinInv s) (hlocked : s'.lock.locked = s.lock.locked)
    (hcpu : s'.lock.cpu = s.lock.cpu) (hpc : s'.pc = Function.update s.pc c pc)
    (howns : pc.owns = (s.pc c).owns) (hnamed : pc.named = (s.pc c).named)
    (hrec : pc.recursive = false) : SpinInv s' := by
  have hsame : ∀ d, (s'.pc d).owns = (s.pc d).owns ∧ (s'.pc d).named = (s.pc d).named ∧
      (s'.pc d).recursive = false := by
    intro d
    rw [hpc]
    rcases eq_or_ne d c with rfl | hd
    · rw [Function.update_self]
      exact ⟨howns, hnamed, hrec⟩
    · rw [Function.update_of_ne hd]
      exact ⟨rfl, rfl, h.recursive d⟩
  refine ⟨?_, fun d e hd he => ?_, fun d => ?_, fun d => (hsame d).2.2⟩
  · rw [hlocked, h.locked]
    simp [hsame]
  · rw [(hsame d).1] at hd
    rw [(hsame e).1] at he
    exact h.unique d e hd he
  · rw [hcpu, h.named, (hsame d).2.1]

/-- Nobody is in a part of the code that the lock rules out. -/
theorem SpinInv.not_owns (h : SpinInv s) (hfree : s.lock.locked = false) (d : Nat) :
    (s.pc d).owns = false := by
  rw [← Bool.not_eq_true]
  intro hd
  have hl := h.locked.mpr ⟨d, hd⟩
  simp [hfree] at hl

theorem SpinInv.locked_of_owns (h : SpinInv s) {d : Nat} (hd : (s.pc d).owns = true) :
    s.lock.locked = true :=
  h.locked.mpr ⟨d, hd⟩

/-- A CPU takes a step while nobody else owns the lock. -/
theorem SpinInv.alone (h : SpinInv s) (hother : ∀ d, d ≠ c → (s.pc d).owns = false)
    (hpc : s'.pc = Function.update s.pc c pc) (hlocked : s'.lock.locked = pc.owns)
    (hcpu : ∀ d : Nat, s'.lock.cpu = d ↔ d = c ∧ pc.named = true)
    (hrec : pc.recursive = false) : SpinInv s' := by
  have hself : s'.pc c = pc := by rw [hpc, Function.update_self]
  have hsame : ∀ d, d ≠ c → s'.pc d = s.pc d := by
    intro d hd
    rw [hpc, Function.update_of_ne hd]
  have honly : ∀ d, (s'.pc d).owns = true → d = c := by
    intro d hd
    by_contra hne
    rw [hsame d hne, hother d hne] at hd
    cases hd
  refine ⟨?_, fun d e hd he => ?_, fun d => ?_, fun d => ?_⟩
  · rw [hlocked]
    constructor
    · exact fun ho => ⟨c, by rw [hself]; exact ho⟩
    · rintro ⟨d, hd⟩
      obtain rfl := honly d hd
      rwa [hself] at hd
  · rw [honly d hd, honly e he]
  · rw [hcpu]
    constructor
    · rintro ⟨rfl, hn⟩
      rwa [hself]
    · intro hn
      obtain rfl := honly d (SpinPc.owns_of_named hn)
      rw [hself] at hn
      exact ⟨rfl, hn⟩
  · rcases eq_or_ne d c with rfl | hd
    · rw [hself]
      exact hrec
    · rw [hsame d hd]
      exact h.recursive d

/-- While a CPU owns the lock nobody else does. -/
theorem SpinInv.other_of_owns (h : SpinInv s) (hc : (s.pc c).owns = true) :
    ∀ d, d ≠ c → (s.pc d).owns = false := by
  intro d hd
  rw [← Bool.not_eq_true]
  exact fun ho => hd (h.unique d c ho hc)

/-- Nobody is named in a lock whose owner is not named in it. -/
theorem SpinInv.cpu_ne (h : SpinInv s) (hother : ∀ d, d ≠ c → (s.pc d).owns = false)
    (hc : (s.pc c).named = false) (d : Nat) : s.lock.cpu ≠ d := by
  rw [Ne, h.named]
  intro hn
  rcases eq_or_ne d c with rfl | hd
  · simp [hc] at hn
  · have := SpinPc.owns_of_named hn
    simp [hother d hd] at this

/-- **One step** keeps the lock word right. -/
theorem spinInv_advance (h : SpinInv s) (hs : spinStep s (.advance c) = some s') : SpinInv s' := by
  simp only [spinStep, Option.map_eq_some_iff] at hs
  obtain ⟨⟨lock, irq, pc⟩, hadv, rfl⟩ := hs
  cases hpc : s.pc c with
  | saveFlags flags =>
    rw [hpc] at hadv
    cases hadv
    exact h.move (c := c) rfl rfl rfl (by rw [hpc]; rfl) (by rw [hpc]; rfl) rfl
  | checkLocked =>
    rw [hpc] at hadv
    cases hadv
    refine h.move (c := c) rfl rfl rfl ?_ ?_ ?_ <;> cases s.lock.locked <;> simp [hpc] <;> rfl
  | checkCpu =>
    -- the name is not the CPU's own, so the branch for a recursive call is not taken
    have hne : s.lock.cpu ≠ c := by
      rw [Ne, h.named, hpc]
      exact Bool.noConfusion
    rw [hpc] at hadv
    simp only [spinAdvance, if_neg hne] at hadv
    cases hadv
    exact h.move (c := c) rfl rfl rfl (by rw [hpc]; rfl) (by rw [hpc]; rfl) rfl
  | reloadFlags =>
    have := h.recursive c
    rw [hpc] at this
    cases this
  | undoDisable flags =>
    have := h.recursive c
    rw [hpc] at this
    cases this
  | testAndSet =>
    rw [hpc] at hadv
    cases hadv
    cases hl : s.lock.locked with
    | true => exact h.move (c := c) hl.symm rfl rfl (by rw [hpc]; rfl) (by rw [hpc]; rfl) rfl
    | false =>
      have hother : ∀ d, d ≠ c → (s.pc d).owns = false := fun d _ => h.not_owns hl d
      refine h.alone (c := c) hother rfl rfl (fun d => ?_) rfl
      exact iff_of_false (h.cpu_ne hother (by rw [hpc]; rfl) d) (by simp [SpinPc.named])
  | spin =>
    rw [hpc] at hadv
    cases hadv
    refine h.move (c := c) rfl rfl rfl ?_ ?_ ?_ <;> cases s.lock.locked <;> simp [hpc] <;> rfl
  | setOwner =>
    have howns : (s.pc c).owns = true := by rw [hpc]; rfl
    rw [hpc] at hadv
    cases hadv
    refine h.alone (c := c) (h.other_of_owns howns) rfl (h.locked_of_owns howns) (fun d => ?_) rfl
    constructor
    · intro hd
      exact ⟨(Int.ofNat_inj.mp hd).symm, rfl⟩
    · rintro ⟨rfl, -⟩
      rfl
  | verifyOwner =>
    have heq : s.lock.cpu = c := by
      rw [h.named, hpc]
      rfl
    rw [hpc] at hadv
    simp only [spinAdvance, if_pos heq] at hadv
    cases hadv
    exact h.move (c := c) rfl rfl rfl (by rw [hpc]; rfl) (by rw [hpc]; rfl) rfl
  | clearOwner =>
    have howns : (s.pc c).owns = true := by rw [hpc]; rfl
    rw [hpc] at hadv
    cases hadv
    refine h.alone (c := c) (h.other_of_owns howns) rfl (h.locked_of_owns howns) (fun d => ?_) rfl
    simp [SpinPc.named]
  | clearLocked =>
    have hother := h.other_of_owns (c := c) (by rw [hpc]; rfl)
    rw [hpc] at hadv
    cases hadv
    refine h.alone (c := c) hother rfl rfl (fun d => ?_) rfl
    exact iff_of_false (h.cpu_ne hother (by rw [hpc]; rfl) d) (by simp [SpinPc.named])
  | loadFlags =>
    rw [hpc] at hadv
    cases hadv
    exact h.move (c := c) rfl rfl rfl (by rw [hpc]; rfl) (by rw [hpc]; rfl) rfl
  | restore flags =>
    rw [hpc] at hadv
    cases hadv
    exact h.move (c := c) rfl rfl rfl (by rw [hpc]; rfl) (by rw [hpc]; rfl) rfl
  | idle =>
    rw [hpc] at hadv
    cases hadv
  | critical =>
    rw [hpc] at hadv
    cases hadv
  | released =>
    rw [hpc] at hadv
    cases hadv

theorem spinInv_step {a : SpinAction} (h : SpinInv s) (hs : spinStep s a = some s') :
    SpinInv s' := by
  cases a with
  | acquire c =>
    simp only [spinStep] at hs
    split at hs
    · rename_i hpc
      cases hs
      rcases hpc with hpc | hpc <;>
        exact h.move (c := c) rfl rfl rfl (by rw [hpc]; rfl) (by rw [hpc]; rfl) rfl
    · cases hs
  | release c =>
    simp only [spinStep] at hs
    split at hs
    · rename_i hpc
      cases hs
      exact h.move (c := c) rfl rfl rfl (by rw [hpc]; rfl) (by rw [hpc]; rfl) rfl
    · cases hs
  | advance c => exact spinInv_advance h hs
  | setIrq c enabled =>
    simp only [spinStep] at hs
    split at hs
    · rename_i hpc
      cases hs
      rcases hpc with hpc | hpc <;>
        exact h.move (c := c) rfl rfl rfl (by simp [hpc, SpinPc.owns]) (by simp [hpc, SpinPc.named])
          rfl
    · cases hs

/-- At most one CPU is between the return of `spinlock_acquire` and its release. -/
def OneInside (s : SpinSystem) : Prop :=
  ∀ c d, (s.pc c).inside = true → (s.pc d).inside = true → c = d

theorem SpinInv.oneInside (h : SpinInv s) : OneInside s :=
  fun c d hc hd => h.unique c d (SpinPc.owns_of_inside hc) (SpinPc.owns_of_inside hd)

/-! ## Interrupt flags -/

/-- After a release the interrupt flag is what it was before the acquire. -/
def FlagsRestored (s : SpinSystem) : Prop := ∀ c, s.pc c = .released → s.irq c = s.before c

/-- The part of the code between saving the flag in the lock word and reading it back. -/
def SpinPc.pending : SpinPc → Bool
  | .idle => false
  | .saveFlags _ => false
  | .undoDisable _ => false
  | .restore _ => false
  | .released => false
  | _ => true

/-- No CPU overwrites a saved flag with a different one. -/
def KeepsFlags (s : SpinSystem) (a : SpinAction) (_ : SpinSystem) : Prop :=
  match a with
  | .advance c => ∀ flags, s.pc c = .saveFlags flags →
      ∀ d, d ≠ c → (s.pc d).pending = true → s.before d = flags
  | _ => True

/-- What a CPU relies on: the place where its flag is kept still holds it. -/
def SpinPc.Expects (flags irq before : Bool) : SpinPc → Prop
  | .idle => True
  | .saveFlags saved => saved = before
  | .undoDisable saved => saved = before
  | .restore saved => saved = before
  | .released => irq = before
  | _ => flags = before

def SpinSystem.Expects (s : SpinSystem) (c : Nat) : Prop :=
  (s.pc c).Expects s.lock.interruptFlags (s.irq c) (s.before c)

def FlagInv (s : SpinSystem) : Prop := ∀ c, s.Expects c

theorem flagInv_boot (irq : Nat → Bool) : FlagInv (SpinSystem.boot irq) := fun _ => trivial

theorem FlagInv.restored (h : FlagInv s) : FlagsRestored s := by
  intro c hc
  have := h c
  unfold SpinSystem.Expects at this
  rwa [hc] at this

theorem SpinPc.expects_of_pending {flags irq before : Bool} (h : pc.pending = true) :
    pc.Expects flags irq before ↔ flags = before := by
  cases pc <;> first | rfl | cases h

theorem SpinPc.expects_of_not_pending {flags flags' irq before : Bool} (h : pc.pending = false) :
    pc.Expects flags irq before ↔ pc.Expects flags' irq before := by
  cases pc <;> first | rfl | cases h

/-- The CPUs that take no step are not concerned while the saved flag stays. -/
theorem FlagInv.other (h : FlagInv s) {d : Nat} (hpc : s'.pc d = s.pc d)
    (hirq : s'.irq d = s.irq d) (hbefore : s'.before d = s.before d)
    (hflags : s'.lock.interruptFlags = s.lock.interruptFlags) : s'.Expects d := by
  unfold SpinSystem.Expects
  rw [hpc, hirq, hbefore, hflags]
  exact h d

/-- Only the first store of `spinlock_acquire` changes the saved flag. -/
theorem interruptFlags_advance {lock lock' : Spinlock} {irq irq' : Bool} {pc' : SpinPc}
    (hadv : spinAdvance c lock irq pc = some (lock', irq', pc')) (hpc : ∀ f, pc ≠ .saveFlags f) :
    lock'.interruptFlags = lock.interruptFlags := by
  cases pc with
  | saveFlags flags => exact absurd rfl (hpc flags)
  | idle => cases hadv
  | critical => cases hadv
  | released => cases hadv
  | _ => cases hadv; rfl

/-- What the CPU relies on next, when it is named in the lock that it releases. -/
theorem expects_advance {lock lock' : Spinlock} {irq irq' before : Bool} {pc' : SpinPc}
    (hadv : spinAdvance c lock irq pc = some (lock', irq', pc')) (hrec : pc.recursive = false)
    (hname : pc.named = true → lock.cpu = c) (h : pc.Expects lock.interruptFlags irq before) :
    pc'.Expects lock'.interruptFlags irq' before := by
  cases pc with
  | saveFlags flags => cases hadv; exact h
  | checkLocked => cases hadv; cases lock.locked <;> exact h
  | checkCpu =>
    cases hadv
    by_cases hcpu : lock.cpu = c
    · rw [if_pos hcpu]
      exact h
    · rw [if_neg hcpu]
      exact h
  | reloadFlags => cases hrec
  | undoDisable flags => cases hrec
  | testAndSet => cases hadv; cases lock.locked <;> exact h
  | spin => cases hadv; cases lock.locked <;> exact h
  | setOwner => cases hadv; exact h
  | verifyOwner =>
    simp only [spinAdvance, if_pos (hname rfl)] at hadv
    cases hadv
    exact h
  | clearOwner => cases hadv; exact h
  | clearLocked => cases hadv; exact h
  | loadFlags => cases hadv; exact h
  | restore flags => cases hadv; exact h
  | idle => cases hadv
  | critical => cases hadv
  | released => cases hadv

/-- A CPU inside one of the functions takes a step. -/
theorem flagInv_advance (hi : SpinInv s) (h : FlagInv s) (hs : spinStep s (.advance c) = some s')
    (hkeep : KeepsFlags s (.advance c) s') : FlagInv s' := by
  simp only [spinStep, Option.map_eq_some_iff] at hs
  obtain ⟨⟨lock, irq, pc⟩, hadv, rfl⟩ := hs
  intro d
  rcases eq_or_ne d c with rfl | hd
  · simp only [SpinSystem.Expects, Function.update_self]
    exact expects_advance hadv (hi.recursive d) (hi.named d).mpr (h d)
  · have hpc : Function.update s.pc c pc d = s.pc d := Function.update_of_ne hd ..
    have hirq : Function.update s.irq c irq d = s.irq d := Function.update_of_ne hd ..
    cases hc : s.pc c with
    | saveFlags flags =>
      -- the flag is overwritten, if only by an equal one
      have hd' := h d
      simp only [SpinSystem.Expects, hpc, hirq] at hd' ⊢
      cases hp : (s.pc d).pending with
      | true =>
        rw [SpinPc.expects_of_pending hp, hkeep flags hc d hd hp]
        rw [hc] at hadv
        cases hadv
        rfl
      | false => exact (SpinPc.expects_of_not_pending hp).mp hd'
    | _ => exact h.other hpc hirq rfl (interruptFlags_advance hadv (by simp [hc]))

theorem flagInv_step {a : SpinAction} (hi : SpinInv s) (h : FlagInv s)
    (hs : spinStep s a = some s') (hkeep : KeepsFlags s a s') : FlagInv s' := by
  cases a with
  | acquire c =>
    simp only [spinStep] at hs
    split at hs
    · cases hs
      intro d
      rcases eq_or_ne d c with rfl | hd
      · simp [SpinSystem.Expects, SpinPc.Expects]
      · exact h.other (Function.update_of_ne hd ..) (Function.update_of_ne hd ..)
          (Function.update_of_ne hd ..) rfl
    · cases hs
  | release c =>
    simp only [spinStep] at hs
    split at hs
    · rename_i hpc
      cases hs
      intro d
      rcases eq_or_ne d c with rfl | hd
      · have hc := h d
        simp only [SpinSystem.Expects, hpc, Function.update_self] at hc ⊢
        exact hc
      · exact h.other (Function.update_of_ne hd ..) rfl rfl rfl
    · cases hs
  | advance c => exact flagInv_advance hi h hs hkeep
  | setIrq c enabled =>
    simp only [spinStep] at hs
    split at hs
    · cases hs
      intro d
      rcases eq_or_ne d c with rfl | hd
      · simp [SpinSystem.Expects, SpinPc.Expects]
      · exact h.other (Function.update_of_ne hd ..) (Function.update_of_ne hd ..) rfl rfl
    · cases hs

/-! ## A CPU that runs alone -/

/-- The number of steps to the end of `spinlock_release`, at most. -/
def SpinPc.rank : SpinPc → Nat
  | .checkLocked => 10
  | .checkCpu => 9
  | .spin => 9
  | .testAndSet => 8
  | .setOwner => 7
  | .critical => 6
  | .verifyOwner => 5
  | .clearOwner => 4
  | .clearLocked => 3
  | .loadFlags => 2
  | .restore _ => 1
  | _ => 0

/-- `c` is on its way to the end of `spinlock_release`, where it sets its flag to `flags`. -/
structure Alone (c : Nat) (flags : Bool) (s : SpinSystem) : Prop where
  inv : SpinInv s
  other : ∀ d, d ≠ c → (s.pc d).owns = false
  saved : s.lock.interruptFlags = flags
  pc : (s.pc c).pending = true ∨ s.pc c = .restore flags ∨ s.pc c = .released ∧ s.irq c = flags

/-- What the others keep while `c` runs alone. -/
def SameBut (c : Nat) (s s' : SpinSystem) : Prop :=
  s'.before = s.before ∧ ∀ d, d ≠ c → s'.pc d = s.pc d

theorem Alone.locked_iff {flags : Bool} (h : Alone c flags s) :
    s.lock.locked = true ↔ (s.pc c).owns = true := by
  rw [h.inv.locked]
  constructor
  · rintro ⟨d, hd⟩
    rcases eq_or_ne d c with rfl | hne
    · exact hd
    · simp [h.other d hne] at hd
  · exact fun hc => ⟨c, hc⟩

/-- The result of a step inside the functions, up to the last one. -/
theorem Alone.advanced {flags : Bool} (h : Alone c flags s) {cur : SpinPc} (hcur : s.pc c = cur)
    {lock : Spinlock} {irq : Bool} (hadv : spinAdvance c s.lock (s.irq c) cur = some (lock, irq, pc))
    (hflags : lock.interruptFlags = flags)
    (hpc : pc.pending = true ∨ pc = .restore flags ∨ pc = .released ∧ irq = flags)
    (hrank : pc.rank < cur.rank) :
    ∃ a s', spinStep s a = some s' ∧ Alone c flags s' ∧ SameBut c s s' ∧
      (s'.pc c).rank < cur.rank := by
  have hs : spinStep s (.advance c) = some { s with
      lock := lock, irq := Function.update s.irq c irq, pc := Function.update s.pc c pc } := by
    simp [spinStep, hcur, hadv]
  refine ⟨.advance c, _, hs, ⟨spinInv_advance h.inv hs, fun d hd => ?_, hflags, ?_⟩,
    ⟨rfl, fun d hd => Function.update_of_ne hd ..⟩, ?_⟩
  · simp only [Function.update_of_ne hd]
    exact h.other d hd
  · simpa using hpc
  · simpa using hrank

/-- **Running alone, a CPU gets on.** -/
theorem Alone.step {flags : Bool} (h : Alone c flags s) (hc : s.pc c ≠ .released) :
    ∃ a s', spinStep s a = some s' ∧ Alone c flags s' ∧ SameBut c s s' ∧
      (s'.pc c).rank < (s.pc c).rank := by
  have hflags := h.saved
  have hlocked := h.locked_iff
  have hname := h.inv.named c
  have hrec := h.inv.recursive c
  rcases h.pc with hp | hp | ⟨hp, -⟩
  · cases hpc : s.pc c with
    | checkLocked =>
      have hl : s.lock.locked = false := by simpa [hpc, SpinPc.owns] using hlocked
      have hadv : spinAdvance c s.lock (s.irq c) .checkLocked =
          some (s.lock, s.irq c, .testAndSet) := by
        simp [spinAdvance, hl]
      exact h.advanced hpc hadv hflags (Or.inl rfl) (by decide)
    | checkCpu =>
      have hne : s.lock.cpu ≠ c := by simpa [hpc, SpinPc.named] using hname
      have hadv : spinAdvance c s.lock (s.irq c) .checkCpu =
          some (s.lock, s.irq c, .testAndSet) := by
        simp [spinAdvance, hne]
      exact h.advanced hpc hadv hflags (Or.inl rfl) (by decide)
    | testAndSet =>
      have hl : s.lock.locked = false := by simpa [hpc, SpinPc.owns] using hlocked
      have hadv : spinAdvance c s.lock (s.irq c) .testAndSet =
          some ({ s.lock with locked := true }, s.irq c, .setOwner) := by
        simp [spinAdvance, hl]
      exact h.advanced hpc hadv hflags (Or.inl rfl) (by decide)
    | spin =>
      have hl : s.lock.locked = false := by simpa [hpc, SpinPc.owns] using hlocked
      have hadv : spinAdvance c s.lock (s.irq c) .spin = some (s.lock, s.irq c, .testAndSet) := by
        simp [spinAdvance, hl]
      exact h.advanced hpc hadv hflags (Or.inl rfl) (by decide)
    | setOwner =>
      have hadv : spinAdvance c s.lock (s.irq c) .setOwner =
          some ({ s.lock with cpu := c }, s.irq c, .critical) := rfl
      exact h.advanced hpc hadv hflags (Or.inl rfl) (by decide)
    | critical =>
      have hs : spinStep s (.release c) =
          some { s with pc := Function.update s.pc c .verifyOwner } := by
        simp [spinStep, hpc]
      refine ⟨.release c, _, hs, ⟨spinInv_step h.inv hs, fun d hd => ?_, hflags, ?_⟩,
        ⟨rfl, fun d hd => Function.update_of_ne hd ..⟩, ?_⟩
      · simp only [Function.update_of_ne hd]
        exact h.other d hd
      · simp [SpinPc.pending]
      · simp [SpinPc.rank]
    | verifyOwner =>
      have heq : s.lock.cpu = c := by simpa [hpc, SpinPc.named] using hname
      have hadv : spinAdvance c s.lock (s.irq c) .verifyOwner =
          some (s.lock, s.irq c, .clearOwner) := by
        simp [spinAdvance, heq]
      exact h.advanced hpc hadv hflags (Or.inl rfl) (by decide)
    | clearOwner =>
      have hadv : spinAdvance c s.lock (s.irq c) .clearOwner =
          some ({ s.lock with cpu := -1 }, s.irq c, .clearLocked) := rfl
      exact h.advanced hpc hadv hflags (Or.inl rfl) (by decide)
    | clearLocked =>
      have hadv : spinAdvance c s.lock (s.irq c) .clearLocked =
          some ({ s.lock with locked := false }, s.irq c, .loadFlags) := rfl
      exact h.advanced hpc hadv hflags (Or.inl rfl) (by decide)
    | loadFlags =>
      have hadv : spinAdvance c s.lock (s.irq c) .loadFlags =
          some (s.lock, s.irq c, .restore flags) := by
        rw [← hflags]
        rfl
      exact h.advanced hpc hadv hflags (Or.inr (Or.inl rfl)) (by simp [SpinPc.rank])
    | reloadFlags => simp [hpc, SpinPc.recursive] at hrec
    | undoDisable saved => simp [hpc, SpinPc.recursive] at hrec
    | idle => simp [hpc, SpinPc.pending] at hp
    | saveFlags saved => simp [hpc, SpinPc.pending] at hp
    | restore saved => simp [hpc, SpinPc.pending] at hp
    | released => exact absurd hpc hc
  · have hadv : spinAdvance c s.lock (s.irq c) (.restore flags) = some (s.lock, flags, .released) :=
      rfl
    rw [hp]
    exact h.advanced hp hadv hflags (Or.inr (Or.inr ⟨rfl, rfl⟩)) (by simp [SpinPc.rank])
  · exact absurd hp hc

/-- Running alone, a CPU completes its release. -/
theorem Alone.run {flags : Bool} : ∀ (n : Nat) {s : SpinSystem}, Alone c flags s →
    (s.pc c).rank ≤ n → ∃ as t, Lib.run spinStep s as = some t ∧ Alone c flags t ∧
      SameBut c s t ∧ t.pc c = .released := by
  intro n
  induction n with
  | zero =>
    intro s h hn
    by_cases hc : s.pc c = .released
    · exact ⟨[], s, rfl, h, ⟨rfl, fun _ _ => rfl⟩, hc⟩
    · obtain ⟨a, s', hs, -, -, hlt⟩ := h.step hc
      omega
  | succ n ih =>
    intro s h hn
    by_cases hc : s.pc c = .released
    · exact ⟨[], s, rfl, h, ⟨rfl, fun _ _ => rfl⟩, hc⟩
    · obtain ⟨a, s', hs, hs', ⟨hbefore, hpc⟩, hlt⟩ := h.step hc
      obtain ⟨as, t, hrun, ht, ⟨hbefore', hpc'⟩, hrel⟩ := ih hs' (by omega)
      refine ⟨a :: as, t, run_cons_eq_some.mpr ⟨s', hs, hrun⟩, ht, ⟨?_, fun d hd => ?_⟩, hrel⟩
      · rw [hbefore', hbefore]
      · rw [hpc' d hd, hpc d hd]

/-- A CPU that has saved its flag can be brought to restore what is in the lock word now. -/
theorem run_to_release (h : SpinInv s) (hc : (s.pc c).pending = true) :
    ∃ as t, Lib.run spinStep s as = some t ∧ t.pc c = .released ∧
      t.irq c = s.lock.interruptFlags ∧ t.before c = s.before c := by
  -- first the owner of the lock, if it is another CPU, then `c` itself
  obtain ⟨as, t, hrun, hother, hinv, hflags, hbefore, hpc⟩ :
      ∃ as t, Lib.run spinStep s as = some t ∧ (∀ d, d ≠ c → (t.pc d).owns = false) ∧ SpinInv t ∧
        t.lock.interruptFlags = s.lock.interruptFlags ∧ t.before = s.before ∧ t.pc c = s.pc c := by
    by_cases howner : ∃ d, d ≠ c ∧ (s.pc d).owns = true
    · obtain ⟨d, hd, ho⟩ := howner
      have hpend : (s.pc d).pending = true := by
        cases hpc : s.pc d <;> simp_all [SpinPc.owns, SpinPc.pending]
      have halone : Alone d s.lock.interruptFlags s :=
        ⟨h, h.other_of_owns ho, rfl, Or.inl hpend⟩
      obtain ⟨as, t, hrun, ht, ⟨hbefore, hpc⟩, hrel⟩ := halone.run _ (Nat.le_refl _)
      refine ⟨as, t, hrun, fun e he => ?_, ht.inv, ht.saved, hbefore, hpc c hd.symm⟩
      rcases eq_or_ne e d with rfl | hne
      · rw [hrel]
        rfl
      · exact ht.other e hne
    · refine ⟨[], s, rfl, fun d hd => ?_, h, rfl, rfl, rfl⟩
      rw [← Bool.not_eq_true]
      exact fun ho => howner ⟨d, hd, ho⟩
  have halone : Alone c s.lock.interruptFlags t :=
    ⟨hinv, hother, hflags, Or.inl (by rw [hpc]; exact hc)⟩
  obtain ⟨bs, u, hrun', hu, ⟨hbefore', -⟩, hrel⟩ := halone.run _ (Nat.le_refl _)
  refine ⟨as ++ bs, u, ?_, hrel, ?_, by rw [hbefore', hbefore]⟩
  · rw [run_append, hrun]
    exact hrun'
  · rcases hu.pc with hp | hp | ⟨-, hirq⟩
    · simp [hrel, SpinPc.pending] at hp
    · simp [hrel] at hp
    · exact hirq

/-! ## Runs -/

/--
**A spinlock excludes in every run, and restores the interrupt flags in every run in which no CPU
overwrites a saved flag with a different one.**

A run in which one does can be continued to a release after which the flag is wrong.
-/
theorem spinlock_flags (irq : Nat → Bool) (as : List SpinAction) :
    Always spinStep OneInside (SpinSystem.boot irq) as ∧
    (Along spinStep KeepsFlags (SpinSystem.boot irq) as →
      Always spinStep FlagsRestored (SpinSystem.boot irq) as) ∧
    (¬ Along spinStep KeepsFlags (SpinSystem.boot irq) as →
      ∃ before after, before <+: as ∧
        ¬ Always spinStep FlagsRestored (SpinSystem.boot irq) (before ++ after)) := by
  have hinv : ∀ {bs : List SpinAction} {t : SpinSystem},
      run spinStep (SpinSystem.boot irq) bs = some t → SpinInv t := fun hrun =>
    invariant_run (fun _ _ _ => spinInv_step) (spinInv_boot irq) hrun
  refine ⟨?_, fun h => ⟨(flagInv_boot irq).restored, ?_⟩, fun h => ?_⟩
  · exact Always.of_invariant (fun _ h => SpinInv.oneInside h) (fun _ _ _ => spinInv_step)
      (spinInv_boot irq)
  · refine Along.of_invariant (I := fun s => SpinInv s ∧ FlagInv s) ?_ ?_
      ⟨spinInv_boot irq, flagInv_boot irq⟩ h
    · rintro s a s' ⟨hi, hf⟩ hs hk
      exact (flagInv_step hi hf hs hk).restored
    · rintro s a s' ⟨hi, hf⟩ hs hk
      exact ⟨spinInv_step hi hs, flagInv_step hi hf hs hk⟩
  · obtain ⟨pre, a, post, t, t', has, hrun, hs, hk⟩ := exists_of_not_along h
    cases a with
    | advance c =>
      simp only [KeepsFlags, not_forall] at hk
      obtain ⟨flags, hc, d, hd, hp, hne⟩ := hk
      have hs' := hs
      simp only [spinStep, hc, spinAdvance, Option.map_some, Option.some.injEq] at hs'
      have hpc : t'.pc d = t.pc d := by
        rw [← hs']
        exact Function.update_of_ne hd ..
      obtain ⟨bs, u, hrun', hrel, hirq, hbefore⟩ :=
        run_to_release (c := d) (spinInv_step (hinv hrun) hs) (by rw [hpc]; exact hp)
      refine ⟨pre ++ [.advance c], bs, ⟨post, by simp [has]⟩, fun halways => ?_⟩
      have hu : FlagsRestored u := by
        refine always_iff_forall_initial.mp halways _ [] u (List.append_nil _).symm ?_
        rw [run_append, run_append, hrun]
        simp only [Option.bind_some, run_cons, hs, run_nil]
        exact hrun'
      have hfinal := hu d hrel
      rw [hirq, hbefore, ← hs'] at hfinal
      exact hne hfinal.symm
    | _ => exact absurd trivial hk

/-- CPU 1, with its interrupts disabled, comes while CPU 0 holds the lock. -/
def overwriteRun : List SpinAction :=
  [.setIrq 0 true, .acquire 0, .advance 0, .advance 0, .advance 0, .advance 0,
   .acquire 1, .advance 1,
   .release 0, .advance 0, .advance 0, .advance 0, .advance 0, .advance 0]

/-- **CPU 0 comes out of its critical section with interrupts disabled.** -/
theorem flags_overwritten :
    ∃ s, run spinStep (SpinSystem.boot fun _ => false) overwriteRun = some s ∧
      s.pc 0 = .released ∧ s.before 0 = true ∧ s.irq 0 = false ∧ ¬ FlagsRestored s := by
  refine ⟨_, rfl, rfl, rfl, rfl, fun h => ?_⟩
  exact absurd (h 0 rfl) (by decide)

end MayaOs.Kernel
