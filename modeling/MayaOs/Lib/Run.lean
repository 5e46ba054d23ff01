import Mathlib.Data.List.Basic

/-!
# Runs of a step function

A system is a partial step function: `step s a` is the state after action `a`,
`none` when `a` is not enabled in `s`.

* `run` — executes a list of actions
* `Along` — a relation holds of every transition of a run
* `Always` — a predicate holds in every state of a run
* `along_congr` — relations that agree under an invariant agree along every run
* `Guarded` — a condition holds of every action of a run when it is taken
-/

namespace MayaOs.Lib

universe u v

variable {S : Type u} {A : Type v}

/-! ## run -/

/-- Executes the actions in order, `none` as soon as one of them is not enabled. -/
def run (step : S → A → Option S) : S → List A → Option S
  | s, [] => some s
  | s, a :: as => (step s a).bind fun s' => run step s' as

variable {step : S → A → Option S}

@[simp] theorem run_nil (s : S) : run step s [] = some s := rfl

theorem run_cons (s : S) (a : A) (as : List A) :
    run step s (a :: as) = (step s a).bind fun s' => run step s' as := rfl

theorem run_cons_eq_some {s t : S} {a : A} {as : List A} :
    run step s (a :: as) = some t ↔ ∃ s', step s a = some s' ∧ run step s' as = some t := by
  rw [run_cons, Option.bind_eq_some_iff]

theorem run_append (as bs : List A) :
    ∀ s : S, run step s (as ++ bs) = (run step s as).bind fun t => run step t bs := by
  induction as with
  | nil => intro s; rfl
  | cons a as ih =>
    intro s
    rw [List.cons_append, run_cons, run_cons, Option.bind_assoc]
    exact congrArg _ (funext ih)

/-- **A predicate that every step preserves holds at the end of every run.** -/
theorem invariant_run {I : S → Prop} (hstep : ∀ s a s', I s → step s a = some s' → I s') :
    ∀ {as : List A} {s t : S}, I s → run step s as = some t → I t := by
  intro as
  induction as with
  | nil => intro s t hs h; cases h; exact hs
  | cons a as ih =>
    intro s t hs h
    obtain ⟨s', ha, hrest⟩ := run_cons_eq_some.mp h
    exact ih (hstep s a s' hs ha) hrest

/-- Some list of actions leads from `s` to `t`. -/
def Reachable (step : S → A → Option S) (s t : S) : Prop := ∃ as, run step s as = some t

theorem Reachable.invariant {I : S → Prop} (hstep : ∀ s a s', I s → step s a = some s' → I s')
    {s t : S} (hs : I s) (h : Reachable step s t) : I t := by
  obtain ⟨as, has⟩ := h
  exact invariant_run hstep hs has

/-! ## relations along a run -/

/-- `R s a s'` holds of every transition that the run of the actions from `s` takes. -/
def Along (step : S → A → Option S) (R : S → A → S → Prop) : S → List A → Prop
  | _, [] => True
  | s, a :: as => ∀ s', step s a = some s' → R s a s' ∧ Along step R s' as

/-- `P` holds in `s` and in every state that the run of the actions from `s` reaches. -/
def Always (step : S → A → Option S) (P : S → Prop) (s : S) (as : List A) : Prop :=
  P s ∧ Along step (fun _ _ s' => P s') s as

variable {R Q : S → A → S → Prop} {I : S → Prop}

@[simp] theorem along_nil (s : S) : Along step R s [] := trivial

/-- `Along` speaks of every transition, whatever was done before it. -/
theorem along_iff_forall_initial : ∀ {as : List A} {s : S}, Along step R s as ↔
    ∀ pre a post t t', as = pre ++ a :: post → run step s pre = some t → step t a = some t' →
      R t a t' := by
  intro as
  induction as with
  | nil => intro s; simp
  | cons b bs ih =>
    intro s
    constructor
    · intro h pre a post t t' heq hpre hstep
      cases pre with
      | nil =>
        cases hpre
        obtain ⟨rfl, rfl⟩ : b = a ∧ bs = post := by simpa using heq
        exact (h t' hstep).1
      | cons c pre =>
        obtain ⟨rfl, hbs⟩ : b = c ∧ bs = pre ++ a :: post := by simpa using heq
        obtain ⟨s', hs', hrest⟩ := run_cons_eq_some.mp hpre
        exact ih.mp (h s' hs').2 pre a post t t' hbs hrest hstep
    · intro h s' hs'
      refine ⟨h [] b bs s s' rfl rfl hs', ih.mpr ?_⟩
      intro pre a post t t' heq hpre hstep
      exact h (b :: pre) a post t t' (by rw [heq, List.cons_append])
        (run_cons_eq_some.mpr ⟨s', hs', hpre⟩) hstep

/-- A relation that fails along a run fails at one of its transitions. -/
theorem exists_of_not_along {as : List A} {s : S} (h : ¬ Along step R s as) :
    ∃ pre a post t t', as = pre ++ a :: post ∧ run step s pre = some t ∧ step t a = some t' ∧
      ¬ R t a t' := by
  rw [along_iff_forall_initial] at h
  simp only [not_forall] at h
  obtain ⟨pre, a, post, t, t', heq, hrun, hstep, hr⟩ := h
  exact ⟨pre, a, post, t, t', heq, hrun, hstep, hr⟩

/-- The states of `Always` are the ends of the initial parts of the run. -/
theorem always_iff_forall_initial {P : S → Prop} {as : List A} {s : S} :
    Always step P s as ↔ ∀ pre post t, as = pre ++ post → run step s pre = some t → P t := by
  constructor
  · rintro ⟨hs, h⟩ pre post t heq hpre
    rcases List.eq_nil_or_concat pre with rfl | ⟨init, a, rfl⟩
    · cases hpre; exact hs
    · rw [List.concat_eq_append, run_append, Option.bind_eq_some_iff] at hpre
      obtain ⟨t₀, hinit, hlast⟩ := hpre
      obtain ⟨t', hstep, ht⟩ := run_cons_eq_some.mp hlast
      cases ht
      refine along_iff_forall_initial.mp h init a post t₀ t ?_ hinit hstep
      rw [heq, List.concat_eq_append, List.append_assoc, List.singleton_append]
  · intro h
    refine ⟨h [] as s rfl rfl, along_iff_forall_initial.mpr ?_⟩
    intro pre a post t t' heq hpre hstep
    refine h (pre ++ [a]) post t' (by simp [heq]) ?_
    rw [run_append, hpre]
    exact run_cons_eq_some.mpr ⟨t', hstep, rfl⟩

/--
**Relations that agree under an invariant agree along every run.**

The invariant only has to be preserved by the transitions that satisfy `Q`:
at the first transition that does not, both sides have already failed.
-/
theorem along_congr (hRQ : ∀ s a s', I s → step s a = some s' → (R s a s' ↔ Q s a s'))
    (hinv : ∀ s a s', I s → step s a = some s' → Q s a s' → I s') :
    ∀ {as : List A} {s : S}, I s → (Along step R s as ↔ Along step Q s as) := by
  intro as
  induction as with
  | nil => intro s _; exact Iff.rfl
  | cons a as ih =>
    intro s hs
    constructor
    · intro h s' hs'
      obtain ⟨hr, hrest⟩ := h s' hs'
      have hq := (hRQ s a s' hs hs').mp hr
      exact ⟨hq, (ih (hinv s a s' hs hs' hq)).mp hrest⟩
    · intro h s' hs'
      obtain ⟨hq, hrest⟩ := h s' hs'
      exact ⟨(hRQ s a s' hs hs').mpr hq, (ih (hinv s a s' hs hs' hq)).mpr hrest⟩

/-- A relation that an invariant and `Q` imply holds along every run whose transitions satisfy `Q`. -/
theorem Along.of_invariant (hR : ∀ s a s', I s → step s a = some s' → Q s a s' → R s a s')
    (hinv : ∀ s a s', I s → step s a = some s' → Q s a s' → I s') :
    ∀ {as : List A} {s : S}, I s → Along step Q s as → Along step R s as := by
  intro as
  induction as with
  | nil => intro s _ _; trivial
  | cons a as ih =>
    intro s hs h s' hs'
    obtain ⟨hq, hrest⟩ := h s' hs'
    exact ⟨hR s a s' hs hs' hq, ih (hinv s a s' hs hs' hq) hrest⟩

/-- Where a run whose transitions satisfy `Q` ends, the invariant holds. -/
theorem Along.run_end (hinv : ∀ s a s', I s → step s a = some s' → Q s a s' → I s') :
    ∀ {as : List A} {s t : S}, I s → Along step Q s as → run step s as = some t → I t := by
  intro as
  induction as with
  | nil => intro s t hs _ hrun; cases hrun; exact hs
  | cons a as ih =>
    intro s t hs h hrun
    obtain ⟨s', hs', hrest⟩ := run_cons_eq_some.mp hrun
    obtain ⟨hq, hq'⟩ := h s' hs'
    exact ih (hinv s a s' hs hs' hq) hq' hrest

/-- A condition on the actions alone holds along every run of such actions. -/
theorem Along.and_forall_mem {C : A → Prop} :
    ∀ {as : List A} {s : S}, Along step Q s as → (∀ a ∈ as, C a) →
      Along step (fun s a s' => Q s a s' ∧ C a) s as := by
  intro as
  induction as with
  | nil => intro s _ _; trivial
  | cons a as ih =>
    intro s h hC s' hs'
    obtain ⟨hq, hrest⟩ := h s' hs'
    obtain ⟨ha, has⟩ := List.forall_mem_cons.mp hC
    exact ⟨⟨hq, ha⟩, ih hrest has⟩

/-- `Along.of_invariant` where every transition is as it should be. -/
theorem Along.of_step (hR : ∀ s a s', I s → step s a = some s' → R s a s')
    (hinv : ∀ s a s', I s → step s a = some s' → I s') :
    ∀ {as : List A} {s : S}, I s → Along step R s as := by
  intro as
  induction as with
  | nil => intro s _; trivial
  | cons a as ih =>
    intro s hs s' hs'
    exact ⟨hR s a s' hs hs', ih (hinv s a s' hs hs')⟩

/-- **What an invariant implies holds in every state of every run.** -/
theorem Always.of_invariant {P : S → Prop} (hP : ∀ s, I s → P s)
    (hinv : ∀ s a s', I s → step s a = some s' → I s') {as : List A} {s : S} (hs : I s) :
    Always step P s as :=
  ⟨hP s hs, Along.of_step (fun s a s' h hs' => hP s' (hinv s a s' h hs')) hinv hs⟩

/-- `along_congr` for a predicate of states: `P` holds throughout iff every transition meets `Q`. -/
theorem always_iff_along {P : S → Prop}
    (hPQ : ∀ s a s', I s → step s a = some s' → (P s' ↔ Q s a s'))
    (hinv : ∀ s a s', I s → step s a = some s' → Q s a s' → I s')
    {as : List A} {s : S} (hs : I s) (hP : P s) :
    Always step P s as ↔ Along step Q s as := by
  unfold Always
  rw [along_congr hPQ hinv hs]
  exact and_iff_right hP

/-! ## conditions on the actions of a run -/

/-- `G` holds of each action in the state in which it is taken, whether or not it is enabled. -/
def Guarded (step : S → A → Option S) (G : S → A → Prop) : S → List A → Prop
  | _, [] => True
  | s, a :: as => G s a ∧ ∀ s', step s a = some s' → Guarded step G s' as

variable {G : S → A → Prop}

theorem Guarded.along :
    ∀ {as : List A} {s : S}, Guarded step G s as → Along step (fun s a _ => G s a) s as := by
  intro as
  induction as with
  | nil => intro s _; trivial
  | cons a as ih => intro s h s' hs'; exact ⟨h.1, ih (h.2 s' hs')⟩

/-- **A run whose actions meet the guard comes to its end and keeps the invariant.** -/
theorem Guarded.run (hstep : ∀ s a, I s → G s a → ∃ s', step s a = some s' ∧ I s') :
    ∀ {as : List A} {s : S}, I s → Guarded step G s as → ∃ t, run step s as = some t ∧ I t := by
  intro as
  induction as with
  | nil => intro s hs _; exact ⟨s, rfl, hs⟩
  | cons a as ih =>
    intro s hs h
    obtain ⟨s', ha, hs'⟩ := hstep s a hs h.1
    obtain ⟨t, hrun, ht⟩ := ih hs' (h.2 s' ha)
    exact ⟨t, run_cons_eq_some.mpr ⟨s', ha, hrun⟩, ht⟩

/-- **What the invariant implies holds throughout a run whose actions meet the guard.** -/
theorem Guarded.always {P : S → Prop} (hP : ∀ s, I s → P s)
    (hinv : ∀ s a s', I s → G s a → step s a = some s' → I s') {as : List A} {s : S} (hs : I s)
    (h : Guarded step G s as) : Always step P s as := by
  refine ⟨hP s hs, Along.of_invariant (I := I) ?_ ?_ hs h.along⟩
  · exact fun s a s' hi hs' hg => hP s' (hinv s a s' hi hg hs')
  · exact fun s a s' hi hs' hg => hinv s a s' hi hg hs'

end MayaOs.Lib
