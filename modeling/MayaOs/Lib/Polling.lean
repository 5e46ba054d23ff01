import Mathlib.Algebra.Ring.Nat
import Mathlib.Logic.Function.Iterate
import MayaOs.Lib.Run

/-!
# Loops that poll a clock

A loop tests a condition on a clock that ticks on its own: any number of ticks may come before a
test. When the condition fails the loop is left and nothing happens any more.

* `run_poll` — the clock after a run
* `toNat_iterate` — a counter of 32 bits after some ticks
* `returns_after_iff` — a loop is never left before the `n`-th tick iff its condition holds up to there
-/

namespace MayaOs.Lib

universe u

variable {σ : Type u}

/-- The clock, and whether the loop is still in it. -/
structure Polling (σ : Type u) where
  clock : σ
  waiting : Bool

inductive PollAction where
  | tick
  | test
  deriving Repr, DecidableEq

def pollStep (tick : σ → σ) (going : σ → Bool) (p : Polling σ) : PollAction → Option (Polling σ)
  | .tick => if p.waiting then some { p with clock := tick p.clock } else none
  | .test => if p.waiting then some { p with waiting := going p.clock } else none

/-- However ticks and tests follow each other, the loop is not left before the `n`-th tick. -/
def ReturnsAfter (tick : σ → σ) (going : σ → Bool) (n : Nat) (p : Polling σ) : Prop :=
  ∀ as p', run (pollStep tick going) p as = some p' → p'.waiting = false →
    n ≤ as.count PollAction.tick

variable {tick : σ → σ} {going : σ → Bool}

/-- A loop that was left stays as it is. -/
theorem run_poll_left {as : List PollAction} {s : σ} {p : Polling σ}
    (h : run (pollStep tick going) ⟨s, false⟩ as = some p) : as = [] ∧ p = ⟨s, false⟩ := by
  cases as with
  | nil => exact ⟨rfl, (Option.some.inj h).symm⟩
  | cons a as =>
    obtain ⟨p', hstep, -⟩ := run_cons_eq_some.mp h
    cases a with
    | tick => cases hstep
    | test => cases hstep

/-- **The clock has counted the ticks of the run**, and a loop that was left found its condition
false. -/
theorem run_poll :
    ∀ {as : List PollAction} {s : σ} {p : Polling σ},
      run (pollStep tick going) ⟨s, true⟩ as = some p →
        p.clock = tick^[as.count PollAction.tick] s ∧
          (p.waiting = false → going p.clock = false) := by
  intro as
  induction as with
  | nil =>
    intro s p h
    cases h
    exact ⟨rfl, fun h => by cases h⟩
  | cons a as ih =>
    intro s p h
    obtain ⟨p', hstep, hrest⟩ := run_cons_eq_some.mp h
    cases a with
    | tick =>
      obtain rfl := Option.some.inj hstep
      rw [List.count_cons_self, Function.iterate_succ_apply]
      exact ih hrest
    | test =>
      obtain rfl := Option.some.inj hstep
      rw [List.count_cons_of_ne (by decide)]
      cases hgoing : going s with
      | true =>
        simp only [hgoing] at hrest
        exact ih hrest
      | false =>
        simp only [hgoing] at hrest
        obtain ⟨rfl, rfl⟩ := run_poll_left hrest
        exact ⟨rfl, fun _ => hgoing⟩

/-- Ticks without a test. -/
theorem run_poll_ticks (k : Nat) : ∀ s : σ,
    run (pollStep tick going) ⟨s, true⟩ (List.replicate k PollAction.tick) =
      some ⟨tick^[k] s, true⟩ := by
  induction k with
  | zero => intro s; rfl
  | succ k ih =>
    intro s
    rw [List.replicate_succ, run_cons_eq_some]
    exact ⟨⟨tick s, true⟩, rfl, ih (tick s)⟩

/-- **A loop is never left before the `n`-th tick iff its condition holds at every tick before.** -/
theorem returns_after_iff {n : Nat} {s : σ} :
    ReturnsAfter tick going n ⟨s, true⟩ ↔ ∀ k < n, going (tick^[k] s) = true := by
  constructor
  · intro h k hk
    by_contra hgoing
    rw [Bool.not_eq_true] at hgoing
    -- the ticks, and then a test
    have hrun : run (pollStep tick going) ⟨s, true⟩
        (List.replicate k PollAction.tick ++ [PollAction.test]) = some ⟨tick^[k] s, false⟩ := by
      rw [run_append, run_poll_ticks, Option.bind_some, run_cons_eq_some]
      exact ⟨⟨tick^[k] s, false⟩, by rw [← hgoing]; rfl, rfl⟩
    have hcount := h _ _ hrun rfl
    rw [List.count_append, List.count_replicate_self] at hcount
    exact absurd hcount (Nat.not_le_of_lt hk)
  · intro h as p hrun hleft
    obtain ⟨hclock, hgoing⟩ := run_poll hrun
    by_contra hearly
    have htrue := h _ (Nat.lt_of_not_le hearly)
    rw [← hclock, hgoing hleft] at htrue
    cases htrue

/-- A counter of 32 bits that is counted up. -/
theorem toNat_iterate (count : σ → UInt32)
    (hcount : ∀ s, count (tick s) = count s + 1) (s : σ) (k : Nat) :
    (count (tick^[k] s)).toNat = ((count s).toNat + k) % 2 ^ 32 := by
  induction k with
  | zero => exact (Nat.mod_eq_of_lt (count s).toNat_lt).symm
  | succ k ih =>
    rw [Function.iterate_succ_apply', hcount, UInt32.toNat_add, ih]
    show (_ + 1) % 2 ^ 32 = _
    omega

end MayaOs.Lib
