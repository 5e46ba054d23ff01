import Mathlib.Data.Nat.Basic
import Mathlib.Data.List.Basic

/-!
# Periodic alarms

A clock with slots for alarms. An alarm rings whenever a multiple of its period has passed since it
was set, however far the clock has come; counters that start again when they ring show the rest.

* `AlarmClock.add`, `AlarmClock.remove`, `AlarmClock.tick` — the operations
* `counter_step` — a counter that is reset at the period rings with the alarm
-/

namespace MayaOs.Lib

universe u

variable {α : Type u}

structure Alarm (α : Type u) where
  action : α
  period : Nat
  since : Nat

/-- The alarm rings at this time. -/
def Alarm.Due (a : Alarm α) (now : Nat) : Prop := a.period ∣ now - a.since

instance (a : Alarm α) (now : Nat) : Decidable (a.Due now) :=
  inferInstanceAs (Decidable (_ ∣ _))

structure AlarmClock (α : Type u) where
  now : Nat
  slots : List (Option (Alarm α))

namespace AlarmClock

/-- What an alarm makes happen at a time. -/
def rings (now : Nat) : Option (Alarm α) → Option α
  | none => none
  | some a => if a.Due now then some a.action else none

/-- The actions are in the order of the slots. -/
def tick (c : AlarmClock α) : AlarmClock α × List α :=
  ({ c with now := c.now + 1 }, c.slots.filterMap (rings (c.now + 1)))

/-- The first free slot is taken, if there is one. -/
def add (c : AlarmClock α) (action : α) (period : Nat) : AlarmClock α × Option Nat :=
  match c.slots.findIdx? Option.isNone with
  | none => (c, none)
  | some i =>
    ({ c with slots := c.slots.set i (some { action := action, period := period, since := c.now }) },
      some i)

def remove (c : AlarmClock α) (i : Nat) : AlarmClock α := { c with slots := c.slots.set i none }

end AlarmClock

/-- **A counter that starts again at the period is the rest of the time**, and starts again when the
alarm rings. -/
theorem counter_step {period k : Nat} (h : 0 < period) :
    (period ≤ k % period + 1 ↔ period ∣ k + 1) ∧
      (k + 1) % period = if period ≤ k % period + 1 then 0 else k % period + 1 := by
  have hlt := Nat.mod_lt k h
  have hmod := Nat.add_mod k 1 period
  by_cases hlast : period ≤ k % period + 1
  · have heq : k % period + 1 = period := by omega
    have hzero : (k + 1) % period = 0 := by
      rw [← Nat.mod_add_mod, heq, Nat.mod_self]
    exact ⟨⟨fun _ => Nat.dvd_of_mod_eq_zero hzero, fun _ => hlast⟩, by rw [if_pos hlast, hzero]⟩
  · have hnext : (k + 1) % period = k % period + 1 := by
      rw [← Nat.mod_add_mod]
      exact Nat.mod_eq_of_lt (by omega)
    refine ⟨⟨fun h => absurd h hlast, fun hdvd => ?_⟩, by rw [if_neg hlast, hnext]⟩
    have hzero := Nat.mod_eq_zero_of_dvd hdvd
    omega

end MayaOs.Lib
