import Mathlib.Data.List.Basic

/-!
# Machines with outputs

A machine answers every input with an output and a new state. Two machines agree if their states
are related in such a way that related states give equal outputs and related states.

* `outputs`, `finalState` — what a machine gives for a list of inputs
* `Simulates.outputs_eq` — machines that agree step by step agree on every list
* `tryOutputs_eq` — a machine that can fail does not, and gives what the other one gives
-/

namespace MayaOs.Lib

universe u v w x

variable {S : Type u} {T : Type v} {I : Type w} {O : Type x}

def outputs (step : S → I → S × O) : S → List I → List O
  | _, [] => []
  | s, i :: is => (step s i).2 :: outputs step (step s i).1 is

def finalState (step : S → I → S × O) : S → List I → S
  | s, [] => s
  | s, i :: is => finalState step (step s i).1 is

variable {f : S → I → S × O} {g : T → I → T × O} {R : S → T → Prop} {s : S} {t : T}

/-- Related states answer alike. -/
def Simulates (f : S → I → S × O) (g : T → I → T × O) (R : S → T → Prop) : Prop :=
  ∀ s t, R s t → ∀ i, (f s i).2 = (g t i).2 ∧ R (f s i).1 (g t i).1

/-- **Machines that agree step by step agree on every list of inputs.** -/
theorem Simulates.outputs_eq (h : Simulates f g R) :
    ∀ {is : List I} {s : S} {t : T}, R s t →
      outputs f s is = outputs g t is ∧ R (finalState f s is) (finalState g t is)
  | [], _, _, hR => ⟨rfl, hR⟩
  | i :: is, s, t, hR => by
    obtain ⟨hout, hnext⟩ := h s t hR i
    obtain ⟨hrest, hend⟩ : outputs f _ is = outputs g _ is ∧ R _ _ := h.outputs_eq hnext
    exact ⟨by rw [outputs, outputs, hout, hrest], hend⟩

/-! ## Failures -/

variable {E : Type*}

/-- `outputs` of a machine that can fail, and its final state. -/
def tryOutputs (step : S → I → Except E (S × O)) : S → List I → Except E (S × List O)
  | s, [] => .ok (s, [])
  | s, i :: is => do
    let (s, o) ← step s i
    let (s, os) ← tryOutputs step s is
    return (s, o :: os)

/-- A condition holds of every input when it comes. -/
def Expected (P : T → I → Prop) (step : T → I → T × O) : T → List I → Prop
  | _, [] => True
  | t, i :: is => P t i ∧ Expected P step (step t i).1 is

/-- **A machine that keeps to another one on expected inputs gives what that one gives.** -/
theorem tryOutputs_eq {f : S → I → Except E (S × O)} {P : T → I → Prop}
    (h : ∀ s t, R s t → ∀ i, P t i → ∃ s', f s i = .ok (s', (g t i).2) ∧ R s' (g t i).1) :
    ∀ {is : List I} {s : S} {t : T}, R s t → Expected P g t is →
      ∃ s', tryOutputs f s is = .ok (s', outputs g t is) ∧ R s' (finalState g t is)
  | [], s, _, hR, _ => ⟨s, rfl, hR⟩
  | i :: is, s, t, hR, hexpected => by
    obtain ⟨s₁, hstep, hnext⟩ := h s t hR i hexpected.1
    obtain ⟨s', hrest, hend⟩ := tryOutputs_eq h hnext hexpected.2
    refine ⟨s', ?_, hend⟩
    rw [tryOutputs, hstep, outputs]
    show (tryOutputs f s₁ is >>= _) = _
    rw [hrest]
    rfl

end MayaOs.Lib
