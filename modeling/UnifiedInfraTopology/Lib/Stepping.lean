import UnifiedInfraTopology.Lib.Contract
import Mathlib.Logic.Relation

/-!
# Loops whose iterations are determined

`step` says what one iteration makes of the state of a loop: a state to go on from, a result, or
nothing where the iteration leaves the loop.

* `Reaches`: the loop gets from one state to another.
* `Finishes`: the loop ends with a result.
* `contract_loop_finishes`: a loop of a program, each of whose iterations does what `step` says,
  returns where `step` finishes, and leaves where it does not.
-/

namespace UnifiedInfraTopology.Lib

variable {σ τ : Type} {step : σ → Option (σ ⊕ τ)} {s s' s'' : σ} {t t' : τ}

/-- One iteration, and the loop is not over. -/
def GoesOn (step : σ → Option (σ ⊕ τ)) (s s' : σ) : Prop := step s = some (.inl s')

/-- Any number of iterations, and the loop is not over. -/
abbrev Reaches (step : σ → Option (σ ⊕ τ)) : σ → σ → Prop := Relation.ReflTransGen (GoesOn step)

/-- The loop ends with this result. -/
inductive Finishes (step : σ → Option (σ ⊕ τ)) : σ → τ → Prop where
  | done {s : σ} {t : τ} (last : step s = some (.inr t)) : Finishes step s t
  | more {s s' : σ} {t : τ} (first : step s = some (.inl s')) (rest : Finishes step s' t) :
      Finishes step s t

theorem finishes_of_goesOn (first : step s = some (.inl s')) :
    Finishes step s t ↔ Finishes step s' t := by
  refine ⟨fun finishes => ?_, .more first⟩
  cases finishes with
  | done last => cases first.symm.trans last
  | more first' rest =>
      cases first.symm.trans first'
      exact rest

theorem finishes_of_done (last : step s = some (.inr t)) : Finishes step s t' ↔ t = t' := by
  refine ⟨fun finishes => ?_, fun same => same ▸ .done last⟩
  cases finishes with
  | done last' =>
      cases last.symm.trans last'
      rfl
  | more first rest => cases last.symm.trans first

theorem not_finishes_of_none (leaves : step s = none) : ¬Finishes step s t := by
  intro finishes
  cases finishes with
  | done last => cases leaves.symm.trans last
  | more first rest => cases leaves.symm.trans first

/-- A loop that comes back to its state does not end. -/
theorem not_finishes_of_fixed (fixed : step s = some (.inl s)) : ¬Finishes step s t := by
  intro finishes
  generalize same : s = g at finishes
  induction finishes with
  | done last =>
      subst same
      cases fixed.symm.trans last
  | more first rest ih =>
      subst same
      cases fixed.symm.trans first
      exact ih rfl

theorem finishes_of_reaches (reaches : Reaches step s s') :
    Finishes step s t ↔ Finishes step s' t := by
  induction reaches with
  | refl => exact Iff.rfl
  | tail _ last ih => exact ih.trans (finishes_of_goesOn last)

theorem Finishes.unique (first : Finishes step s t) (second : Finishes step s t') : t = t' := by
  induction first with
  | done last => exact (finishes_of_done last).mp second
  | more goes _ ih => exact ih ((finishes_of_goesOn goes).mp second)

/-- An invariant of the iterations holds of the state that the loop gets to. -/
theorem Reaches.invariant {I : σ → Prop} (keeps : ∀ s s', I s → step s = some (.inl s') → I s')
    (reaches : Reaches step s s') (here : I s) : I s' := by
  induction reaches with
  | refl => exact here
  | tail _ last ih => exact keeps _ _ ih last

/-- What the last iteration makes of an invariant holds of the result. -/
theorem Finishes.result {I : σ → Prop} {Q : τ → Prop}
    (keeps : ∀ s s', I s → step s = some (.inl s') → I s')
    (ends : ∀ s t, I s → step s = some (.inr t) → Q t) (finishes : Finishes step s t) (here : I s) :
    Q t := by
  induction finishes with
  | done last => exact ends _ _ here last
  | more first _ ih => exact ih (keeps _ _ here first)

namespace Prog

variable {C : Type} {R : C → Type} {ε M ω : Type} {H : Handler C R M ω} {assume : ω → Prop}
  {exit : ε → ω → Prop} {body : σ → Prog C R ε (σ ⊕ τ)} {w : ω}

/-- A loop of a program does what its iterations do. -/
theorem contract_loop_finishes
    (each : ∀ g w', Contract H assume (fun e w'' => step g = none ∧ exit e w'') (body g)
      (fun result _ => step g = some result) w')
    (n : Nat) (g : σ) :
    Contract H assume (fun e w' => (∀ t, ¬Finishes step g t) ∧ exit e w') (loop body n g)
      (fun t _ => Finishes step g t) w := by
  -- The states that the loop gets to have the results of the first.
  refine contract_loop (fun g' _ => ∀ t, Finishes step g' t ↔ Finishes step g t)
    (fun g' w' alike => wp_mono (each g' w') fun o w'' post => ?_) n g fun _ => Iff.rfl
  rcases o with (g'' | t) | e | _
  · exact fun t => (finishes_of_goesOn post).symm.trans (alike t)
  · exact (alike t).mp (.done post)
  · exact ⟨fun t finishes => not_finishes_of_none post.1 ((alike t).mpr finishes), post.2⟩
  · trivial

end Prog

end UnifiedInfraTopology.Lib
