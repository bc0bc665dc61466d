import Mathlib.Logic.Basic

/-!
# Properties of the steps of a history

`Throughout P past log` says that every entry of `log` satisfies `P`, a predicate of what came before
it and of the entry.
-/

namespace UnifiedInfraTopology.Lib

variable {α : Type} {P Q : List α → α → Prop} {past log : List α}

/-- Every entry satisfies `P` after those before it. -/
def Throughout (P : List α → α → Prop) (past log : List α) : Prop :=
  ∀ before e after, log = before ++ e :: after → P (past ++ before) e

theorem throughout_nil : Throughout P past [] := by
  intro before e after shape
  simp at shape

theorem throughout_cons {e : α} :
    Throughout P past (e :: log) ↔ P past e ∧ Throughout P (past ++ [e]) log := by
  constructor
  · intro holds
    refine ⟨by simpa using holds [] e log rfl, fun before e' after shape => ?_⟩
    simpa using holds (e :: before) e' after (by rw [shape]; rfl)
  · rintro ⟨here, later⟩ before e' after shape
    cases before with
    | nil =>
        cases shape
        simpa using here
    | cons first before =>
        obtain ⟨rfl, rfl⟩ := List.cons.inj shape
        simpa using later before e' after rfl

instance decidableThroughout [∀ past e, Decidable (P past e)] (past log : List α) :
    Decidable (Throughout P past log) :=
  match log with
  | [] => isTrue throughout_nil
  | e :: log =>
      @decidable_of_iff _ (P past e ∧ Throughout P (past ++ [e]) log) throughout_cons.symm
        (@instDecidableAnd _ _ _ (decidableThroughout (past ++ [e]) log))

theorem throughout_append {later : List α} :
    Throughout P past (log ++ later) ↔
      Throughout P past log ∧ Throughout P (past ++ log) later := by
  induction log generalizing past with
  | nil => simp [throughout_nil]
  | cons e log ih => simp [throughout_cons, ih, and_assoc]

/-- An entry at the end. -/
theorem throughout_concat {e : α} :
    Throughout P past (log ++ [e]) ↔ Throughout P past log ∧ P (past ++ log) e := by
  rw [throughout_append, throughout_cons, and_iff_left throughout_nil]

theorem Throughout.mp (implies : Throughout (fun past e => P past e → Q past e) past log)
    (holds : Throughout P past log) : Throughout Q past log :=
  fun before e after shape => implies before e after shape (holds before e after shape)

theorem Throughout.imp (weaker : ∀ past e, P past e → Q past e) (holds : Throughout P past log) :
    Throughout Q past log := fun before e after shape => weaker _ _ (holds before e after shape)

/-- More may have come before, if `P` does not mind. -/
theorem Throughout.prepend {earlier : List α} (grows : ∀ past e, P past e → P (earlier ++ past) e)
    (holds : Throughout P past log) : Throughout P (earlier ++ past) log := by
  intro before e after shape
  rw [List.append_assoc]
  exact grows _ _ (holds before e after shape)

/-- Entries that satisfy `P` whatever came before. -/
theorem throughout_of_forall (each : ∀ e ∈ log, ∀ before, P before e) : Throughout P past log := by
  rintro before e after rfl
  exact each e (by simp) _

end UnifiedInfraTopology.Lib
