import Mathlib.Logic.Function.Basic
import Mathlib.Order.Basic

/-!
# Rows that are upserted

A write inserts its row unless one is stored under its key, checks that the stored row has its
identity, and merges its row into the stored one unless that is newer.  The three stages are
statements of their own, and other writes and deletions come between them.

* `Move`: what one statement of a write does under its key.
* `Reached`: what a write knows of the stored row at each of its stages; the statements of others
  keep it (`Reached.move`).
* `Origin`: where a stored row comes from.  A row is merged only into one with its identity, so that
  what holds of the writes and of the first rows holds of every row, by induction.
-/

namespace UnifiedInfraTopology.Lib

/-- Rows with a key, an identity, a time of birth and a time.  A merge into a stored row keeps its
key, identity and birth, and takes the time of the written row. -/
structure Upsertable (ρ κ ι τ : Type) where
  key : ρ → κ
  identity : ρ → ι
  born : ρ → τ
  time : ρ → τ
  /-- The stored row, and the row merged into it. -/
  merge : ρ → ρ → ρ
  key_merge : ∀ old w, key (merge old w) = key old
  identity_merge : ∀ old w, identity (merge old w) = identity old
  born_merge : ∀ old w, born (merge old w) = born old
  time_merge : ∀ old w, time (merge old w) = time w

namespace Upsertable

variable {ρ κ ι τ : Type} [Preorder τ] (U : Upsertable ρ κ ι τ)

/-! ## One key -/

/-- What a statement of a write does to the row stored under its key. -/
inductive Move (w : ρ) : Option ρ → Option ρ → Prop where
  | same (stored : Option ρ) : Move w stored stored
  | created : Move w none (some w)
  | merged {row : ρ} (named : U.identity row = U.identity w) (older : U.time row ≤ U.time w) :
      Move w (some row) (some (U.merge row w))

/-- How far a write has come. -/
inductive Stage where
  | start
  | check
  | merge
  | returned
  | failed
deriving DecidableEq

/-- What a write knows of the row under its key. -/
def Reached (w : ρ) (stored : Option ρ) : Stage → Prop
  | .start | .failed => True
  | .check => stored.isSome
  | .merge => ∃ row, stored = some row ∧ U.identity row = U.identity w
  | .returned => ∃ row, stored = some row ∧ U.identity row = U.identity w ∧ U.time w ≤ U.time row

variable {U}

/-- The statements of other writes keep what a write knows. -/
theorem Reached.move {w other : ρ} {stored stored' : Option ρ} {stage : Stage}
    (reached : U.Reached w stored stage) (move : U.Move other stored stored') :
    U.Reached w stored' stage := by
  cases move with
  | same => exact reached
  | created =>
      cases stage with
      | start => trivial
      | failed => trivial
      | check => cases reached
      | merge =>
          obtain ⟨row, found, -⟩ := reached
          cases found
      | returned =>
          obtain ⟨row, found, -⟩ := reached
          cases found
  | @merged row named older =>
      cases stage with
      | start => trivial
      | failed => trivial
      | check => rfl
      | merge =>
          obtain ⟨row', found, same⟩ := reached
          cases found
          exact ⟨_, rfl, (U.identity_merge _ _).trans same⟩
      | returned =>
          obtain ⟨row', found, same, newer⟩ := reached
          cases found
          refine ⟨_, rfl, (U.identity_merge _ _).trans same, ?_⟩
          rw [U.time_merge]
          exact newer.trans older

/-- A merge that is not refused has returned. -/
theorem Reached.merged {w row : ρ} (named : U.identity row = U.identity w) :
    U.Reached w (some (U.merge row w)) .returned :=
  ⟨_, rfl, (U.identity_merge _ _).trans named, (U.time_merge _ _).ge⟩

/-! ## All keys -/

variable (U) in
/-- A statement of a write: other keys are left alone. -/
structure Step (w : ρ) (stored stored' : κ → Option ρ) : Prop where
  move : U.Move w (stored (U.key w)) (stored' (U.key w))
  apart : ∀ k, k ≠ U.key w → stored' k = stored k

theorem Step.refl (w : ρ) (stored : κ → Option ρ) : U.Step w stored stored :=
  ⟨.same _, fun _ _ => rfl⟩

variable (U) in
/-- Rows are stored under their keys. -/
def Keyed (stored : κ → Option ρ) : Prop := ∀ k row, stored k = some row → U.key row = k

variable (U) in
/-- Where a row comes from: the first rows, a write, or a merge into a row with the same identity. -/
inductive Origin (first : κ → Option ρ) (written : ρ → Prop) : ρ → Prop where
  | first {row : ρ} (found : first (U.key row) = some row) : Origin first written row
  | created {w : ρ} (here : written w) : Origin first written w
  | merged {row w : ρ} (from_ : Origin first written row) (here : written w)
      (key : U.key row = U.key w) (named : U.identity row = U.identity w)
      (older : U.time row ≤ U.time w) : Origin first written (U.merge row w)

variable (U) in
/-- Every stored row has its origin in the first rows and the writes. -/
structure Traced (first : κ → Option ρ) (written : ρ → Prop) (stored : κ → Option ρ) : Prop where
  keyed : U.Keyed stored
  origin : ∀ k row, stored k = some row → U.Origin first written row

theorem Traced.start {first : κ → Option ρ} (keyed : U.Keyed first) (written : ρ → Prop) :
    U.Traced first written first :=
  ⟨keyed, fun k row found => .first (by rw [keyed k row found]; exact found)⟩

/-- A statement of a write keeps the origins. -/
theorem Traced.step {first stored stored' : κ → Option ρ} {written : ρ → Prop} {w : ρ}
    (traced : U.Traced first written stored) (here : written w) (step : U.Step w stored stored') :
    U.Traced first written stored' := by
  have move := step.move
  have own : ∀ row, stored' (U.key w) = some row →
      U.key row = U.key w ∧ U.Origin first written row := by
    intro row found
    have before := fun row => traced.keyed (U.key w) row
    have origins := fun row => traced.origin (U.key w) row
    generalize stored (U.key w) = old at move before origins
    rw [found] at move
    cases move with
    | same => exact ⟨before row rfl, origins row rfl⟩
    | created => exact ⟨rfl, .created here⟩
    | @merged row' named older =>
        exact ⟨(U.key_merge _ _).trans (before row' rfl),
          .merged (origins row' rfl) here (before row' rfl) named older⟩
  constructor
  · intro k row found
    by_cases same : k = U.key w
    · subst same
      exact (own row found).1
    · exact traced.keyed k row (step.apart k same ▸ found)
  · intro k row found
    by_cases same : k = U.key w
    · subst same
      exact (own row found).2
    · exact traced.origin k row (step.apart k same ▸ found)

/-- A deletion keeps the origins. -/
theorem Traced.delete {first stored stored' : κ → Option ρ} {written : ρ → Prop}
    (traced : U.Traced first written stored)
    (fewer : ∀ k row, stored' k = some row → stored k = some row) :
    U.Traced first written stored' :=
  ⟨fun k row found => traced.keyed k row (fewer k row found),
    fun k row found => traced.origin k row (fewer k row found)⟩

/-- A statement of another write keeps what a write knows. -/
theorem Reached.step {w other : ρ} {stored stored' : κ → Option ρ} {stage : Stage}
    (reached : U.Reached w (stored (U.key w)) stage) (step : U.Step other stored stored') :
    U.Reached w (stored' (U.key w)) stage := by
  by_cases same : U.key w = U.key other
  · rw [same] at reached ⊢
    exact reached.move step.move
  · rw [step.apart _ same]
    exact reached

/-- A row is one of the first, or a write, or the merge of a write. -/
theorem Origin.written {first : κ → Option ρ} {written : ρ → Prop} {row : ρ}
    (from_ : U.Origin first written row) : first (U.key row) = some row ∨ ∃ w, written w ∧
      U.key w = U.key row ∧ U.identity w = U.identity row ∧ (row = w ∨ ∃ old, row = U.merge old w) := by
  cases from_ with
  | first found => exact Or.inl found
  | created here => exact Or.inr ⟨row, here, rfl, rfl, Or.inl rfl⟩
  | @merged old w from_ here key named older =>
      exact Or.inr ⟨w, here, key.symm.trans (U.key_merge _ _).symm,
        named.symm.trans (U.identity_merge _ _).symm, Or.inr ⟨old, rfl⟩⟩

/-- A row was born as one of the first, or as a write, and has not got older since. -/
theorem Origin.born {first : κ → Option ρ} {written : ρ → Prop} {row : ρ}
    (from_ : U.Origin first written row) : ∃ row', (first (U.key row') = some row' ∨ written row') ∧
      U.key row' = U.key row ∧ U.identity row' = U.identity row ∧ U.born row' = U.born row ∧
      U.time row' ≤ U.time row := by
  induction from_ with
  | @first row found => exact ⟨row, Or.inl found, rfl, rfl, rfl, le_rfl⟩
  | @created w here => exact ⟨w, Or.inr here, rfl, rfl, rfl, le_rfl⟩
  | merged _ _ _ _ older ih =>
      obtain ⟨row', known, key, named, born, before⟩ := ih
      exact ⟨row', known, key.trans (U.key_merge _ _).symm,
        named.trans (U.identity_merge _ _).symm, born.trans (U.born_merge _ _).symm,
        before.trans (older.trans (U.time_merge _ _).ge)⟩

/-! ## Rows that stay -/

variable (U) in
/-- The row is stored still, with its identity and birth, and not older. -/
def Later (row : ρ) (stored : κ → Option ρ) : Prop :=
  ∃ row', stored (U.key row) = some row' ∧ U.identity row' = U.identity row ∧
    U.born row' = U.born row ∧ U.time row ≤ U.time row'

theorem Later.refl {row : ρ} {stored : κ → Option ρ} (found : stored (U.key row) = some row) :
    U.Later row stored := ⟨row, found, rfl, rfl, le_rfl⟩

theorem Later.step {row w : ρ} {stored stored' : κ → Option ρ} (later : U.Later row stored)
    (step : U.Step w stored stored') : U.Later row stored' := by
  obtain ⟨row', found, named, born, newer⟩ := later
  by_cases same : U.key row = U.key w
  · have move := step.move
    rw [← same, found] at move
    generalize next : stored' (U.key row) = row'' at move
    cases move with
    | same => exact ⟨row', next, named, born, newer⟩
    | merged _ older =>
        exact ⟨_, next, (U.identity_merge _ _).trans named, (U.born_merge _ _).trans born,
          newer.trans (older.trans (U.time_merge _ _).ge)⟩
  · exact ⟨row', (step.apart _ same).trans found, named, born, newer⟩

/-- A row with another identity than the write is left alone, and was there. -/
theorem Step.bystander {row w : ρ} {stored stored' : κ → Option ρ} (step : U.Step w stored stored')
    (other : U.identity row ≠ U.identity w) (k : κ) :
    stored' k = some row ↔ stored k = some row := by
  by_cases same : k = U.key w
  · subst same
    have move := step.move
    generalize stored (U.key w) = old at move ⊢
    generalize stored' (U.key w) = new at move ⊢
    cases move with
    | same => exact Iff.rfl
    | created =>
        refine ⟨fun here => ?_, nofun⟩
        cases here
        exact (other rfl).elim
    | @merged row' named _ =>
        constructor
        · intro here
          cases here
          exact (other ((U.identity_merge _ _).trans named)).elim
        · intro here
          cases here
          exact (other named).elim
  · rw [step.apart k same]

end Upsertable

end UnifiedInfraTopology.Lib
