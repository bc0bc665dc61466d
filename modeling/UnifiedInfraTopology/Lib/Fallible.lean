import Mathlib.Data.List.Basic

/-!
# Fallible computations

Rules for programs in `Except`.

* `bind_ok` takes a computation that has succeeded apart, `foldlM_invariant` a fold.
* `Agrees R` relates two computations that fail together, and whose results are related by `R` where
  they succeed.  Sequencing, branches and folds keep it.
-/

namespace UnifiedInfraTopology.Lib

variable {ε ε' α α' β β' γ : Type}

theorem bind_ok {x : Except ε α} {f : α → Except ε β} {b : β} (ok : (x >>= f) = .ok b) :
    ∃ a, x = .ok a ∧ f a = .ok b := by
  cases x with
  | error e => cases ok
  | ok a => exact ⟨a, rfl, ok⟩

/-- A check that a computation has passed. -/
theorem check_ok {p : Prop} [Decidable p] {e : ε} {x : Except ε α} {a : α}
    (ok : (if p then .error e else x) = .ok a) : ¬p ∧ x = .ok a := by
  split at ok
  · cases ok
  · rename_i passed
    exact ⟨passed, ok⟩

/-! ## Folds -/

/-- What every step of a fold keeps, as the items are consumed. -/
theorem foldlM_invariant (I : List α → β → Prop) {step : β → α → Except ε β} {items : List α}
    {b b' : β} {before : List α}
    (keeps : ∀ done x b b', I done b → step b x = .ok b' → I (done ++ [x]) b')
    (here : I before b) (ok : items.foldlM step b = .ok b') : I (before ++ items) b' := by
  induction items generalizing b before with
  | nil =>
      cases ok
      rwa [List.append_nil]
  | cons x items ih =>
      rw [List.foldlM_cons] at ok
      obtain ⟨b₁, first, rest⟩ := bind_ok ok
      have whole := ih (keeps before x b b₁ here first) rest
      rwa [List.append_assoc] at whole

/-- A fold that succeeds, and one item more. -/
theorem foldlM_concat_ok {step : β → α → Except ε β} {items : List α} {x : α} {b b₁ b' : β}
    (front : items.foldlM step b = .ok b₁) (last : step b₁ x = .ok b') :
    (items ++ [x]).foldlM step b = .ok b' := by
  rw [List.foldlM_append, front]
  change (step b₁ x >>= pure) = .ok b'
  rw [last]
  rfl

/-! ## Agreement -/

/-- Both computations fail, or both succeed with related results. -/
inductive Agrees (R : α → α' → Prop) : Except ε α → Except ε' α' → Prop where
  | ok {a : α} {a' : α'} (related : R a a') : Agrees R (.ok a) (.ok a')
  | error (e : ε) (e' : ε') : Agrees R (.error e) (.error e')

namespace Agrees

variable {R : α → α' → Prop} {S : β → β' → Prop} {x : Except ε α} {x' : Except ε' α'}

theorem refl (x : Except ε α) : Agrees (· = ·) x x := by
  cases x with
  | error e => exact .error e e
  | ok a => exact .ok rfl

theorem bind {f : α → Except ε β} {f' : α' → Except ε' β'} (first : Agrees R x x')
    (next : ∀ a a', R a a' → Agrees S (f a) (f' a')) : Agrees S (x >>= f) (x' >>= f') := by
  cases first with
  | ok related => exact next _ _ related
  | error e e' => exact .error e e'

/-- A check made by both. -/
theorem check {p p' : Prop} [Decidable p] [Decidable p'] {e : ε} {e' : ε'} (same : p ↔ p')
    (rest : ¬p → ¬p' → Agrees R x x') :
    Agrees R (if p then .error e else x) (if p' then .error e' else x') := by
  by_cases failed : p
  · rw [if_pos failed, if_pos (same.mp failed)]
    exact .error e e'
  · rw [if_neg failed, if_neg (mt same.mpr failed)]
    exact rest failed (mt same.mpr failed)

theorem mono {R' : α → α' → Prop} (agrees : Agrees R x x') (weaker : ∀ a a', R a a' → R' a a') :
    Agrees R' x x' := by
  cases agrees with
  | ok related => exact .ok (weaker _ _ related)
  | error e e' => exact .error e e'

theorem trans {ε'' α'' : Type} {R' : α' → α'' → Prop} {x'' : Except ε'' α''} (first : Agrees R x x')
    (second : Agrees R' x' x'') : Agrees (fun a a'' => ∃ a', R a a' ∧ R' a' a'') x x'' := by
  cases first with
  | ok related =>
      cases second with
      | ok related' => exact .ok ⟨_, related, related'⟩
  | error e e' =>
      cases second with
      | error e' e'' => exact .error e e''

/-- Where one of them succeeds, so does the other. -/
theorem ok_left (agrees : Agrees R x x') {a : α} (ok : x = .ok a) : ∃ a', x' = .ok a' ∧ R a a' := by
  cases agrees with
  | ok related =>
      cases ok
      exact ⟨_, rfl, related⟩
  | error e e' => cases ok

theorem foldlM {step : α → γ → Except ε α} {step' : α' → γ → Except ε' α'} {items : List γ}
    {a : α} {a' : α'} (here : R a a')
    (keeps : ∀ x ∈ items, ∀ a a', R a a' → Agrees R (step a x) (step' a' x)) :
    Agrees R (items.foldlM step a) (items.foldlM step' a') := by
  induction items generalizing a a' with
  | nil => exact .ok here
  | cons x items ih =>
      rw [List.foldlM_cons, List.foldlM_cons]
      refine bind (keeps x List.mem_cons_self a a' here) fun b b' related => ?_
      exact ih related fun y member => keeps y (List.mem_cons_of_mem x member)

/-- Items that are read one by one. -/
theorem mapM {f : γ → Except ε α} {f' : γ → Except ε' α} (items : List γ)
    (each : ∀ x, Agrees (· = ·) (f x) (f' x)) : Agrees (· = ·) (items.mapM f) (items.mapM f') := by
  induction items with
  | nil => exact .ok rfl
  | cons x items ih =>
      rw [List.mapM_cons, List.mapM_cons]
      refine bind (each x) fun a a' here => bind ih fun rest rest' later => ?_
      rw [here, later]
      exact .ok rfl

end Agrees

end UnifiedInfraTopology.Lib
