import Mathlib.Data.List.Basic
import Mathlib.Order.Basic

/-!
# Programs that call out to an adversarial environment

`Prog C R ε α` is a sequential program: it returns a value, leaves with an `ε` (an early return),
or issues a call `c : C` and continues with the answer of type `R c`.  `spin` is a loop that has
used up the iterations it was given; an execution there has not returned.

The environment is a script, a list of moves.  One move answers one call (`Handler`), and may
change the state in any other way the handler allows; a move may also leave the call unanswered.
An execution whose script is used up is `pending`, so a script describes any finite prefix of an
execution, and a statement about every script is a statement about every prefix.

`wp` is the demonic reading of a program: what must hold now for every answer to lead to the
postcondition.  `wp_run` connects it to executions.  Its `assume` argument restricts attention to
executions whose final state satisfies a predicate that, once lost, stays lost (`Shrinking`).
`Only` bounds the calls a program can issue; `wp_of_only` is the frame rule that follows from it.
`under` is the outcome where every call has a fixed answer.
-/

namespace UnifiedInfraTopology.Lib

/-- A program over calls `C` answered in `R`, leaving early with `ε` or returning `α`. -/
inductive Prog (C : Type) (R : C → Type) (ε α : Type) : Type where
  | ret (a : α)
  | raise (e : ε)
  | spin
  | call (c : C) (k : R c → Prog C R ε α)

/-- How far an execution got. -/
inductive Outcome (ε α : Type) : Type where
  | ok (a : α)
  | error (e : ε)
  | pending
deriving DecidableEq

/-- The answer of the environment to one call, and the state after it.  No answer means that the
call is still in progress. -/
abbrev Handler (C : Type) (R : C → Type) (M σ : Type) : Type :=
  (c : C) → M → σ → Option (R c) × σ

namespace Prog

variable {C : Type} {R : C → Type} {ε α β γ M σ : Type}

/-- Sequential composition. -/
def bind : Prog C R ε α → (α → Prog C R ε β) → Prog C R ε β
  | ret a, f => f a
  | raise e, _ => raise e
  | spin, _ => spin
  | call c k, f => call c fun r => (k r).bind f

instance : Monad (Prog C R ε) where
  pure := ret
  bind := bind

/-- Issue one call and return its answer. -/
def perform (c : C) : Prog C R ε (R c) := call c ret

/-- Repeat `body` until it returns a result, at most `n` times. -/
def loop (body : γ → Prog C R ε (γ ⊕ β)) : Nat → γ → Prog C R ε β
  | 0, _ => spin
  | n + 1, s => (body s).bind fun
      | .inl s' => loop body n s'
      | .inr b => ret b

@[simp] theorem pure_eq (a : α) : (pure a : Prog C R ε α) = ret a := rfl

@[simp] theorem bind_eq (p : Prog C R ε α) (f : α → Prog C R ε β) : p >>= f = p.bind f := rfl

/-! ## Executions -/

/-- Run a program against a script: the outcome, the state reached and the unused moves. -/
def run (H : Handler C R M σ) : Prog C R ε α → List M → σ → Outcome ε α × σ × List M
  | ret a, script, s => (.ok a, s, script)
  | raise e, script, s => (.error e, s, script)
  | spin, script, s => (.pending, s, script)
  | call _ _, [], s => (.pending, s, [])
  | call c k, m :: script, s =>
      match H c m s with
      | (some r, s') => (k r).run H script s'
      | (none, s') => (.pending, s', script)

/-- A restriction on final states that no call can restore. -/
def Shrinking (H : Handler C R M σ) (assume : σ → Prop) : Prop :=
  ∀ c m s, assume (H c m s).2 → assume s

theorem shrinking_true (H : Handler C R M σ) : Shrinking H fun _ => True :=
  fun _ _ _ _ => trivial

theorem assume_of_run {H : Handler C R M σ} {assume : σ → Prop} (shrinking : Shrinking H assume)
    (p : Prog C R ε α) (script : List M) (s : σ) (final : assume (p.run H script s).2.1) :
    assume s := by
  induction p generalizing script s with
  | ret a => exact final
  | raise e => exact final
  | spin => exact final
  | call c k ih =>
      cases script with
      | nil => exact final
      | cons m script =>
          apply shrinking c m s
          simp only [run] at final
          rcases answer : H c m s with ⟨_ | r, s'⟩
          · rwa [answer] at final
          · rw [answer] at final
            exact ih r script s' final

/-! ## Weakest preconditions -/

/-- What must hold of the state for every execution to end in `Q`, among the executions whose
final state satisfies `assume`. -/
def wp (H : Handler C R M σ) (assume : σ → Prop) :
    Prog C R ε α → (Outcome ε α → σ → Prop) → σ → Prop
  | ret a, Q, s => Q (.ok a) s
  | raise e, Q, s => Q (.error e) s
  | spin, Q, s => Q .pending s
  | call c k, Q, s => Q .pending s ∧ ∀ m, assume (H c m s).2 →
      match H c m s with
      | (some r, s') => wp H assume (k r) Q s'
      | (none, s') => Q .pending s'

section Wp

variable {H : Handler C R M σ} {assume : σ → Prop} {Q Q' : Outcome ε α → σ → Prop} {s : σ}

@[simp] theorem wp_ret (a : α) : wp H assume (ret a) Q s = Q (.ok a) s := rfl

@[simp] theorem wp_raise (e : ε) : wp H assume (raise e) Q s = Q (.error e) s := rfl

/-- One call: the postcondition holds while it is in progress, and every answer leads on. -/
theorem wp_call {c : C} {k : R c → Prog C R ε α} (waiting : Q .pending s)
    (hung : ∀ m, assume (H c m s).2 → Q .pending (H c m s).2)
    (next : ∀ m r, assume (H c m s).2 → (H c m s).1 = some r →
      wp H assume (k r) Q (H c m s).2) :
    wp H assume (call c k) Q s := by
  refine ⟨waiting, fun m admitted => ?_⟩
  have hung := hung m admitted
  have next := fun r => next m r admitted
  rcases answer : H c m s with ⟨_ | r, s'⟩
  · simpa only [answer] using hung
  · simpa only [answer] using next r (by rw [answer])

/-- One call, and a program that takes its answer. -/
theorem wp_perform {c : C} {k : R c → Prog C R ε α} (waiting : Q .pending s)
    (hung : ∀ m, assume (H c m s).2 → Q .pending (H c m s).2)
    (next : ∀ m r, assume (H c m s).2 → (H c m s).1 = some r →
      wp H assume (k r) Q (H c m s).2) :
    wp H assume ((perform c).bind k) Q s := wp_call waiting hung next

/-- `wp` describes every execution. -/
theorem wp_run (shrinking : Shrinking H assume) {p : Prog C R ε α} (pre : wp H assume p Q s)
    (script : List M) (final : assume (p.run H script s).2.1) :
    Q (p.run H script s).1 (p.run H script s).2.1 := by
  induction p generalizing script s with
  | ret a => exact pre
  | raise e => exact pre
  | spin => exact pre
  | call c k ih =>
      cases script with
      | nil => exact pre.1
      | cons m script =>
          have here : assume (H c m s).2 := by
            rcases answer : H c m s with ⟨_ | r, s'⟩
            · simpa only [run, answer] using final
            · simp only [run, answer] at final
              exact assume_of_run shrinking (k r) script s' final
          have step := pre.2 m here
          rcases answer : H c m s with ⟨_ | r, s'⟩
          · simpa only [run, answer] using step
          · simp only [run, answer] at step final ⊢
            exact ih r step script final

theorem wp_mono {p : Prog C R ε α} (pre : wp H assume p Q s)
    (weaker : ∀ o s', Q o s' → Q' o s') : wp H assume p Q' s := by
  induction p generalizing s with
  | ret a => exact weaker _ _ pre
  | raise e => exact weaker _ _ pre
  | spin => exact weaker _ _ pre
  | call c k ih =>
      refine ⟨weaker _ _ pre.1, fun m admitted => ?_⟩
      have step := pre.2 m admitted
      rcases answer : H c m s with ⟨_ | r, s'⟩
      · simp only [answer] at step
        exact weaker _ _ step
      · simp only [answer] at step
        exact ih r step

theorem wp_and {p : Prog C R ε α} (left : wp H assume p Q s) (right : wp H assume p Q' s) :
    wp H assume p (fun o s' => Q o s' ∧ Q' o s') s := by
  induction p generalizing s with
  | ret a => exact ⟨left, right⟩
  | raise e => exact ⟨left, right⟩
  | spin => exact ⟨left, right⟩
  | call c k ih =>
      refine ⟨⟨left.1, right.1⟩, fun m admitted => ?_⟩
      have stepLeft := left.2 m admitted
      have stepRight := right.2 m admitted
      rcases answer : H c m s with ⟨_ | r, s'⟩
      · simp only [answer] at stepLeft stepRight
        exact ⟨stepLeft, stepRight⟩
      · simp only [answer] at stepLeft stepRight
        exact ih r stepLeft stepRight

/-- Sequencing: run the first program, then the second from where it returned. -/
theorem wp_bind {p : Prog C R ε α} {f : α → Prog C R ε β} {P : Outcome ε β → σ → Prop}
    (pre : wp H assume p (fun o s' => match o with
      | .ok a => wp H assume (f a) P s'
      | .error e => P (.error e) s'
      | .pending => P .pending s') s) :
    wp H assume (p.bind f) P s := by
  induction p generalizing s with
  | ret a => exact pre
  | raise e => exact pre
  | spin => exact pre
  | call c k ih =>
      refine ⟨pre.1, fun m admitted => ?_⟩
      have step := pre.2 m admitted
      rcases answer : H c m s with ⟨_ | r, s'⟩
      · simpa only [answer] using step
      · simp only [answer] at step
        exact ih r step

/-- A loop keeps an invariant that its body keeps, and ends where its body returns a result. -/
theorem wp_loop {body : γ → Prog C R ε (γ ⊕ β)} {P : Outcome ε β → σ → Prop} (I : γ → σ → Prop)
    (waiting : ∀ g s', I g s' → P .pending s')
    (step : ∀ g s', I g s' → wp H assume (body g) (fun o s'' => match o with
      | .ok (.inl g') => I g' s''
      | .ok (.inr b) => P (.ok b) s''
      | .error e => P (.error e) s''
      | .pending => P .pending s'') s')
    (n : Nat) (g : γ) (here : I g s) : wp H assume (loop body n g) P s := by
  induction n generalizing g s with
  | zero => exact waiting g s here
  | succ n ih =>
      refine wp_bind (wp_mono (step g s here) fun o s' post => ?_)
      rcases o with (g' | b) | e | _
      · exact ih g' post
      · exact post
      · exact post
      · exact post

end Wp

/-! ## Bounding the calls of a program -/

/-- Every call the program can issue satisfies `P`. -/
def Only (P : C → Prop) : Prog C R ε α → Prop
  | ret _ => True
  | raise _ => True
  | spin => True
  | call c k => P c ∧ ∀ r, (k r).Only P

section Only

variable {P P' : C → Prop}

@[simp] theorem only_ret (a : α) : (ret a : Prog C R ε α).Only P := trivial

@[simp] theorem only_raise (e : ε) : (raise e : Prog C R ε α).Only P := trivial

@[simp] theorem only_perform {c : C} : (perform c : Prog C R ε (R c)).Only P ↔ P c :=
  ⟨fun h => h.1, fun h => ⟨h, fun _ => trivial⟩⟩

theorem only_bind {p : Prog C R ε α} {f : α → Prog C R ε β} (first : p.Only P)
    (second : ∀ a, (f a).Only P) : (p.bind f).Only P := by
  induction p with
  | ret a => exact second a
  | raise e => trivial
  | spin => trivial
  | call c k ih => exact ⟨first.1, fun r => ih r (first.2 r)⟩

theorem only_loop {body : γ → Prog C R ε (γ ⊕ β)} (each : ∀ g, (body g).Only P) (n : Nat) (g : γ) :
    (loop body n g).Only P := by
  induction n generalizing g with
  | zero => trivial
  | succ n ih =>
      refine only_bind (each g) fun result => ?_
      rcases result with g' | b
      · exact ih g'
      · trivial

theorem only_foldlM {f : β → γ → Prog C R ε β} (each : ∀ b x, (f b x).Only P) (items : List γ)
    (b : β) : (items.foldlM f b).Only P := by
  induction items generalizing b with
  | nil => trivial
  | cons x items ih => exact only_bind (each b x) ih

theorem only_mono {p : Prog C R ε α} (h : p.Only P) (weaker : ∀ c, P c → P' c) : p.Only P' := by
  induction p with
  | ret a => trivial
  | raise e => trivial
  | spin => trivial
  | call c k ih => exact ⟨weaker c h.1, fun r => ih r (h.2 r)⟩

/-- **Frame rule.**  An invariant that the admitted calls keep holds wherever the program gets. -/
theorem wp_of_only {H : Handler C R M σ} {assume : σ → Prop} {I : σ → Prop} {p : Prog C R ε α}
    {s : σ} (calls : p.Only P)
    (keeps : ∀ c m s', P c → I s' → assume (H c m s').2 → I (H c m s').2) (here : I s) :
    wp H assume p (fun _ s' => I s') s := by
  induction p generalizing s with
  | ret a => exact here
  | raise e => exact here
  | spin => exact here
  | call c k ih =>
      refine ⟨here, fun m admitted => ?_⟩
      have kept := keeps c m s calls.1 here admitted
      rcases answer : H c m s with ⟨_ | r, s'⟩
      · simpa only [answer] using kept
      · rw [answer] at kept
        exact ih r (calls.2 r) kept

theorem only_true (p : Prog C R ε α) : p.Only fun _ => True := by
  induction p with
  | ret a => trivial
  | raise e => trivial
  | spin => trivial
  | call c k ih => exact ⟨trivial, ih⟩

/-- An invariant that every call keeps holds wherever a program gets. -/
theorem wp_invariant {H : Handler C R M σ} {assume : σ → Prop} {I : σ → Prop} {s : σ}
    (keeps : ∀ c m s', I s' → I (H c m s').2) (p : Prog C R ε α) (here : I s) :
    wp H assume p (fun _ s' => I s') s :=
  wp_of_only (only_true p) (fun c m s' _ held _ => keeps c m s' held) here

end Only

/-! ## Fixed answers -/

/-- The outcome of a program each of whose calls has a fixed answer. -/
def under (answer : (c : C) → R c) : Prog C R ε α → Outcome ε α
  | ret a => .ok a
  | raise e => .error e
  | spin => .pending
  | call c k => (k (answer c)).under answer

/-- A sequence that returns has returned from its first program. -/
theorem under_bind_ok {answer : (c : C) → R c} {p : Prog C R ε α} {f : α → Prog C R ε β} {b : β} :
    (p.bind f).under answer = .ok b ↔
      ∃ a, p.under answer = .ok a ∧ (f a).under answer = .ok b := by
  induction p with
  | ret a => simp [bind, under]
  | raise e => simp [bind, under]
  | spin => simp [bind, under]
  | call c k ih => exact ih (answer c)

end Prog

end UnifiedInfraTopology.Lib
