import UnifiedInfraTopology.Lib.Program
import Mathlib.Logic.Function.Basic

/-!
# Interleaved programs

A family of programs runs against one shared state.  A schedule is a list of steps: a step names a
thread, whose next call is then answered by a move.  Calls are atomic.  A thread that no step names
any more has stopped where it is, so the schedules also describe every crash.

* `interleave_invariant` is the proof rule: an invariant `G` of the state, and for each thread an
  assertion `T i` about what it still has to run, such that its own calls establish the next
  assertion and the calls of the other threads keep it.
* `interleave_steps` is the rule for what every step keeps.
* `along_invariant` is the rule for runs whose steps all meet a condition: what the condition and an
  invariant give for one step holds of every step.
* `Within n` bounds the calls a program can still issue; `finished_of_scheduled` says that a thread
  scheduled often enough has finished.
-/

namespace UnifiedInfraTopology.Lib

namespace Prog

variable {C : Type} {R : C → Type} {ε α M σ ι : Type}

/-- One step of a program: its next call is answered.  A call left unanswered blocks it. -/
def stepOnce (H : Handler C R M σ) (p : Prog C R ε α) (m : M) (s : σ) : Prog C R ε α × σ :=
  match p with
  | call c k =>
      match H c m s with
      | (some r, s') => (k r, s')
      | (none, s') => (spin, s')
  | p => (p, s)

theorem snd_stepOnce_call (H : Handler C R M σ) (c : C) (k : R c → Prog C R ε α) (m : M) (s : σ) :
    (stepOnce H (call c k) m s).2 = (H c m s).2 := by
  rcases answer : H c m s with ⟨_ | r, s'⟩ <;> simp only [stepOnce, answer]

/-- A step that ends a program was answered. -/
theorem answered_of_stepOnce {H : Handler C R M σ} {c : C} {k : R c → Prog C R ε α} {m : M} {s : σ}
    {p : Prog C R ε α} (step : (stepOnce H (call c k) m s).1 = p) (alive : p ≠ spin) :
    ∃ r, H c m s = (some r, (H c m s).2) ∧ k r = p := by
  rcases answer : H c m s with ⟨_ | r, s'⟩
  · simp only [stepOnce, answer] at step
    exact (alive step.symm).elim
  · simp only [stepOnce, answer] at step
    exact ⟨r, rfl, step⟩

variable [DecidableEq ι]

/-- The programs left to run and the state after a schedule. -/
def interleave (H : Handler C R M σ) :
    List (ι × M) → (ι → Prog C R ε α) → σ → (ι → Prog C R ε α) × σ
  | [], ps, s => (ps, s)
  | (i, m) :: schedule, ps, s =>
      interleave H schedule (Function.update ps i (stepOnce H (ps i) m s).1)
        (stepOnce H (ps i) m s).2

variable {H : Handler C R M σ}

theorem interleave_append (first second : List (ι × M)) (ps : ι → Prog C R ε α) (s : σ) :
    interleave H (first ++ second) ps s =
      interleave H second (interleave H first ps s).1 (interleave H first ps s).2 := by
  induction first generalizing ps s with
  | nil => rfl
  | cons step first ih => exact ih _ _

/-- What every step keeps holds after every schedule. -/
theorem interleave_steps {I : (ι → Prog C R ε α) → σ → Prop}
    (step : ∀ ps s i m, I ps s →
      I (Function.update ps i (stepOnce H (ps i) m s).1) (stepOnce H (ps i) m s).2)
    (schedule : List (ι × M)) {ps : ι → Prog C R ε α} {s : σ} (start : I ps s) :
    I (interleave H schedule ps s).1 (interleave H schedule ps s).2 := by
  induction schedule generalizing ps s with
  | nil => exact start
  | cons here schedule ih =>
      obtain ⟨i, m⟩ := here
      exact ih (step ps s i m start)

/-! ## Assertions of threads -/

section Invariant

variable {G : σ → Prop} {T : ι → Prog C R ε α → σ → Prop}

/-- The own calls of a thread keep the invariant and establish its next assertion. -/
def Establishes (H : Handler C R M σ) (G : σ → Prop) (T : ι → Prog C R ε α → σ → Prop) : Prop :=
  ∀ i c k m s, G s → T i (call c k) s →
    G (H c m s).2 ∧ ((H c m s).1 = none → T i spin (H c m s).2) ∧
      ∀ r, (H c m s).1 = some r → T i (k r) (H c m s).2

/-- The calls of a thread keep the assertions of the other threads. -/
def Tolerates (H : Handler C R M σ) (G : σ → Prop) (T : ι → Prog C R ε α → σ → Prop) : Prop :=
  ∀ i j, i ≠ j → ∀ c k m s, G s → T i (call c k) s → ∀ p, T j p s → T j p (H c m s).2

/-- One step keeps the invariant and the assertions. -/
theorem assertions_step (own : Establishes H G T) (others : Tolerates H G T) (i : ι) (m : M)
    {ps : ι → Prog C R ε α} {s : σ} (start : G s) (threads : ∀ i, T i (ps i) s) :
    G (stepOnce H (ps i) m s).2 ∧
      ∀ j, T j (Function.update ps i (stepOnce H (ps i) m s).1 j) (stepOnce H (ps i) m s).2 := by
  have here := threads i
  cases shape : ps i with
  | call c k =>
      rw [shape] at here
      obtain ⟨kept, blocked, next⟩ := own i c k m s start here
      have elsewhere := fun j (apart : i ≠ j) => others i j apart c k m s start here _ (threads j)
      rcases answer : H c m s with ⟨_ | r, s'⟩
      · simp only [stepOnce, answer] at kept blocked elsewhere ⊢
        refine ⟨kept, fun j => ?_⟩
        rcases eq_or_ne j i with rfl | apart
        · simpa only [Function.update_self] using blocked trivial
        · simpa only [Function.update_of_ne apart] using elsewhere j apart.symm
      · simp only [stepOnce, answer] at kept next elsewhere ⊢
        refine ⟨kept, fun j => ?_⟩
        rcases eq_or_ne j i with rfl | apart
        · simpa only [Function.update_self] using next r rfl
        · simpa only [Function.update_of_ne apart] using elsewhere j apart.symm
  | _ =>
      simp only [stepOnce]
      rw [← shape, Function.update_eq_self]
      exact ⟨start, threads⟩

theorem interleave_invariant (own : Establishes H G T) (others : Tolerates H G T)
    (schedule : List (ι × M)) {ps : ι → Prog C R ε α} {s : σ} (start : G s)
    (threads : ∀ i, T i (ps i) s) :
    G (interleave H schedule ps s).2 ∧
      ∀ i, T i ((interleave H schedule ps s).1 i) (interleave H schedule ps s).2 :=
  interleave_steps (I := fun ps s => G s ∧ ∀ i, T i (ps i) s)
    (fun _ _ i m held => assertions_step own others i m held.1 held.2) schedule ⟨start, threads⟩

end Invariant

/-! ## Conditions on steps -/

/-- Every step of a schedule satisfies `P`, a predicate of the programs and the state before it. -/
def Along (H : Handler C R M σ) (P : (ι → Prog C R ε α) → σ → ι × M → Prop) :
    List (ι × M) → (ι → Prog C R ε α) → σ → Prop
  | [], _, _ => True
  | step :: schedule, ps, s =>
      P ps s step ∧ Along H P schedule
        (Function.update ps step.1 (stepOnce H (ps step.1) step.2 s).1)
        (stepOnce H (ps step.1) step.2 s).2

instance decidableAlong {P : (ι → Prog C R ε α) → σ → ι × M → Prop}
    [∀ ps s step, Decidable (P ps s step)] (schedule : List (ι × M)) (ps : ι → Prog C R ε α)
    (s : σ) : Decidable (Along H P schedule ps s) :=
  match schedule with
  | [] => isTrue trivial
  | _ :: schedule => @instDecidableAnd _ _ _ (decidableAlong schedule _ _)

theorem along_invariant {I : (ι → Prog C R ε α) → σ → Prop}
    {Q P : (ι → Prog C R ε α) → σ → ι × M → Prop}
    (step : ∀ ps s i m, I ps s → Q ps s (i, m) → P ps s (i, m) ∧
      I (Function.update ps i (stepOnce H (ps i) m s).1) (stepOnce H (ps i) m s).2)
    (schedule : List (ι × M)) {ps : ι → Prog C R ε α} {s : σ} (start : I ps s)
    (condition : Along H Q schedule ps s) : Along H P schedule ps s := by
  induction schedule generalizing ps s with
  | nil => trivial
  | cons here schedule ih =>
      obtain ⟨i, m⟩ := here
      obtain ⟨now, later⟩ := condition
      obtain ⟨held, kept⟩ := step ps s i m start now
      exact ⟨held, ih kept later⟩

/-- The call a program issues next. -/
def next? : Prog C R ε α → Option C
  | call c _ => some c
  | _ => none

@[simp] theorem next?_call (c : C) (k : R c → Prog C R ε α) : (call c k).next? = some c := rfl

omit [DecidableEq ι] in
theorem Only.stepOnce {P : C → Prop} {p : Prog C R ε α} (calls : p.Only P) (m : M) (s : σ) :
    (Prog.stepOnce H p m s).1.Only P := by
  cases p with
  | call c k =>
      rcases answer : H c m s with ⟨_ | r, s'⟩
      · simp only [Prog.stepOnce, answer, Only]
      · simp only [Prog.stepOnce, answer]
        exact calls.2 r
  | _ => exact calls

/-! ## Threads finish -/

/-- Every execution of the program ends after at most `n` answers. -/
def Within : Nat → Prog C R ε α → Prop
  | _, ret _ => True
  | _, raise _ => True
  | _, spin => True
  | 0, call _ _ => False
  | n + 1, call _ k => ∀ r, (k r).Within n

/-- The program has come to its end. -/
def Finished : Prog C R ε α → Prop
  | call _ _ => False
  | _ => True

omit [DecidableEq ι] in
theorem Within.stepOnce {n : Nat} {p : Prog C R ε α} (bound : p.Within n) (m : M) (s : σ) :
    (Prog.stepOnce H p m s).1.Within (n - 1) := by
  cases p with
  | call c k =>
      cases n with
      | zero => cases bound
      | succ n =>
          rcases answer : H c m s with ⟨_ | r, s'⟩
          · simp only [Prog.stepOnce, answer, Within]
          · simp only [Prog.stepOnce, answer, Nat.add_sub_cancel]
            exact bound r
  | _ => simp only [Prog.stepOnce, Within]

omit [DecidableEq ι] in
theorem stepOnce_finished {p : Prog C R ε α} (finished : p.Finished) (m : M) (s : σ) :
    stepOnce H p m s = (p, s) := by
  cases p with
  | call c k => exact finished.elim
  | _ => rfl

/-- A program that has come to its end stays there. -/
theorem interleave_finished {i : ι} (schedule : List (ι × M)) {ps : ι → Prog C R ε α} {s : σ}
    (finished : (ps i).Finished) : (interleave H schedule ps s).1 i = ps i := by
  refine interleave_steps (I := fun ps' _ => ps' i = ps i) ?_ schedule rfl
  intro ps' s' j m same
  rcases eq_or_ne i j with rfl | apart
  · rw [Function.update_self, same, stepOnce_finished finished]
  · rw [Function.update_of_ne apart, same]

theorem within_interleave {n : Nat} {i : ι} (schedule : List (ι × M)) {ps : ι → Prog C R ε α}
    {s : σ} (bound : (ps i).Within n) :
    ((interleave H schedule ps s).1 i).Within
      (n - (schedule.filter fun step => decide (step.1 = i)).length) := by
  induction schedule generalizing ps s n with
  | nil => exact bound
  | cons step schedule ih =>
      obtain ⟨j, m⟩ := step
      rw [interleave]
      rcases eq_or_ne j i with rfl | apart
      · have own : (Function.update ps j (stepOnce H (ps j) m s).1 j).Within (n - 1) := by
          rw [Function.update_self]
          exact bound.stepOnce m s
        have next := ih (s := (stepOnce H (ps j) m s).2) own
        simp only [decide_true, List.filter_cons_of_pos, List.length_cons]
        rwa [Nat.sub_sub, Nat.add_comm] at next
      · rw [List.filter_cons_of_neg (by simpa using apart)]
        exact ih (by rwa [Function.update_of_ne apart.symm])

/-- A thread that has been scheduled as often as it can issue calls has finished. -/
theorem finished_of_scheduled {n : Nat} {i : ι} {schedule : List (ι × M)}
    {ps : ι → Prog C R ε α} {s : σ} (bound : (ps i).Within n)
    (scheduled : n ≤ (schedule.filter fun step => decide (step.1 = i)).length) :
    ((interleave H schedule ps s).1 i).Finished := by
  have last := within_interleave (H := H) schedule (s := s) bound
  rw [Nat.sub_eq_zero_of_le scheduled] at last
  cases shape : (interleave H schedule ps s).1 i with
  | call c k =>
      rw [shape] at last
      exact last.elim
  | _ => trivial

end Prog

end UnifiedInfraTopology.Lib
