import UnifiedInfraTopology.Lib.Program

/-!
# Total correctness

`wp` says where an execution can be; it says nothing about whether the program returns.  `total` is
the reading for an environment that answers: whatever admitted move answers a call, the program goes
on, and it returns in the end with the postcondition.  It neither leaves early nor runs out of
iterations.

`total_run` connects it to executions: an endless supply of admitted moves makes the program return
after finitely many of them.
-/

namespace UnifiedInfraTopology.Lib

namespace Prog

variable {C : Type} {R : C → Type} {ε α β γ M σ : Type}

/-- What must hold of the state for the program to return with `Q`, whatever admitted moves answer
its calls. -/
def total (H : Handler C R M σ) (admitted : M → Prop) :
    Prog C R ε α → (α → σ → Prop) → σ → Prop
  | ret a, Q, s => Q a s
  | raise _, _, _ => False
  | spin, _, _ => False
  | call c k, Q, s => ∀ m, admitted m →
      ∃ r, (H c m s).1 = some r ∧ total H admitted (k r) Q (H c m s).2

variable {H : Handler C R M σ} {admitted : M → Prop} {Q Q' : α → σ → Prop} {s : σ}

@[simp] theorem total_ret (a : α) : total H admitted (ret a : Prog C R ε α) Q s = Q a s := rfl

@[simp] theorem total_raise (e : ε) :
    total H admitted (raise e : Prog C R ε α) Q s = False := rfl

theorem total_mono {p : Prog C R ε α} (pre : total H admitted p Q s)
    (weaker : ∀ a s', Q a s' → Q' a s') : total H admitted p Q' s := by
  induction p generalizing s with
  | ret a => exact weaker a s pre
  | raise e => exact pre
  | spin => exact pre
  | call c k ih =>
      intro m allowed
      obtain ⟨r, answered, next⟩ := pre m allowed
      exact ⟨r, answered, ih r next⟩

/-- Sequencing: run the first program, then the second from where it returned. -/
theorem total_bind {p : Prog C R ε α} {f : α → Prog C R ε β} {P : β → σ → Prop}
    (pre : total H admitted p (fun a s' => total H admitted (f a) P s') s) :
    total H admitted (p.bind f) P s := by
  induction p generalizing s with
  | ret a => exact pre
  | raise e => exact pre
  | spin => exact pre
  | call c k ih =>
      intro m allowed
      obtain ⟨r, answered, next⟩ := pre m allowed
      exact ⟨r, answered, ih r next⟩

/-- A loop returns when every iteration keeps the invariant and lowers the measure or returns, and
there are more iterations than the measure. -/
theorem total_loop {body : γ → Prog C R ε (γ ⊕ β)} {P : β → σ → Prop} (I : γ → σ → Prop)
    (measure : γ → σ → Nat)
    (step : ∀ g s', I g s' → total H admitted (body g) (fun result s'' => match result with
      | .inl g' => I g' s'' ∧ measure g' s'' < measure g s'
      | .inr b => P b s'') s')
    (n : Nat) (g : γ) (enough : measure g s < n) (here : I g s) :
    total H admitted (loop body n g) P s := by
  induction n generalizing g s with
  | zero => exact absurd enough (Nat.not_lt_zero _)
  | succ n ih =>
      refine total_bind (total_mono (step g s here) fun result s' post => ?_)
      rcases result with g' | b
      · obtain ⟨kept, lower⟩ := post
        exact ih g' (Nat.lt_of_lt_of_le lower (Nat.lt_succ_iff.mp enough)) kept
      · exact post

/-- Run a program for every item of a list. -/
def each (body : γ → Prog C R ε Unit) : List γ → Prog C R ε Unit
  | [] => ret ()
  | x :: xs => (body x).bind fun _ => each body xs

/-- The rule for `each`: what the items so far have established. -/
theorem total_each {body : γ → Prog C R ε Unit} (I : List γ → σ → Prop) (xs : List γ)
    (step : ∀ before x after s', xs = before ++ x :: after → I before s' →
      total H admitted (body x) (fun _ s'' => I (before ++ [x]) s'') s')
    (here : I [] s) : total H admitted (each body xs) (fun _ s' => I xs s') s := by
  suffices rest : ∀ before after s', xs = before ++ after → I before s' →
      total H admitted (each body after) (fun _ s'' => I xs s'') s' from rest [] xs s rfl here
  intro before after
  induction after generalizing before with
  | nil =>
      intro s' whole held
      rw [List.append_nil] at whole
      exact whole ▸ held
  | cons x after ih =>
      intro s' whole held
      refine total_bind (total_mono (step before x after s' whole held) fun _ s'' kept => ?_)
      exact ih (before ++ [x]) s'' (by rw [whole, List.append_assoc]; rfl) kept

/-- An execution with an endless supply of admitted moves returns. -/
theorem total_run {p : Prog C R ε α} (pre : total H admitted p Q s) {moves : Nat → M}
    (allowed : ∀ i, admitted (moves i)) :
    ∃ n a s', p.run H ((List.range n).map moves) s = (.ok a, s', []) ∧ Q a s' := by
  induction p generalizing s moves with
  | ret a => exact ⟨0, a, s, rfl, pre⟩
  | raise e => exact pre.elim
  | spin => exact pre.elim
  | call c k ih =>
      obtain ⟨r, answered, next⟩ := pre (moves 0) (allowed 0)
      obtain ⟨n, a, s', ran, post⟩ := @ih r (H c (moves 0) s).2 next (fun i => moves (i + 1))
        fun i => allowed (i + 1)
      refine ⟨n + 1, a, s', ?_, post⟩
      have script : (List.range (n + 1)).map moves =
          moves 0 :: (List.range n).map fun i => moves (i + 1) := by
        rw [List.range_succ_eq_map, List.map_cons, List.map_map]
        rfl
      rcases answer : H c (moves 0) s with ⟨_ | r', s''⟩
      · rw [answer] at answered
        cases answered
      · rw [answer] at answered ran
        cases answered
        rw [script, run, answer]
        exact ran

end Prog

end UnifiedInfraTopology.Lib
