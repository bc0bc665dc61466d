import UnifiedInfraTopology.Lib.Contract

/-!
# Environments that project to others

A handler may know more than another: its state has an image, and it answers every call as the other
does of the image, for some move.  Then its executions are executions of the other
(`Projects.run`), and what programs issue and keep under the other they issue and keep under it.

`Simulates` is weaker: the other environment answers alike as long as an invariant holds, and for the
calls that are allowed in the image.  `Simulates.run` then takes a program whose calls the other
environment allows.

`Keeps` is the reading of a program for an invariant that holds wherever the program returns or
leaves, and that some calls may break in between.
-/

namespace UnifiedInfraTopology.Lib

namespace Prog

variable {C : Type} {R : C → Type} {ε ε' α β γ M N σ τ : Type}

/-- `H` answers as `K` answers of the image of its state. -/
def Projects (H : Handler C R M σ) (K : Handler C R N τ) (image : σ → τ) : Prop :=
  ∀ c m s, ∃ n, (H c m s).1 = (K c n (image s)).1 ∧ image (H c m s).2 = (K c n (image s)).2

section Projects

variable {H : Handler C R M σ} {K : Handler C R N τ} {image : σ → τ} {s : σ}

/-- An execution is one of the other environment, which uses up its script. -/
theorem Projects.run (projects : Projects H K image) (p : Prog C R ε α) (script : List M) (s : σ) :
    ∃ moves, p.run K moves (image s) =
      ((p.run H script s).1, image (p.run H script s).2.1, []) := by
  induction p generalizing script s with
  | ret a => exact ⟨[], rfl⟩
  | raise e => exact ⟨[], rfl⟩
  | spin => exact ⟨[], rfl⟩
  | call c k ih =>
      cases script with
      | nil => exact ⟨[], rfl⟩
      | cons m script =>
          obtain ⟨n, answered, state⟩ := projects c m s
          rcases here : H c m s with ⟨_ | r, s'⟩
          · rw [here] at answered state
            refine ⟨[n], ?_⟩
            rcases there : K c n (image s) with ⟨answer, t⟩
            rw [there] at answered state
            cases answered
            cases state
            simp only [Prog.run, here, there]
          · rw [here] at answered state
            obtain ⟨moves, ran⟩ := ih r script s'
            refine ⟨n :: moves, ?_⟩
            rcases there : K c n (image s) with ⟨answer, t⟩
            rw [there] at answered state
            cases answered
            cases state
            simp only [Prog.run, here, there]
            exact ran

theorem Projects.issues (projects : Projects H K image) {J : C → τ → Prop} {p : Prog C R ε α}
    (issues : p.Issues K J (image s)) : p.Issues H (fun c s => J c (image s)) s := by
  induction p generalizing s with
  | ret a => trivial
  | raise e => trivial
  | spin => trivial
  | call c k ih =>
      refine ⟨issues.1, fun m r answered => ih r ?_⟩
      obtain ⟨n, same, state⟩ := projects c m s
      rw [state]
      exact issues.2 n r (same ▸ answered)

theorem Projects.ensures (projects : Projects H K image) {Q : α → τ → Prop} {p : Prog C R ε α}
    (ensures : Ensures K p Q (image s)) : Ensures H p (fun a s' => Q a (image s')) s := by
  induction p generalizing s with
  | ret a => exact ensures
  | raise e => trivial
  | spin => trivial
  | call c k ih =>
      refine contract_call fun m r _ answered => ih r ?_
      obtain ⟨n, same, state⟩ := projects c m s
      rw [state]
      have next := ensures.2 n trivial
      rcases here : K c n (image s) with ⟨answer, t⟩
      rw [here] at same next
      cases same.symm.trans answered
      exact next

end Projects

/-! ## Simulation -/

/-- While `I` holds, `H` answers a call that `J` allows in the image as `K` answers it there, and keeps
`I`. -/
def Simulates (H : Handler C R M σ) (K : Handler C R N τ) (image : σ → τ) (I : σ → Prop)
    (J : C → τ → Prop) : Prop :=
  ∀ c m s, I s → J c (image s) → ∃ n, (H c m s).1 = (K c n (image s)).1 ∧
    image (H c m s).2 = (K c n (image s)).2 ∧ I (H c m s).2

/-- An execution of a program whose calls are allowed is one of the other environment, and keeps the
invariant. -/
theorem Simulates.run {H : Handler C R M σ} {K : Handler C R N τ} {image : σ → τ} {I : σ → Prop}
    {J : C → τ → Prop} (simulates : Simulates H K image I J) {p : Prog C R ε α} {s : σ}
    (issues : p.Issues K J (image s)) (here : I s) (script : List M) :
    (∃ moves, p.run K moves (image s) =
      ((p.run H script s).1, image (p.run H script s).2.1, [])) ∧ I (p.run H script s).2.1 := by
  induction p generalizing script s with
  | ret a => exact ⟨⟨[], rfl⟩, here⟩
  | raise e => exact ⟨⟨[], rfl⟩, here⟩
  | spin => exact ⟨⟨[], rfl⟩, here⟩
  | call c k ih =>
      cases script with
      | nil => exact ⟨⟨[], rfl⟩, here⟩
      | cons m script =>
          obtain ⟨n, answered, state, kept⟩ := simulates c m s here issues.1
          have next := issues.2 n
          rcases ours : H c m s with ⟨_ | r, s'⟩
          · rw [ours] at answered state kept
            rcases theirs : K c n (image s) with ⟨answer, t⟩
            rw [theirs] at answered state
            cases answered
            cases state
            refine ⟨⟨[n], ?_⟩, ?_⟩
            · simp only [Prog.run, ours, theirs]
            · simpa only [Prog.run, ours] using kept
          · rw [ours] at answered state kept
            rcases theirs : K c n (image s) with ⟨answer, t⟩
            rw [theirs] at answered state next
            cases answered
            cases state
            obtain ⟨⟨moves, ran⟩, final⟩ := ih r (next r rfl) kept script
            refine ⟨⟨n :: moves, ?_⟩, ?_⟩
            · simp only [Prog.run, ours, theirs]
              exact ran
            · simpa only [Prog.run, ours] using final

/-! ## Moves of a kind -/

section Restrict

variable {H : Handler C R M σ} {P : M → Prop}

variable (H P) in
/-- The environment in which every move satisfies `P`. -/
def restrict : Handler C R {m // P m} σ := fun c m => H c m

theorem run_restrict (p : Prog C R ε α) (script : List {m // P m}) (s : σ) :
    p.run H (script.map Subtype.val) s = ((p.run (restrict H P) script s).1,
      (p.run (restrict H P) script s).2.1, (p.run (restrict H P) script s).2.2.map Subtype.val) := by
  induction p generalizing script s with
  | ret a => rfl
  | raise e => rfl
  | spin => rfl
  | call c k ih =>
      cases script with
      | nil => rfl
      | cons m script =>
          simp only [List.map_cons, Prog.run, restrict]
          rcases H c m.1 s with ⟨_ | r, s'⟩
          · rfl
          · exact ih r script s'

end Restrict

/-! ## Invariants that hold between calls -/

theorem ensures_and {H : Handler C R M σ} {Q Q' : α → σ → Prop} {p : Prog C R ε α} {s : σ}
    (first : Ensures H p Q s) (second : Ensures H p Q' s) :
    Ensures H p (fun a s' => Q a s' ∧ Q' a s') s := by
  induction p generalizing s with
  | ret a => exact ⟨first, second⟩
  | raise e => trivial
  | spin => trivial
  | call c k ih =>
      refine contract_call fun m r _ answered => ih r ?_ ?_
      · have next := first.2 m trivial
        rcases here : H c m s with ⟨answer, t⟩
        rw [here] at next answered
        cases answered
        exact next
      · have next := second.2 m trivial
        rcases here : H c m s with ⟨answer, t⟩
        rw [here] at next answered
        cases answered
        exact next

theorem issues_and {H : Handler C R M σ} {J J' : C → σ → Prop} {p : Prog C R ε α} {s : σ}
    (first : p.Issues H J s) (second : p.Issues H J' s) :
    p.Issues H (fun c s' => J c s' ∧ J' c s') s := by
  induction p generalizing s with
  | ret a => trivial
  | raise e => trivial
  | spin => trivial
  | call c k ih =>
      exact ⟨⟨first.1, second.1⟩, fun m r answered => ih r (first.2 m r answered) (second.2 m r answered)⟩

/-- Every call finds a state in which `J` allows it, and the program returns and leaves in states that
satisfy `I`. -/
structure Keeps (H : Handler C R M σ) (J : C → σ → Prop) (I : σ → Prop) (p : Prog C R ε α) (s : σ) :
    Prop where
  issues : p.Issues H J s
  ends : Contract H (fun _ => True) (fun _ s' => I s') p (fun _ s' => I s') s

section Keeps

variable {H : Handler C R M σ} {J : C → σ → Prop} {I : σ → Prop} {s : σ}

theorem keeps_ret {a : α} (here : I s) : Keeps H J I (ret a : Prog C R ε α) s := ⟨trivial, here⟩

theorem keeps_raise {e : ε} (here : I s) : Keeps H J I (raise e : Prog C R ε α) s :=
  ⟨trivial, here⟩

/-- The second program may follow any state that the first keeps. -/
theorem keeps_bind {p : Prog C R ε α} {f : α → Prog C R ε β} (first : Keeps H J I p s)
    (second : ∀ a s', I s' → Keeps H J I (f a) s') : Keeps H J I (p.bind f) s where
  issues := by
    refine issues_bind first.issues (wp_mono first.ends fun o s' held => ?_)
    cases o with
    | ok a => exact (second a s' held).issues
    | error e => trivial
    | pending => trivial
  ends := contract_bind (contract_mono first.ends fun a s' held => (second a s' held).ends)

theorem keeps_loop {body : γ → Prog C R ε (γ ⊕ β)} (each : ∀ g s', I s' → Keeps H J I (body g) s')
    (n : Nat) (g : γ) (here : I s) : Keeps H J I (loop body n g) s := by
  induction n generalizing g s with
  | zero => exact ⟨trivial, trivial⟩
  | succ n ih =>
      refine keeps_bind (each g s here) fun result s' held => ?_
      cases result with
      | inl g' => exact ih g' held
      | inr b => exact keeps_ret held

/-- Calls that the invariant allows, and that keep it. -/
theorem keeps_of_only {P : C → Prop} {p : Prog C R ε α} (calls : p.Only P)
    (allowed : ∀ c s', P c → I s' → J c s') (keeps : ∀ c m s', P c → I s' → I (H c m s').2)
    (here : I s) : Keeps H J I p s where
  issues := (behaves_of_only (I := I) calls allowed keeps here).issues
  ends := by
    refine wp_mono (wp_of_only calls (fun c m s' ok held _ => keeps c m s' ok held) here)
      fun o s' held => ?_
    cases o with
    | ok a => exact held
    | error e => exact held
    | pending => trivial

end Keeps

end Prog

end UnifiedInfraTopology.Lib
