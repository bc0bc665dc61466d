import UnifiedInfraTopology.Lib.Program

/-!
# Contracts of programs

Readings of a program beside `wp`, and a way to call one program from another.

* `reify` runs a program and hands its early exit to the caller as a value.
* `Settles` says that a program never leaves early.
* `Contract` is a postcondition of returning and one of leaving; unfinished executions are not
  constrained.  `Ensures` constrains returning only.
* `iterate` is a loop that goes on, iteration by iteration.
* `Issues` is a precondition of calling: every call the program issues finds the state in which the
  call may be issued.  `issues_run` turns it into an invariant of executions.
-/

namespace UnifiedInfraTopology.Lib

namespace Prog

variable {C : Type} {R : C → Type} {ε ε' α β γ M σ : Type}

/-- Run a program; its early exit is a result. -/
def reify : Prog C R ε α → Prog C R ε' (Except ε α)
  | ret a => ret (.ok a)
  | raise e => ret (.error e)
  | spin => spin
  | call c k => call c fun r => (k r).reify

/-- Leave with the value of a program. -/
def exitWith (p : Prog C R ε ε) : Prog C R ε α := p.bind raise

section Wp

variable {H : Handler C R M σ} {assume : σ → Prop} {s : σ}

theorem wp_reify {p : Prog C R ε α} {P : Outcome ε' (Except ε α) → σ → Prop}
    (pre : wp H assume p (fun o s' => match o with
      | .ok a => P (.ok (.ok a)) s'
      | .error e => P (.ok (.error e)) s'
      | .pending => P .pending s') s) :
    wp H assume (reify p) P s := by
  induction p generalizing s with
  | ret a => exact pre
  | raise e => exact pre
  | spin => exact pre
  | call c k ih =>
      refine ⟨pre.1, fun m admitted => ?_⟩
      have step := pre.2 m admitted
      rcases answer : H c m s with ⟨_ | r, s'⟩
      · simpa only [answer] using step
      · simp only [answer] at step
        exact ih r step

end Wp

theorem only_reify {P : C → Prop} {p : Prog C R ε α} (calls : p.Only P) :
    (reify p : Prog C R ε' (Except ε α)).Only P := by
  induction p with
  | ret a => trivial
  | raise e => trivial
  | spin => trivial
  | call c k ih => exact ⟨calls.1, fun r => ih r (calls.2 r)⟩

/-! ## Programs that leave only by returning -/

/-- No execution of the program leaves early. -/
def Settles : Prog C R ε α → Prop
  | raise _ => False
  | call _ k => ∀ r, (k r).Settles
  | _ => True

theorem settles_bind {p : Prog C R ε α} {f : α → Prog C R ε β} (first : p.Settles)
    (second : ∀ a, (f a).Settles) : (p.bind f).Settles := by
  induction p with
  | ret a => exact second a
  | raise e => exact first.elim
  | spin => trivial
  | call c k ih => exact fun r => ih r (first r)

theorem settles_loop {body : γ → Prog C R ε (γ ⊕ β)} (each : ∀ g, (body g).Settles) (n : Nat)
    (g : γ) : (loop body n g).Settles := by
  induction n generalizing g with
  | zero => trivial
  | succ n ih =>
      refine settles_bind (each g) fun result => ?_
      rcases result with g' | b
      · exact ih g'
      · trivial

/-- The frame rule of a program that leaves only by returning. -/
theorem wp_of_settles {H : Handler C R M σ} {assume : σ → Prop} {P : C → Prop} {I : σ → Prop}
    {p : Prog C R ε α} {s : σ} (settles : p.Settles) (calls : p.Only P)
    (keeps : ∀ c m s', P c → I s' → assume (H c m s').2 → I (H c m s').2) (here : I s) :
    wp H assume p (fun o s' => (∀ e, o ≠ .error e) ∧ I s') s := by
  induction p generalizing s with
  | ret a => exact ⟨nofun, here⟩
  | raise e => exact settles.elim
  | spin => exact ⟨nofun, here⟩
  | call c k ih =>
      refine ⟨⟨nofun, here⟩, fun m admitted => ?_⟩
      have kept := keeps c m s calls.1 here admitted
      rcases answer : H c m s with ⟨_ | r, s'⟩
      · exact ⟨nofun, by simpa only [answer] using kept⟩
      · rw [answer] at kept
        exact ih r (settles r) (calls.2 r) kept

/-! ## What holds when a program returns or leaves -/

/-- The program returns in states that satisfy `Q`, and leaves in states that satisfy `exit`. -/
def Contract (H : Handler C R M σ) (assume : σ → Prop) (exit : ε → σ → Prop) (p : Prog C R ε α)
    (Q : α → σ → Prop) (s : σ) : Prop :=
  wp H assume p (fun o s' => match o with
    | .ok a => Q a s'
    | .error e => exit e s'
    | .pending => True) s

section Contract

variable {H : Handler C R M σ} {assume : σ → Prop} {exit : ε → σ → Prop} {exit' : ε' → σ → Prop}
  {s : σ} {Q Q' : α → σ → Prop}

theorem contract_ret {a : α} (here : Q a s) :
    Contract H assume exit (ret a : Prog C R ε α) Q s := here

theorem contract_raise {e : ε} (here : exit e s) :
    Contract H assume exit (raise e : Prog C R ε α) Q s := here

theorem contract_call {c : C} {k : R c → Prog C R ε α}
    (next : ∀ m r, assume (H c m s).2 → (H c m s).1 = some r →
      Contract H assume exit (k r) Q (H c m s).2) :
    Contract H assume exit (call c k) Q s :=
  wp_call trivial (fun _ _ => trivial) next

/-- One call, and a program that takes its answer. -/
theorem contract_perform {c : C} {k : R c → Prog C R ε α}
    (next : ∀ m r, assume (H c m s).2 → (H c m s).1 = some r →
      Contract H assume exit (k r) Q (H c m s).2) :
    Contract H assume exit ((perform c).bind k) Q s := contract_call next

theorem contract_mono {p : Prog C R ε α} (pre : Contract H assume exit p Q s)
    (weaker : ∀ a s', Q a s' → Q' a s') : Contract H assume exit p Q' s := by
  refine wp_mono pre fun o s' post => ?_
  cases o with
  | ok a => exact weaker a s' post
  | error e => exact post
  | pending => trivial

theorem contract_bind {p : Prog C R ε α} {f : α → Prog C R ε β} {P : β → σ → Prop}
    (pre : Contract H assume exit p (fun a s' => Contract H assume exit (f a) P s') s) :
    Contract H assume exit (p.bind f) P s := by
  refine wp_bind (wp_mono pre fun o s' post => ?_)
  rcases o with a | e | _ <;> exact post

theorem contract_reify {p : Prog C R ε α} {P : Except ε α → σ → Prop}
    (pre : Contract H assume (fun e s' => P (.error e) s') p (fun a s' => P (.ok a) s') s) :
    Contract H assume exit' (reify p : Prog C R ε' _) P s := by
  refine wp_reify (wp_mono pre fun o s' post => ?_)
  cases o with
  | ok a => exact post
  | error e => exact post
  | pending => trivial

theorem contract_loop {body : γ → Prog C R ε (γ ⊕ β)} {P : β → σ → Prop} (I : γ → σ → Prop)
    (step : ∀ g s', I g s' → Contract H assume exit (body g) (fun result s'' => match result with
      | .inl g' => I g' s''
      | .inr b => P b s'') s')
    (n : Nat) (g : γ) (here : I g s) : Contract H assume exit (loop body n g) P s := by
  refine wp_loop I (fun _ _ _ => trivial) (fun g s' held => ?_) n g here
  refine wp_mono (step g s' held) fun o s'' post => ?_
  rcases o with (g' | b) | e | _
  · exact post
  · exact post
  · exact post
  · trivial

/-- A fold, with an invariant over the items that are done. -/
theorem contract_foldlM {items : List γ} {f : β → γ → Prog C R ε β} (I : List γ → β → σ → Prop)
    (step : ∀ done x rest b s', items = done ++ x :: rest → I done b s' →
      Contract H assume exit (f b x) (fun b' s'' => I (done ++ [x]) b' s'') s')
    (b : β) (here : I [] b s) :
    Contract H assume exit (items.foldlM f b) (fun b' s' => I items b' s') s := by
  suffices from_ : ∀ rest done b s', items = done ++ rest → I done b s' →
      Contract H assume exit (rest.foldlM f b) (fun b' s'' => I items b' s'') s' from
    from_ items [] b s rfl here
  intro rest
  induction rest with
  | nil =>
      intro done b s' whole held
      rw [List.append_nil] at whole
      rw [whole]
      exact held
  | cons x rest ih =>
      intro done b s' whole held
      rw [List.foldlM_cons]
      refine contract_bind (contract_mono (step done x rest b s' whole held) ?_)
      intro b' s'' kept
      exact ih (done ++ [x]) b' s'' (by rw [whole, List.append_assoc, List.singleton_append]) kept

/-- A program that leaves with its value meets the exit condition where it returns. -/
theorem contract_exitWith {p : Prog C R ε ε}
    (pre : Contract H assume exit p exit s) : Contract H assume exit (exitWith p) Q s :=
  contract_bind (contract_mono pre fun _ _ left => contract_raise left)

/-- An invariant that the calls of a program keep holds when it returns, if it does not leave. -/
theorem contract_of_settles {P : C → Prop} {I : σ → Prop} {p : Prog C R ε α}
    (settles : p.Settles) (calls : p.Only P)
    (keeps : ∀ c m s', P c → I s' → assume (H c m s').2 → I (H c m s').2) (here : I s) :
    Contract H assume exit p (fun _ s' => I s') s := by
  refine wp_mono (wp_of_settles settles calls keeps here) fun o s' post => ?_
  cases o with
  | ok a => exact post.2
  | error e => exact (post.1 e rfl).elim
  | pending => trivial

/-- A postcondition that holds anyway. -/
theorem contract_of_forall {p : Prog C R ε α} (returns : ∀ a s', Q a s')
    (leaves : ∀ e s', exit e s') : Contract H assume exit p Q s := by
  induction p generalizing s with
  | ret a => exact returns a s
  | raise e => exact leaves e s
  | spin => trivial
  | call c k ih => exact contract_call fun m r _ _ => ih r

/-- A contract holds of every execution that has ended. -/
theorem contract_run (shrinking : Shrinking H assume) {p : Prog C R ε α}
    (pre : Contract H assume exit p Q s) (script : List M)
    (admitted : assume (p.run H script s).2.1) :
    (∀ a, (p.run H script s).1 = .ok a → Q a (p.run H script s).2.1) ∧
      ∀ e, (p.run H script s).1 = .error e → exit e (p.run H script s).2.1 := by
  have post := wp_run shrinking pre script admitted
  constructor
  · intro a returned
    rw [returned] at post
    exact post
  · intro e left
    rw [left] at post
    exact post

end Contract

/-- Where the program returns a value, `Q` holds of it and of the state; anything goes where it
leaves. -/
abbrev Ensures (H : Handler C R M σ) (p : Prog C R ε α) (Q : α → σ → Prop) (s : σ) : Prop :=
  Contract H (fun _ => True) (fun _ _ => True) p Q s

section Ensures

variable {H : Handler C R M σ} {s : σ}

theorem ensures_exitWith (p : Prog C R ε ε) (Q : α → σ → Prop) : Ensures H (exitWith p) Q s :=
  contract_exitWith (contract_of_forall (fun _ _ => trivial) fun _ _ => trivial)

theorem ensures_reify {p : Prog C R ε α} {Q : α → σ → Prop} {P : Except ε α → σ → Prop}
    (pre : Ensures H p Q s) (returned : ∀ a s', Q a s' → P (.ok a) s')
    (left : ∀ e s', P (.error e) s') : Ensures H (reify p : Prog C R ε' (Except ε α)) P s := by
  refine wp_reify (wp_mono pre fun o s' post => ?_)
  cases o with
  | ok a => exact returned a s' post
  | error e => exact left e s'
  | pending => trivial

/-- An invariant that the calls of a program keep holds when it returns. -/
theorem ensures_of_only {P : C → Prop} {I : σ → Prop} {p : Prog C R ε α} (calls : p.Only P)
    (keeps : ∀ c m s', P c → I s' → I (H c m s').2) (here : I s) :
    Ensures H p (fun _ s' => I s') s := by
  refine wp_mono (wp_of_only calls (fun c m s' ok held _ => keeps c m s' ok held) here)
    fun o s' held => ?_
  cases o with
  | ok a => exact held
  | _ => trivial

end Ensures

/-! ## Loops that go on -/

/-- The state after `n` iterations of a loop, if all of them go on. -/
def iterate (H : Handler C R M σ) (body : γ → Prog C R ε (γ ⊕ β)) :
    Nat → γ → List M → σ → Option (γ × σ × List M)
  | 0, g, script, s => some (g, s, script)
  | n + 1, g, script, s =>
      match (body g).run H script s with
      | (.ok (.inl g'), s', script') => iterate H body n g' script' s'
      | _ => none

section Iterate

variable {H : Handler C R M σ} {s s' : σ} {body : γ → Prog C R ε (γ ⊕ β)} {g g' : γ}
  {script script' : List M}

theorem run_bind {p : Prog C R ε α} {f : α → Prog C R ε β} {a : α}
    (ran : p.run H script s = (.ok a, s', script')) :
    (p.bind f).run H script s = (f a).run H script' s' := by
  induction p generalizing script s with
  | ret b =>
      cases ran
      rfl
  | raise e => cases ran
  | spin => cases ran
  | call c k ih =>
      cases script with
      | nil => cases ran
      | cons m script =>
          simp only [run] at ran
          simp only [bind, run]
          rcases answer : H c m s with ⟨_ | r, s''⟩
          · rw [answer] at ran
            cases ran
          · rw [answer] at ran
            exact ih r ran

/-- A sequence that has not returned is still in its first program, or in its second. -/
theorem run_bind_pending {p : Prog C R ε α} {f : α → Prog C R ε β}
    (ran : (p.bind f).run H script s = (.pending, s', script')) :
    p.run H script s = (.pending, s', script') ∨ ∃ a s'' script'',
      p.run H script s = (.ok a, s'', script'') ∧
        (f a).run H script'' s'' = (.pending, s', script') := by
  induction p generalizing script s with
  | ret a => exact Or.inr ⟨a, s, script, rfl, ran⟩
  | raise e => cases ran
  | spin =>
      cases ran
      exact Or.inl rfl
  | call c k ih =>
      cases script with
      | nil =>
          cases ran
          exact Or.inl rfl
      | cons m script =>
          simp only [bind, run] at ran ⊢
          rcases answer : H c m s with ⟨_ | r, s''⟩
          · rw [answer] at ran
            cases ran
            exact Or.inl rfl
          · rw [answer] at ran
            exact ih r ran

/-- The program uses up no number of iterations. -/
def Straight : Prog C R ε α → Prop
  | spin => False
  | call _ k => ∀ r, (k r).Straight
  | _ => True

theorem straight_perform {c : C} {k : R c → Prog C R ε α} (each : ∀ r, (k r).Straight) :
    ((perform c).bind k).Straight := each

/-- A call has no answer yet: the script is used up, or the last call was not answered. -/
def Waits (H : Handler C R M σ) (s' : σ) (script' : List M) : Prop :=
  script' = [] ∨ ∃ c m s, H c m s = (none, s')

theorem waits_of_straight {p : Prog C R ε α} (straight : p.Straight)
    (ran : p.run H script s = (.pending, s', script')) : Waits H s' script' := by
  induction p generalizing script s with
  | ret a => cases ran
  | raise e => cases ran
  | spin => exact straight.elim
  | call c k ih =>
      cases script with
      | nil =>
          cases ran
          exact Or.inl rfl
      | cons m script =>
          simp only [run] at ran
          rcases answer : H c m s with ⟨_ | r, s''⟩
          · rw [answer] at ran
            cases ran
            exact Or.inr ⟨c, m, s, answer⟩
          · rw [answer] at ran
            exact ih r (straight r) ran

/-- A loop that has not used up its iterations and has not returned waits for an answer. -/
theorem waits_of_loop (straight : ∀ g, (body g).Straight) {n : Nat}
    (stops : iterate H body n g script s = none)
    (ran : (loop body n g).run H script s = (.pending, s', script')) : Waits H s' script' := by
  induction n generalizing g script s with
  | zero => cases stops
  | succ n ih =>
      rcases run_bind_pending ran with first | ⟨result, s'', script'', first, later⟩
      · exact waits_of_straight (straight g) first
      · cases result with
        | inl g' =>
            rw [iterate, first] at stops
            exact ih stops later
        | inr b => cases later

/-- After iterations that went on, the loop is where it would be if it had begun there. -/
theorem run_loop_of_iterate {n k : Nat} (reached : iterate H body n g script s =
    some (g', s', script')) :
    (loop body (n + k) g).run H script s = (loop body k g').run H script' s' := by
  induction n generalizing g script s with
  | zero =>
      cases reached
      rw [Nat.zero_add]
  | succ n ih =>
      rw [iterate] at reached
      rw [Nat.succ_add]
      split at reached
      · rename_i ran
        rw [loop, run_bind ran]
        exact ih reached
      · cases reached

/-- What every iteration that goes on keeps holds after all of them. -/
theorem iterate_invariant (I : Nat → γ → σ → Prop)
    (step : ∀ k g s, I k g s → Ensures H (body g)
      (fun result s' => ∀ g', result = .inl g' → I (k + 1) g' s') s)
    {n k : Nat} (here : I k g s) (reached : iterate H body n g script s = some (g', s', script')) :
    I (k + n) g' s' := by
  induction n generalizing k g script s with
  | zero =>
      cases reached
      exact here
  | succ n ih =>
      rw [iterate] at reached
      split at reached
      · rename_i next s'' script'' ran
        have kept := (contract_run (shrinking_true H) (step k g s here) script trivial).1
        rw [ran] at kept
        have later := ih (kept _ rfl _ rfl) reached
        rwa [Nat.add_assoc, Nat.add_comm 1] at later
      · cases reached

end Iterate

/-! ## What holds when a call is issued -/

/-- Every call the program issues finds a state in which `J` allows it. -/
def Issues (H : Handler C R M σ) (J : C → σ → Prop) : Prog C R ε α → σ → Prop
  | ret _, _ => True
  | raise _, _ => True
  | spin, _ => True
  | call c k, s => J c s ∧ ∀ m r, (H c m s).1 = some r → (k r).Issues H J (H c m s).2

section Issues

variable {H : Handler C R M σ} {J : C → σ → Prop} {s : σ}

theorem issues_bind {p : Prog C R ε α} {f : α → Prog C R ε β} (first : p.Issues H J s)
    (second : Ensures H p (fun a s' => (f a).Issues H J s') s) : (p.bind f).Issues H J s := by
  induction p generalizing s with
  | ret a => exact second
  | raise e => trivial
  | spin => trivial
  | call c k ih =>
      refine ⟨first.1, fun m r answered => ih r (first.2 m r answered) ?_⟩
      have step := second.2 m trivial
      rcases answer : H c m s with ⟨_ | r', s'⟩
      · rw [answer] at answered
        cases answered
      · rw [answer] at answered
        cases answered
        rw [answer] at step
        exact step

theorem issues_mono {J' : C → σ → Prop} {p : Prog C R ε α} (issues : p.Issues H J s)
    (weaker : ∀ c s', J c s' → J' c s') : p.Issues H J' s := by
  induction p generalizing s with
  | ret a => trivial
  | raise e => trivial
  | spin => trivial
  | call c k ih => exact ⟨weaker c s issues.1, fun m r answered => ih r (issues.2 m r answered)⟩

theorem issues_of_only {P : C → Prop} {p : Prog C R ε α} (calls : p.Only P)
    (free : ∀ c s', P c → J c s') : p.Issues H J s := by
  induction p generalizing s with
  | ret a => trivial
  | raise e => trivial
  | spin => trivial
  | call c k ih => exact ⟨free c s calls.1, fun m r _ => ih r (calls.2 r)⟩

/-- One call, and a program that takes its answer. -/
theorem issues_perform {c : C} {k : R c → Prog C R ε α} (issued : J c s)
    (next : ∀ m r, (H c m s).1 = some r → (k r).Issues H J (H c m s).2) :
    ((perform c).bind k).Issues H J s := ⟨issued, next⟩

/-- A continuation that may follow anything. -/
theorem issues_bind_always {p : Prog C R ε α} {f : α → Prog C R ε β} (first : p.Issues H J s)
    (second : ∀ a s', (f a).Issues H J s') : (p.bind f).Issues H J s := by
  induction p generalizing s with
  | ret a => exact second a s
  | raise e => trivial
  | spin => trivial
  | call c k ih => exact ⟨first.1, fun m r answered => ih r (first.2 m r answered)⟩

theorem issues_loop {body : γ → Prog C R ε (γ ⊕ β)} (I : γ → σ → Prop)
    (each : ∀ g s', I g s' → (body g).Issues H J s')
    (step : ∀ g s', I g s' → Ensures H (body g) (fun result s'' =>
      ∀ g', result = .inl g' → I g' s'') s')
    (n : Nat) (g : γ) (here : I g s) : (loop body n g).Issues H J s := by
  induction n generalizing g s with
  | zero => trivial
  | succ n ih =>
      refine issues_bind (each g s here) (contract_mono (step g s here) fun result s' held => ?_)
      cases result with
      | inl g' => exact ih g' (held g' rfl)
      | inr b => trivial

/-- A fold issues what its steps issue, where they keep an invariant over the items done. -/
theorem issues_foldlM {items : List γ} {f : β → γ → Prog C R ε β} (I : List γ → β → σ → Prop)
    (each : ∀ done x rest b s', items = done ++ x :: rest → I done b s' → (f b x).Issues H J s')
    (step : ∀ done x rest b s', items = done ++ x :: rest → I done b s' →
      Ensures H (f b x) (fun b' s'' => I (done ++ [x]) b' s'') s')
    (b : β) (here : I [] b s) : (items.foldlM f b).Issues H J s := by
  suffices from_ : ∀ rest done b s', items = done ++ rest → I done b s' →
      (rest.foldlM f b).Issues H J s' from from_ items [] b s rfl here
  intro rest
  induction rest with
  | nil =>
      intros
      trivial
  | cons x rest ih =>
      intro done b s' whole held
      rw [List.foldlM_cons]
      refine issues_bind (each done x rest b s' whole held)
        (contract_mono (step done x rest b s' whole held) ?_)
      intro b' s'' kept
      exact ih (done ++ [x]) b' s'' (by rw [whole, List.append_assoc, List.singleton_append]) kept

theorem issues_reify {p : Prog C R ε α} (issues : p.Issues H J s) :
    (reify p : Prog C R ε' (Except ε α)).Issues H J s := by
  induction p generalizing s with
  | ret a => trivial
  | raise e => trivial
  | spin => trivial
  | call c k ih => exact ⟨issues.1, fun m r answered => ih r (issues.2 m r answered)⟩

theorem issues_exitWith {p : Prog C R ε ε} (issues : p.Issues H J s) :
    (exitWith p : Prog C R ε α).Issues H J s := issues_bind_always issues fun _ _ => trivial

/-- An invariant that every allowed call keeps holds wherever the program gets. -/
theorem wp_of_issues {assume : σ → Prop} {K : σ → Prop}
    (keeps : ∀ c m s', J c s' → K s' → K (H c m s').2) {p : Prog C R ε α} (issues : p.Issues H J s)
    (here : K s) : wp H assume p (fun _ s' => K s') s := by
  induction p generalizing s with
  | ret a => exact here
  | raise e => exact here
  | spin => exact here
  | call c k ih =>
      refine ⟨here, fun m _ => ?_⟩
      have kept := keeps c m s issues.1 here
      rcases answer : H c m s with ⟨_ | r, s'⟩
      · rwa [answer] at kept
      · have next := issues.2 m r (by rw [answer])
        rw [answer] at kept next
        exact ih r next kept

/-- It holds when the program returns. -/
theorem ensures_of_issues {K : σ → Prop} (keeps : ∀ c m s', J c s' → K s' → K (H c m s').2)
    {p : Prog C R ε α} (issues : p.Issues H J s) (here : K s) :
    Ensures H p (fun _ s' => K s') s := by
  refine wp_mono (wp_of_issues keeps issues here) fun o s' held => ?_
  cases o with
  | ok a => exact held
  | _ => trivial

/-- It holds wherever an execution gets. -/
theorem issues_run {K : σ → Prop} (keeps : ∀ c m s', J c s' → K s' → K (H c m s').2)
    {p : Prog C R ε α} (issues : p.Issues H J s) (here : K s) (script : List M) :
    K (p.run H script s).2.1 :=
  wp_run (Q := fun _ s' => K s') (shrinking_true H) (wp_of_issues keeps issues here) script trivial

end Issues

/-! ## Calls and returns -/

/-- Every call finds a state in which `J` allows it, and the program returns in states that satisfy
`Q`. -/
structure Behaves (H : Handler C R M σ) (J : C → σ → Prop) (p : Prog C R ε α) (Q : α → σ → Prop)
    (s : σ) : Prop where
  issues : p.Issues H J s
  ensures : Ensures H p Q s

section Behaves

variable {H : Handler C R M σ} {J : C → σ → Prop} {s : σ} {Q Q' : α → σ → Prop}

theorem behaves_ret {a : α} (here : Q a s) : Behaves H J (ret a : Prog C R ε α) Q s :=
  ⟨trivial, here⟩

theorem behaves_raise {e : ε} : Behaves H J (raise e : Prog C R ε α) Q s := ⟨trivial, trivial⟩

/-- One call, and a program that takes its answer. -/
theorem behaves_perform {c : C} {k : R c → Prog C R ε α} (issued : J c s)
    (next : ∀ m r, (H c m s).1 = some r → Behaves H J (k r) Q (H c m s).2) :
    Behaves H J ((perform c).bind k) Q s :=
  ⟨issues_perform issued fun m r answered => (next m r answered).issues,
    contract_perform fun m r _ answered => (next m r answered).ensures⟩

/-- One call whose answer is returned. -/
theorem behaves_send {c : C} {Q : R c → σ → Prop} (issued : J c s)
    (next : ∀ m r, (H c m s).1 = some r → Q r (H c m s).2) :
    Behaves H J (perform c : Prog C R ε (R c)) Q s :=
  ⟨⟨issued, fun _ _ _ => trivial⟩,
    contract_call fun m r _ answered => contract_ret (next m r answered)⟩

theorem behaves_mono {p : Prog C R ε α} (pre : Behaves H J p Q s)
    (weaker : ∀ a s', Q a s' → Q' a s') : Behaves H J p Q' s :=
  ⟨pre.issues, contract_mono pre.ensures weaker⟩

theorem behaves_bind {p : Prog C R ε α} {f : α → Prog C R ε β} {P : β → σ → Prop}
    (pre : Behaves H J p (fun a s' => Behaves H J (f a) P s') s) : Behaves H J (p.bind f) P s where
  issues := issues_bind pre.issues (contract_mono pre.ensures fun _ _ next => next.issues)
  ensures := contract_bind (contract_mono pre.ensures fun _ _ next => next.ensures)

theorem behaves_loop {body : γ → Prog C R ε (γ ⊕ β)} {P : β → σ → Prop} (I : γ → σ → Prop)
    (step : ∀ g s', I g s' → Behaves H J (body g) (fun result s'' => match result with
      | .inl g' => I g' s''
      | .inr b => P b s'') s')
    (n : Nat) (g : γ) (here : I g s) : Behaves H J (loop body n g) P s where
  issues := by
    refine issues_loop I (fun g s' held => (step g s' held).issues) (fun g s' held => ?_) n g here
    refine contract_mono (step g s' held).ensures fun result s'' post g' goes => ?_
    rw [goes] at post
    exact post
  ensures := contract_loop I (fun g s' held => (step g s' held).ensures) n g here

/-- A program that leaves with its value. -/
theorem behaves_exitWith {p : Prog C R ε ε} (issues : p.Issues H J s) :
    Behaves H J (exitWith p : Prog C R ε α) Q s :=
  ⟨issues_exitWith issues, ensures_exitWith p Q⟩

/-- Calls that an invariant allows, and that keep it. -/
theorem behaves_of_only {P : C → Prop} {I : σ → Prop} {p : Prog C R ε α} (calls : p.Only P)
    (allowed : ∀ c s', P c → I s' → J c s') (keeps : ∀ c m s', P c → I s' → I (H c m s').2)
    (here : I s) : Behaves H J p (fun _ s' => I s') s := by
  induction p generalizing s with
  | ret a => exact behaves_ret here
  | raise e => exact behaves_raise
  | spin => exact ⟨trivial, trivial⟩
  | call c k ih =>
      exact behaves_perform (allowed c s calls.1 here) fun m r _ =>
        ih r (calls.2 r) (keeps c m s calls.1 here)

end Behaves

end Prog

end UnifiedInfraTopology.Lib
