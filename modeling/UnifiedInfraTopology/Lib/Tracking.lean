import UnifiedInfraTopology.Lib.Fallible

/-!
# Checking on the way and checking at the end

A collector reads items, each of which yields a list of facts, and rejects a fact that does not fit
the facts before it.  It may check each fact when it comes, with whatever tables it keeps, or all of
them at the end.

* `Accepted before facts`: each fact fits those before it;
* `Tracks R before facts run`: `run` succeeds exactly when `facts` does with facts that are accepted
  after `before`, and its state then stands for all of them.  The rules follow the shape of the code:
  a common read, a common check, a sequence, a fold.
-/

namespace UnifiedInfraTopology.Lib

variable {ε ε' α α' β τ σ σ' : Type}

/-- The facts of some items, one after the other. -/
def collectAll (facts : α → Except ε (List τ)) : List α → Except ε (List τ)
  | [] => .ok []
  | x :: items => do
      let here ← facts x
      let later ← collectAll facts items
      return here ++ later

/-- Items that each yield one fact. -/
theorem collectAll_single (fact : α → τ) (items : List α) :
    collectAll (fun x => (.ok [fact x] : Except ε (List τ))) items = .ok (items.map fact) := by
  induction items with
  | nil => rfl
  | cons x items ih =>
      rw [collectAll, ih]
      rfl

/-- Each fact fits the facts before it. -/
def Accepted (fits : List τ → τ → Prop) : List τ → List τ → Prop
  | _, [] => True
  | before, t :: facts => fits before t ∧ Accepted fits (before ++ [t]) facts

variable {fits : List τ → τ → Prop} {before : List τ}

theorem accepted_append {facts later : List τ} :
    Accepted fits before (facts ++ later) ↔
      Accepted fits before facts ∧ Accepted fits (before ++ facts) later := by
  induction facts generalizing before with
  | nil => simp [Accepted]
  | cons t facts ih => simp only [List.cons_append, Accepted, ih, List.append_assoc, and_assoc,
      List.nil_append]

/-- The run succeeds when the facts are there and accepted, and its state stands for them. -/
structure Tracks (fits : List τ → τ → Prop) (R : List τ → σ → Prop) (before : List τ)
    (facts : Except ε (List τ)) (run : Except ε' σ) : Prop where
  complete : ∀ new, facts = .ok new → Accepted fits before new → ∃ s, run = .ok s
  sound : ∀ s, run = .ok s → ∃ new, facts = .ok new ∧ Accepted fits before new ∧ R (before ++ new) s

namespace Tracks

variable {R : List τ → σ → Prop} {R' : List τ → σ' → Prop} {facts : Except ε (List τ)}
  {run : Except ε' σ}

/-- Nothing new. -/
theorem nil {s : σ} (here : R before s) :
    Tracks fits R before (.ok [] : Except ε _) (.ok s : Except ε' σ) where
  complete _ _ _ := ⟨s, rfl⟩
  sound _ ok := by
    cases ok
    exact ⟨[], rfl, trivial, by rwa [List.append_nil]⟩

/-- One fact that fits. -/
theorem one {t : τ} {s : σ} (fit : fits before t) (here : R (before ++ [t]) s) :
    Tracks fits R before (.ok [t] : Except ε _) (.ok s : Except ε' σ) where
  complete _ _ _ := ⟨s, rfl⟩
  sound _ ok := by
    cases ok
    exact ⟨[t], rfl, ⟨fit, trivial⟩, here⟩

/-- Facts that are not accepted, and a run that fails. -/
theorem refused {e : ε'} (refuses : ∀ new, facts = .ok new → ¬Accepted fits before new) :
    Tracks fits R before facts (.error e : Except ε' σ) where
  complete new ok accepted := (refuses new ok accepted).elim
  sound _ ok := by cases ok

/-- Both read the same first. -/
theorem read {S : α → α' → Prop} {x : Except ε α} {x' : Except ε' α'}
    {next : α → Except ε (List τ)} {next' : α' → Except ε' σ} (agrees : Agrees S x x')
    (rest : ∀ a a', S a a' → Tracks fits R before (next a) (next' a')) :
    Tracks fits R before (x >>= next) (x' >>= next') := by
  cases agrees with
  | ok related => exact rest _ _ related
  | error e e' => exact refused fun new ok => by cases ok

/-- The run goes on after it has stood for the first facts. -/
theorem bind {later : Except ε (List τ)} {next : σ → Except ε' σ'}
    (first : Tracks fits R before facts run)
    (rest : ∀ new s, R (before ++ new) s → Tracks fits R' (before ++ new) later (next s)) :
    Tracks fits R' before (do let here ← facts; let more ← later; return here ++ more)
      (run >>= next) where
  complete new ok accepted := by
    obtain ⟨here, yields, ok⟩ := bind_ok ok
    obtain ⟨more, yields', ok⟩ := bind_ok ok
    cases ok
    obtain ⟨accepted, accepted'⟩ := accepted_append.mp accepted
    obtain ⟨s, ran⟩ := first.complete here yields accepted
    obtain ⟨new, same, -, stands⟩ := first.sound s ran
    rw [yields] at same
    cases same
    obtain ⟨s', ran'⟩ := (rest here s stands).complete more yields' accepted'
    exact ⟨s', by rw [ran]; exact ran'⟩
  sound s' ok := by
    obtain ⟨s, ran, ok⟩ := bind_ok ok
    obtain ⟨here, yields, accepted, stands⟩ := first.sound s ran
    obtain ⟨more, yields', accepted', stands'⟩ := (rest here s stands).sound s' ok
    refine ⟨here ++ more, ?_, accepted_append.mpr ⟨accepted, accepted'⟩, ?_⟩
    · rw [yields, yields']
      rfl
    · rwa [← List.append_assoc]

/-- One fact that fits, and then the others. -/
theorem cons {t : τ} (fit : fits before t) (rest : Tracks fits R (before ++ [t]) facts run) :
    Tracks fits R before (do let more ← facts; return t :: more) run where
  complete new ok accepted := by
    obtain ⟨more, yields, ok⟩ := bind_ok ok
    cases ok
    exact rest.complete more yields accepted.2
  sound s ok := by
    obtain ⟨more, yields, accepted, stands⟩ := rest.sound s ok
    refine ⟨t :: more, by rw [yields]; rfl, ⟨fit, accepted⟩, ?_⟩
    rwa [List.append_assoc] at stands

/-- The state is turned into another one. -/
theorem map {g : σ → σ'} (tracks : Tracks fits R before facts run)
    (turn : ∀ new s, R (before ++ new) s → R' (before ++ new) (g s)) :
    Tracks fits R' before facts (do let s ← run; return g s) where
  complete new ok accepted := by
    obtain ⟨s, ran⟩ := tracks.complete new ok accepted
    exact ⟨g s, by rw [ran]; rfl⟩
  sound s' ok := by
    obtain ⟨s, ran, ok⟩ := bind_ok ok
    cases ok
    obtain ⟨new, yields, accepted, stands⟩ := tracks.sound s ran
    exact ⟨new, yields, accepted, turn new s stands⟩

/-- A fold over the items. -/
theorem foldlM {f : α → Except ε (List τ)} {step : σ → α → Except ε' σ} {items : List α} {s : σ}
    (here : R before s)
    (each : ∀ x ∈ items, ∀ before s, R before s → Tracks fits R before (f x) (step s x)) :
    Tracks fits R before (collectAll f items) (items.foldlM step s) := by
  induction items generalizing before s with
  | nil => exact nil here
  | cons x items ih =>
      rw [List.foldlM_cons]
      refine bind (each x List.mem_cons_self before s here) fun new s' stands => ?_
      exact ih stands fun y member => each y (List.mem_cons_of_mem x member)

end Tracks

end UnifiedInfraTopology.Lib
