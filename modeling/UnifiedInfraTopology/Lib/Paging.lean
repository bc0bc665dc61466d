import UnifiedInfraTopology.Lib.Fallible
import Mathlib.Algebra.Order.Group.Int

/-!
# Reading a sequence page by page

A page of type `P` says how many items it has and how many there are in all.  `pageLoop` reads the
pages from an offset on, until the count is reached; the count must be the same on all of them.
`Paged` says what the pages are, without the loop.
-/

namespace UnifiedInfraTopology.Lib

variable {P ε σ σ' : Type} (count size : P → Int) (read : Int → Except ε P)

/-- The loop of a caller: `total` is negative before the first page, `changed` is the error of a count
that has changed.  `unfinished` is no error of a caller: the iterations have been used up. -/
def pageLoop (changed unfinished : ε) (body : σ → P → Except ε σ) :
    Nat → Int → Int → σ → Except ε σ
  | 0, _, _, _ => .error unfinished
  | n + 1, start, total, s => do
      let raw ← read start
      let total := if total < 0 then count raw else total
      if total ≠ count raw then .error changed
      else do
        let s ← body s raw
        if start + size raw = total then pure s
        else pageLoop changed unfinished body n (start + size raw) total s

/-- The loop from the first page on, which says how many iterations there can be. -/
def readPages (changed unfinished : ε) (body : σ → P → Except ε σ) (s : σ) : Except ε σ := do
  let first ← read 0
  pageLoop count size read changed unfinished body ((count first).toNat + 1) 0 (-1) s

/-- The pages from an offset to the end of the sequence. -/
inductive Paged (total : Int) : Int → List P → Prop where
  | last {start : Int} {raw : P} (answered : read start = .ok raw) (counted : count raw = total)
      (ends : start + size raw = total) : Paged total start [raw]
  | more {start : Int} {raw : P} {pages : List P} (answered : read start = .ok raw)
      (counted : count raw = total) (goes : start + size raw ≠ total)
      (rest : Paged total (start + size raw) pages) : Paged total start (raw :: pages)

variable {count size read}

section Loop

variable {changed unfinished : ε} {body : σ → P → Except ε σ} {total start : Int} {pages : List P}
  {n : Nat} {s s' : σ}

/-- A loop that has succeeded has read the pages and done its work on each. -/
theorem pageLoop_ok (nonneg : ∀ start raw, read start = .ok raw → 0 ≤ count raw)
    (ok : pageLoop count size read changed unfinished body n start total s = .ok s') :
    ∃ total' pages, (0 ≤ total → total' = total) ∧ Paged count size read total' start pages ∧
      pages.foldlM body s = .ok s' := by
  induction n generalizing start total s with
  | zero => cases ok
  | succ n ih =>
      rw [pageLoop] at ok
      obtain ⟨raw, answered, ok⟩ := bind_ok ok
      dsimp only at ok
      obtain ⟨counted, ok⟩ := check_ok ok
      obtain ⟨s₁, did, ok⟩ := bind_ok ok
      have counted := (of_not_not counted).symm
      have whole : 0 ≤ total → count raw = total := fun known => by
        rwa [if_neg (Int.not_lt.mpr known)] at counted
      rw [← counted] at ok
      split at ok
      · rename_i ends
        cases ok
        refine ⟨count raw, [raw], whole, .last answered rfl ends, ?_⟩
        rw [List.foldlM_cons, did]
        rfl
      · rename_i goes
        obtain ⟨total', pages, same, paged, folded⟩ := ih ok
        have same := same (nonneg start raw answered)
        refine ⟨total', raw :: pages, fun known => same.trans (whole known),
          .more answered same.symm (same ▸ goes) paged, ?_⟩
        rw [List.foldlM_cons, did]
        exact folded

/-- Two loops over the same pages, whose bodies agree. -/
theorem agrees_pageLoop {R : σ → σ' → Prop} {body' : σ' → P → Except ε σ'} {t : σ'}
    (each : ∀ raw s t, R s t → Agrees R (body s raw) (body' t raw)) (here : R s t) :
    Agrees R (pageLoop count size read changed unfinished body n start total s)
      (pageLoop count size read changed unfinished body' n start total t) := by
  induction n generalizing start total s t with
  | zero => exact .error _ _
  | succ n ih =>
      rw [pageLoop, pageLoop]
      refine (Agrees.refl (read start)).bind fun raw raw' same => ?_
      subst same
      refine .check Iff.rfl fun _ _ => (each raw s t here).bind fun s₁ t₁ related => ?_
      by_cases ends : start + size raw = if total < 0 then count raw else total
      · rw [if_pos ends, if_pos ends]
        exact .ok related
      · rw [if_neg ends, if_neg ends]
        exact ih related

theorem agrees_readPages {R : σ → σ' → Prop} {body' : σ' → P → Except ε σ'} {t : σ'}
    (each : ∀ raw s t, R s t → Agrees R (body s raw) (body' t raw)) (here : R s t) :
    Agrees R (readPages count size read changed unfinished body s)
      (readPages count size read changed unfinished body' t) := by
  refine (Agrees.refl (read 0)).bind fun raw raw' same => ?_
  subst same
  exact agrees_pageLoop each here

/-- The pages are determined by the answers. -/
theorem Paged.unique {total' : Int} {pages' : List P} (paged : Paged count size read total start pages)
    (paged' : Paged count size read total' start pages') : pages = pages' ∧ total = total' := by
  induction paged generalizing pages' total' with
  | last answered counted ends =>
      cases paged' with
      | last answered' counted' ends' =>
          rw [answered] at answered'
          cases answered'
          exact ⟨rfl, counted.symm.trans counted'⟩
      | more answered' counted' goes' rest' =>
          rw [answered] at answered'
          cases answered'
          rw [← counted', counted] at goes'
          exact (goes' ends).elim
  | more answered counted goes rest ih =>
      cases paged' with
      | last answered' counted' ends' =>
          rw [answered] at answered'
          cases answered'
          rw [← counted', counted] at ends'
          exact (goes ends').elim
      | more answered' counted' goes' rest' =>
          rw [answered] at answered'
          cases answered'
          obtain ⟨pages, total⟩ := ih rest'
          exact ⟨congrArg _ pages, total⟩

/-- One page of the loop. -/
theorem pageLoop_next {total' : Int} {raw : P} {s₁ : σ} (answered : read start = .ok raw)
    (counted : count raw = total) (known : total' < 0 ∨ total' = total)
    (did : body s raw = .ok s₁) :
    pageLoop count size read changed unfinished body (n + 1) start total' s =
      if start + size raw = total then .ok s₁
      else pageLoop count size read changed unfinished body n (start + size raw) total s₁ := by
  have whole : (if total' < 0 then count raw else total') = total := by
    rcases known with fresh | same
    · rw [if_pos fresh, counted]
    · rw [same, counted, ite_self]
  rw [pageLoop, answered]
  change (if (if total' < 0 then count raw else total') ≠ count raw then _ else _) = _
  rw [whole, counted, if_neg (not_not.mpr rfl), did]
  rfl

/-- The pages with their work are a loop that succeeds, given enough iterations. -/
theorem pageLoop_of_paged {total' : Int} (paged : Paged count size read total start pages)
    (known : total' < 0 ∨ total' = total) (enough : pages.length ≤ n)
    (folded : pages.foldlM body s = .ok s') :
    pageLoop count size read changed unfinished body n start total' s = .ok s' := by
  induction paged generalizing n total' s with
  | last answered counted ends =>
      obtain ⟨n, rfl⟩ := Nat.exists_eq_add_of_le' enough
      rw [List.foldlM_cons] at folded
      obtain ⟨s₁, did, folded⟩ := bind_ok folded
      cases folded
      rw [List.length_singleton, pageLoop_next answered counted known did, if_pos ends]
  | more answered counted goes rest ih =>
      obtain ⟨n, rfl⟩ := Nat.exists_eq_add_of_le' enough
      rw [List.foldlM_cons] at folded
      obtain ⟨s₁, did, folded⟩ := bind_ok folded
      rw [List.length_cons, ← Nat.add_assoc, pageLoop_next answered counted known did, if_neg goes]
      exact ih (.inr rfl) (Nat.le_add_left _ _) folded

/-- A page that is not the last has items. -/
theorem Paged.size_ne_zero {raw : P} (paged : Paged count size read total start (raw :: pages))
    (goes : start + size raw ≠ total) : size raw ≠ 0 := by
  intro nothing
  cases paged with
  | last answered counted ends => exact goes ends
  | more answered counted _ rest =>
      rw [nothing, Int.add_zero] at rest
      have same := (rest.unique (.more answered counted goes (by rwa [nothing, Int.add_zero]))).1
      exact List.cons_ne_self raw pages same.symm

/-- There are no more pages than items, and one. -/
theorem Paged.length_le (paged : Paged count size read total start pages)
    (nonneg : ∀ raw, 0 ≤ size raw) : (pages.length : Int) ≤ total - start + 1 := by
  induction paged with
  | @last start raw answered counted ends =>
      have := nonneg raw
      simp only [List.length_singleton]
      omega
  | @more start raw pages answered counted goes rest ih =>
      have some_ := (Paged.more answered counted goes rest).size_ne_zero goes
      have := nonneg raw
      simp only [List.length_cons]
      omega

/-- The loop succeeds exactly when there are pages on which its work succeeds. -/
theorem readPages_ok (counts : ∀ start raw, read start = .ok raw → 0 ≤ count raw)
    (nonneg : ∀ raw, 0 ≤ size raw) :
    readPages count size read changed unfinished body s = .ok s' ↔
      ∃ total pages, Paged count size read total 0 pages ∧ pages.foldlM body s = .ok s' := by
  constructor
  · intro ok
    obtain ⟨first, -, ok⟩ := bind_ok ok
    obtain ⟨total, pages, -, paged, folded⟩ := pageLoop_ok counts ok
    exact ⟨total, pages, paged, folded⟩
  · rintro ⟨total, pages, paged, folded⟩
    have bound := paged.length_le nonneg
    have first : ∃ raw, read 0 = .ok raw ∧ count raw = total := by
      cases paged with
      | last answered counted _ => exact ⟨_, answered, counted⟩
      | more answered counted _ _ => exact ⟨_, answered, counted⟩
    obtain ⟨raw, answered, counted⟩ := first
    unfold readPages
    rw [answered]
    have positive := counts 0 raw answered
    exact pageLoop_of_paged paged (.inl (by decide)) (by omega) folded

end Loop

end UnifiedInfraTopology.Lib
