import Mathlib.Order.Basic

/-!
# Binary search

`search n f` is the search of Go's `sort.Search`: the smallest index below `n` at which a monotone
predicate holds, and `n` if there is none.  It halves an interval, so it looks at few indices; what
it finds is said without the interval by `search_false` and `search_true`.
-/

namespace UnifiedInfraTopology.Lib

/-- Search in the indices from `i` up to, not including, `j`. -/
def searchBetween (f : Nat → Bool) (i j : Nat) : Nat :=
  if i < j then
    if f ((i + j) / 2) then searchBetween f i ((i + j) / 2)
    else searchBetween f ((i + j) / 2 + 1) j
  else i
termination_by j - i

/-- Go's `sort.Search`. -/
def search (n : Nat) (f : Nat → Bool) : Nat := searchBetween f 0 n

/-- The predicate holds from some index on. -/
def Upward (n : Nat) (f : Nat → Bool) : Prop := ∀ i j, i ≤ j → j < n → f i = true → f j = true

variable {n : Nat} {f : Nat → Bool}

/-- The interval keeps the border between the two values in it. -/
theorem searchBetween_spec (upward : Upward n f) (i j : Nat) (ordered : i ≤ j) (within : j ≤ n)
    (below : ∀ k < i, f k = false) (above : ∀ k, j ≤ k → k < n → f k = true) :
    searchBetween f i j ≤ n ∧ (∀ k < searchBetween f i j, f k = false) ∧
      ∀ k, searchBetween f i j ≤ k → k < n → f k = true := by
  induction i, j using searchBetween.induct (f := f) with
  | case1 i j smaller middle ih =>
      rw [searchBetween, if_pos smaller, if_pos middle]
      refine ih (by omega) (by omega) below fun k after inside => ?_
      exact upward _ k after inside middle
  | case2 i j smaller middle ih =>
      rw [searchBetween, if_pos smaller, if_neg middle]
      refine ih (by omega) within (fun k before => ?_) above
      rw [Bool.eq_false_iff]
      intro holds
      exact middle (upward k _ (by omega) (by omega) holds)
  | case3 i j done =>
      obtain rfl : i = j := by omega
      rw [searchBetween, if_neg done]
      exact ⟨within, below, above⟩

/-- Before the index found the predicate fails. -/
theorem search_false (upward : Upward n f) {k : Nat} (before : k < search n f) : f k = false :=
  (searchBetween_spec upward 0 n (Nat.zero_le n) (Nat.le_refl n) (by omega) (by omega)).2.1 k before

/-- From the index found on it holds. -/
theorem search_true (upward : Upward n f) {k : Nat} (after : search n f ≤ k) (inside : k < n) :
    f k = true :=
  (searchBetween_spec upward 0 n (Nat.zero_le n) (Nat.le_refl n) (by omega) (by omega)).2.2 k after inside

end UnifiedInfraTopology.Lib
