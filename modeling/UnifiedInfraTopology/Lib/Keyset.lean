import Mathlib.Data.Finset.Card
import Mathlib.Data.Finset.Filter
import Mathlib.Data.List.Sort

/-!
# Keyset pagination

Rows are listed in the order of a key, page by page; each page begins after the last key of the page
before it.  The table may change from page to page.

`KeysetPage` is one page of a table, `KeysetWalk` the pages until there is no next one.

* `KeysetWalk.sorted`: the rows of all pages are in order, so no row comes twice;
* `KeysetWalk.complete`: a key that every table has comes up;
* `card_after_lt`: where the keys are out of a finite set, a walk ends.
-/

namespace UnifiedInfraTopology.Lib

variable {α κ : Type}

/-- The key to go on from after the first `n` of some rows. -/
def nextKey (key : α → κ) (all : List α) (n : Nat) : Option κ :=
  if n < all.length then (all.take n).getLast?.map key else none

/-- There is a key to go on from if and only if there are more rows. -/
theorem isSome_nextKey (key : α → κ) (all : List α) {n : Nat} (positive : 0 < n) :
    (nextKey key all n).isSome = decide (n < all.length) := by
  unfold nextKey
  by_cases more : n < all.length
  · rw [decide_eq_true more, if_pos more, Option.isSome_map, Option.isSome_iff_ne_none, ne_eq,
      List.getLast?_eq_none_iff, List.take_eq_nil_iff]
    rintro (zero | rfl)
    · omega
    · exact Nat.not_lt_zero n more
  · rw [decide_eq_false more, if_neg more]
    rfl

variable [LinearOrder κ] {key : α → κ}

/-- A key is after the one that a page starts from. -/
def After (start : Option κ) (k : κ) : Prop := ∀ a ∈ start, a < k

instance (start : Option κ) (k : κ) : Decidable (After start k) := by
  unfold After
  cases start with
  | none => exact isTrue fun a member => (Option.not_mem_none a member).elim
  | some a => exact decidable_of_iff (a < k) (by simp)

theorem After.trans {start : Option κ} {k k' : κ} (after : After start k) (lt : k < k') :
    After start k' := fun a member => (after a member).trans lt

/-- One page: the first of the rows after a key, in order, and the key to go on from. -/
structure KeysetPage (key : α → κ) (rows : List α) (start : Option κ) (items : List α)
    (next : Option κ) : Prop where
  parts : ∃ rest, (items ++ rest).Pairwise (fun a b => key a < key b) ∧
    (∀ r, r ∈ items ++ rest ↔ r ∈ rows ∧ After start (key r)) ∧ (next = none → rest = [])
  last : ∀ k ∈ next, ∃ r, items.getLast? = some r ∧ key r = k

/-- The pages of a walk, each of its own table. -/
inductive KeysetWalk (key : α → κ) : Option κ → List (List α) → List (List α) → Prop where
  | last {start : Option κ} {rows items : List α} (page : KeysetPage key rows start items none) :
      KeysetWalk key start [rows] [items]
  | next {start : Option κ} {rows items : List α} {k : κ} {tables pages : List (List α)}
      (page : KeysetPage key rows start items (some k))
      (later : KeysetWalk key (some k) tables pages) :
      KeysetWalk key start (rows :: tables) (items :: pages)

/-- Rows sorted by a key that no two of them share. -/
theorem pairwise_insertionSort_key {le : α → α → Prop} [DecidableRel le]
    (orders : ∀ a b, le a b ↔ key a ≤ key b) {rows : List α} (nodup : (rows.map key).Nodup) :
    (rows.insertionSort le).Pairwise fun a b => key a < key b := by
  have total : Std.Total le := ⟨fun a b => by
    rw [orders, orders]
    exact le_total (key a) (key b)⟩
  have trans : IsTrans α le := ⟨fun a b c first second =>
    (orders a c).mpr (((orders a b).mp first).trans ((orders b c).mp second))⟩
  have distinct : ((rows.insertionSort le).map key).Nodup :=
    ((List.perm_insertionSort le rows).map key).nodup_iff.mpr nodup
  have apart : (rows.insertionSort le).Pairwise fun a b => key a ≠ key b := List.pairwise_map.mp distinct
  refine ((List.pairwise_insertionSort le rows).and apart).imp fun both => ?_
  exact lt_of_le_of_ne ((orders _ _).mp both.1) both.2

/-- The first of some sorted rows make a page. -/
theorem keysetPage_take {all rows : List α} {start : Option κ}
    (sorted : all.Pairwise fun a b => key a < key b)
    (members : ∀ r, r ∈ all ↔ r ∈ rows ∧ After start (key r)) {n : Nat} (positive : 0 < n) :
    KeysetPage key rows start (all.take n) (nextKey key all n) where
  parts := by
    refine ⟨all.drop n, by rwa [List.take_append_drop], by rwa [List.take_append_drop], ?_⟩
    intro ended
    have few : decide (n < all.length) = false := by
      rw [← isSome_nextKey key all positive, ended]
      rfl
    exact List.drop_eq_nil_of_le (Nat.le_of_not_lt (of_decide_eq_false few))
  last := by
    intro k goes
    unfold nextKey at goes
    split at goes
    · exact Option.map_eq_some_iff.mp goes
    · cases goes

namespace KeysetPage

variable {rows items : List α} {start next : Option κ}

theorem sorted (page : KeysetPage key rows start items next) :
    items.Pairwise fun a b => key a < key b := by
  obtain ⟨rest, sorted, -⟩ := page.parts
  exact (List.pairwise_append.mp sorted).1

theorem mem_rows (page : KeysetPage key rows start items next) {r : α} (member : r ∈ items) :
    r ∈ rows ∧ After start (key r) := by
  obtain ⟨rest, -, whole, -⟩ := page.parts
  exact (whole r).mp (List.mem_append_left _ member)

/-- No row of a page is after the key to go on from. -/
theorem le_next (page : KeysetPage key rows start items next) {k : κ} (goes : k ∈ next) {r : α}
    (member : r ∈ items) : key r ≤ k := by
  obtain ⟨last, found, rfl⟩ := page.last k goes
  obtain ⟨front, rfl⟩ := List.getLast?_eq_some_iff.mp found
  rcases List.mem_append.mp member with earlier | same
  · exact ((List.pairwise_append.mp page.sorted).2.2 r earlier last (List.mem_singleton_self _)).le
  · rw [List.mem_singleton.mp same]

/-- The key to go on from is one of the table, and after the start. -/
theorem next_mem (page : KeysetPage key rows start items next) {k : κ} (goes : k ∈ next) :
    ∃ r ∈ rows, key r = k ∧ After start k := by
  obtain ⟨last, found, rfl⟩ := page.last k goes
  obtain ⟨inside, after⟩ := page.mem_rows (List.mem_of_getLast? found)
  exact ⟨last, inside, rfl, after⟩

/-- A row after the start is on the page, or after the key to go on from. -/
theorem mem_or_after (page : KeysetPage key rows start items next) {r : α} (inside : r ∈ rows)
    (after : After start (key r)) : r ∈ items ∨ ∃ k ∈ next, k < key r := by
  obtain ⟨rest, sorted, whole, finished⟩ := page.parts
  rcases List.mem_append.mp ((whole r).mpr ⟨inside, after⟩) with here | later
  · exact Or.inl here
  · right
    cases goes : next with
    | none =>
        rw [finished goes] at later
        exact (List.not_mem_nil later).elim
    | some k =>
        obtain ⟨last, found, same⟩ := page.last k goes
        refine ⟨k, rfl, ?_⟩
        rw [← same]
        exact (List.pairwise_append.mp sorted).2.2 last (List.mem_of_getLast? found) r later

end KeysetPage

namespace KeysetWalk

variable {start : Option κ} {tables pages : List (List α)}

theorem mem_tables (walk : KeysetWalk key start tables pages) {r : α} (member : r ∈ pages.flatten) :
    After start (key r) ∧ ∃ rows ∈ tables, r ∈ rows := by
  induction walk with
  | last page =>
      rw [List.flatten_singleton] at member
      obtain ⟨inside, after⟩ := page.mem_rows member
      exact ⟨after, _, List.mem_singleton_self _, inside⟩
  | next page later ih =>
      rw [List.flatten_cons] at member
      rcases List.mem_append.mp member with here | there
      · obtain ⟨inside, after⟩ := page.mem_rows here
        exact ⟨after, _, List.mem_cons_self, inside⟩
      · obtain ⟨after, rows, inside, holds⟩ := ih there
        obtain ⟨-, -, -, started⟩ := page.next_mem rfl
        exact ⟨started.trans (after _ rfl), rows, List.mem_cons_of_mem _ inside, holds⟩

/-- The rows of all pages are in order. -/
theorem sorted (walk : KeysetWalk key start tables pages) :
    pages.flatten.Pairwise fun a b => key a < key b := by
  induction walk with
  | last page =>
      rw [List.flatten_singleton]
      exact page.sorted
  | next page later ih =>
      rw [List.flatten_cons, List.pairwise_append]
      refine ⟨page.sorted, ih, fun a here b there => ?_⟩
      exact (page.le_next rfl here).trans_lt ((later.mem_tables there).1 _ rfl)

/-- A key that all tables have comes up. -/
theorem complete (walk : KeysetWalk key start tables pages) {k : κ}
    (present : ∀ rows ∈ tables, ∃ r ∈ rows, key r = k) (after : After start k) :
    ∃ r ∈ pages.flatten, key r = k := by
  induction walk with
  | last page =>
      obtain ⟨r, inside, rfl⟩ := present _ (List.mem_singleton_self _)
      rw [List.flatten_singleton]
      rcases page.mem_or_after inside after with here | ⟨k, goes, -⟩
      · exact ⟨r, here, rfl⟩
      · cases goes
  | next page later ih =>
      obtain ⟨r, inside, rfl⟩ := present _ List.mem_cons_self
      rw [List.flatten_cons]
      rcases page.mem_or_after inside after with here | ⟨k, goes, lt⟩
      · exact ⟨r, List.mem_append_left _ here, rfl⟩
      · cases goes
        obtain ⟨r', there, same⟩ := ih (fun rows member => present rows (List.mem_cons_of_mem _ member))
          (by simpa [After] using lt)
        exact ⟨r', List.mem_append_right _ there, same⟩

end KeysetWalk

/-- Fewer keys of a finite set are after a later start. -/
theorem card_after_lt {keys : Finset κ} {start : Option κ} {k : κ} (member : k ∈ keys)
    (after : After start k) :
    (keys.filter (After (some k))).card < (keys.filter (After start)).card := by
  refine Finset.card_lt_card (Finset.ssubset_iff_of_subset ?_ |>.mpr ⟨k, ?_, ?_⟩)
  · intro k' later
    obtain ⟨inside, lt⟩ := Finset.mem_filter.mp later
    exact Finset.mem_filter.mpr ⟨inside, after.trans (lt k rfl)⟩
  · exact Finset.mem_filter.mpr ⟨member, after⟩
  · intro later
    exact lt_irrefl k ((Finset.mem_filter.mp later).2 k rfl)

end UnifiedInfraTopology.Lib
