import Mathlib.Data.List.Nodup
import Mathlib.Data.List.Basic

/-!
# Keyed tables

A table with a primary key, as a store of rows sees it: the rows in insertion order, together
with the proof that no key occurs twice.  The operations are the statements such a store offers:
`find?` reads by key, `insert` is refused on a key that is present, `update` rewrites every row
that satisfies a condition (`matched` is the number of rows it touches, `changed` the number of those
it does not leave as they are), `put` stores a row whether its key is present or not, `erase` removes
rows.

`find?_update`, `find?_insert` and `find?_erase` say what each statement does to the row of one
key, so a proof about a row never looks at the list.
-/

namespace UnifiedInfraTopology.Lib

/-- Rows with pairwise distinct keys. -/
structure Table (α : Type) {κ : Type} (key : α → κ) where
  rows : List α
  nodup : (rows.map key).Nodup

namespace Table

variable {α κ : Type} {key : α → κ}

instance [DecidableEq α] : DecidableEq (Table α key) := fun s t =>
  if h : s.rows = t.rows then isTrue (by cases s; cases t; cases h; rfl)
  else isFalse fun e => h (congrArg Table.rows e)

/-- The table without rows. -/
def empty : Table α key := ⟨[], List.nodup_nil⟩

@[simp] theorem rows_empty : (empty : Table α key).rows = [] := rfl

theorem eq_of_mem {t : Table α key} {r r' : α} (hr : r ∈ t.rows) (hr' : r' ∈ t.rows)
    (same : key r = key r') : r = r' :=
  List.inj_on_of_nodup_map t.nodup hr hr' same

/-! ## Reading -/

section Read

variable [DecidableEq κ]

/-- The row stored under a key. -/
def find? (t : Table α key) (k : κ) : Option α := t.rows.find? fun r => key r = k

@[simp] theorem find?_empty (k : κ) : (empty : Table α key).find? k = none := rfl

theorem find?_eq_some_iff {t : Table α key} {k : κ} {r : α} :
    t.find? k = some r ↔ r ∈ t.rows ∧ key r = k := by
  constructor
  · intro found
    exact ⟨List.mem_of_find?_eq_some found, by simpa using List.find?_some found⟩
  · rintro ⟨member, rfl⟩
    cases found : t.find? (key r) with
    | none =>
        have absent := List.find?_eq_none.mp found r member
        simp at absent
    | some r' =>
        have same : key r' = key r := by simpa using List.find?_some found
        rw [eq_of_mem (List.mem_of_find?_eq_some found) member same]

theorem find?_eq_none_iff {t : Table α key} {k : κ} :
    t.find? k = none ↔ ∀ r ∈ t.rows, key r ≠ k := by
  simp [find?, List.find?_eq_none]

theorem mem_of_find? {t : Table α key} {k : κ} {r : α} (found : t.find? k = some r) :
    r ∈ t.rows := (find?_eq_some_iff.mp found).1

theorem key_of_find? {t : Table α key} {k : κ} {r : α} (found : t.find? k = some r) :
    key r = k := (find?_eq_some_iff.mp found).2

theorem find?_of_mem {t : Table α key} {r : α} (member : r ∈ t.rows) :
    t.find? (key r) = some r := find?_eq_some_iff.mpr ⟨member, rfl⟩

end Read

/-! ## Updating in place -/

/-- Rewrite every row that satisfies `p`; `f` leaves the key alone. -/
def update (t : Table α key) (p : α → Bool) (f : α → α) (keeps : ∀ r, key (f r) = key r) :
    Table α key where
  rows := t.rows.map fun r => if p r then f r else r
  nodup := by
    have same : key ∘ (fun r => if p r then f r else r) = key := by
      funext r
      simp only [Function.comp_apply]
      split
      · exact keeps r
      · rfl
    rw [List.map_map, same]
    exact t.nodup

/-- The number of rows an update with condition `p` touches. -/
def matched (t : Table α key) (p : α → Bool) : Nat := (t.rows.filter p).length

/-- The number of rows an update changes: those it touches and that are others afterwards. -/
def changed [DecidableEq α] (t : Table α key) (p : α → Bool) (f : α → α) : Nat :=
  t.matched fun r => p r && decide (f r ≠ r)

theorem mem_update {t : Table α key} {p : α → Bool} {f : α → α}
    {keeps : ∀ r, key (f r) = key r} {r' : α} :
    r' ∈ (t.update p f keeps).rows ↔ ∃ r ∈ t.rows, (if p r then f r else r) = r' := by
  simp [update, List.mem_map]

theorem length_update (t : Table α key) (p : α → Bool) (f : α → α)
    (keeps : ∀ r, key (f r) = key r) : (t.update p f keeps).rows.length = t.rows.length :=
  List.length_map _

/-- An update that touches no row does nothing. -/
theorem update_of_matched_zero {t : Table α key} {p : α → Bool} {f : α → α}
    {keeps : ∀ r, key (f r) = key r} (untouched : t.matched p = 0) : t.update p f keeps = t := by
  have none_ : ∀ r ∈ t.rows, ¬p r = true := by
    rw [matched, List.length_eq_zero_iff] at untouched
    exact List.filter_eq_nil_iff.mp untouched
  obtain ⟨rows, nodup⟩ := t
  simp only [update, mk.injEq]
  refine (List.map_congr_left fun r member => ?_).trans (List.map_id rows)
  rw [if_neg (none_ r member)]
  rfl

section Update

variable [DecidableEq κ]

theorem find?_update (t : Table α key) (p : α → Bool) (f : α → α)
    (keeps : ∀ r, key (f r) = key r) (k : κ) :
    (t.update p f keeps).find? k = (t.find? k).map fun r => if p r then f r else r := by
  cases found : t.find? k with
  | none =>
      rw [find?_eq_none_iff] at found
      rw [Option.map_none, find?_eq_none_iff]
      intro r' member
      obtain ⟨r, inside, rfl⟩ := mem_update.mp member
      have := found r inside
      split
      · rwa [keeps]
      · exact this
  | some r =>
      obtain ⟨member, rfl⟩ := find?_eq_some_iff.mp found
      rw [Option.map_some, find?_eq_some_iff]
      refine ⟨mem_update.mpr ⟨r, member, rfl⟩, ?_⟩
      split
      · exact keeps r
      · rfl

/-- An update addressed to one key touches the row of that key, or nothing. -/
theorem matched_key (t : Table α key) (k : κ) (c : α → Bool) :
    t.matched (fun r => decide (key r = k) && c r) = ((t.find? k).any c).toNat := by
  obtain ⟨rows, nodup⟩ := t
  simp only [matched, find?]
  induction rows with
  | nil => rfl
  | cons head tail ih =>
      have tailNodup : (tail.map key).Nodup := (List.nodup_cons.mp nodup).2
      by_cases here : key head = k
      · have rest : tail.filter (fun r => decide (key r = k) && c r) = [] := by
          rw [List.filter_eq_nil_iff]
          intro r member
          have apart : key r ≠ k := by
            intro same
            exact (List.nodup_cons.mp nodup).1 (List.mem_map.mpr ⟨r, member, same.trans here.symm⟩)
          simp [apart]
        by_cases cond : c head = true
        · simp [here, cond, rest]
        · simp [here, cond, rest]
      · rw [List.filter_cons_of_neg (by simp [here]), List.find?_cons_of_neg (by simp [here])]
        exact ih tailNodup

/-- The number of touched rows is one exactly when the key is stored and its row satisfies `c`. -/
theorem matched_key_eq_one {t : Table α key} {k : κ} {c : α → Bool} :
    t.matched (fun r => decide (key r = k) && c r) = 1 ↔
      ∃ r, t.find? k = some r ∧ c r = true := by
  rw [matched_key]
  cases found : t.find? k with
  | none => simp
  | some r => by_cases cond : c r = true <;> simp [cond]

theorem changed_key_eq_one [DecidableEq α] {t : Table α key} {k : κ} {c : α → Bool} {f : α → α} :
    t.changed (fun r => decide (key r = k) && c r) f = 1 ↔
      ∃ r, t.find? k = some r ∧ c r = true ∧ f r ≠ r := by
  simp only [changed, Bool.and_assoc]
  rw [matched_key_eq_one]
  simp only [Bool.and_eq_true, decide_eq_true_eq]

theorem matched_key_eq_zero {t : Table α key} {k : κ} {c : α → Bool}
    (other : t.matched (fun r => decide (key r = k) && c r) ≠ 1) :
    t.matched (fun r => decide (key r = k) && c r) = 0 := by
  rw [matched_key] at other ⊢
  generalize (t.find? k).any c = touched at other ⊢
  cases touched with
  | false => rfl
  | true => exact (other rfl).elim

end Update

/-! ## Inserting and erasing -/

section Edit

variable [DecidableEq κ]

/-- Append a row, unless its key is stored already. -/
def insert (t : Table α key) (r : α) : Option (Table α key) :=
  if fresh : key r ∈ t.rows.map key then none
  else some ⟨t.rows ++ [r], by
    rw [List.map_append]
    refine List.nodup_append.mpr ⟨t.nodup, by simp, ?_⟩
    intro a left b right same
    simp only [List.map_cons, List.map_nil, List.mem_singleton] at right
    exact fresh (right ▸ same ▸ left)⟩

theorem rows_of_insert {t t' : Table α key} {r : α} (inserted : t.insert r = some t') :
    t'.rows = t.rows ++ [r] := by
  unfold insert at inserted
  split at inserted
  · cases inserted
  · cases inserted
    rfl

theorem fresh_of_insert {t t' : Table α key} {r : α} (inserted : t.insert r = some t') :
    t.find? (key r) = none := by
  unfold insert at inserted
  split at inserted
  · cases inserted
  · rename_i fresh
    rw [find?_eq_none_iff]
    intro r' member same
    exact fresh (List.mem_map.mpr ⟨r', member, same⟩)

theorem mem_of_insert {t t' : Table α key} {r r' : α} (inserted : t.insert r = some t') :
    r' ∈ t'.rows ↔ r' ∈ t.rows ∨ r' = r := by
  rw [rows_of_insert inserted]
  simp

theorem find?_of_insert {t t' : Table α key} {r : α} (inserted : t.insert r = some t') (k : κ) :
    t'.find? k = if key r = k then some r else t.find? k := by
  have rows := rows_of_insert inserted
  simp only [find?, rows, List.find?_append]
  split
  · rename_i here
    have absent : t.rows.find? (fun r => decide (key r = k)) = none := by
      have := fresh_of_insert inserted
      rwa [here] at this
    simp [absent, here]
  · rename_i apart
    cases t.rows.find? (fun r => decide (key r = k)) <;> simp [apart]

theorem insert_isSome {t : Table α key} {r : α} :
    (t.insert r).isSome ↔ t.find? (key r) = none := by
  unfold insert
  rw [find?_eq_none_iff]
  split
  · rename_i stored
    obtain ⟨r', member, same⟩ := List.mem_map.mp stored
    simp only [Option.isSome_none, Bool.false_eq_true, ne_eq, false_iff, not_forall, not_not]
    exact ⟨r', member, same⟩
  · rename_i fresh
    simp only [Option.isSome_some, ne_eq, true_iff]
    intro r' member same
    exact fresh (List.mem_map.mpr ⟨r', member, same⟩)

/-- Inserting keeps the row that is stored already. -/
theorem find?_insert (t : Table α key) (r : α) (k : κ) :
    ((t.insert r).getD t).find? k =
      if key r = k then some ((t.find? k).getD r) else t.find? k := by
  cases inserted : t.insert r with
  | some t' =>
      have fresh := fresh_of_insert inserted
      rw [Option.getD_some, find?_of_insert inserted]
      split
      · rename_i here
        rw [← here, fresh, Option.getD_none]
      · rfl
  | none =>
      rw [Option.getD_none]
      split
      · rename_i here
        cases found : t.find? k with
        | some r' => rfl
        | none =>
            have fresh := insert_isSome.mpr (here ▸ found)
            rw [inserted] at fresh
            cases fresh
      · rfl

theorem length_insert (t : Table α key) (r : α) :
    ((t.insert r).getD t).rows.length ≤ t.rows.length + 1 := by
  cases inserted : t.insert r with
  | some t' => simp [rows_of_insert inserted]
  | none => simp

/-- Store a row under its key, in place of the row stored there. -/
def put (t : Table α key) (r : α) : Table α key :=
  (t.insert r).getD (t.update (fun r' => decide (key r' = key r))
    (fun r' => if key r' = key r then r else r') fun r' => by
      split
      · rename_i same
        exact same.symm
      · rfl)

theorem find?_put (t : Table α key) (r : α) (k : κ) :
    (t.put r).find? k = if key r = k then some r else t.find? k := by
  unfold put
  cases inserted : t.insert r with
  | some t' => exact find?_of_insert inserted k
  | none =>
      rw [Option.getD_none, find?_update]
      cases found : t.find? k with
      | none =>
          have apart : key r ≠ k := by
            rintro rfl
            have fresh := insert_isSome.mpr found
            rw [inserted] at fresh
            cases fresh
          simp [apart]
      | some r' =>
          rw [Option.map_some, key_of_find? found]
          by_cases same : key r = k
          · simp [same]
          · simp [same, Ne.symm same]

theorem self_mem_put (t : Table α key) (r : α) : r ∈ (t.put r).rows :=
  mem_of_find? (by rw [find?_put, if_pos rfl])

theorem mem_of_put {t : Table α key} {r r' : α} (member : r' ∈ (t.put r).rows) :
    r' = r ∨ r' ∈ t.rows := by
  have found := find?_of_mem member
  rw [find?_put] at found
  split at found
  · exact .inl (Option.some.inj found).symm
  · exact .inr (mem_of_find? found)

/-- Storing a row that is stored. -/
theorem put_of_mem {t : Table α key} {r : α} (member : r ∈ t.rows) : t.put r = t := by
  have refused : t.insert r = none := by
    rw [← Option.not_isSome_iff_eq_none, insert_isSome, find?_of_mem member]
    nofun
  unfold put
  rw [refused, Option.getD_none]
  obtain ⟨rows, nodup⟩ := t
  simp only [update, mk.injEq]
  refine (List.map_congr_left fun r' inside => ?_).trans (List.map_id rows)
  split
  · rename_i same
    have same := of_decide_eq_true same
    rw [if_pos same]
    exact (eq_of_mem inside member same).symm
  · rfl

/-- Remove every row that satisfies `p`. -/
def erase (t : Table α key) (p : α → Bool) : Table α key :=
  ⟨t.rows.filter fun r => !p r, t.nodup.sublist (List.filter_sublist.map key)⟩

omit [DecidableEq κ] in
theorem mem_erase {t : Table α key} {p : α → Bool} {r : α} :
    r ∈ (t.erase p).rows ↔ r ∈ t.rows ∧ p r = false := by
  simp [erase]

theorem find?_erase (t : Table α key) (p : α → Bool) (k : κ) :
    (t.erase p).find? k = (t.find? k).filter fun r => !p r := by
  cases found : t.find? k with
  | none =>
      rw [Option.filter_none, find?_eq_none_iff]
      intro r member
      exact find?_eq_none_iff.mp found r (mem_erase.mp member).1
  | some r =>
      obtain ⟨member, rfl⟩ := find?_eq_some_iff.mp found
      cases gone : p r with
      | true =>
          simp only [Option.filter_some, gone, Bool.not_true, Bool.false_eq_true, ↓reduceIte]
          rw [find?_eq_none_iff]
          intro r' inside same
          have := eq_of_mem (mem_erase.mp inside).1 member same
          rw [this] at inside
          simpa [gone] using (mem_erase.mp inside).2
      | false =>
          simp only [Option.filter_some, gone, Bool.not_false, ↓reduceIte]
          exact find?_of_mem (mem_erase.mpr ⟨member, gone⟩)

/-! ## Overlays -/

/-- The table after some rows were stored over it: each as `land` makes it from what was stored
under its key. -/
structure Overlaid (land : α → Option α → α) (rows : List α) (t t' : Table α key) : Prop where
  row : ∀ r ∈ rows, t'.find? (key r) = some (land r (t.find? (key r)))
  other : ∀ k, k ∉ rows.map key → t'.find? k = t.find? k

variable {land : α → Option α → α} {rows : List α} {t t' t'' : Table α key}

theorem overlaid_nil (t : Table α key) : Overlaid land [] t t where
  row := List.forall_mem_nil _
  other _ _ := rfl

/-- One more row. -/
theorem Overlaid.concat (overlaid : Overlaid land rows t t') {r : α} (fresh : key r ∉ rows.map key)
    (stored : ∀ k, t''.find? k = if key r = k then some (land r (t'.find? k)) else t'.find? k) :
    Overlaid land (rows ++ [r]) t t'' := by
  refine ⟨fun r' member => ?_, fun k absent => ?_⟩
  · rw [stored]
    rcases List.mem_append.mp member with earlier | here
    · have apart : key r ≠ key r' := by
        intro same
        exact fresh (List.mem_map.mpr ⟨r', earlier, same.symm⟩)
      rw [if_neg apart]
      exact overlaid.row r' earlier
    · cases List.mem_singleton.mp here
      rw [if_pos rfl, overlaid.other _ fresh]
  · rw [List.map_append, List.mem_append, not_or] at absent
    have apart : key r ≠ k := by
      intro same
      exact absent.2 (by simp [same])
    rw [stored, if_neg apart]
    exact overlaid.other k absent.1

/-- The rows are the landed ones, and those under other keys. -/
theorem Overlaid.mem_rows (overlaid : Overlaid land rows t t')
    (keeps : ∀ r stored, key (land r stored) = key r) {r : α} :
    r ∈ t'.rows ↔ (∃ r' ∈ rows, r = land r' (t.find? (key r'))) ∨
      r ∈ t.rows ∧ key r ∉ rows.map key := by
  have stored : ∀ {t : Table α key}, r ∈ t.rows ↔ t.find? (key r) = some r :=
    ⟨find?_of_mem, mem_of_find?⟩
  by_cases listed : key r ∈ rows.map key
  · obtain ⟨r', member, same⟩ := List.mem_map.mp listed
    have found := overlaid.row r' member
    rw [stored, ← same, found]
    constructor
    · intro eq
      exact Or.inl ⟨r', member, (Option.some.inj eq).symm⟩
    · intro either
      rcases either with ⟨r'', member', rfl⟩ | ⟨-, absent⟩
      · rw [keeps] at same
        rw [← found, same]
        exact overlaid.row r'' member'
      · exact (absent (List.mem_map.mpr ⟨r', member, rfl⟩)).elim
  · rw [stored, overlaid.other _ listed, ← stored]
    constructor
    · intro member
      exact Or.inr ⟨member, listed⟩
    · intro either
      rcases either with ⟨r', member, rfl⟩ | ⟨member, -⟩
      · exact (listed (List.mem_map.mpr ⟨r', member, (keeps r' _).symm⟩)).elim
      · exact member

end Edit

end Table

end UnifiedInfraTopology.Lib
