import UnifiedInfraTopology.Lib.Table

/-!
# Transactions with row locks

Transactions over one table.  A statement of a transaction sees the committed rows and its own
versions of them; a row it writes, or selects for update, is locked until the end of the transaction.
A statement that meets a lock of another transaction gives up.  A commit publishes the versions of a
transaction at once, a rollback drops them.

`Moves R` is the invariant of such tables: every version is an `R`-move of the committed row, and that
row does not change under the lock.  `Apart i` is what the statements of other transactions leave
alone.
-/

namespace UnifiedInfraTopology.Lib

/-- A table with the versions that open transactions have written. -/
structure LockedTable (ι α : Type) {κ : Type} (key : α → κ) where
  committed : Table α key
  written : κ → Option (ι × α)
  keyed : ∀ k i r, written k = some (i, r) → key r = k

namespace LockedTable

variable {ι α κ : Type} {key : α → κ} [DecidableEq ι] [DecidableEq κ]

/-- No transaction has written. -/
def ofTable (table : Table α key) : LockedTable ι α key := ⟨table, fun _ => none, nofun⟩

/-- The version of a committed row that a transaction sees. -/
def version (d : LockedTable ι α key) (i : ι) (r : α) : α :=
  match d.written (key r) with
  | some (j, r') => if j = i then r' else r
  | none => r

omit [DecidableEq κ] in
theorem key_version (d : LockedTable ι α key) (i : ι) (r : α) : key (d.version i r) = key r := by
  unfold version
  split
  · rename_i j r' written
    split
    · exact d.keyed _ _ _ written
    · rfl
  · rfl

/-- The table that a transaction sees. -/
def view (d : LockedTable ι α key) (i : ι) : Table α key :=
  d.committed.update (fun _ => true) (d.version i) (d.key_version i)

theorem find?_view (d : LockedTable ι α key) (i : ι) (k : κ) :
    (d.view i).find? k = (d.committed.find? k).map (d.version i) := by
  simp [view, Table.find?_update]

/-- Another transaction has locked the row. -/
def lockedFrom (d : LockedTable ι α key) (i : ι) (k : κ) : Bool :=
  (d.written k).any fun e => decide (e.1 ≠ i)

/-- Rewrite every row that satisfies `p`, and lock it: the number of rows, unless another transaction
has locked one of them. -/
def write (d : LockedTable ι α key) (i : ι) (p : α → Bool) (f : α → α)
    (keeps : ∀ r, key (f r) = key r) : Option (Nat × LockedTable ι α key) :=
  if (d.view i).rows.any fun r => p r && d.lockedFrom i (key r) then none
  else some ((d.view i).matched p, {
    committed := d.committed
    written := fun k =>
      match (d.view i).find? k with
      | some r => if p r then some (i, f r) else d.written k
      | none => d.written k
    keyed := by
      intro k j r' written
      split at written
      · rename_i r found
        split at written
        · cases written
          exact (keeps r).trans (Table.key_of_find? found)
        · exact d.keyed k j r' written
      · exact d.keyed k j r' written })

/-- The transaction gives up its versions and locks. -/
def rollback (d : LockedTable ι α key) (i : ι) : LockedTable ι α key where
  committed := d.committed
  written k := (d.written k).filter fun e => decide (e.1 ≠ i)
  keyed := by
    intro k j r written
    exact d.keyed k j r (Option.filter_eq_some_iff.mp written).1

/-- The transaction publishes its versions. -/
def commit (d : LockedTable ι α key) (i : ι) : LockedTable ι α key :=
  { d.rollback i with committed := d.view i }

section

variable {d d' : LockedTable ι α key} {i j : ι} {p : α → Bool} {f : α → α}
  {keeps : ∀ r, key (f r) = key r} {n : Nat} {k : κ} {r r' : α}

omit [DecidableEq κ] in
theorem version_of_written (own : d.written (key r) = some (i, r')) : d.version i r = r' := by
  simp [version, own]

omit [DecidableEq κ] in
theorem version_of_apart (apart : ∀ r', d.written (key r) ≠ some (i, r')) : d.version i r = r := by
  unfold version
  split
  · rename_i j r' written
    split
    · rename_i same
      exact (apart r' (same ▸ written)).elim
    · rfl
  · rfl

/-- What a transaction has written after one of its own statements. -/
theorem written_write (done : d.write i p f keeps = some (n, d')) :
    d'.committed = d.committed ∧ n = (d.view i).matched p ∧
      (∀ r, (d.view i).find? k = some r → p r = true → d'.written k = some (i, f r) ∧
        ∀ j ≠ i, ∀ r', d.written k ≠ some (j, r')) ∧
      ((∀ r, (d.view i).find? k = some r → p r = false) → d'.written k = d.written k) := by
  unfold write at done
  split at done
  · cases done
  · rename_i unlocked
    cases done
    refine ⟨rfl, rfl, fun r found chosen => ⟨by simp [found, chosen], ?_⟩, fun others => ?_⟩
    · rintro j apart r' written
      simp only [List.any_eq_true, Bool.and_eq_true, not_exists, not_and] at unlocked
      refine unlocked r (Table.mem_of_find? found) chosen ?_
      rw [lockedFrom, Table.key_of_find? found, written]
      simpa using apart
    · dsimp only
      split
      · rename_i r found
        rw [others r found]
        rfl
      · rfl

/-- A version after a statement is one that it wrote, or was there before. -/
theorem written_cases (done : d.write i p f keeps = some (n, d'))
    (written : d'.written k = some (j, r')) :
    (j = i ∧ ∃ r, (d.view i).find? k = some r ∧ p r = true ∧ r' = f r) ∨
      d.written k = some (j, r') := by
  obtain ⟨-, -, chosen, others⟩ := written_write (k := k) done
  by_cases hit : ∃ r, (d.view i).find? k = some r ∧ p r = true
  · obtain ⟨r, found, picked⟩ := hit
    rw [(chosen r found picked).1] at written
    cases written
    exact Or.inl ⟨rfl, r, found, picked, rfl⟩
  · rw [others] at written
    · exact Or.inr written
    · intro r found
      rw [Bool.eq_false_iff]
      exact fun picked => hit ⟨r, found, picked⟩

omit [DecidableEq κ] in
theorem written_rollback : (d.rollback i).written k = some (j, r') ↔
    d.written k = some (j, r') ∧ j ≠ i := by
  simp [rollback, Option.filter_eq_some_iff]

omit [DecidableEq κ] in
theorem written_commit : (d.commit i).written k = some (j, r') ↔
    d.written k = some (j, r') ∧ j ≠ i := written_rollback

theorem find?_commit : (d.commit i).committed.find? k = (d.committed.find? k).map (d.version i) :=
  d.find?_view i k

/-- The commit publishes a version. -/
theorem find?_commit_written (written : d.written k = some (i, r'))
    (stored : d.committed.find? k = some r) : (d.commit i).committed.find? k = some r' := by
  rw [find?_commit, stored, Option.map_some, version_of_written]
  rw [Table.key_of_find? stored]
  exact written

/-! ## Other transactions -/

/-- What is left of a transaction: its versions, and the committed rows under its locks. -/
structure Apart (i : ι) (d d' : LockedTable ι α key) : Prop where
  written : ∀ k r, d'.written k = some (i, r) ↔ d.written k = some (i, r)
  committed : ∀ k r, d.written k = some (i, r) → d'.committed.find? k = d.committed.find? k

omit [DecidableEq ι] in
theorem Apart.refl (i : ι) (d : LockedTable ι α key) : Apart i d d :=
  ⟨fun _ _ => Iff.rfl, fun _ _ _ => rfl⟩

theorem apart_write (other : j ≠ i) (done : d.write j p f keeps = some (n, d')) : Apart i d d' := by
  have parts := fun k => written_write (k := k) done
  refine ⟨fun k r => ?_, fun k r _ => by rw [(parts k).1]⟩
  obtain ⟨-, -, chosen, others⟩ := parts k
  by_cases hit : ∃ r, (d.view j).find? k = some r ∧ p r = true
  · obtain ⟨r', found, picked⟩ := hit
    obtain ⟨mine, free⟩ := chosen r' found picked
    constructor
    · intro written
      rw [mine] at written
      cases written
      exact (other rfl).elim
    · intro written
      exact (free i other.symm r written).elim
  · rw [others]
    intro r' found
    rw [Bool.eq_false_iff]
    exact fun picked => hit ⟨r', found, picked⟩

theorem apart_rollback (other : j ≠ i) : Apart i d (d.rollback j) :=
  ⟨fun _ _ => ⟨fun written => (written_rollback.mp written).1,
    fun written => written_rollback.mpr ⟨written, other.symm⟩⟩, fun _ _ _ => rfl⟩

theorem apart_commit (other : j ≠ i) : Apart i d (d.commit j) := by
  refine ⟨(apart_rollback other).written, fun k r written => ?_⟩
  rw [find?_commit]
  cases stored : d.committed.find? k with
  | none => rfl
  | some r' =>
      rw [Option.map_some, version_of_apart]
      intro r'' own
      rw [Table.key_of_find? stored, written] at own
      cases own
      exact other rfl

/-! ## Moves -/

/-- Every version is a move of the committed row. -/
def Moves (R : ι → α → α → Prop) (d : LockedTable ι α key) : Prop :=
  ∀ k i r', d.written k = some (i, r') → ∃ r, d.committed.find? k = some r ∧ R i r r'

variable {R : ι → α → α → Prop}

omit [DecidableEq ι] in
theorem moves_ofTable (table : Table α key) : Moves R (ofTable table : LockedTable ι α key) := by
  intro k i r' written
  cases written

theorem Moves.write (moves : Moves R d) (done : d.write i p f keeps = some (n, d'))
    (step : ∀ k r, d.committed.find? k = some r → p (d.version i r) = true →
      R i r (f (d.version i r))) : Moves R d' := by
  intro k j r' written
  rw [(written_write (k := k) done).1]
  rcases written_cases done written with ⟨rfl, v, found, picked, rfl⟩ | before
  · rw [find?_view, Option.map_eq_some_iff] at found
    obtain ⟨r, stored, rfl⟩ := found
    exact ⟨r, stored, step k r stored picked⟩
  · exact moves k j r' before

theorem Moves.rollback (moves : Moves R d) (i : ι) : Moves R (d.rollback i) :=
  fun k j r' written => moves k j r' (written_rollback.mp written).1

theorem Moves.commit (moves : Moves R d) (i : ι) : Moves R (d.commit i) := by
  intro k j r' written
  obtain ⟨before, other⟩ := written_commit.mp written
  rw [(apart_commit other.symm).committed k r' before]
  exact moves k j r' before

/-- A committed row moves at most by the commit of a version of it. -/
theorem Moves.committed (moves : Moves R d) (stored : d.committed.find? k = some r) :
    ∃ r', (d.commit i).committed.find? k = some r' ∧ (r' = r ∨ R i r r') := by
  rw [find?_commit, stored, Option.map_some]
  refine ⟨_, rfl, ?_⟩
  by_cases own : ∃ r', d.written (key r) = some (i, r')
  · obtain ⟨r', written⟩ := own
    rw [version_of_written written]
    obtain ⟨r'', found, move⟩ := moves _ i r' written
    rw [Table.key_of_find? stored, stored] at found
    cases found
    exact Or.inr move
  · exact Or.inl (version_of_apart (not_exists.mp own))

end

end LockedTable

end UnifiedInfraTopology.Lib
