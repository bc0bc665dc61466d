import Mathlib.Logic.Basic

/-!
# Transactions with savepoints

A session with a store of arbitrary content: what it sees, what its transaction started from, and the
savepoints of that transaction, the innermost first.  A savepoint exists only within a transaction.
An operation that the store refuses is none.

`Session.Within` says where a session stands; each operation has a lemma that says where it leads from
there.
-/

namespace UnifiedInfraTopology.Lib

structure Session (κ : Type) where
  content : κ
  /-- What the transaction started from; none outside one. -/
  start : Option κ
  savepoints : List κ

namespace Session

variable {κ : Type} {s s' s'' : Session κ} {start saved : κ}

/-- A session that has nothing open. -/
def idle (content : κ) : Session κ := ⟨content, none, []⟩

def begin? (s : Session κ) : Option (Session κ) :=
  match s.start with
  | none => some ⟨s.content, some s.content, []⟩
  | some _ => none

def savepoint? (s : Session κ) : Option (Session κ) :=
  s.start.map fun _ => { s with savepoints := s.content :: s.savepoints }

/-- The innermost savepoint goes; what came after it stays. -/
def release? (s : Session κ) : Option (Session κ) :=
  match s.savepoints with
  | [] => none
  | _ :: outer => some { s with savepoints := outer }

/-- Back to the innermost savepoint, which stays. -/
def rollbackTo? (s : Session κ) : Option (Session κ) :=
  match s.savepoints with
  | [] => none
  | saved :: _ => some { s with content := saved }

def commit? (s : Session κ) : Option (Session κ) := s.start.map fun _ => idle s.content

/-- What becomes of the store when the connection is closed. -/
def close (s : Session κ) : Session κ := idle (s.start.getD s.content)

def rollback? (s : Session κ) : Option (Session κ) := s.start.map fun _ => s.close

def update? (s : Session κ) (f : κ → Option κ) : Option (Session κ) :=
  (f s.content).map fun content => { s with content }

/-! ## Within a transaction -/

/-- The session is in a transaction that started from `start`, with some savepoints open. -/
structure Within (start : κ) (savepoints : List κ) (s : Session κ) : Prop where
  started : s.start = some start
  open_ : s.savepoints = savepoints

variable {savepoints : List κ}

theorem within_begin (begun : s.begin? = some s') :
    s'.Within s.content [] ∧ s'.content = s.content := by
  unfold begin? at begun
  split at begun
  · cases begun
    exact ⟨⟨rfl, rfl⟩, rfl⟩
  · cases begun

theorem Within.savepoint (within : s.Within start savepoints) (set_ : s.savepoint? = some s') :
    s'.Within start (s.content :: savepoints) ∧ s'.content = s.content := by
  rw [savepoint?, within.started] at set_
  cases set_
  exact ⟨⟨rfl, congrArg (s.content :: ·) within.open_⟩, rfl⟩

theorem Within.update (within : s.Within start savepoints) {f : κ → Option κ}
    (updated : s.update? f = some s') :
    s'.Within start savepoints ∧ f s.content = some s'.content := by
  obtain ⟨content, taken, rfl⟩ := Option.map_eq_some_iff.mp updated
  exact ⟨⟨within.started, within.open_⟩, taken⟩

theorem Within.release (within : s.Within start (saved :: savepoints))
    (released : s.release? = some s') : s'.Within start savepoints ∧ s'.content = s.content := by
  rw [release?, within.open_] at released
  cases released
  exact ⟨⟨within.started, rfl⟩, rfl⟩

theorem Within.rollbackTo (within : s.Within start (saved :: savepoints))
    (undone : s.rollbackTo? = some s') :
    s'.Within start (saved :: savepoints) ∧ s'.content = saved := by
  rw [rollbackTo?, within.open_] at undone
  cases undone
  exact ⟨⟨within.started, rfl⟩, rfl⟩

theorem Within.commit (within : s.Within start savepoints) (committed : s.commit? = some s') :
    s' = idle s.content := by
  rw [commit?, within.started] at committed
  cases committed
  rfl

theorem Within.close (within : s.Within start savepoints) : s.close = idle start := by
  rw [Session.close, within.started]
  rfl

theorem Within.rollback (within : s.Within start savepoints) (undone : s.rollback? = some s') :
    s' = idle start := by
  rw [rollback?, within.started] at undone
  cases undone
  exact within.close

end Session

end UnifiedInfraTopology.Lib
