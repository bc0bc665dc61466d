import Mathlib.Data.List.Sort
import UnifiedInfraTopology.Lib.GoString
import UnifiedInfraTopology.Lib.Contract
import UnifiedInfraTopology.Lib.Sha256
import UnifiedInfraTopology.Lib.Table

/-!
# Migrations of a MySQL schema

`internal/migration` for MySQL: `Apply` runs the steps of a schema in their order under a named lock
and keeps a ledger of them.  Every statement commits by itself, a step is marked dirty before its
first statement and applied after its last, and a failure is recorded.

A statement may be refused, take effect although it answers with an error, or never answer; a
canceled context, a lost connection and a crash of the process are such statements.  The statements
of the steps after the first change the schema and leave the ledger alone; the schema is not
modelled, only which of them were sent (`Db.executed`).
-/

namespace UnifiedInfraTopology.Migration

open Lib

structure MigrationStep where
  version : Nat
  name : String
  checksum : String
  sql : String
deriving DecidableEq

/-- `loadSteps`, of any embedded scripts: names and texts, in the order of their versions. -/
def loadSteps (scripts : List (String × String)) : List MigrationStep :=
  scripts.zipIdx.map fun ((name, data), version) =>
    ⟨version, name, String.ofList (hexEncode (sha256 (utf8 data))), data⟩

/-- The state of a ledger row; `ck_migration_state` admits no other. -/
inductive MigrationState where
  | dirty
  | failed
  | applied
deriving DecidableEq

def MigrationState.text : MigrationState → String
  | dirty => "dirty"
  | failed => "failed"
  | applied => "applied"

/-- A row of `topology_schema_migrations`, less its times, which nothing reads. -/
structure LedgerRow where
  version : Nat
  name : String
  checksum : String
  state : MigrationState
  errorDetail : Option String
deriving DecidableEq

abbrev Ledger : Type := Table LedgerRow LedgerRow.version

/-- The row of a version; there is none before the table exists. -/
def row? (ledger : Option Ledger) (version : Nat) : Option LedgerRow :=
  ledger.bind (·.find? version)

/-! ## The database -/

inductive Sql where
  | selectDatabase
  | getLock (name : String) (seconds : Nat)
  | autocommit
  | releaseLock (name : String)
  /-- The script of the first step, which creates the ledger where there is none. -/
  | bootstrap
  /-- `SELECT ... ORDER BY version`. -/
  | readLedger
  | insertLedger (row : LedgerRow)
  /-- A statement of the script of a later step. -/
  | execute (version : Nat) (query : String)
  /-- `UPDATE ... SET state = 'applied', error_detail = NULL WHERE version = ?`. -/
  | recordApplied (version : Nat)
  /-- `UPDATE ... SET state = 'failed', error_detail = ? WHERE version = ?`. -/
  | recordFailed (version : Nat) (detail : String)
deriving DecidableEq

/-- What a statement reads. -/
abbrev Sql.Value : Sql → Type
  | selectDatabase => Option String
  | getLock _ _ | releaseLock _ => Option Int
  | autocommit => Int
  | readLedger => List LedgerRow
  | _ => Unit

/-- No value is an error. -/
abbrev Sql.Answer (c : Sql) : Type := Option c.Value

/-- A statement of a step as it was sent: in which run, and what the ledger held then. -/
structure Executed where
  run : Nat
  version : Nat
  query : String
  ledger : Option Ledger

/-- The ledger (none before the table exists), the number of the current run, and the statements of
the steps after the first that were sent so far. -/
structure Db where
  ledger : Option Ledger
  run : Nat
  executed : List Executed

namespace Db

def empty : Db := ⟨none, 0, []⟩

/-- `UPDATE ... WHERE version = ?`. -/
def updateRow (ledger : Ledger) (version : Nat) (state : MigrationState)
    (errorDetail : Option String) : Ledger :=
  ledger.update (fun row => decide (row.version = version))
    (fun row => { row with state, errorDetail }) fun _ => rfl

/-- The ledger after a statement; none where the database refuses it. -/
def effect (db : Db) : Sql → Option Db
  | .bootstrap => some { db with ledger := some (db.ledger.getD .empty) }
  | .readLedger => db.ledger.map fun _ => db
  | .insertLedger row =>
      db.ledger.bind fun ledger => (ledger.insert row).map fun ledger =>
        { db with ledger := some ledger }
  | .recordApplied version =>
      db.ledger.map fun ledger => { db with ledger := some (updateRow ledger version .applied none) }
  | .recordFailed version detail =>
      db.ledger.map fun ledger =>
        { db with ledger := some (updateRow ledger version .failed (some detail)) }
  | _ => some db

/-- Record the statements of steps. -/
def log (db : Db) : Sql → Db
  | .execute version query =>
      { db with executed := db.executed ++ [⟨db.run, version, query, db.ledger⟩] }
  | _ => db

end Db

/-- How a statement goes. -/
inductive Fate where
  | done
  | refused
  /-- It takes effect and answers with an error. -/
  | lost
  /-- It never answers: the process stops here. -/
  | hung (taken : Bool)
deriving DecidableEq

/-- The fate of a statement and what the session answers. -/
structure SqlMove where
  fate : Fate
  database : Option String
  lock : Option Int
  autocommit : Int

def SqlMove.value (m : SqlMove) (db : Db) : (c : Sql) → c.Value
  | .selectDatabase => m.database
  | .getLock _ _ | .releaseLock _ => m.lock
  | .autocommit => m.autocommit
  | .readLedger =>
      (db.ledger.getD .empty).rows.mergeSort fun a b => decide (a.version ≤ b.version)
  | .bootstrap | .insertLedger _ | .execute _ _ | .recordApplied _ | .recordFailed _ _ => ()

def sqlHandler : Handler Sql Sql.Answer SqlMove Db := fun c m db =>
  let sent := db.log c
  match m.fate, sent.effect c with
  | .done, some db' => (some (some (m.value sent c)), db')
  | .lost, some db' => (some none, db')
  | .hung true, some db' => (none, db')
  | .hung _, _ => (none, sent)
  | _, _ => (some none, sent)

/-! ## The ledger -/

abbrev SqlProg (α : Type) : Type := Prog Sql Sql.Answer String α

def ask (c : Sql) : SqlProg (Option c.Value) := Prog.perform c

/-- The loop of `verifyLedger`: the versions that are applied. -/
def verifyRows (steps : List MigrationStep) : List Nat → List LedgerRow → Except String (List Nat)
  | applied, [] => .ok applied
  | applied, row :: rows =>
      match steps[row.version]? with
      | none =>
          .error ("unknown migration version " ++ toString row.version ++
            "; use the matching application release")
      | some step =>
          if row.checksum ≠ step.checksum ∨ row.name ≠ step.name then
            .error ("migration " ++ toString row.version ++
              " checksum/name mismatch; never edit previously applied SQL")
          else if row.state ≠ .applied then
            .error ("migration " ++ toString row.version ++ " is " ++ row.state.text ++
              "; manual recovery required: inspect schema and ledger before an " ++
              "operator-approved repair")
          else if 0 < row.version ∧ row.version - 1 ∉ applied then
            .error ("migration ledger has a missing predecessor for version " ++
              toString row.version ++ "; manual recovery required")
          else verifyRows steps (row.version :: applied) rows

def verifyLedger (steps : List MigrationStep) : SqlProg (List Nat) := do
  let rows ← ask .readLedger
  match (rows : Option (List LedgerRow)) with
  | none => .raise "read migration ledger"
  | some rows =>
      match verifyRows steps [] rows with
      | .error e => .raise e
      | .ok applied => .ret applied

def ledgerRow (step : MigrationStep) (state : MigrationState) : LedgerRow :=
  ⟨step.version, step.name, step.checksum, state, none⟩

/-! ## Steps -/

/-- `failStep`.  It has a context of its own; whether the failure is recorded does not matter. -/
def failStep {α : Type} (version : Nat) (detail : String) : SqlProg α := do
  let _ ← ask (.recordFailed version detail)
  .raise ("migration " ++ toString version ++ " failed (" ++ detail ++
    "); manual recovery required: inspect schema and ledger before an operator-approved repair")

/-- The non-blank statements of a script. -/
def statements (sql : String) : List String :=
  ((sql.toList.splitOn ';').map fun query => trimSpace (String.ofList query)).filter (· ≠ "")

/-- Send the statements of a step; `sent` of them have been sent before. -/
def executeStatements (version : Nat) : Nat → List String → SqlProg Unit
  | _, [] => .ret ()
  | sent, query :: queries => do
      let done ← ask (.execute version query)
      match (done : Option Unit) with
      | none => failStep version ("statement " ++ toString (sent + 1) ++ " failed")
      | some () => executeStatements version (sent + 1) queries

def applyStep (step : MigrationStep) : SqlProg Unit := do
  let marked ← ask (.insertLedger (ledgerRow step .dirty))
  match (marked : Option Unit) with
  | none =>
      .raise ("mark migration " ++ toString step.version ++
        " dirty; manual recovery may be required")
  | some () => do
      executeStatements step.version 0 (statements step.sql)
      let recorded ← ask (.recordApplied step.version)
      match (recorded : Option Unit) with
      | none => failStep step.version "record applied state failed"
      | some () => .ret ()

/-- The steps after the first, less those that are applied. -/
def applySteps (applied : List Nat) : List MigrationStep → SqlProg Unit
  | [] => .ret ()
  | step :: steps =>
      if step.version ∈ applied then applySteps applied steps
      else do
        applyStep step
        applySteps applied steps

/-- Record the first step, unless it is recorded. -/
def recordBootstrap (applied : List Nat) (first : MigrationStep) : SqlProg Unit :=
  if 0 ∈ applied then .ret ()
  else do
    let recorded ← ask (.insertLedger (ledgerRow first .applied))
    match (recorded : Option Unit) with
    | none => .raise "record bootstrap ledger; manual recovery required"
    | some () => .ret ()

def applyLocked : List MigrationStep → SqlProg Unit
  | [] => .raise "index out of range"
  | first :: rest => do
      let created ← ask .bootstrap
      match (created : Option Unit) with
      | none => .raise "bootstrap migration ledger failed; manual recovery required"
      | some () => do
          let applied ← verifyLedger (first :: rest)
          recordBootstrap applied first
          applySteps applied rest

/-! ## The lock -/

/-- What runs while the lock is held. -/
def underLock (steps : List MigrationStep) : SqlProg Unit := do
  let autocommit ← ask .autocommit
  match (autocommit : Option Int) with
  | none => .raise "check migration autocommit"
  | some autocommit =>
      if autocommit ≠ 1 then
        .raise "migration requires MySQL session autocommit=1; no schema changes applied"
      else applyLocked steps

/-- The deferred function: release the lock, in a context of its own. -/
def releaseAfter (lockName : String) (result : Except String Unit) : SqlProg Unit := do
  let released ← ask (.releaseLock lockName)
  match (released : Option (Option Int)), result with
  | some (some 1), .ok () => .ret ()
  | some (some 1), .error e => .raise e
  | _, .ok () =>
      .raise "release migration lock failed; connection discarded: lock ownership not confirmed"
  | _, .error e =>
      .raise (e ++ "\nrelease migration lock failed; connection discarded: " ++
        "lock ownership not confirmed")

/-- The name of the lock on a database. -/
def lockNameOf (database : String) : String :=
  "topology:" ++ String.ofList ((hexEncode (sha256 (utf8 database))).take 48)

def withLock (lockName : String) (steps : List MigrationStep) : SqlProg Unit := do
  let locked ← ask (.getLock lockName 30)
  match (locked : Option (Option Int)) with
  | none => .raise "acquire migration lock"
  | some (some 1) => do
      let result ← Prog.reify (underLock steps)
      releaseAfter lockName result
  | some _ => .raise "migration lock unavailable; no schema changes applied"

def applyMySQL (steps : List MigrationStep) : SqlProg Unit := do
  let database ← ask .selectDatabase
  match (database : Option (Option String)) with
  | none => .raise "resolve migration database"
  | some none | some (some "") => .raise "migration requires a selected target database"
  | some (some database) => withLock (lockNameOf database) steps

/-! ## Histories -/

/-- A run of `Apply`, as far as its script goes. -/
def applyRun (scripts : List (String × String)) (db : Db) (moves : List SqlMove) : Db :=
  let db' := ((applyMySQL (loadSteps scripts)).run sqlHandler moves db).2.1
  { db' with run := db'.run + 1 }

/-- Runs of `Apply`, one after the other, from an empty database. -/
def applyRuns (scripts : List (String × String)) (history : List (List SqlMove)) : Db :=
  history.foldl (applyRun scripts) .empty

end UnifiedInfraTopology.Migration
