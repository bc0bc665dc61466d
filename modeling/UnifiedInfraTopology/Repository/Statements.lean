import UnifiedInfraTopology.Lib.RowLocks
import UnifiedInfraTopology.Lib.Interleave
import UnifiedInfraTopology.Repository.RunInvariants

/-!
# Claims and cancellations, statement by statement

`claim` and `Cancel` of `inventory_runs.go` as programs over the statements they send.  Each is one
transaction; several of them, of any processes, run at once against the run table, whose rows a
transaction locks when it writes them or selects them for update.  A plain select reads the committed
rows and the transaction's own versions.

A statement may fail: an I/O error, a deadlock, or a wait for a lock that times out.  One that waits
and then proceeds is one that runs later.  The stages of a claim are separate definitions, so that a
proof can say which one a call has reached.
-/

namespace UnifiedInfraTopology

open Lib

/-! ## Statements -/

/-- The updates that claims and cancellations send. -/
inductive RunUpdate where
  | expireCanceled (now : Time)
  | expireFailed (now : Time)
  | claim (runId : String) (startedAt : Time)
  | cancel (runId : String) (now : Time)
  | request (runId : String) (now : Time)

namespace RunUpdate

/-- The condition of an update. -/
def applies : RunUpdate → SyncRun → Bool
  | expireCanceled now, r => r.stale now "" && r.cancelRequestedAt.isSome
  | expireFailed now, r => r.stale now "" && r.cancelRequestedAt.isNone
  | claim runId _, r => decide (r.id = runId) && Store.claimable r
  | cancel runId _, r | request runId _, r => decide (r.id = runId)

/-- The columns an update sets. -/
def change : RunUpdate → SyncRun → SyncRun
  | expireCanceled now, r => r.expireCanceled now
  | expireFailed now, r => r.expireFailed now
  | claim _ startedAt, r => Store.claimed startedAt r
  | cancel _ now, r => Store.canceled now r
  | request _ now, r => Store.requested now r

theorem id_change (u : RunUpdate) (r : SyncRun) : (u.change r).id = r.id := by
  cases u <;> rfl

end RunUpdate

/-- A statement of the transaction `tx`. -/
inductive RunStatement (ι : Type) where
  | update (tx : ι) (u : RunUpdate)
  | lockRun (tx : ι) (runId : String)
  | selectClaimable (tx : ι) (runId : String)
  | selectSource (tx : ι) (sourceId : String)
  | commit (tx : ι)
  | rollback (tx : ι)

/-- What a statement answers: the rows an update affects, the first row of a select. -/
abbrev RunStatement.Answer {ι : Type} : RunStatement ι → Type
  | update _ _ => Except InventoryError Nat
  | lockRun _ _ | selectClaimable _ _ => Except InventoryError (Option SyncRun)
  | selectSource _ _ => Except InventoryError (Option Source)
  | commit _ => Except InventoryError Unit
  | rollback _ => Unit

/-- The run table, and the sources. -/
structure RunDb (ι : Type) where
  sources : Table Source Source.id
  runs : LockedTable ι SyncRun SyncRun.id

section

variable {ι : Type} [DecidableEq ι]

/-- The answer to a statement and the state after it.  A transaction whose commit fails is rolled
back; a rollback always takes effect. -/
def runHandler : Handler (RunStatement ι) RunStatement.Answer Bool (RunDb ι)
  | .update tx u, fails, d =>
      match (if fails then none else d.runs.write tx u.applies u.change u.id_change) with
      | none => (some (.error .database), d)
      | some (n, runs) => (some (.ok n), { d with runs })
  | .lockRun tx runId, fails, d =>
      match (if fails then none
        else d.runs.write tx (fun r => decide (r.id = runId)) id fun _ => rfl) with
      | none => (some (.error .database), d)
      | some (_, runs) => (some (.ok ((d.runs.view tx).find? runId)), { d with runs })
  | .selectClaimable tx runId, fails, d =>
      (some (if fails then .error .database
        else .ok (Store.claimCandidate runId (d.runs.view tx))), d)
  | .selectSource _ sourceId, fails, d =>
      (some (if fails then .error .database else .ok (d.sources.find? sourceId)), d)
  | .commit tx, fails, d =>
      if fails then (some (.error .database), { d with runs := d.runs.rollback tx })
      else (some (.ok ()), { d with runs := d.runs.commit tx })
  | .rollback tx, _, d => (some (), { d with runs := d.runs.rollback tx })

end

/-! ## Programs -/

/-- What a call returns without error. -/
inductive RunResult where
  | claimed (run : SyncRun) (source : Source)
  | canceled (run : SyncRun) (accepted : Bool)

abbrev RunProg (ι : Type) : Type := Prog (RunStatement ι) RunStatement.Answer InventoryError RunResult

section

variable {ι : Type} (tx : ι)

/-- `Transaction` after an error of its body. -/
def abort (e : InventoryError) : RunProg ι := .call (.rollback tx) fun _ => .raise e

/-- `Transaction` after a body without error. -/
def finish (result : RunResult) : RunProg ι :=
  .call (.commit tx) fun
    | .error e => .raise e
    | .ok () => .ret result

/-! The stages of `claim`, the last one first. -/

def claimUpdate (startedAt : Time) (run : SyncRun) (source : Source) : RunProg ι :=
  .call (.update tx (.claim run.id startedAt)) fun
    | .error e => abort tx e
    | .ok n =>
        if n ≠ 1 then abort tx .noRun
        else finish tx (.claimed (Store.claimed startedAt run) source)

def claimSource (startedAt : Time) (run : SyncRun) : RunProg ι :=
  .call (.selectSource tx run.sourceId) fun
    | .error e => abort tx e
    | .ok none => abort tx .source
    | .ok (some source) => claimUpdate tx startedAt run source

def claimSelect (startedAt : Time) (runId : String) : RunProg ι :=
  .call (.selectClaimable tx runId) fun
    | .error e => abort tx e
    | .ok none => abort tx .noRun
    | .ok (some run) => claimSource tx startedAt run

def claimExpireFailed (startedAt : Time) (runId : String) : RunProg ι :=
  .call (.update tx (.expireFailed startedAt)) fun
    | .error e => abort tx e
    | .ok _ => claimSelect tx startedAt runId

def claimExpire (startedAt : Time) (runId : String) : RunProg ι :=
  .call (.update tx (.expireCanceled startedAt)) fun
    | .error e => abort tx e
    | .ok _ => claimExpireFailed tx startedAt runId

/-- `claim`: only a claim of any run expires stale ones. -/
def claimTx (startedAt : Time) (runId : String) : RunProg ι :=
  if startedAt.isZero then .raise .conflict
  else if runId = "" then claimExpire tx startedAt.truncateMicro runId
  else claimSelect tx startedAt.truncateMicro runId

/-- The update of `Cancel`, on the locked row. -/
def cancelUpdate (u : RunUpdate) (run : SyncRun) : RunProg ι :=
  .call (.update tx u) fun
    | .error e => abort tx e
    | .ok _ => finish tx (.canceled (u.change run) true)

/-- What `Cancel` does with the locked row. -/
def cancelLocked (runId : String) (now : Time) (run : SyncRun) : RunProg ι :=
  match run.status with
  | .canceled => finish tx (.canceled run false)
  | .queued => cancelUpdate tx (.cancel runId now) run
  | .running | .validating =>
      if run.cancelRequestedAt.isNone then cancelUpdate tx (.request runId now) run
      else finish tx (.canceled run false)
  | _ => abort tx .conflict

/-- `Cancel`. -/
def cancelTx (runId : String) (now : Time) : RunProg ι :=
  .call (.lockRun tx runId) fun
    | .error e => abort tx e
    | .ok none => abort tx .notFound
    | .ok (some run) => cancelLocked tx runId now.truncateMicro run

end

/-- A call of a client. -/
inductive RunCall where
  | claimNext (target : Option String) (startedAt : Time)
  | cancel (runId : String) (now : Time)

namespace RunCall

/-- The operation of the control store that a call stands for. -/
def op : RunCall → Op
  | claimNext target startedAt => .claimNext target startedAt
  | cancel runId now => .cancel runId now

/-- The statements of a call; a repository bound to no run refuses to claim. -/
def program {ι : Type} (tx : ι) : RunCall → RunProg ι
  | claimNext none startedAt => claimTx tx startedAt ""
  | claimNext (some runId) startedAt =>
      if runId = "" then .raise .conflict else claimTx tx startedAt runId
  | cancel runId now => cancelTx tx runId now

end RunCall

end UnifiedInfraTopology
