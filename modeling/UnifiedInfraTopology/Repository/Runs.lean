import UnifiedInfraTopology.Repository.Store

/-!
# Operations on runs

The operations of `inventory_runs.go`.  `claim` serves both the general and the targeted
`ClaimNext`; an empty target means any run, and only then are stale runs expired.

The clock of an operation that reads it (`time.Now()` in `Enqueue` and `Cancel`) is an argument.

`RowsAffected` of an `UPDATE` is, with the MySQL driver of the worker, the number of rows that the
statement changed.  An `UPDATE` that moves the status of a run changes every row it matches, so there
`matched` is that number; one that writes only the lease may leave the row as it is.
-/

namespace UnifiedInfraTopology

open Lib

namespace Store

/-- `Enqueue`: replay the run with this idempotency key, or add the requested one. -/
def enqueue (request : SyncRun) (now : Time) (s : Store) :
    Except InventoryError (SyncRun × Store) :=
  match s.sources.find? request.sourceId with
  | none => .error .source
  | some source =>
      let runs := expireStaleSyncRuns now.truncateMicro request.sourceId s.runs
      let existing := runs.rows.find? fun r =>
        r.sourceId == request.sourceId && r.idempotencyKey == request.idempotencyKey
      match existing with
      | some existing =>
          if existing.requestHash ≠ request.requestHash then .error .idempotency
          else .ok (existing, { s with runs })
      | none =>
          if ¬source.enabled then .error .source
          else if runs.rows.any fun r => r.sourceId == request.sourceId && r.status.active then
            .error .conflict
          else
            match runs.insert request with
            | none => .error .database
            | some runs => .ok (request, { s with runs })

/-- The run with a requested cancellation; an earlier request stays. -/
def requested (now : Time) (r : SyncRun) : SyncRun :=
  { r with cancelRequestedAt := some (r.cancelRequestedAt.getD now) }

/-- The end of a queued run that is canceled. -/
def canceled (now : Time) (r : SyncRun) : SyncRun :=
  { requested now r with status := .canceled, finishedAt := some now }

theorem id_requested (now : Time) (r : SyncRun) : (requested now r).id = r.id := rfl

theorem id_canceled (now : Time) (r : SyncRun) : (canceled now r).id = r.id := rfl

/-- `Cancel`: the run and whether this call changed it.  A queued run ends at once, a worker's run
gets a request, a publishing or finished one is refused. -/
def cancel (runId : String) (now : Time) (s : Store) :
    Except InventoryError ((SyncRun × Bool) × Store) :=
  match s.runs.find? runId with
  | none => .error .notFound
  | some run =>
      let now := now.truncateMicro
      let p : SyncRun → Bool := fun r => decide (r.id = runId)
      match run.status with
      | .canceled => .ok ((run, false), s)
      | .queued =>
          .ok ((canceled now run, true),
            { s with runs := s.runs.update p (canceled now) (id_canceled now) })
      | .running | .validating =>
          if run.cancelRequestedAt.isNone then
            .ok ((requested now run, true),
              { s with runs := s.runs.update p (requested now) (id_requested now) })
          else .ok ((run, false), s)
      | .publishing => .error .conflict
      | _ => .error .conflict

/-! ## Claiming -/

/-- The runs a claim may take. -/
def claimable (r : SyncRun) : Bool := r.status == .queued && r.cancelRequestedAt.isNone

/-- `ORDER BY created_at ASC, id ASC`. -/
def claimedBefore (a b : SyncRun) : Bool :=
  a.createdAt < b.createdAt || (a.createdAt == b.createdAt && decide (a.id < b.id))

/-- The first of some rows in the order of a claim. -/
def firstClaimed : List SyncRun → Option SyncRun
  | [] => none
  | r :: rows =>
      match firstClaimed rows with
      | none => some r
      | some best => if claimedBefore best r then some best else some r

/-- The run a claim selects. -/
def claimCandidate (runId : String) (runs : Runs) : Option SyncRun :=
  firstClaimed (runs.rows.filter fun r => claimable r && (runId == "" || r.id == runId))

/-- The update of a claimed run. -/
def claimed (startedAt : Time) (r : SyncRun) : SyncRun :=
  { r with
    status := .running, startedAt := some startedAt, errorCode := "",
    leaseExpiresAt := some (startedAt + inventoryRunLeaseDuration) }

theorem id_claimed (startedAt : Time) (r : SyncRun) : (claimed startedAt r).id = r.id := rfl

/-- `claim`: select a run, then take it by an update that checks it is still unclaimed. -/
def claim (startedAt : Time) (runId : String) (s : Store) :
    Except InventoryError ((SyncRun × Source) × Store) :=
  if startedAt.isZero then .error .conflict
  else
    let startedAt := startedAt.truncateMicro
    let runs := if runId = "" then expireStaleSyncRuns startedAt "" s.runs else s.runs
    match claimCandidate runId runs with
    | none => .error .noRun
    | some run =>
        match s.sources.find? run.sourceId with
        | none => .error .source
        | some source =>
            if runs.matched (fun r => decide (r.id = run.id) && claimable r) ≠ 1 then .error .noRun
            else
              .ok ((claimed startedAt run, source), { s with
                runs := runs.update (fun r => decide (r.id = run.id) && claimable r) (claimed startedAt)
                  (id_claimed startedAt) })

/-- `ClaimNext` of the general repository (`none`) and of one bound to a run. -/
def claimNext (target : Option String) (startedAt : Time) (s : Store) :
    Except InventoryError ((SyncRun × Source) × Store) :=
  match target with
  | none => s.claim startedAt ""
  | some runId => if runId = "" then .error .conflict else s.claim startedAt runId

/-! ## The worker's statements -/

/-- The update of a transition. -/
def transitioned (target : SyncRunStatus) (now : Time) (errorCode : String) (r : SyncRun) : SyncRun :=
  { r with
    status := target, errorCode,
    finishedAt := if target.terminal then some now else none,
    leaseExpiresAt := if target.terminal then none else some (now + inventoryRunLeaseDuration) }

theorem id_transitioned (target : SyncRunStatus) (now : Time) (errorCode : String) (r : SyncRun) :
    (transitioned target now errorCode r).id = r.id := rfl

/-- The rows a transition applies to: the run in its old state, with a current lease, and not
canceled where it is to be published. -/
def transitionable (origin target : SyncRunStatus) (now : Time) (r : SyncRun) : Bool :=
  r.status == origin && r.leaseCurrent now && (target != .publishing || r.cancelRequestedAt.isNone)

/-- `TransitionRun`. -/
def transitionRun (runId : String) (origin target : SyncRunStatus) (now : Time) (errorCode : String)
    (s : Store) : Except InventoryError (SyncRun × Store) :=
  if runId = "" ∨ now.isZero ∨ ¬syncRunTransitionAllowed origin target then .error .conflict
  else if target = .failed ∧ ¬syncRunErrorCodePattern errorCode then .error .conflict
  else
    let errorCode := if target = .failed then errorCode else ""
    let now := now.truncateMicro
    let p : SyncRun → Bool := fun r => decide (r.id = runId) && transitionable origin target now r
    if s.runs.matched p ≠ 1 then .error .conflict
    else
      let runs := s.runs.update p (transitioned target now errorCode)
        (id_transitioned target now errorCode)
      match runs.find? runId with
      | none => .error .notFound
      | some run => .ok (run, { s with runs })

/-- A later end of the lease. -/
def extended (now : Time) (r : SyncRun) : SyncRun :=
  { r with leaseExpiresAt := some (now + inventoryRunLeaseDuration) }

theorem id_extended (now : Time) (r : SyncRun) : (extended now r).id = r.id := rfl

theorem extended_ne_iff {now : Time} {r : SyncRun} :
    extended now r ≠ r ↔ r.leaseExpiresAt ≠ some (now + inventoryRunLeaseDuration) := by
  refine not_congr ⟨fun same => ?_, fun ends => ?_⟩
  · rw [← same]
    rfl
  · rw [extended, ← ends]

/-- `RenewRunLease`. -/
def renewRunLease (runId : String) (now : Time) (s : Store) :
    Except InventoryError (Unit × Store) :=
  if runId = "" ∨ now.isZero then .error .conflict
  else
    let now := now.truncateMicro
    let p : SyncRun → Bool := fun r =>
      decide (r.id = runId) && (r.status.executing && r.leaseCurrent now)
    if s.runs.changed p (extended now) ≠ 1 then .error .conflict
    else .ok ((), { s with runs := s.runs.update p (extended now) (id_extended now) })

/-- `RunCancellationRequested`. -/
def runCancellationRequested (runId : String) (s : Store) : Except InventoryError Bool :=
  match s.runs.find? runId with
  | none => .error .notFound
  | some run => .ok (run.status == .canceled || run.cancelRequestedAt.isSome)

end Store

end UnifiedInfraTopology
