import UnifiedInfraTopology.Lib.Table
import UnifiedInfraTopology.Repository.Cursor

/-!
# The control store

The tables behind `inventoryRepository`, the lease conditions its statements share, and the expiry
of stale runs.

An operation is a function `Store → Except InventoryError (result × Store)`: it is one transaction
(or one statement), so an error leaves the store as it was.  Times reach the database truncated to
microseconds.  The number of rows an update affects is the number of rows it matches.
-/

namespace UnifiedInfraTopology

open Lib

/-- The primary key of `sync_checkpoints`. -/
def SyncCheckpoint.key (c : SyncCheckpoint) : String × String := (c.sourceId, c.resource)

structure Store where
  sources : Table Source Source.id
  runs : Table SyncRun SyncRun.id
  checkpoints : Table SyncCheckpoint SyncCheckpoint.key
deriving DecidableEq

/-- The table of runs. -/
abbrev Runs : Type := Table SyncRun SyncRun.id

def inventoryRunLeaseDuration : Time := 15 * Time.minute

def syncErrorLeaseExpired : String := "worker_lease_expired"

/-- `syncRunErrorCodePattern`: one to 64 characters out of `a-z`, `0-9` and `_`. -/
def syncRunErrorCodePattern (code : String) : Bool :=
  1 ≤ code.toList.length && code.toList.length ≤ 64 &&
    code.toList.all fun c =>
      (97 ≤ c.toNat && c.toNat ≤ 122) || (48 ≤ c.toNat && c.toNat ≤ 57) || c.toNat == 95

theorem ne_empty_of_errorCodePattern {code : String} (matched : syncRunErrorCodePattern code = true) :
    code ≠ "" := by
  rintro rfl
  exact absurd matched (by decide)

namespace SyncRun

/-- `syncRunLeaseCurrentCondition`, with the comparisons of SQL: a null compares to nothing. -/
def leaseCurrent (r : SyncRun) (now : Time) : Bool :=
  match r.leaseExpiresAt, r.startedAt with
  | some lease, _ => now < lease
  | none, some started => now - inventoryRunLeaseDuration < started
  | none, none => false

/-- The condition of `expireStaleSyncRuns` on the lease. -/
def leaseStale (r : SyncRun) (now : Time) : Bool :=
  match r.leaseExpiresAt, r.startedAt with
  | some lease, _ => lease ≤ now
  | none, some started => started ≤ now - inventoryRunLeaseDuration
  | none, none => false

/-- The rows an expiry of one source, or of all sources, applies to. -/
def stale (r : SyncRun) (now : Time) (sourceId : String) : Bool :=
  r.status.executing && r.leaseStale now && (sourceId == "" || r.sourceId == sourceId)

/-- The end of a stale run whose cancellation was requested. -/
def expireCanceled (r : SyncRun) (now : Time) : SyncRun :=
  { r with
    status := .canceled, finishedAt := some now, errorCode := "", leaseExpiresAt := none }

/-- The end of any other stale run. -/
def expireFailed (r : SyncRun) (now : Time) : SyncRun :=
  { r with
    status := .failed, finishedAt := some now, errorCode := syncErrorLeaseExpired,
    leaseExpiresAt := none }

theorem id_expireCanceled (now : Time) (r : SyncRun) : (r.expireCanceled now).id = r.id := rfl

theorem id_expireFailed (now : Time) (r : SyncRun) : (r.expireFailed now).id = r.id := rfl

/-- What an expiry does to one row. -/
def expired (r : SyncRun) (now : Time) (sourceId : String) : SyncRun :=
  if r.stale now sourceId then
    if r.cancelRequestedAt.isSome then r.expireCanceled now else r.expireFailed now
  else r

end SyncRun

/-- `expireStaleSyncRuns`: two bulk updates, the runs with a requested cancellation first. -/
def expireStaleSyncRuns (now : Time) (sourceId : String) (runs : Runs) : Runs :=
  (runs.update (fun r => r.stale now sourceId && r.cancelRequestedAt.isSome)
      (fun r => r.expireCanceled now) (SyncRun.id_expireCanceled now)).update
    (fun r => r.stale now sourceId && r.cancelRequestedAt.isNone)
    (fun r => r.expireFailed now) (SyncRun.id_expireFailed now)

/-- The two updates of an expiry touch different rows. -/
theorem rows_expireStaleSyncRuns (now : Time) (sourceId : String) (runs : Runs) :
    (expireStaleSyncRuns now sourceId runs).rows =
      runs.rows.map fun r => r.expired now sourceId := by
  simp only [expireStaleSyncRuns, Table.update, List.map_map]
  refine List.map_congr_left fun r _ => ?_
  simp only [Function.comp_apply, SyncRun.expired]
  by_cases stale : r.stale now sourceId
  · cases requested : r.cancelRequestedAt with
    | none => simp [stale, requested]
    | some requestedAt =>
        have done : (r.expireCanceled now).stale now sourceId = false := rfl
        simp [stale, done]
  · simp [stale]

end UnifiedInfraTopology
