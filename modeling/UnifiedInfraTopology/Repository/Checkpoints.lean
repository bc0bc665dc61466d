import UnifiedInfraTopology.Repository.Runs

/-!
# Operations on checkpoints

`BeginCheckpoint`, `AdvanceCheckpoint` and `CompleteCheckpointAndRun` of
`inventory_checkpoints.go`.  Each locks the run it works for: the run must be in the expected
state, belong to the source, be uncanceled and hold a current lease.
-/

namespace UnifiedInfraTopology

open Lib

/-- The table of checkpoints. -/
abbrev Checkpoints : Type := Table SyncCheckpoint SyncCheckpoint.key

namespace Store

/-- The run a checkpoint operation locks. -/
def lockRun (sourceId runId : String) (status : SyncRunStatus) (now : Time) (s : Store) :
    Option SyncRun :=
  (s.runs.find? runId).filter fun r =>
    r.sourceId == sourceId && r.status == status && r.cancelRequestedAt.isNone &&
      r.leaseCurrent now

theorem lockRun_eq_some {sourceId runId : String} {status : SyncRunStatus} {now : Time}
    {s : Store} {r : SyncRun} (locked : s.lockRun sourceId runId status now = some r) :
    s.runs.find? runId = some r ∧ r.sourceId = sourceId ∧ r.status = status ∧
      r.cancelRequestedAt = none ∧ r.leaseCurrent now = true := by
  unfold lockRun at locked
  rw [Option.filter_eq_some_iff] at locked
  simpa [and_assoc] using locked

/-! ## Beginning -/

/-- The columns a checkpoint operation writes. -/
def rewritten (text : String) (now : Time) (c : SyncCheckpoint) : SyncCheckpoint :=
  { c with cursor := text, complete := false, completedAt := none, updatedAt := now }

theorem key_rewritten (text : String) (now : Time) (c : SyncCheckpoint) :
    (rewritten text now c).key = c.key := rfl

/-- The cursor of a run that has stored nothing yet. -/
def freshCursor (runId : String) (startedAt : Time) : DeviceSyncCursor :=
  { DeviceSyncCursor.zero with version := deviceSyncCursorVersion, runId, snapshotAt := startedAt }

/-- The cursor a run goes on from: its own incomplete one, or a fresh one. -/
def resumedCursor (runId : String) (startedAt : Time) (checkpoint : DeviceSyncCheckpoint) :
    DeviceSyncCursor :=
  if checkpoint.complete ∨ checkpoint.cursor.runId ≠ runId then freshCursor runId startedAt
  else { checkpoint.cursor with runId }

/-- The checkpoint row `BeginCheckpoint` leaves, and the table with it. -/
def begunRow (sourceId resource runId : String) (startedAt : Time) (checkpoints : Checkpoints) :
    Except InventoryError (SyncCheckpoint × Checkpoints) :=
  match checkpoints.find? (sourceId, resource) with
  | none =>
      match marshalCursor (freshCursor runId startedAt) with
      | none => .error .encoding
      | some text =>
          let stored : SyncCheckpoint := ⟨sourceId, resource, text, false, none, startedAt⟩
          match checkpoints.insert stored with
          | none => .error .database
          | some checkpoints => .ok (stored, checkpoints)
  | some stored =>
      match decodeDeviceSyncCheckpoint stored with
      | .error e => .error e
      | .ok checkpoint =>
          match marshalCursor (resumedCursor runId startedAt checkpoint) with
          | none => .error .encoding
          | some text =>
              .ok (rewritten text startedAt stored,
                checkpoints.update (fun c => decide (c.key = (sourceId, resource)))
                  (rewritten text startedAt) (key_rewritten text startedAt))

/-- `BeginCheckpoint`. -/
def beginCheckpoint (sourceId resource runId : String) (startedAt leaseAt : Time) (s : Store) :
    Except InventoryError (DeviceSyncCheckpoint × Store) :=
  if sourceId = "" ∨ resource = "" ∨ runId = "" ∨ startedAt.isZero ∨ leaseAt.isZero then
    .error .conflict
  else
    let startedAt := startedAt.truncateMicro
    let leaseAt := leaseAt.truncateMicro
    match s.lockRun sourceId runId .running leaseAt with
    | none => .error .conflict
    | some _ =>
        match begunRow sourceId resource runId startedAt s.checkpoints with
        | .error e => .error e
        | .ok (stored, checkpoints) =>
            match decodeDeviceSyncCheckpoint stored with
            | .error e => .error e
            | .ok checkpoint => .ok (checkpoint, { s with checkpoints })

/-! ## Advancing -/

/-- The cursors `AdvanceCheckpoint` refuses after the stored one. -/
def regresses (resource runId : String) (complete : Bool) (previous cursor : DeviceSyncCursor) :
    Bool :=
  complete || previous.runId != runId || previous.snapshotAt != cursor.snapshotAt ||
    decide (cursor.nextOffset ≤ previous.nextOffset) ||
    decide (cursor.lastPartition < previous.lastPartition) ||
    (resource != "server_uplinks" && cursor.lastPartition == previous.lastPartition &&
      decide (cursor.lastInstanceId ≤ previous.lastInstanceId)) ||
    (previous.total != 0 && cursor.total != previous.total)

/-- The run whose lease `AdvanceCheckpoint` extends. -/
def advancing (sourceId : String) (r : SyncRun) : Bool :=
  r.sourceId == sourceId && r.status == .running && r.cancelRequestedAt.isNone

/-- `AdvanceCheckpoint`. -/
def advanceCheckpoint (sourceId resource runId : String) (cursor : DeviceSyncCursor)
    (updatedAt : Time) (s : Store) : Except InventoryError (DeviceSyncCheckpoint × Store) :=
  if sourceId = "" ∨ resource = "" ∨ runId = "" ∨ updatedAt.isZero ∨ cursor.runId ≠ runId then
    .error .conflict
  else
    let cursor := cursor.truncated
    let updatedAt := updatedAt.truncateMicro
    match validateInventoryResourceCursor resource cursor with
    | .error e => .error e
    | .ok () =>
        if cursor.lastPartition ≠ 0 ∧ resource ≠ "interfaces" then .error .conflict
        else
          match s.lockRun sourceId runId .running updatedAt with
          | none => .error .conflict
          | some _ =>
              match s.checkpoints.find? (sourceId, resource) with
              | none => .error .notFound
              | some stored =>
                  match decodeDeviceSyncCheckpoint stored with
                  | .error e => .error e
                  | .ok checkpoint =>
                      if regresses resource runId stored.complete checkpoint.cursor cursor then
                        .error .conflict
                      else
                        match marshalCursor cursor with
                        | none => .error .encoding
                        | some text =>
                            let p : SyncRun → Bool := fun r =>
                              decide (r.id = runId) && advancing sourceId r
                            -- The lease may end then already: no row is changed.
                            if s.runs.changed p (extended updatedAt) ≠ 1 then .error .conflict
                            else
                              match decodeDeviceSyncCheckpoint (rewritten text updatedAt stored) with
                              | .error e => .error e
                              | .ok checkpoint =>
                                  .ok (checkpoint, { s with
                                    checkpoints := s.checkpoints.update
                                      (fun c => decide (c.key = (sourceId, resource)))
                                      (rewritten text updatedAt) (key_rewritten text updatedAt)
                                    runs := s.runs.update p (extended updatedAt)
                                      (id_extended updatedAt) })

/-! ## Completing -/

/-- The update of a run that succeeds. -/
def succeeded (completedAt : Time) (r : SyncRun) : SyncRun :=
  { r with
    status := .succeeded, finishedAt := some completedAt, errorCode := "",
    cancelRequestedAt := none, leaseExpiresAt := none }

/-- The update of a checkpoint that is complete. -/
def completed (completedAt : Time) (c : SyncCheckpoint) : SyncCheckpoint :=
  { c with complete := true, completedAt := some completedAt, updatedAt := completedAt }

theorem id_succeeded (completedAt : Time) (r : SyncRun) : (succeeded completedAt r).id = r.id :=
  rfl

theorem key_completed (completedAt : Time) (c : SyncCheckpoint) :
    (completed completedAt c).key = c.key := rfl

/-- `CompleteCheckpointAndRun`. -/
def completeCheckpointAndRun (sourceId resource runId : String) (expectedStatus : SyncRunStatus)
    (completedAt : Time) (s : Store) : Except InventoryError (SyncRun × Store) :=
  if sourceId = "" ∨ resource = "" ∨ runId = "" ∨ expectedStatus ≠ .publishing ∨
      completedAt.isZero then
    .error .conflict
  else
    let completedAt := completedAt.truncateMicro
    match s.lockRun sourceId runId expectedStatus completedAt with
    | none => .error .conflict
    | some _ =>
        match s.checkpoints.find? (sourceId, resource) with
        | none => .error .notFound
        | some stored =>
            match decodeDeviceSyncCheckpoint stored with
            | .error e => .error e
            | .ok checkpoint =>
                if stored.complete ∨ checkpoint.cursor.runId ≠ runId ∨
                    checkpoint.cursor.nextOffset ≠ checkpoint.cursor.total then
                  .error .conflict
                else
                  let q : SyncCheckpoint → Bool := fun c => decide (c.key = (sourceId, resource))
                  let p : SyncRun → Bool := fun r =>
                    decide (r.id = runId) && (r.sourceId == sourceId && r.status == expectedStatus)
                  if s.checkpoints.matched q ≠ 1 then .error .notFound
                  else if s.runs.matched p ≠ 1 then .error .conflict
                  else
                    let runs := s.runs.update p (succeeded completedAt) (id_succeeded completedAt)
                    match runs.find? runId with
                    | none => .error .notFound
                    | some run =>
                        .ok (run, { s with
                          checkpoints := s.checkpoints.update q (completed completedAt)
                            (key_completed completedAt)
                          runs })

end Store

end UnifiedInfraTopology
