import UnifiedInfraTopology.Worker.Environment

/-!
# `executeServerUplink`

The execution of a claimed run of the server uplinks (`server_uplink.go`).  The runner, the
validation callback and the heartbeat are services; what the heartbeat does to the store and to the
context of the worker happens between the calls.

The body leaves with the status it believes the run to have and a message; the deferred function
takes both.
-/

namespace UnifiedInfraTopology

open Lib

inductive UplinkRequest where
  /-- `worker.Run`: the number of edges. -/
  | run (source : Source) (snapshotAt : Time)
  | validate (snapshotAt : Time) (edges : Int)
  /-- Wait for the end of the heartbeat: whether it left a `leaseErr`. -/
  | stopHeartbeat
deriving DecidableEq

/-- Replies; `none` and `false` of the first two are errors. -/
abbrev UplinkRequest.Reply : UplinkRequest → Type
  | run _ _ => Option Int
  | validate _ _ => Bool
  | stopHeartbeat => Bool

abbrev uplinkService : Service := ⟨UplinkRequest, UplinkRequest.Reply⟩

abbrev UplinkProg (ε α : Type) : Type := Prog (Call uplinkService) Call.Answer ε α

/-- The status at an early exit of the body, and the error. -/
abbrev UplinkExit : Type := SyncRunStatus × String

def serverUplinkResource : String := "server_uplinks"

section

variable {ε : Type}

abbrev askUplink (r : UplinkRequest) : UplinkProg ε r.Reply :=
  Prog.perform (Call.service (V := uplinkService) r)

def serverUplinkNow : UplinkProg ε Time := do
  let now ← timeNow
  return now.truncateMicro

end

/-- Go on with the value, or leave with a message. -/
def orStop {α : Type} (status : SyncRunStatus) (message : String) :
    Option α → UplinkProg UplinkExit α
  | some a => .ret a
  | none => .raise (status, message)

/-- `checkCancel`. -/
def checkCancel (runId : String) (status : SyncRunStatus) : UplinkProg UplinkExit Unit := do
  let done ← contextErr
  if done then .raise (status, "server uplink execution canceled or lease lost")
  else do
    let canceled ← askCancellation runId
    match canceled with
    | none => .raise (status, "server uplink cancellation check failed")
    | some true => .raise (status, "server uplink cancellation requested")
    | some false => .ret ()

/-- A transition of the run to its next status. -/
def moveUplink (runId : String) (origin target : SyncRunStatus) (message : String) :
    UplinkProg UplinkExit Unit := do
  let now ← serverUplinkNow
  let moved ← controlOp (.transitionRun runId origin target now "")
  orStop origin message (moved : Option Unit)

section

variable (run : SyncRun) (source : Source)

/-- From the start to the collected and written edges. -/
def collectUplinks (snapshot : Time) : UplinkProg UplinkExit Int := do
  checkCancel run.id .running
  let now ← serverUplinkNow
  let begun ← controlOp (.beginCheckpoint source.id serverUplinkResource run.id snapshot now)
  let _ ← orStop .running "server uplink checkpoint begin failed" (begun : Option _)
  let result : Option Int ← askUplink (.run source snapshot)
  orStop .running "server uplink collection or graph write failed" result

/-- Store the progress; without edges there is none. -/
def advanceUplinks (snapshot : Time) (edges : Int) : UplinkProg UplinkExit Unit := do
  checkCancel run.id .running
  if edges > 0 then do
    let now ← serverUplinkNow
    let advanced ← controlOp (.advanceCheckpoint source.id serverUplinkResource run.id
      { DeviceSyncCursor.zero with
        version := deviceSyncCursorVersion, runId := run.id, snapshotAt := snapshot
        nextOffset := edges, total := edges } now)
    orStop .running "server uplink checkpoint advance failed" (advanced : Option Unit)
  else .ret ()

/-- From the validating status to the published one. -/
def validateUplinks (snapshot : Time) (edges : Int) : UplinkProg UplinkExit Unit := do
  let valid : Bool ← askUplink (.validate snapshot edges)
  orStop .validating "server uplink graph validation failed" (if valid then some () else none)
  checkCancel run.id .validating
  moveUplink run.id .validating .publishing "server uplink publishing transition failed"

/-- From the published status to the end. -/
def completeUplinks : UplinkProg UplinkExit Unit := do
  let lost : Bool ← askUplink .stopHeartbeat
  if lost then .raise (.publishing, "server uplink lease lost")
  else do
    checkCancel run.id .publishing
    let now ← serverUplinkNow
    let completed ← controlOp (.completeCheckpointAndRun source.id serverUplinkResource run.id
      .publishing now)
    orStop .publishing "server uplink atomic completion failed" (completed : Option Unit)

/-- The body, after the guard. -/
def uplinkBody (snapshot : Time) : UplinkProg UplinkExit Int := do
  let edges ← collectUplinks run source snapshot
  advanceUplinks run source snapshot edges
  moveUplink run.id .running .validating "server uplink validating transition failed"
  validateUplinks run snapshot edges
  completeUplinks run source
  .ret edges

/-- The deferred function, after an error of the body. -/
def finishUplink (runId : String) (exit : UplinkExit) : UplinkProg String Int := do
  let _ : Bool ← askUplink .stopHeartbeat
  let ended ← parentErr
  let canceled ← askCancellation runId
  let (terminal, code) :=
    if ended || canceled == some true then (SyncRunStatus.canceled, "")
    else (SyncRunStatus.failed, "server_uplink_failed")
  let now ← serverUplinkNow
  let moved ← controlOp (.transitionRun runId exit.1 terminal now code)
  if (moved : Option Unit).isNone then
    .raise "server uplink failed; terminal status update failed"
  else .raise exit.2

/-- The body and the deferred function. -/
def runUplink (snapshot : Time) : UplinkProg String Int := do
  let outcome ← Prog.reify (uplinkBody run source snapshot)
  match outcome with
  | .ok edges => .ret edges
  | .error exit => finishUplink run.id exit

/-- `executeServerUplink`: the number of edges, or an error. -/
def executeServerUplink : UplinkProg String Int :=
  match run.startedAt, run.leaseExpiresAt with
  | some startedAt, some leaseExpiresAt =>
      if run.sourceId ≠ source.id ∨ run.status ≠ .running then
        .raise "server uplink claimed run invalid"
      else do
        let now ← serverUplinkNow
        if leaseExpiresAt ≤ now then .raise "server uplink claimed run invalid"
        else runUplink run source startedAt.truncateMicro
  | _, _ => .raise "server uplink claimed run invalid"

end

end UnifiedInfraTopology
