import UnifiedInfraTopology.Lib.GoTime

/-!
# Rows of the control store

The records of `internal/model/inventory.go` that the control store keeps: sources, sync runs and
checkpoints, with the run states and the table of legal transitions.

A status column holds text.  `SyncRunStatus` has one constructor for each constant of the source and
`other` for every other text a caller may pass.
-/

namespace UnifiedInfraTopology

open Lib

structure Source where
  id : String
  name : String
  adapterKind : String
  configRef : String
  enabled : Bool
deriving DecidableEq

inductive SyncRunStatus where
  | queued
  | running
  | validating
  | publishing
  | succeeded
  | failed
  | canceled
  | other (text : String)
deriving DecidableEq

structure SyncRun where
  id : String
  sourceId : String
  status : SyncRunStatus
  mode : String
  requestHash : String
  idempotencyKey : String
  requestedBy : String
  cancelRequestedAt : Option Time
  createdAt : Time
  startedAt : Option Time
  finishedAt : Option Time
  errorCode : String
  leaseExpiresAt : Option Time
deriving DecidableEq

structure SyncCheckpoint where
  sourceId : String
  resource : String
  /-- The JSON text of a `DeviceSyncCursor`. -/
  cursor : String
  complete : Bool
  completedAt : Option Time
  updatedAt : Time
deriving DecidableEq

namespace SyncRunStatus

/-- The states in which a worker holds the run. -/
def executing : SyncRunStatus → Bool
  | running | validating | publishing => true
  | _ => false

/-- The states in which a run blocks its source. -/
def active : SyncRunStatus → Bool
  | queued | running | validating | publishing => true
  | _ => false

/-- `SyncRunStatusTerminal`. -/
def terminal : SyncRunStatus → Bool
  | succeeded | failed | canceled => true
  | _ => false

theorem terminal_iff {s : SyncRunStatus} :
    s.terminal = true ↔ s = .succeeded ∨ s = .failed ∨ s = .canceled := by
  cases s <;> simp [terminal]

theorem active_of_executing {s : SyncRunStatus} (h : s.executing = true) : s.active = true := by
  cases s <;> first | rfl | cases h

theorem not_terminal_of_active {s : SyncRunStatus} (h : s.active = true) : s.terminal = false := by
  cases s <;> first | rfl | cases h

end SyncRunStatus

/-- `SyncRunTransitionAllowed`. -/
def syncRunTransitionAllowed : SyncRunStatus → SyncRunStatus → Bool
  | .running, .validating | .running, .failed | .running, .canceled => true
  | .validating, .publishing | .validating, .failed | .validating, .canceled => true
  | .publishing, .succeeded | .publishing, .failed => true
  | _, _ => false

/-- A transition leaves a state in which a worker holds the run. -/
theorem executing_of_transition {f t : SyncRunStatus} (allowed : syncRunTransitionAllowed f t) :
    f.executing = true := by
  cases f <;> first | rfl | cases t <;> cases allowed

/-- A transition reaches a worker's later state or a terminal one, and never `running`. -/
theorem target_of_transition {f t : SyncRunStatus} (allowed : syncRunTransitionAllowed f t) :
    t = .validating ∨ t = .publishing ∨ t.terminal = true := by
  cases f <;> cases t <;> simp_all [syncRunTransitionAllowed, SyncRunStatus.terminal]

/-- Only a publishing run can succeed by a transition. -/
theorem source_of_succeeded {f : SyncRunStatus} (allowed : syncRunTransitionAllowed f .succeeded) :
    f = .publishing := by
  cases f <;> first | rfl | cases allowed

end UnifiedInfraTopology
