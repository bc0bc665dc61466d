import UnifiedInfraTopology.Worker.Environment
import UnifiedInfraTopology.Worker.Pages
import UnifiedInfraTopology.Graph.Upsert

/-!
# `SyncWorker.executeClaimed`

The execution of a claimed run (`sync_worker.go`): select the entity, begin the checkpoint, collect
and write every page, read all pages again and compare, publish, clean up, complete.

An early `return` raises the returned error, `none` for nil.  `executeClaimed` is cut into stages at
the points where its status changes; each stage is a definition.

The goroutines of `writeEntityPage` are a pool (`Pool`): a turn of the scheduler launches the next
record, notices that the context of the page is done, or lets one write return.

The first and the second reading of the pages issue the same requests.  `Pass` tells them apart.
-/

namespace UnifiedInfraTopology

open Lib

/-! ## Requests -/

inductive Pass where
  | first
  | second
deriving DecidableEq

/-- What the scheduler does next while a page is written. -/
inductive PoolTurn where
  | launch
  | cut
  | finish (index : Nat)
deriving DecidableEq

inductive SyncRequest where
  | validate (source : Source)
  | selectedEntity (source : Source)
  | coversFullSource (source : Source) (entity : EntityType)
  | openEntityPass (pass : Pass) (source : Source) (entity : EntityType)
  | passPage (pass : Pass) (offset : Int)
  | collectDevicePage (pass : Pass) (source : Source) (offset : Int)
  | collectEntityPage (pass : Pass) (source : Source) (entity : EntityType) (offset : Int)
  | vertexExists (identity : EntityIdentity)
  | schedule
  /-- `UpsertVertex` is called. -/
  | startVertex (vertex : TopologyVertex)
  /-- `UpsertVertex` returns. -/
  | upsertVertex (vertex : TopologyVertex)
  | startRelation (relation : Relation)
  | upsertRelation (relation : Relation)
  | deleteOrphanVerticesNotSeen (sourceId : String) (entity : EntityType) (runStartedAt : Time)
deriving DecidableEq

/-- Replies; `none` and `false` are errors. -/
abbrev SyncRequest.Reply : SyncRequest → Type
  | validate _ | openEntityPass _ _ _ => Bool
  | selectedEntity _ => Option EntityType
  | coversFullSource _ _ | vertexExists _ => Option Bool
  | passPage _ _ | collectEntityPage _ _ _ _ => Option EntityPage
  | collectDevicePage _ _ _ => Option DevicePage
  | schedule => PoolTurn
  | startVertex _ | startRelation _ => Unit
  | upsertVertex _ | upsertRelation _ => Bool
  | deleteOrphanVerticesNotSeen _ _ _ => Bool

abbrev syncService : Service := ⟨SyncRequest, SyncRequest.Reply⟩

/-- A function of the worker; it may leave with an `ε`. -/
abbrev SyncProg (ε α : Type) : Type := Prog (Call syncService) Call.Answer ε α

/-- The errors of `executeClaimed`. -/
inductive SyncError where
  | leaseLost
  | transitionFailed
  | failed (code : String)
deriving DecidableEq

structure SyncWorker where
  deviceWriteConcurrency : Nat
  /-- A bound on the iterations of each loop. -/
  iterations : Nat

def syncErrorSourceValidation : String := "source_validation_failed"

def syncErrorDeviceCollection : String := "device_collection_failed"

def syncErrorEntityCollection : String := "entity_collection_failed"

def syncErrorGraphWrite : String := "graph_write_failed"

def syncErrorGraphCleanup : String := "graph_cleanup_failed"

def syncErrorCheckpoint : String := "checkpoint_failed"

def syncErrorCancellationCheck : String := "cancellation_check_failed"

section Helpers

variable {ε : Type}

abbrev send (r : SyncRequest) : SyncProg ε r.Reply := Prog.perform (Call.service (V := syncService) r)

def currentTime : SyncProg ε Time := do
  let now ← timeNow
  return now.truncateMicro

/-- `leaseContextError`: the context ended because the lease was lost. -/
def leaseContextError : SyncProg ε Bool := do
  let cause ← contextCause
  return decide (cause = some .leaseLost)

/-! ## Finishing a run -/

/-- `failRun`. -/
def failRun (runId : String) (origin : SyncRunStatus) (now : Time) (code : String) :
    SyncProg ε (Option SyncError) := do
  let moved ← controlOp (.transitionRun runId origin .failed now code)
  return if moved.isNone then some .transitionFailed else some (.failed code)

/-- `cancelRun`. -/
def cancelRun (runId : String) (origin : SyncRunStatus) (now : Time) :
    SyncProg ε (Option SyncError) := do
  let moved ← controlOp (.transitionRun runId origin .canceled now "")
  return if moved.isNone then some .transitionFailed else none

/-- The errors of `cancellationRequested`. -/
inductive CheckError where
  | leaseLost
  | unavailable
deriving DecidableEq

/-- `cancellationRequested`. -/
def cancellationRequested (runId : String) : SyncProg ε (Except CheckError Bool) := do
  let lost ← leaseContextError
  if lost then return .error .leaseLost
  else do
    let done ← contextErr
    if done then return .ok true
    else do
      let requested ← askCancellation runId
      return match requested with
        | none => .error .unavailable
        | some requested => .ok requested

/-- `failCancellationCheck`. -/
def failCancellationCheck (runId : String) (origin : SyncRunStatus) (now : Time) :
    CheckError → SyncProg ε (Option SyncError)
  | .leaseLost => return some .leaseLost
  | .unavailable => failRun runId origin now syncErrorCancellationCheck

/-- `failOrCancel`. -/
def failOrCancel (runId : String) (origin : SyncRunStatus) (code : String) :
    SyncProg ε (Option SyncError) := do
  let lost ← leaseContextError
  if lost then return some .leaseLost
  else do
    let now ← currentTime
    let done ← contextErr
    if done then cancelRun runId origin now
    else do
      let requested ← askCancellation runId
      if requested = some true then cancelRun runId origin now
      else failRun runId origin now code

end Helpers

/-! ## Leaving `executeClaimed` -/

/-- Go on with the value, or leave through `failOrCancel`. -/
def orFail {α : Type} (runId : String) (status : SyncRunStatus) (code : String) :
    Option α → SyncProg (Option SyncError) α
  | some a => .ret a
  | none => Prog.exitWith (failOrCancel runId status code)

/-- Leave when the run was canceled. -/
def leaveIfCanceled (runId : String) (status : SyncRunStatus) (startedAt : Time) :
    SyncProg (Option SyncError) Unit := do
  let canceled ← cancellationRequested runId
  match canceled with
  | .error e => Prog.exitWith (failCancellationCheck runId status startedAt e)
  | .ok true => Prog.exitWith (cancelRun runId status startedAt)
  | .ok false => .ret ()

/-- Leave when the lease was lost. -/
def leaveIfLost : SyncProg (Option SyncError) Unit := do
  let lost ← leaseContextError
  if lost then .raise (some .leaseLost) else .ret ()

/-- Leave through `failRun` at the current time. -/
def leaveFailed {α : Type} (runId : String) (status : SyncRunStatus) (code : String) :
    SyncProg (Option SyncError) α := do
  let now ← currentTime
  Prog.exitWith (failRun runId status now code)

/-- Leave through `cancelRun` at the current time. -/
def leaveCanceled {α : Type} (runId : String) (status : SyncRunStatus) :
    SyncProg (Option SyncError) α := do
  let now ← currentTime
  Prog.exitWith (cancelRun runId status now)

/-- A transition of the run to its next status. -/
def moveRun (runId : String) (origin target : SyncRunStatus) :
    SyncProg (Option SyncError) Unit := do
  let now ← currentTime
  let moved ← controlOp (.transitionRun runId origin target now "")
  orFail runId origin syncErrorCheckpoint (moved : Option Unit)

/-! ## Pages -/

/-- `collectEntityPage`. -/
def collectEntityPage {ε : Type} (pass : Pass) (source : Source) (entity : EntityType)
    (offset : Int) : SyncProg ε (Option EntityPage) :=
  if entity ≠ .device then send (.collectEntityPage pass source entity offset)
  else do
    let page : Option DevicePage ← send (.collectDevicePage pass source offset)
    return page.map entityPageOfDevices

/-- The next page, of the open pass or of the source. -/
def readPage {ε : Type} (pass : Pass) (source : Source) (entity : EntityType) (offset : Int) :
    SyncProg ε (Option EntityPage) :=
  if entity = .interface then send (.passPage pass offset)
  else collectEntityPage pass source entity offset

/-- The owners found so far: the verified devices, and the owner of each partition. -/
structure InterfaceOwners where
  verified : List EntityIdentity
  partitionOwners : List (Int64 × String)
deriving DecidableEq

/-- `validateInterfaceOwners`; `none` is an error. -/
def validateInterfaceOwners {ε : Type} (sourceId : String) (owners : InterfaceOwners) :
    List EntityRecord → SyncProg ε (Option InterfaceOwners)
  | [] => .ret (some owners)
  | first :: records =>
      let ownerSN := first.ownerDeviceSN
      if ownerSN = "" ∨ trimSpace ownerSN ≠ ownerSN then .ret none
      else if (first :: records).any fun r => r.ownerDeviceSN ≠ ownerSN then .ret none
      else if (owners.partitionOwners.lookup first.partition).any (· ≠ ownerSN) then .ret none
      else
        let owner : EntityIdentity := ⟨sourceId, .device, ownerSN⟩
        let partitionOwners := (first.partition, ownerSN) :: owners.partitionOwners
        if owner ∈ owners.verified then .ret (some { owners with partitionOwners })
        else do
          let found : Option Bool ← send (.vertexExists owner)
          if found = some true then .ret (some ⟨owner :: owners.verified, partitionOwners⟩)
          else .ret none

/-! ## Writing a page -/

/-- The vertex of a record. -/
def recordVertex (sourceId : String) (entity : EntityType) (snapshotAt : Time)
    (record : EntityRecord) : TopologyVertex :=
  ⟨⟨sourceId, entity, record.identity⟩, record.properties, snapshotAt, snapshotAt⟩

/-- The relation from the owner of an interface to the interface. -/
def ownerRelation (sourceId : String) (entity : EntityType) (snapshotAt : Time)
    (record : EntityRecord) : Relation where
  identity := {
    sourceId, edgeType := .composition, kind := .ownsInterface
    origin := ⟨sourceId, .device, record.ownerDeviceSN⟩
    target := ⟨sourceId, entity, record.identity⟩
    sourceRelationId := "", discriminator := "" }
  properties := .empty
  createdAt := snapshotAt
  syncedAt := snapshotAt

/-- The write that a goroutine is waiting for. -/
inductive WriteStage where
  | vertex
  | relation
deriving DecidableEq

/-- The goroutines of a page. -/
structure Pool where
  /-- The records not launched yet. -/
  waiting : List EntityRecord
  running : List (EntityRecord × WriteStage)
  /-- A write has failed, and the context of the page is canceled. -/
  failed : Bool
deriving DecidableEq

section WritePage

variable {ε : Type} (w : SyncWorker) (sourceId : String) (entity : EntityType) (snapshotAt : Time)

/-- The write of the goroutine with this index returns. -/
def finishWrite (pool : Pool) (index : Nat) (record : EntityRecord) :
    WriteStage → SyncProg ε Pool
  | .vertex => do
      let written : Bool ← send (.upsertVertex (recordVertex sourceId entity snapshotAt record))
      if !written then .ret { pool with running := pool.running.eraseIdx index, failed := true }
      else if entity = .interface then do
        let _ : Unit ← send (.startRelation (ownerRelation sourceId entity snapshotAt record))
        .ret { pool with running := pool.running.set index (record, .relation) }
      else .ret { pool with running := pool.running.eraseIdx index }
  | .relation => do
      let written : Bool ← send (.upsertRelation (ownerRelation sourceId entity snapshotAt record))
      .ret { pool with
        running := pool.running.eraseIdx index, failed := pool.failed || !written }

/-- The launch loop goes on when the semaphore has room. -/
def launchWrite (pool : Pool) : SyncProg ε Pool :=
  match pool.waiting with
  | [] => .ret pool
  | record :: waiting =>
      if pool.running.length < w.deviceWriteConcurrency then do
        let _ : Unit ← send (.startVertex (recordVertex sourceId entity snapshotAt record))
        .ret { pool with waiting, running := pool.running ++ [(record, .vertex)] }
      else .ret pool

/-- The launch loop ends when the context of the page is done. -/
def cutLaunch (pool : Pool) : SyncProg ε Pool := do
  let done ← contextErr
  if pool.failed || done then .ret { pool with waiting := [] } else .ret pool

/-- What a turn of the scheduler does. -/
def takeTurn (pool : Pool) : PoolTurn → SyncProg ε Pool
  | .launch => launchWrite w sourceId entity snapshotAt pool
  | .cut => cutLaunch pool
  | .finish index =>
      match pool.running[index]? with
      | none => .ret pool
      | some (record, stage) => finishWrite sourceId entity snapshotAt pool index record stage

/-- One turn of the scheduler.  The result is whether a write has failed. -/
def poolTurn (pool : Pool) : SyncProg ε (Pool ⊕ Bool) :=
  if pool.waiting = [] ∧ pool.running = [] then .ret (.inr pool.failed)
  else do
    let turn ← send .schedule
    let pool ← takeTurn w sourceId entity snapshotAt pool turn
    .ret (.inl pool)

/-- The errors of `writeEntityPage`. -/
inductive WriteError where
  | leaseLost
  | canceled
  | graphWrite
deriving DecidableEq

/-- `writeEntityPage`. -/
def writeEntityPage (records : List EntityRecord) : SyncProg ε (Except WriteError Unit) := do
  let failed ← Prog.loop (poolTurn w sourceId entity snapshotAt) w.iterations ⟨records, [], false⟩
  let lost ← leaseContextError
  if lost then .ret (.error .leaseLost)
  else do
    let done ← contextErr
    if done then .ret (.error .canceled)
    else if failed then .ret (.error .graphWrite)
    else .ret (.ok ())

end WritePage

/-! ## Selecting the entity -/

/-- What `executeClaimed` knows before it collects. -/
structure Selection where
  entity : EntityType
  resource : String
  collectionErrorCode : String
  fullSource : Bool

/-- The checkpoint resource and the collection error code of an entity. -/
def syncResource : EntityType → Option (String × String)
  | .device => some ("devices", syncErrorDeviceCollection)
  | .dataCenter => some ("data_centers", syncErrorEntityCollection)
  | .cabinet => some ("cabinets", syncErrorEntityCollection)
  | .interface => some ("interfaces", syncErrorEntityCollection)
  | .transformer => some ("transformers", syncErrorEntityCollection)
  | _ => none

section Execute

variable (w : SyncWorker) (run : SyncRun) (source : Source) (startedAt : Time)

/-- From the start to the selected entity. -/
def selectEntity : SyncProg (Option SyncError) Selection := do
  leaveIfCanceled run.id .running startedAt
  if source.adapterKind ≠ "cmdb" then
    Prog.exitWith (failRun run.id .running startedAt syncErrorSourceValidation)
  else do
    let valid : Bool ← send (.validate source)
    orFail run.id .running syncErrorSourceValidation (if valid then some () else none)
    let selected : Option EntityType ← send (.selectedEntity source)
    let entity ← orFail run.id .running syncErrorSourceValidation selected
    let (resource, collectionErrorCode) ←
      orFail run.id .running syncErrorSourceValidation (syncResource entity)
    let covered : Option Bool ← send (.coversFullSource source entity)
    let fullSource ← orFail run.id .running syncErrorSourceValidation covered
    .ret ⟨entity, resource, collectionErrorCode, fullSource⟩

/-- Begin the checkpoint, and open the pass of an interface collection. -/
def beginCollection (selection : Selection) : SyncProg (Option SyncError) DeviceSyncCursor := do
  let now ← currentTime
  let begun ← controlOp (.beginCheckpoint source.id selection.resource run.id startedAt now)
  let checkpoint ← orFail run.id .running syncErrorCheckpoint (begun : Option DeviceSyncCheckpoint)
  if selection.entity = .interface then do
    let opened : Bool ← send (.openEntityPass .first source selection.entity)
    orFail run.id .running selection.collectionErrorCode (if opened then some () else none)
    .ret checkpoint.cursor
  else .ret checkpoint.cursor

/-! ## Collecting -/

/-- The state of the collection loop. -/
structure Collected where
  cursor : DeviceSyncCursor
  /-- The bytes written to the digest. -/
  identityDigest : List UInt8
  seen : List String
  owners : InterfaceOwners

/-- The cursor after a page of the collection; an empty page leaves it alone. -/
def collectedCursor (runId : String) (snapshotAt : Time) (cursor : DeviceSyncCursor)
    (page : EntityPage) (lastInstanceId : Int64) : DeviceSyncCursor :=
  match page.records with
  | [] => cursor
  | first :: _ => {
      version := deviceSyncCursorVersion, runId, nextOffset := page.nextOffset, lastInstanceId
      lastPartition := first.partition, snapshotAt, total := page.total }

/-- Check a page and its identities. -/
def acceptPage (selection : Selection) (state : Collected) (page : EntityPage) :
    SyncProg (Option SyncError) (Int64 × List String) :=
  match validateEntityPage state.cursor page selection.entity,
      addEntityIdentities state.seen page.records with
  | some lastInstanceId, some seen => .ret (lastInstanceId, seen)
  | _, _ => leaveFailed run.id .running selection.collectionErrorCode

/-- Check the owners of a page of interfaces. -/
def checkOwners (selection : Selection) (state : Collected) (page : EntityPage) :
    SyncProg (Option SyncError) InterfaceOwners :=
  if selection.entity = .interface then do
    let owners ← validateInterfaceOwners source.id state.owners page.records
    orFail run.id .running syncErrorGraphWrite owners
  else .ret state.owners

/-- Write a page. -/
def writePage (selection : Selection) (snapshotAt : Time) (page : EntityPage) :
    SyncProg (Option SyncError) Unit := do
  let written ← writeEntityPage w source.id selection.entity snapshotAt page.records
  match written with
  | .ok () => .ret ()
  | .error .leaseLost => .raise (some .leaseLost)
  | .error .canceled => leaveCanceled run.id .running
  | .error .graphWrite => leaveFailed run.id .running syncErrorGraphWrite

/-- Store the cursor after a page with records. -/
def storeCursor (selection : Selection) (snapshotAt : Time) (cursor : DeviceSyncCursor)
    (page : EntityPage) (lastInstanceId : Int64) : SyncProg (Option SyncError) DeviceSyncCursor :=
  let next := collectedCursor run.id snapshotAt cursor page lastInstanceId
  if page.records = [] then .ret next
  else do
    leaveIfCanceled run.id .running startedAt
    let now ← currentTime
    let stored ← controlOp (.advanceCheckpoint source.id selection.resource run.id next now)
    orFail run.id .running syncErrorCheckpoint (stored : Option Unit)
    .ret next

/-- One iteration of the collection loop. -/
def collectPage (selection : Selection) (snapshotAt : Time) (state : Collected) :
    SyncProg (Option SyncError) (Collected ⊕ Collected) := do
  leaveIfCanceled run.id .running startedAt
  let read ← readPage .first source selection.entity state.cursor.nextOffset
  let page ← orFail run.id .running selection.collectionErrorCode read
  let (lastInstanceId, seen) ← acceptPage run selection state page
  let owners ← checkOwners run source selection state page
  let identityDigest := state.identityDigest ++ entityIdentityDigest page.records
  writePage w run source selection snapshotAt page
  let cursor ← storeCursor run source startedAt selection snapshotAt state.cursor page lastInstanceId
  let state : Collected := ⟨cursor, identityDigest, seen, owners⟩
  .ret (if page.done then .inr state else .inl state)

/-- The collection loop. -/
def collectEntities (selection : Selection) (cursor : DeviceSyncCursor) :
    SyncProg (Option SyncError) Collected :=
  Prog.loop (collectPage w run source startedAt selection cursor.snapshotAt) w.iterations
    ⟨cursor, [], [], ⟨[], []⟩⟩

/-! ## Reading again -/

/-- The errors of `validateEntitySnapshot` that its caller tells apart. -/
inductive SnapshotError where
  | leaseLost
  | canceled
  | other
deriving DecidableEq

/-- An error of the source, unless the lease was lost. -/
def leaveUnread {α : Type} : SyncProg SnapshotError α := do
  let lost ← leaseContextError
  .raise (if lost then .leaseLost else .other)

/-- The cursor after a page of the validation. -/
def rereadCursor (cursor : DeviceSyncCursor) (page : EntityPage) (lastInstanceId : Int64) :
    DeviceSyncCursor :=
  { cursor with
    nextOffset := page.nextOffset, lastInstanceId
    lastPartition := page.partition?.getD cursor.lastPartition }

/-- Check a page of the validation; the state is the cursor and the bytes of the digest. -/
def compareEntityPage (entity : EntityType) (expectedTotal : Int) (expectedDigest : List UInt8)
    (state : DeviceSyncCursor × List UInt8) (page : EntityPage) :
    SyncProg SnapshotError ((DeviceSyncCursor × List UInt8) ⊕ Unit) :=
  if page.total ≠ expectedTotal then .raise .other
  else
    match validateEntityPage state.1 page entity with
    | none => .raise .other
    | some lastInstanceId =>
        let cursor := rereadCursor state.1 page lastInstanceId
        let digest := state.2 ++ entityIdentityDigest page.records
        if page.done then
          if cursor.nextOffset ≠ expectedTotal ∨ sha256 digest ≠ expectedDigest then .raise .other
          else .ret (.inr ())
        else .ret (.inl (cursor, digest))

/-- One iteration of the validation loop. -/
def rereadPage (entity : EntityType) (expectedTotal : Int) (expectedDigest : List UInt8)
    (state : DeviceSyncCursor × List UInt8) :
    SyncProg SnapshotError ((DeviceSyncCursor × List UInt8) ⊕ Unit) := do
  let canceled ← cancellationRequested run.id
  match canceled with
  | .error .leaseLost => .raise .leaseLost
  | .error .unavailable => .raise .other
  | .ok true => .raise .canceled
  | .ok false => do
      let read ← readPage .second source entity state.1.nextOffset
      match read with
      | none => leaveUnread
      | some page => compareEntityPage entity expectedTotal expectedDigest state page

/-- Open the second pass of an interface collection. -/
def openSecondPass {ε : Type} (source : Source) (entity : EntityType) : SyncProg ε Bool :=
  if entity = .interface then send (.openEntityPass .second source entity) else .ret true

/-- `validateEntitySnapshot`. -/
def validateEntitySnapshot (entity : EntityType) (expectedTotal : Int)
    (expectedDigest : List UInt8) : SyncProg SnapshotError Unit := do
  let opened ← openSecondPass source entity
  if opened then
    Prog.loop (rereadPage run source entity expectedTotal expectedDigest) w.iterations
      ({ DeviceSyncCursor.zero with version := deviceSyncCursorVersion, total := expectedTotal }, [])
  else leaveUnread

/-- The validation, as `executeClaimed` uses it. -/
def validateCollected (selection : Selection) (state : Collected) :
    SyncProg (Option SyncError) Unit := do
  let checked ← Prog.reify (validateEntitySnapshot w run source selection.entity
    state.cursor.total (sha256 state.identityDigest))
  match checked with
  | .ok () => .ret ()
  | .error .leaseLost => .raise (some .leaseLost)
  | .error .canceled => leaveCanceled run.id .validating
  | .error .other => Prog.exitWith (failOrCancel run.id .validating selection.collectionErrorCode)

/-! ## Publishing -/

/-- Delete the vertices that this run has not seen, when the run covers the source. -/
def cleanUp (selection : Selection) (snapshotAt : Time) : SyncProg (Option SyncError) Unit := do
  let covered : Option Bool ← send (.coversFullSource source selection.entity)
  let currentFullSource ← orFail run.id .publishing syncErrorSourceValidation covered
  if selection.fullSource && currentFullSource then do
    let cleaned : Bool ←
      send (.deleteOrphanVerticesNotSeen source.id selection.entity snapshotAt)
    if cleaned then .ret ()
    else do
      leaveIfLost
      leaveFailed run.id .publishing syncErrorGraphCleanup
  else .ret ()

/-- Complete the checkpoint and the run. -/
def completeRun (selection : Selection) : SyncProg (Option SyncError) Unit := do
  let now ← currentTime
  let completed ← controlOp (.completeCheckpointAndRun source.id selection.resource run.id
    .publishing now)
  match (completed : Option Unit) with
  | some () => .ret ()
  | none => leaveFailed run.id .publishing syncErrorCheckpoint

/-- From the published status to the end. -/
def publish (selection : Selection) (snapshotAt : Time) : SyncProg (Option SyncError) Unit := do
  leaveIfLost
  cleanUp run source selection snapshotAt
  leaveIfLost
  completeRun run source selection

/-- From the start to the published status. -/
def prepare : SyncProg (Option SyncError) (Selection × DeviceSyncCursor) := do
  let selection ← selectEntity run source startedAt
  let cursor ← beginCollection run source startedAt selection
  let state ← collectEntities w run source startedAt selection cursor
  leaveIfCanceled run.id .running startedAt
  moveRun run.id .running .validating
  validateCollected w run source selection state
  leaveIfCanceled run.id .validating startedAt
  moveRun run.id .validating .publishing
  .ret (selection, cursor)

/-- `executeClaimed`. -/
def executeClaimed : SyncProg (Option SyncError) Unit := do
  let (selection, cursor) ← prepare w run source startedAt
  publish run source selection cursor.snapshotAt

end Execute

end UnifiedInfraTopology
