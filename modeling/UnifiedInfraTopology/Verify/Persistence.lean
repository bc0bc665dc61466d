import UnifiedInfraTopology.Repository.Store
import UnifiedInfraTopology.Service.Inventory
import UnifiedInfraTopology.Verify.Ownership

/-!
# Verification of a stored run

`verifyPersistence` of `cmd/worker/verify.go`: read the source, the run and its checkpoint from the
control database and the vertices of the snapshot from the graph, and check them against each other
(`validatePersistenceReport`); for interfaces their ownership is verified too.

The control database and the graph may be out of reach; then the text of the error stands in their
place.  The graph answers queries by their texts.  A report that failed comes with the error.

* `validatePersistenceReport_ok_iff`: which rows pass.
* `verifyPersistence_passes_iff`: so passes the program, on the rows that it has read.
-/

namespace UnifiedInfraTopology.Verify

open Lib

/-! ## Rows -/

/-- What the verification reads of a cursor. -/
structure PersistenceCursor where
  version : Int
  runId : String
  snapshotAt : Time
  nextOffset : Int
  total : Int
deriving DecidableEq

structure PersistenceRun where
  id : String
  sourceId : String
  status : SyncRunStatus
  startedAt : Option Time
  finishedAt : Option Time
  leaseExpiresAt : Option Time
deriving DecidableEq

structure PersistenceCheckpoint where
  complete : Bool
  completedAt : Option Time
  cursor : PersistenceCursor
deriving DecidableEq

structure PersistenceSample where
  vid : String
  stableId : String
  code : String
  portSpeed : Option String
  portOperationStatus : Option String
  portType : Option String
  createdAt : Time
  syncedAt : Time
deriving DecidableEq

structure PersistenceReport where
  status : String
  sourceId : String
  entity : EntityType
  configRef : String
  resource : String
  activeRuns : Int
  run : Option PersistenceRun
  checkpoint : Option PersistenceCheckpoint
  graphTotal : Int
  graphCurrent : Int
  objectsPresent : Bool
  samples : List PersistenceSample
  note : String
  ownership : Option OwnershipReport
deriving DecidableEq

/-- The errors of the verification, one for each message. -/
inductive PersistenceError where
  | requiresMySQL
  | invalidIDs
  | unsupportedEntity
  | controlConfiguration
  | controlConnection
  | sourceNotFound
  | sourceDisabled
  | runNotFound
  | checkpointNotFound
  | invalidCursor
  | graphConfiguration
  | graphConnection
  | queryFailed
  | invalidValue
  | invalidCountResponse
  | invalidCount
  | invalidVertexResponse
  | invalidTimestamp
  | invalidInterfaceResponse
  | invalidInterfaceProperty
  | portTypeMismatch
  | mismatch
  | ownership (cause : OwnershipError)
deriving DecidableEq

/-! ## The cursor -/

/-- The zero value of the struct. -/
def PersistenceCursor.zero : PersistenceCursor := ⟨0, "", 0, 0, 0⟩

/-- Assign one member of the object to the field with its name. -/
def assignPersistenceMember (c : PersistenceCursor) (member : String × Json.Value) :
    Option PersistenceCursor :=
  let name := foldName member.1
  let v := member.2
  if name = "VERSION" then (assignInt c.version v).map fun n => { c with version := n }
  else if name = "RUN_ID" then (assignString c.runId v).map fun s => { c with runId := s }
  else if name = "SNAPSHOT_AT" then (assignTime c.snapshotAt v).map fun t => { c with snapshotAt := t }
  else if name = "NEXT_OFFSET" then (assignInt c.nextOffset v).map fun n => { c with nextOffset := n }
  else if name = "TOTAL" then (assignInt c.total v).map fun n => { c with total := n }
  else some c

/-- `json.Unmarshal` into a zero cursor. -/
def unmarshalPersistenceCursor (text : String) : Option PersistenceCursor :=
  match Json.parse text.toList with
  | some .null => some .zero
  | some (.object members) => members.foldlM assignPersistenceMember .zero
  | _ => none

/-- What the verification reads of a cursor that the control store reads. -/
def PersistenceCursor.ofStored (c : DeviceSyncCursor) : PersistenceCursor :=
  ⟨c.version, c.runId, c.snapshotAt, c.nextOffset, c.total⟩

/-- A member that the control store assigns, the verification assigns too, or leaves out. -/
theorem assignPersistenceMember_ofStored {c c' : DeviceSyncCursor} {member : String × Json.Value}
    (assigned : assignMember c member = some c') :
    assignPersistenceMember (.ofStored c) member = some (.ofStored c') := by
  unfold assignMember at assigned
  unfold assignPersistenceMember
  dsimp only at assigned ⊢
  split_ifs at assigned ⊢ with version runId offset instance_ partition snapshot total
  all_goals first
    | (obtain ⟨value, read, rfl⟩ := Option.map_eq_some_iff.mp assigned
       simp_all [PersistenceCursor.ofStored])
    | (cases assigned; rfl)

theorem foldlM_assignPersistenceMember {members : List (String × Json.Value)} {c c' : DeviceSyncCursor}
    (folded : members.foldlM assignMember c = some c') :
    members.foldlM assignPersistenceMember (.ofStored c) = some (.ofStored c') := by
  induction members generalizing c with
  | nil =>
      cases folded
      rfl
  | cons member members ih =>
      rw [List.foldlM_cons] at folded ⊢
      obtain ⟨next, assigned, rest⟩ := Option.bind_eq_some_iff.mp folded
      exact Option.bind_eq_some_iff.mpr
        ⟨.ofStored next, assignPersistenceMember_ofStored assigned, ih rest⟩

/-- A text that the control store reads, the verification reads. -/
theorem unmarshalPersistenceCursor_ofStored {text : String} {c : DeviceSyncCursor}
    (read : unmarshalCursor text = some c) :
    unmarshalPersistenceCursor text = some (.ofStored c) := by
  unfold unmarshalCursor at read
  unfold unmarshalPersistenceCursor
  cases parsed : Json.parse text.toList with
  | none =>
      rw [parsed] at read
      cases read
  | some value =>
      rw [parsed] at read
      cases value with
      | null =>
          cases read
          rfl
      | object members => exact foldlM_assignPersistenceMember read
      | _ => cases read

/-! ## Queries -/

/-- The property that identifies a vertex of the entity. -/
def persistenceIdentity : EntityType → Option String
  | .device => some "device_sn"
  | .interface => some "port_uuid"
  | .dataCenter | .cabinet | .transformer => some "uuid"
  | _ => none

def persistenceGraphQuery (entity : EntityType) (current count : Bool) :
    Except PersistenceError String :=
  match persistenceIdentity entity with
  | none => .error .unsupportedEntity
  | some identity =>
      let tag := entity.text
      let query := "LOOKUP ON " ++ tag ++ " WHERE " ++ tag ++ ".source_id == $source_id"
      let query :=
        if current then query ++ " AND " ++ tag ++ ".synced_at == datetime($snapshot)" else query
      let query := query ++ " YIELD id(vertex) AS vid"
      if count then .ok (query ++ " | YIELD count(*) AS total;")
      else
        let query := query ++ ", " ++ tag ++ "." ++ identity ++ " AS identity, toString(" ++ tag ++
          ".created_at) AS created_at, toString(" ++ tag ++ ".synced_at) AS synced_at"
        if entity = .interface then
          .ok (query ++ ", interface.port_name AS code, interface.port_speed AS port_speed" ++
            ", interface.port_operation_status AS port_operation_status" ++
            ", interface.port_type AS port_type;")
        else if entity ≠ .device then .ok (query ++ ", " ++ tag ++ ".code AS code;")
        else .ok (query ++ ";")

/-- The answers of the graph to a query with the parameters `source_id` and `snapshot`; `none` is a
failed query. -/
abbrev PersistenceAnswers : Type :=
  String → String → Option Time → Option (List (List GraphValue))

/-- The closure `read`. -/
def readPersistence (answer : Option (List (List GraphValue))) :
    Except PersistenceError (List (List String)) :=
  match answer with
  | none => .error .queryFailed
  | some rows => (persistenceTable rows).elim (.error .invalidValue) .ok

/-- The closure `count`. -/
def countPersistence (answer : Option (List (List GraphValue))) : Except PersistenceError Int64 := do
  let rows ← readPersistence answer
  match rows with
  | [[cell]] => (parseInt64 cell).elim (.error .invalidCount) .ok
  | _ => .error .invalidCountResponse

/-- `persistenceNullableText`. -/
def persistenceNullableText (encoded : String) : Except PersistenceError (Option String) :=
  if encoded = "NULL" ∨ encoded = "null" ∨ encoded = "__NULL__" then .ok none
  else
    match Json.parse encoded.toList with
    | some (.string s) => .ok (some s)
    | some .null => .ok (some "")
    | _ => .error .invalidInterfaceProperty

/-- The time of a cell. -/
def readTime (cell : String) : Except PersistenceError Time :=
  (persistenceTime cell).elim (.error .invalidTimestamp) .ok

/-- What the loop of `verifyPersistence` makes of a row. -/
def readPersistenceRow (entity : EntityType) (expectedType : String) (row : List String) :
    Except PersistenceError PersistenceSample :=
  match row with
  | vid :: identity :: created :: synced :: rest => do
      let createdAt ← readTime created
      let syncedAt ← readTime synced
      let code := (rest.head?.map persistenceString).getD ""
      let sample : PersistenceSample :=
        ⟨persistenceString vid, persistenceString identity, code, none, none, none, createdAt, syncedAt⟩
      if entity = .interface then
        match rest with
        | [_, speed, operationStatus, type] => do
            let portSpeed ← persistenceNullableText speed
            let portOperationStatus ← persistenceNullableText operationStatus
            let portType ← persistenceNullableText type
            if expectedType ≠ "" ∧ portType ≠ some expectedType then .error .portTypeMismatch
            else .ok { sample with portSpeed, portOperationStatus, portType }
        | _ => .error .invalidInterfaceResponse
      else .ok sample
  | _ => .error .invalidVertexResponse

/-! ## The report -/

/-- What the loop of `validatePersistenceReport` checks of a row. -/
def samplePersisted (sourceId : String) (entity : EntityType) (snapshotAt : Time) (seen : List String)
    (row : PersistenceSample) : Bool :=
  decide (trimSpace row.stableId ≠ "") && decide (trimSpace row.stableId = row.stableId) &&
    !row.createdAt.isZero && decide (row.createdAt ≤ row.syncedAt) &&
    decide (row.syncedAt = snapshotAt) && decide (row.vid ∉ seen) &&
    decide ((⟨sourceId, entity, row.stableId⟩ : EntityIdentity).vid = .ok row.vid)

/-- The loop of `validatePersistenceReport`. -/
def samplesPersisted (sourceId : String) (entity : EntityType) (snapshotAt : Time) :
    List PersistenceSample → List String → Bool
  | [], _ => true
  | row :: rows, seen =>
      samplePersisted sourceId entity snapshotAt seen row &&
        samplesPersisted sourceId entity snapshotAt rows (row.vid :: seen)

/-- What `validatePersistenceReport` checks of the times of a run. -/
def runDated (run : PersistenceRun) (snapshotAt : Time) : Bool :=
  match run.startedAt, run.finishedAt with
  | some startedAt, some finishedAt =>
      run.leaseExpiresAt.isNone && decide (startedAt ≤ finishedAt) && decide (snapshotAt = startedAt)
  | _, _ => false

/-- What `validatePersistenceReport` checks of the run, the checkpoint and the counts. -/
def rowsPersisted (r : PersistenceReport) (run : PersistenceRun) (checkpoint : PersistenceCheckpoint)
    (rows : List PersistenceSample) : Bool :=
  let cursor := checkpoint.cursor
  decide (run.sourceId = r.sourceId) && decide (run.status = .succeeded) &&
    runDated run cursor.snapshotAt && checkpoint.complete && checkpoint.completedAt.isSome &&
    decide (cursor.version = 1) && decide (cursor.runId = run.id) && decide (0 ≤ cursor.total) &&
    decide (cursor.nextOffset = cursor.total) && decide (r.graphCurrent = cursor.total) &&
    decide (r.graphCurrent ≤ r.graphTotal) && decide ((rows.length : Int) = r.graphCurrent)

def validatePersistenceReport (r : PersistenceReport) (rows : List PersistenceSample) :
    Except PersistenceError PersistenceReport :=
  match r.run, r.checkpoint with
  | some run, some checkpoint =>
      if rowsPersisted r run checkpoint rows &&
          samplesPersisted r.sourceId r.entity checkpoint.cursor.snapshotAt rows [] then
        let objectsPresent := decide (0 < r.graphCurrent)
        .ok { r with
          status := "PASS"
          objectsPresent
          note := if objectsPresent then r.note else "verified empty snapshot; no objects were stored"
          samples := rows.take 5 }
      else .error .mismatch
  | _, _ => .error .mismatch

/-- A row that the verification accepts. -/
structure SamplePersisted (sourceId : String) (entity : EntityType) (snapshotAt : Time)
    (row : PersistenceSample) : Prop where
  named : row.stableId ≠ "" ∧ trimSpace row.stableId = row.stableId
  born : row.createdAt.isZero = false ∧ row.createdAt ≤ row.syncedAt
  current : row.syncedAt = snapshotAt
  identified : (⟨sourceId, entity, row.stableId⟩ : EntityIdentity).vid = .ok row.vid

theorem samplePersisted_iff {sourceId : String} {entity : EntityType} {snapshotAt : Time}
    {seen : List String} {row : PersistenceSample} :
    samplePersisted sourceId entity snapshotAt seen row = true ↔
      SamplePersisted sourceId entity snapshotAt row ∧ row.vid ∉ seen := by
  simp only [samplePersisted, Bool.and_eq_true, decide_eq_true_eq, Bool.not_eq_true']
  constructor
  · rintro ⟨⟨⟨⟨⟨⟨blank, padded⟩, real⟩, ordered⟩, current⟩, fresh⟩, identified⟩
    exact ⟨⟨⟨padded ▸ blank, padded⟩, ⟨real, ordered⟩, current, identified⟩, fresh⟩
  · rintro ⟨⟨⟨blank, padded⟩, ⟨real, ordered⟩, current, identified⟩, fresh⟩
    exact ⟨⟨⟨⟨⟨⟨padded.symm ▸ blank, padded⟩, real⟩, ordered⟩, current⟩, fresh⟩, identified⟩

/-- The rows are accepted one by one, and their vertices are distinct. -/
theorem samplesPersisted_iff {sourceId : String} {entity : EntityType} {snapshotAt : Time}
    {rows : List PersistenceSample} {seen : List String} :
    samplesPersisted sourceId entity snapshotAt rows seen = true ↔
      (∀ row ∈ rows, SamplePersisted sourceId entity snapshotAt row) ∧
        (rows.map (·.vid)).Nodup ∧ ∀ row ∈ rows, row.vid ∉ seen := by
  induction rows generalizing seen with
  | nil => simp [samplesPersisted]
  | cons row rows ih =>
      rw [samplesPersisted, Bool.and_eq_true, samplePersisted_iff, ih]
      simp only [List.mem_cons, forall_eq_or_imp, List.map_cons, List.nodup_cons, not_or,
        List.mem_map, not_exists, not_and]
      constructor
      · rintro ⟨⟨here, fresh⟩, each, distinct, others⟩
        exact ⟨⟨here, each⟩, ⟨fun other member same => (others other member).1 same, distinct⟩, fresh,
          fun other member => (others other member).2⟩
      · rintro ⟨⟨here, each⟩, ⟨apart, distinct⟩, fresh, others⟩
        exact ⟨⟨here, fresh⟩, each, distinct,
          fun other member => ⟨apart other member, others other member⟩⟩

/-- What a verified report says: the run has succeeded in order and its checkpoint is whole, the rows
are those of the snapshot, as many as the checkpoint has counted, and each is the vertex of its
identity. -/
structure ReportPersisted (r : PersistenceReport) (run : PersistenceRun)
    (checkpoint : PersistenceCheckpoint) (rows : List PersistenceSample) : Prop where
  source : run.sourceId = r.sourceId
  succeeded : run.status = .succeeded
  dated : ∃ startedAt finishedAt, run.startedAt = some startedAt ∧ run.finishedAt = some finishedAt ∧
    startedAt ≤ finishedAt ∧ checkpoint.cursor.snapshotAt = startedAt
  released : run.leaseExpiresAt = none
  complete : checkpoint.complete = true ∧ checkpoint.completedAt.isSome = true
  owned : checkpoint.cursor.version = 1 ∧ checkpoint.cursor.runId = run.id
  whole : 0 ≤ checkpoint.cursor.total ∧ checkpoint.cursor.nextOffset = checkpoint.cursor.total
  counted : r.graphCurrent = checkpoint.cursor.total ∧ r.graphCurrent ≤ r.graphTotal ∧
    (rows.length : Int) = r.graphCurrent
  stored : ∀ row ∈ rows, SamplePersisted r.sourceId r.entity checkpoint.cursor.snapshotAt row
  distinct : (rows.map (·.vid)).Nodup

theorem runDated_iff {run : PersistenceRun} {snapshotAt : Time} :
    runDated run snapshotAt = true ↔ run.leaseExpiresAt = none ∧
      ∃ startedAt finishedAt, run.startedAt = some startedAt ∧ run.finishedAt = some finishedAt ∧
        startedAt ≤ finishedAt ∧ snapshotAt = startedAt := by
  unfold runDated
  constructor
  · intro dated
    split at dated
    · rename_i startedAt finishedAt started finished
      simp only [Bool.and_eq_true, Option.isNone_iff_eq_none, decide_eq_true_eq] at dated
      exact ⟨dated.1.1, startedAt, finishedAt, started, finished, dated.1.2, dated.2⟩
    · cases dated
  · rintro ⟨released, startedAt, finishedAt, started, finished, ordered, same⟩
    simp [released, started, finished, ordered, same]

theorem persisted_iff {r : PersistenceReport} {run : PersistenceRun}
    {checkpoint : PersistenceCheckpoint} {rows : List PersistenceSample} :
    (rowsPersisted r run checkpoint rows &&
      samplesPersisted r.sourceId r.entity checkpoint.cursor.snapshotAt rows []) = true ↔
        ReportPersisted r run checkpoint rows := by
  rw [Bool.and_eq_true, samplesPersisted_iff]
  simp only [rowsPersisted, Bool.and_eq_true, decide_eq_true_eq, runDated_iff]
  constructor
  · rintro ⟨⟨⟨⟨⟨⟨⟨⟨⟨⟨⟨⟨source, succeeded⟩, released, dated⟩, complete⟩, completed⟩, version⟩, own⟩,
      total⟩, offset⟩, current⟩, within⟩, length⟩, stored, distinct, -⟩
    exact ⟨source, succeeded, dated, released, ⟨complete, completed⟩, ⟨version, own⟩, ⟨total, offset⟩,
      ⟨current, within, length⟩, stored, distinct⟩
  · rintro ⟨source, succeeded, dated, released, ⟨complete, completed⟩, ⟨version, own⟩, ⟨total, offset⟩,
      ⟨current, within, length⟩, stored, distinct⟩
    exact ⟨⟨⟨⟨⟨⟨⟨⟨⟨⟨⟨⟨source, succeeded⟩, released, dated⟩, complete⟩, completed⟩, version⟩, own⟩,
      total⟩, offset⟩, current⟩, within⟩, length⟩, stored, distinct, nofun⟩

/-- **What the verification decides.**  A report passes where its run, its checkpoint and the rows
of the graph say that the run has succeeded and that its snapshot is stored, and nowhere else. -/
theorem validatePersistenceReport_ok_iff (r : PersistenceReport) (rows : List PersistenceSample) :
    (∃ passed, validatePersistenceReport r rows = .ok passed ∧ passed.status = "PASS" ∧
        passed.objectsPresent = !rows.isEmpty ∧ passed.samples = rows.take 5) ↔
      ∃ run checkpoint, r.run = some run ∧ r.checkpoint = some checkpoint ∧
        ReportPersisted r run checkpoint rows := by
  unfold validatePersistenceReport
  constructor
  · rintro ⟨passed, ok, -⟩
    split at ok
    · rename_i run checkpoint stored begun
      split_ifs at ok with accepted
      exact ⟨run, checkpoint, stored, begun, persisted_iff.mp accepted⟩
    · cases ok
  · rintro ⟨run, checkpoint, stored, begun, persisted⟩
    simp only [stored, begun, persisted_iff.mpr persisted, ↓reduceIte]
    refine ⟨_, rfl, rfl, ?_, rfl⟩
    have counted := persisted.counted.2.2
    cases rows with
    | nil => simp [← counted]
    | cons row rows =>
        rw [← counted]
        simp only [List.length_cons, List.isEmpty_cons, Bool.not_false, decide_eq_true_eq]
        omega

/-! ## The program -/

/-- The graph: the queries of the verification, and those of the ownership of a source at a
snapshot. -/
structure PersistenceGraph where
  answers : PersistenceAnswers
  ownership : String → Time → OwnershipAnswers

/-- What the verification runs in: the driver of the control database and the database, the port type
that the configuration selects for a source, and the graph. -/
structure PersistenceEnv where
  driver : String
  control : Except PersistenceError Store
  portType : String → String
  graph : Except PersistenceError PersistenceGraph

/-- A verification that fails may have printed a report. -/
abbrev PersistenceResult : Type :=
  Except (PersistenceError × Option PersistenceReport) PersistenceReport

/-- `return err`. -/
def unreported {α : Type} (x : Except PersistenceError α) :
    Except (PersistenceError × Option PersistenceReport) α :=
  x.mapError fun e => (e, none)

/-- The resource of an entity. -/
def persistenceResource : EntityType → String
  | .device => "devices"
  | .dataCenter => "data_centers"
  | .cabinet => "cabinets"
  | .interface => "interfaces"
  | .transformer => "transformers"
  | _ => ""

/-- The enabled source. -/
def readSource (s : Store) (sourceId : String) : Except PersistenceError Source :=
  match s.sources.find? sourceId with
  | none => .error .sourceNotFound
  | some source => if source.enabled then .ok source else .error .sourceDisabled

/-- The columns of the run. -/
def readRun (s : Store) (runId : String) : Except PersistenceError PersistenceRun :=
  match s.runs.find? runId with
  | none => .error .runNotFound
  | some r => .ok ⟨r.id, r.sourceId, r.status, r.startedAt, r.finishedAt, r.leaseExpiresAt⟩

/-- The columns of the checkpoint, with its cursor decoded. -/
def readCheckpoint (s : Store) (sourceId resource : String) :
    Except PersistenceError PersistenceCheckpoint :=
  match s.checkpoints.find? (sourceId, resource) with
  | none => .error .checkpointNotFound
  | some row =>
      match unmarshalPersistenceCursor row.cursor with
      | none => .error .invalidCursor
      | some cursor => .ok ⟨row.complete, row.completedAt, cursor⟩

/-- The report before anything was read of the run and the graph. -/
def preflightReport (s : Store) (source : Source) (entity : EntityType) : PersistenceReport where
  status := "preflight"
  sourceId := source.id
  entity := entity
  configRef := source.configRef
  resource := persistenceResource entity
  activeRuns := (s.runs.rows.filter fun r => r.status.active).length
  run := none
  checkpoint := none
  graphTotal := 0
  graphCurrent := 0
  objectsPresent := false
  samples := []
  note := ""
  ownership := none

/-- The query, where the error was met before. -/
def knownQuery (entity : EntityType) (current count : Bool) : String :=
  (persistenceGraphQuery entity current count).toOption.getD ""

/-- The counts of the graph and its rows at the snapshot, as the report is checked against them. -/
def readGraph (answers : PersistenceAnswers) (expectedType : String) (report : PersistenceReport)
    (snapshot : Time) : Except PersistenceError (PersistenceReport × List PersistenceSample) := do
  let ask (current count : Bool) :=
    answers (knownQuery report.entity current count) report.sourceId (some (topologyTime snapshot))
  let total ← countPersistence (ask false true)
  let current ← countPersistence (ask true true)
  let rows ← readPersistence (ask true false)
  let samples ← rows.mapM (readPersistenceRow report.entity expectedType)
  .ok ({ report with graphTotal := total.toInt, graphCurrent := current.toInt }, samples)

/-- The check of the report, and for interfaces the one of their ownership. -/
def concludeReport (graph : PersistenceGraph) (report : PersistenceReport)
    (samples : List PersistenceSample) (snapshot : Time) : PersistenceResult :=
  match validatePersistenceReport report samples with
  | .error e => .error (e, some { report with status := "FAIL" })
  | .ok passed =>
      if passed.entity = .interface then
        match verifyOwnership (graph.ownership passed.sourceId snapshot) passed.sourceId snapshot
          passed.graphCurrent with
        | .error (e, ownership) =>
            .error (.ownership e, some { passed with status := "FAIL", ownership })
        | .ok ownership => .ok { passed with ownership := some ownership }
      else .ok passed

def verifyPersistence (env : PersistenceEnv) (sourceId : String) (entity : EntityType)
    (runId : String) : PersistenceResult :=
  if env.driver ≠ "mysql" then .error (.requiresMySQL, none)
  else if inventoryID sourceId = false ∨ runId ≠ "" ∧ inventoryID runId = false then
    .error (.invalidIDs, none)
  else do
    let query ← unreported (persistenceGraphQuery entity false true)
    let s ← unreported env.control
    let source ← unreported (readSource s sourceId)
    let report := preflightReport s source entity
    if runId = "" then
      let graph ← unreported env.graph
      let total ← unreported (countPersistence (graph.answers query sourceId none))
      .ok { report with graphTotal := total.toInt }
    else
      let run ← unreported (readRun s runId)
      let checkpoint ← unreported (readCheckpoint s sourceId report.resource)
      let graph ← unreported env.graph
      let snapshot := checkpoint.cursor.snapshotAt
      let report := { report with run := some run, checkpoint := some checkpoint }
      let (report, samples) ←
        unreported (readGraph graph.answers (env.portType source.configRef) report snapshot)
      concludeReport graph report samples snapshot

/-! ## What the program decides -/

/-- The report of the program before it asks the graph. -/
def startedReport (s : Store) (source : Source) (entity : EntityType) (run : PersistenceRun)
    (checkpoint : PersistenceCheckpoint) : PersistenceReport :=
  { preflightReport s source entity with run := some run, checkpoint := some checkpoint }

/-- What the program has read before it decides: the rows of the control database, and the counts and
the rows of the graph at the snapshot of the checkpoint. -/
structure PersistenceRead (env : PersistenceEnv) (sourceId : String) (entity : EntityType)
    (runId : String) (graph : PersistenceGraph) (run : PersistenceRun)
    (checkpoint : PersistenceCheckpoint) (read : PersistenceReport × List PersistenceSample) :
    Prop where
  mysql : env.driver = "mysql"
  ids : inventoryID sourceId = true ∧ inventoryID runId = true
  supported : persistenceIdentity entity ≠ none
  connected : env.graph = .ok graph
  stored : ∃ s source, env.control = .ok s ∧ readSource s sourceId = .ok source ∧
    readRun s runId = .ok run ∧
    readCheckpoint s sourceId (persistenceResource entity) = .ok checkpoint ∧
    readGraph graph.answers (env.portType source.configRef) (startedReport s source entity run checkpoint)
      checkpoint.cursor.snapshotAt = .ok read

section

variable {env : PersistenceEnv} {sourceId runId : String} {entity : EntityType} {s : Store}
  {source : Source} {graph : PersistenceGraph} {run : PersistenceRun}
  {checkpoint : PersistenceCheckpoint} {read : PersistenceReport × List PersistenceSample}

theorem unreported_eq_ok {α : Type} {x : Except PersistenceError α} {a : α} :
    unreported x = .ok a ↔ x = .ok a := by
  cases x <;> simp [unreported, Except.mapError]

theorem bind_of_ok {ε α β : Type} {x : Except ε α} {f : α → Except ε β} {a : α} (ok : x = .ok a) :
    x >>= f = f a := by
  rw [ok]
  rfl

theorem readSource_id (found : readSource s sourceId = .ok source) : source.id = sourceId := by
  unfold readSource at found
  split at found
  · cases found
  · rename_i stored
    split_ifs at found
    cases found
    exact Table.key_of_find? stored

/-- The counts are all that is read into the report. -/
theorem readGraph_report {answers : PersistenceAnswers} {expectedType : String}
    {report : PersistenceReport} {snapshot : Time}
    (ok : readGraph answers expectedType report snapshot = .ok read) :
    ∃ total current, read.1 = { report with graphTotal := total, graphCurrent := current } := by
  obtain ⟨total, -, ok⟩ := bind_ok ok
  obtain ⟨current, -, ok⟩ := bind_ok ok
  obtain ⟨rows, -, ok⟩ := bind_ok ok
  obtain ⟨samples, -, ok⟩ := bind_ok ok
  cases ok
  exact ⟨_, _, rfl⟩

/-- The end of the program. -/
theorem concludeReport_ok_iff {report : PersistenceReport} {rows : List PersistenceSample}
    {snapshot : Time} (stored : report.run = some run) (begun : report.checkpoint = some checkpoint) :
    (∃ passed, concludeReport graph report rows snapshot = .ok passed ∧ passed.status = "PASS") ↔
      ReportPersisted report run checkpoint rows ∧ (report.entity = .interface → ∃ ownership,
        verifyOwnership (graph.ownership report.sourceId snapshot) report.sourceId snapshot
          report.graphCurrent = .ok ownership) := by
  rw [← persisted_iff]
  unfold concludeReport validatePersistenceReport
  simp only [stored, begun]
  by_cases persisted : (rowsPersisted report run checkpoint rows &&
      samplesPersisted report.sourceId report.entity checkpoint.cursor.snapshotAt rows []) = true
  · simp only [persisted, ↓reduceIte, true_and]
    by_cases ports : report.entity = .interface
    · simp only [ports, ↓reduceIte, forall_const]
      cases verifyOwnership (graph.ownership report.sourceId snapshot) report.sourceId snapshot
        report.graphCurrent with
      | error e => simp
      | ok ownership => simp
    · simp only [ports, ↓reduceIte, false_implies, iff_true]
      exact ⟨_, rfl, rfl⟩
  · simp [persisted]

/-- The reads of a program that passes. -/
theorem persistenceRead_of_passes {report : PersistenceReport}
    (passes : verifyPersistence env sourceId entity runId = .ok report) (status : report.status = "PASS") :
    ∃ graph run checkpoint read, PersistenceRead env sourceId entity runId graph run checkpoint read ∧
      concludeReport graph read.1 read.2 checkpoint.cursor.snapshotAt = .ok report := by
  unfold verifyPersistence at passes
  obtain ⟨mysql, passes⟩ := check_ok passes
  obtain ⟨ids, passes⟩ := check_ok passes
  obtain ⟨query, supported, passes⟩ := bind_ok passes
  obtain ⟨s, controlled, passes⟩ := bind_ok passes
  obtain ⟨source, found, passes⟩ := bind_ok passes
  rw [unreported_eq_ok] at supported controlled found
  by_cases preflight : runId = ""
  · rw [if_pos preflight] at passes
    obtain ⟨graph, -, passes⟩ := bind_ok passes
    obtain ⟨total, -, passes⟩ := bind_ok passes
    cases passes
    have other : ("preflight" : String) ≠ "PASS" := by decide
    exact (other status).elim
  rw [if_neg preflight] at passes
  obtain ⟨run, stored, passes⟩ := bind_ok passes
  obtain ⟨checkpoint, begun, passes⟩ := bind_ok passes
  obtain ⟨graph, connected, passes⟩ := bind_ok passes
  obtain ⟨read, asked, concluded⟩ := bind_ok passes
  rw [unreported_eq_ok] at stored begun connected asked
  cases readSource_id found
  refine ⟨graph, run, checkpoint, read, ⟨not_not.mp mysql, ?_, ?_, connected, s, source, controlled,
    found, stored, begun, asked⟩, concluded⟩
  · simpa [preflight] using ids
  · intro unknown
    simp [persistenceGraphQuery, unknown] at supported

/-- The program goes from its reads to the end. -/
theorem verifyPersistence_of_read
    (reads : PersistenceRead env sourceId entity runId graph run checkpoint read) :
    verifyPersistence env sourceId entity runId =
      concludeReport graph read.1 read.2 checkpoint.cursor.snapshotAt := by
  obtain ⟨mysql, ids, supported, connected, s, source, controlled, found, stored, begun, asked⟩ := reads
  have given : runId ≠ "" := by
    rintro rfl
    exact absurd ids.2 (by decide)
  have valid : ¬(inventoryID sourceId = false ∨ runId ≠ "" ∧ inventoryID runId = false) := by
    simp [ids]
  obtain ⟨query, queried⟩ : ∃ query, persistenceGraphQuery entity false true = .ok query := by
    obtain ⟨identity, known⟩ := Option.ne_none_iff_exists'.mp supported
    simp [persistenceGraphQuery, known]
  cases readSource_id found
  unfold verifyPersistence
  rw [if_neg (not_not.mpr mysql), if_neg valid]
  refine (bind_of_ok (unreported_eq_ok.mpr queried)).trans ?_
  refine (bind_of_ok (unreported_eq_ok.mpr controlled)).trans ?_
  refine (bind_of_ok (unreported_eq_ok.mpr found)).trans ?_
  refine (if_neg given).trans ?_
  refine (bind_of_ok (unreported_eq_ok.mpr stored)).trans ?_
  refine (bind_of_ok (unreported_eq_ok.mpr begun)).trans ?_
  refine (bind_of_ok (unreported_eq_ok.mpr connected)).trans ?_
  exact bind_of_ok (unreported_eq_ok.mpr asked)

end

/-- **What the program decides.**  It passes where its rows can be read and say that the run has
succeeded and that its snapshot is stored, and, for interfaces, where their ownership is verified. -/
theorem verifyPersistence_passes_iff (env : PersistenceEnv) (sourceId : String) (entity : EntityType)
    (runId : String) :
    (∃ report, verifyPersistence env sourceId entity runId = .ok report ∧ report.status = "PASS") ↔
      ∃ graph run checkpoint read,
        PersistenceRead env sourceId entity runId graph run checkpoint read ∧
        ReportPersisted read.1 run checkpoint read.2 ∧ (entity = .interface → ∃ ownership,
          verifyOwnership (graph.ownership sourceId checkpoint.cursor.snapshotAt) sourceId
            checkpoint.cursor.snapshotAt read.1.graphCurrent = .ok ownership) := by
  have concludes {graph : PersistenceGraph} {run : PersistenceRun} {checkpoint : PersistenceCheckpoint}
      {read : PersistenceReport × List PersistenceSample}
      (reads : PersistenceRead env sourceId entity runId graph run checkpoint read) :
      read.1.run = some run ∧ read.1.checkpoint = some checkpoint ∧ read.1.entity = entity ∧
        read.1.sourceId = sourceId := by
    obtain ⟨s, source, -, found, -, -, asked⟩ := reads.stored
    obtain ⟨total, current, same⟩ := readGraph_report asked
    rw [same]
    exact ⟨rfl, rfl, rfl, readSource_id found⟩
  constructor
  · rintro ⟨report, passes, status⟩
    obtain ⟨graph, run, checkpoint, read, reads, concluded⟩ := persistenceRead_of_passes passes status
    obtain ⟨stored, begun, same, own⟩ := concludes reads
    obtain ⟨persisted, owned⟩ := (concludeReport_ok_iff stored begun).mp ⟨report, concluded, status⟩
    rw [same, own] at owned
    exact ⟨graph, run, checkpoint, read, reads, persisted, owned⟩
  · rintro ⟨graph, run, checkpoint, read, reads, persisted, owned⟩
    obtain ⟨stored, begun, same, own⟩ := concludes reads
    rw [← same, ← own] at owned
    obtain ⟨report, concluded, status⟩ := (concludeReport_ok_iff stored begun).mpr ⟨persisted, owned⟩
    exact ⟨report, (verifyPersistence_of_read reads).trans concluded, status⟩

end UnifiedInfraTopology.Verify
