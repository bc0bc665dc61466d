import UnifiedInfraTopology.Graph.Store

/-!
# The writes of the topology repository

`UpsertVertex`, `UpsertRelation`, `VertexExists`, `DeleteRelationsNotSeen` and
`DeleteOrphanVerticesNotSeen` of `topology_graph.go`, as programs over statements.

A write first checks its argument and computes the row it will insert (`prepareVertex`,
`prepareRelation`), without a statement.  It then inserts the row unless one is stored, reads the
stored identity back, and updates every column of the schema and the synchronisation time where the
stored time is not later.  The three stages are separate definitions, so that a proof about
interleavings can say which stage a call has reached.

The source lock (`lockTopologySourceWrite`) is a read lock of one process: it orders no two writes.
-/

namespace UnifiedInfraTopology

open Lib

structure TopologyVertex where
  identity : EntityIdentity
  properties : Properties
  createdAt : Time
  syncedAt : Time
deriving DecidableEq

abbrev GraphProg (α : Type) : Type := Prog Statement (fun _ => GraphAnswer) GraphError α

/-- `executeTopology`: a statement whose error ends the call. -/
def executeTopology (s : Statement) : GraphProg (List (List String)) :=
  .call s fun
    | .ok rows => .ret rows
    | .error e => .raise e

/-- `topologySingleStringRow`: the only row of an answer, with this many columns. -/
def topologySingleStringRow (rows : List (List String)) (columns : Nat) : Option (List String) :=
  match rows with
  | [row] => if row.length = columns then some row else none
  | _ => none

/-! ## Vertices -/

/-- The checks of `UpsertVertex`, and the row it inserts. -/
def prepareVertex (vertex : TopologyVertex) : Except GraphError VertexRow :=
  match schema : topologyEntitySchemas vertex.identity.entityType with
  | none => .error .unsupportedEntityType
  | some entry =>
      match vertex.identity.vid with
      | .error e => .error (.invalidVertexIdentity e)
      | .ok vid =>
          if vertex.createdAt.isZero ∨ vertex.syncedAt.isZero then .error .timestampsRequired
          else
            match normalized : normalizeTopologyProperties vertex.properties entry.properties with
            | .error e => .error e
            | .ok columns => .ok {
                tag := vertex.identity.entityType, vid, sourceId := vertex.identity.sourceId
                stableId := vertex.identity.stableId, columns
                createdAt := topologyTime vertex.createdAt, syncedAt := topologyTime vertex.syncedAt
                named := by rw [names_of_normalize normalized, vertexColumns, schema]; rfl }

/-- The update, the last stage. -/
def refreshVertex (row : VertexRow) : GraphProg Unit :=
  (executeTopology (.updateVertex row.tag row.vid row.columns row.syncedAt)).bind fun _ => .ret ()

/-- The identity check, the second stage. -/
def checkVertex (row : VertexRow) : GraphProg Unit :=
  (executeTopology (.fetchVertex row.tag row.vid)).bind fun rows =>
    match topologySingleStringRow rows 2 with
    | none => .raise .malformedResult
    | some identity =>
        if identity ≠ [row.sourceId, row.stableId] then .raise .identityCollision
        else refreshVertex row

/-- The three statements of `UpsertVertex`. -/
def writeVertex (row : VertexRow) : GraphProg Unit :=
  (executeTopology (.insertVertex row)).bind fun _ => checkVertex row

def upsertVertex (vertex : TopologyVertex) : GraphProg Unit :=
  match prepareVertex vertex with
  | .error e => .raise e
  | .ok row => writeVertex row

/-- The row of a vertex is stored under its identity, with its times at microseconds. -/
theorem prepareVertex_ok {vertex : TopologyVertex} {row : VertexRow}
    (ok : prepareVertex vertex = .ok row) :
    vertex.identity.vid = .ok row.vid ∧ row.tag = vertex.identity.entityType ∧
      row.sourceId = vertex.identity.sourceId ∧ row.stableId = vertex.identity.stableId ∧
      row.createdAt = topologyTime vertex.createdAt ∧
      row.syncedAt = topologyTime vertex.syncedAt := by
  unfold prepareVertex at ok
  split at ok
  · cases ok
  · split at ok
    · cases ok
    · rename_i vid hashed
      split at ok
      · cases ok
      · split at ok
        · cases ok
        · cases ok
          exact ⟨hashed, rfl, rfl, rfl, rfl, rfl⟩

/-- `VertexExists`: a row with another identity is an error. -/
def vertexExists (identity : EntityIdentity) : GraphProg Bool :=
  match topologyEntitySchemas identity.entityType with
  | none => .raise .unsupportedEntityType
  | some _ =>
      match identity.vid with
      | .error e => .raise (.invalidVertexIdentity e)
      | .ok vid => (executeTopology (.fetchVertex identity.entityType vid)).bind fun rows =>
          if rows = [] then .ret false
          else
            match topologySingleStringRow rows 2 with
            | none => .raise .malformedResult
            | some cells =>
                if cells ≠ [identity.sourceId, identity.stableId] then .raise .identityCollision
                else .ret true

/-! ## Relations -/

/-- The checks of `UpsertRelation`, and the row it inserts. -/
def prepareRelation (relation : Relation) : Except GraphError EdgeRow :=
  match normalizeRelation relation with
  | .error e => .error (.invalidRelation e)
  | .ok normalized =>
      let identity := normalized.identity
      match schema : topologyEdgeSchemas identity.edgeType with
      | none => .error .unsupportedEdgeType
      | some entry =>
          match names : normalizeTopologyProperties normalized.properties entry with
          | .error e => .error e
          | .ok columns =>
              match identity.id, identity.rank, identity.origin.vid, identity.target.vid with
              | .ok relationId, .ok rank, .ok origin, .ok target => .ok {
                  origin, edgeType := identity.edgeType, target, rank, relationId
                  relationKind := identity.kind.text, sourceId := identity.sourceId, columns
                  createdAt := topologyTime normalized.createdAt
                  syncedAt := topologyTime normalized.syncedAt
                  named := by rw [names_of_normalize names, edgeColumns, schema]; rfl }
              | .error e, _, _, _ | _, .error e, _, _ | _, _, .error e, _ | _, _, _, .error e =>
                  .error (.invalidRelation e)

/-- The update, the last stage. -/
def refreshEdge (row : EdgeRow) : GraphProg Unit :=
  (executeTopology (.updateEdge row.key row.columns row.syncedAt)).bind fun _ => .ret ()

/-- The identity check, the second stage. -/
def checkEdge (row : EdgeRow) : GraphProg Unit :=
  (executeTopology (.fetchEdge row.key)).bind fun rows =>
    match topologySingleStringRow rows 3 with
    | none => .raise .malformedResult
    | some identity =>
        if identity ≠ [row.relationId, row.relationKind, row.sourceId] then .raise .rankCollision
        else refreshEdge row

/-- The three statements of `UpsertRelation`. -/
def writeEdge (row : EdgeRow) : GraphProg Unit :=
  (executeTopology (.insertEdge row)).bind fun _ => checkEdge row

def upsertRelation (relation : Relation) : GraphProg Unit :=
  match prepareRelation relation with
  | .error e => .raise e
  | .ok row => writeEdge row

/-- The row of a relation carries the ID, rank, kind and source of the normalised relation. -/
theorem prepareRelation_ok {relation : Relation} {row : EdgeRow}
    (ok : prepareRelation relation = .ok row) :
    ∃ normalized, normalizeRelation relation = .ok normalized ∧
      normalized.identity.id = .ok row.relationId ∧
      rankFromRelationId row.relationId = .ok row.rank ∧
      normalized.identity.origin.vid = .ok row.origin ∧
      normalized.identity.target.vid = .ok row.target ∧
      row.edgeType = normalized.identity.edgeType ∧
      row.relationKind = normalized.identity.kind.text ∧
      row.sourceId = normalized.identity.sourceId ∧
      row.createdAt = topologyTime normalized.createdAt ∧
      row.syncedAt = topologyTime normalized.syncedAt := by
  unfold prepareRelation at ok
  split at ok
  · cases ok
  · rename_i normalized valid
    dsimp only at ok
    split at ok
    · cases ok
    · split at ok
      · cases ok
      · split at ok
        · rename_i relationId rank origin target hashed ranked fromVid toVid
          cases ok
          refine ⟨normalized, valid, hashed, ?_, fromVid, toVid, rfl, rfl, rfl, rfl, rfl⟩
          rw [RelationIdentity.rank, hashed] at ranked
          exact ranked
        all_goals cases ok

/-! ## Cleanup -/

def topologyCleanupBatchSize : Nat := 200

/-- `DeleteRelationsNotSeen`: one statement finds and deletes. -/
def deleteRelationsNotSeen (sourceId : String) (edgeType : EdgeType) (runStartedAt : Time) :
    GraphProg Unit :=
  if sourceId = "" ∨ ¬edgeType.valid ∨ runStartedAt.isZero then .raise .invalidCleanupScope
  else (executeTopology (.deleteEdges edgeType sourceId (topologyTime runStartedAt))).bind fun _ =>
    .ret ()

/-- `topologyResultVIDs`: one well-formed vertex ID in each row. -/
def topologyResultVIDs : List (List String) → Option (List String)
  | [] => some []
  | [vid] :: rows =>
      if topologyVIDPattern vid then (topologyResultVIDs rows).map (vid :: ·) else none
  | _ => none

/-- The deletion of a batch, the second stage of a round. -/
def deleteBatch (vids : List String) : GraphProg (Unit ⊕ Unit) :=
  (executeTopology (.deleteVertices vids)).bind fun _ => .ret (.inl ())

/-- One round of the cleanup: find a batch of orphans, then delete it. -/
def cleanupRound (sourceId : String) (entityType : EntityType) (before : Time) :
    GraphProg (Unit ⊕ Unit) :=
  (executeTopology (.matchOrphans entityType sourceId before topologyCleanupBatchSize)).bind
    fun rows =>
      match topologyResultVIDs rows with
      | none => .raise .malformedResult
      | some [] => .ret (.inr ())
      | some vids => deleteBatch vids

/-- `DeleteOrphanVerticesNotSeen`: rounds until a batch is empty, at most `rounds` of them. -/
def deleteOrphanVerticesNotSeen (sourceId : String) (entityType : EntityType)
    (runStartedAt : Time) (rounds : Nat) : GraphProg Unit :=
  if sourceId = "" ∨ ¬entityType.valid ∨ runStartedAt.isZero then .raise .invalidCleanupScope
  else
    Prog.loop (fun _ => cleanupRound sourceId entityType (topologyTime runStartedAt)) rounds ()

end UnifiedInfraTopology
