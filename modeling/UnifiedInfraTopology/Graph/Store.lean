import UnifiedInfraTopology.Lib.Interleave
import UnifiedInfraTopology.Graph.Properties

/-!
# The graph and its statements

The graph space as the topology repository uses it: vertices keyed by tag and vertex ID, edges keyed
by source vertex, edge type, target vertex and rank.  A stored row has exactly the columns of its
schema, and a synchronisation time (the column is never null).

`Statement` lists the statements the repository sends.  Each is atomic.  `Statement.execute` is its
effect and its rows; `graphHandler` adds what can go wrong around it: the statement may be refused
before it runs (a failed query, a canceled context) or its answer may be lost after it ran.

Two things are left to the store by the query language: which orphans a limited `MATCH` returns, and
in which order.  A move names the ones it prefers.
-/

namespace UnifiedInfraTopology

open Lib

/-- The columns of a vertex tag. -/
def vertexColumns (tag : EntityType) : List String :=
  (topologyEntitySchemas tag).elim [] fun schema => schemaNames schema.properties

/-- The columns of an edge type. -/
def edgeColumns (edgeType : EdgeType) : List String := (topologyEdgeSchemas edgeType).elim [] schemaNames

structure VertexRow where
  tag : EntityType
  vid : String
  sourceId : String
  stableId : String
  columns : List (String × GraphValue)
  createdAt : Time
  syncedAt : Time
  named : columns.map (·.1) = vertexColumns tag
deriving DecidableEq

structure EdgeRow where
  origin : String
  edgeType : EdgeType
  target : String
  rank : Int64
  relationId : String
  relationKind : String
  sourceId : String
  columns : List (String × GraphValue)
  createdAt : Time
  syncedAt : Time
  named : columns.map (·.1) = edgeColumns edgeType
deriving DecidableEq

abbrev VertexKey : Type := EntityType × String

abbrev EdgeKey : Type := String × EdgeType × String × Int64

def VertexRow.key (v : VertexRow) : VertexKey := (v.tag, v.vid)

def EdgeRow.key (e : EdgeRow) : EdgeKey := (e.origin, e.edgeType, e.target, e.rank)

structure Graph where
  vertices : Table VertexRow VertexRow.key
  edges : Table EdgeRow EdgeRow.key
deriving DecidableEq

/-- The edge starts or ends at the vertex. -/
def EdgeRow.touches (e : EdgeRow) (vid : String) : Bool := e.origin == vid || e.target == vid

/-- `NOT (v)-[]-()`. -/
def Graph.isolated (g : Graph) (vid : String) : Bool := g.edges.rows.all fun e => !e.touches vid

/-! ## Updates -/

/-- `SET name = value, ...`: the assigned columns change, the others stay. -/
def assign (assignments columns : List (String × GraphValue)) : List (String × GraphValue) :=
  columns.map fun column => (column.1, (assignments.lookup column.1).getD column.2)

theorem names_assign (assignments columns : List (String × GraphValue)) :
    (assign assignments columns).map (·.1) = columns.map (·.1) := by
  simp [assign, Function.comp_def]

/-- Assigning a value to every column leaves the assigned values. -/
theorem assign_of_names {assignments columns : List (String × GraphValue)}
    (same : columns.map (·.1) = assignments.map (·.1)) (distinct : (assignments.map (·.1)).Nodup) :
    assign assignments columns = assignments := by
  induction assignments generalizing columns with
  | nil => simpa [assign] using same
  | cons a assignments ih =>
      cases columns with
      | nil => cases same
      | cons c columns =>
          rw [List.map_cons, List.map_cons, List.cons.injEq] at same
          rw [List.map_cons, List.nodup_cons] at distinct
          have rest : assign (a :: assignments) columns = assign assignments columns := by
            refine List.map_congr_left fun column member => ?_
            have listed : column.1 ∈ assignments.map (·.1) := by
              rw [← same.2]
              exact List.mem_map_of_mem member
            have apart : column.1 ≠ a.1 := by
              intro eq
              exact distinct.1 (eq ▸ listed)
            rw [List.lookup_cons, beq_false_of_ne apart]
          have head : assign (a :: assignments) (c :: columns) =
              (c.1, ((a :: assignments).lookup c.1).getD c.2) ::
                assign (a :: assignments) columns := rfl
          rw [head, rest, ih same.2 distinct.2, same.1, List.lookup_cons, beq_self_eq_true]
          rfl

/-- The update of a vertex row. -/
def VertexRow.refreshed (assignments : List (String × GraphValue)) (syncedAt : Time)
    (v : VertexRow) : VertexRow :=
  { v with
    columns := assign assignments v.columns, syncedAt
    named := (names_assign assignments v.columns).trans v.named }

/-- The update of an edge row. -/
def EdgeRow.refreshed (assignments : List (String × GraphValue)) (syncedAt : Time) (e : EdgeRow) :
    EdgeRow :=
  { e with
    columns := assign assignments e.columns, syncedAt
    named := (names_assign assignments e.columns).trans e.named }

theorem VertexRow.key_refreshed (assignments : List (String × GraphValue)) (syncedAt : Time)
    (v : VertexRow) : (v.refreshed assignments syncedAt).key = v.key := rfl

theorem VertexRow.vid_refreshed (assignments : List (String × GraphValue)) (syncedAt : Time)
    (v : VertexRow) : (v.refreshed assignments syncedAt).vid = v.vid := rfl

theorem EdgeRow.key_refreshed (assignments : List (String × GraphValue)) (syncedAt : Time)
    (e : EdgeRow) : (e.refreshed assignments syncedAt).key = e.key := rfl

/-! ## Statements -/

inductive Statement where
  /-- `INSERT VERTEX IF NOT EXISTS`. -/
  | insertVertex (row : VertexRow)
  /-- `FETCH PROP ON tag vid YIELD source_id, stable_id`. -/
  | fetchVertex (tag : EntityType) (vid : String)
  /-- `UPDATE VERTEX ON tag vid SET ..., synced_at WHEN synced_at <= ...`. -/
  | updateVertex (tag : EntityType) (vid : String) (assignments : List (String × GraphValue))
      (syncedAt : Time)
  /-- `INSERT EDGE IF NOT EXISTS`. -/
  | insertEdge (row : EdgeRow)
  /-- `FETCH PROP ON edge ... YIELD relation_id, relation_kind, source_id`. -/
  | fetchEdge (key : EdgeKey)
  /-- `UPDATE EDGE ON edge ... SET ..., synced_at WHEN synced_at <= ...`. -/
  | updateEdge (key : EdgeKey) (assignments : List (String × GraphValue)) (syncedAt : Time)
  /-- `LOOKUP ON edge WHERE source_id, synced_at < ... | DELETE EDGE`. -/
  | deleteEdges (edgeType : EdgeType) (sourceId : String) (before : Time)
  /-- `MATCH (v:tag) WHERE source_id, synced_at < ..., NOT (v)-[]-() RETURN id(v) LIMIT n`. -/
  | matchOrphans (tag : EntityType) (sourceId : String) (before : Time) (limit : Nat)
  /-- `DELETE VERTEX vid, ...`: under every tag. -/
  | deleteVertices (vids : List String)

/-- The rows of an answer, or an error. -/
abbrev GraphAnswer : Type := Except GraphError (List (List String))

/-- A vertex the orphan query selects. -/
def Graph.orphan (g : Graph) (tag : EntityType) (sourceId : String) (before : Time) (v : VertexRow) :
    Bool :=
  v.tag == tag && v.sourceId == sourceId && decide (v.syncedAt < before) && g.isolated v.vid

/-- Put the preferred items first. -/
def preferring (order items : List String) : List String :=
  (distinctItems order).filter (fun x => decide (x ∈ items)) ++
    items.filter fun x => decide (x ∉ order)

namespace Statement

/-- The effect and the rows of a statement. -/
def execute (order : List String) (g : Graph) : Statement → GraphAnswer × Graph
  | insertVertex row => (.ok [], { g with vertices := (g.vertices.insert row).getD g.vertices })
  | fetchVertex tag vid =>
      (.ok ((g.vertices.find? (tag, vid)).elim [] fun v => [[v.sourceId, v.stableId]]), g)
  | updateVertex tag vid assignments syncedAt =>
      match g.vertices.find? (tag, vid) with
      | none => (.error .queryFailed, g)
      | some _ =>
          (.ok [], { g with
            vertices := g.vertices.update
              (fun v => decide (v.key = (tag, vid)) && decide (v.syncedAt ≤ syncedAt))
              (VertexRow.refreshed assignments syncedAt)
              (VertexRow.key_refreshed assignments syncedAt) })
  | insertEdge row => (.ok [], { g with edges := (g.edges.insert row).getD g.edges })
  | fetchEdge key =>
      (.ok ((g.edges.find? key).elim [] fun e => [[e.relationId, e.relationKind, e.sourceId]]), g)
  | updateEdge key assignments syncedAt =>
      match g.edges.find? key with
      | none => (.error .queryFailed, g)
      | some _ =>
          (.ok [], { g with
            edges := g.edges.update
              (fun e => decide (e.key = key) && decide (e.syncedAt ≤ syncedAt))
              (EdgeRow.refreshed assignments syncedAt)
              (EdgeRow.key_refreshed assignments syncedAt) })
  | deleteEdges edgeType sourceId before =>
      (.ok [], { g with
        edges := g.edges.erase fun e =>
          e.edgeType == edgeType && e.sourceId == sourceId && decide (e.syncedAt < before) })
  | matchOrphans tag sourceId before limit =>
      let orphans := (g.vertices.rows.filter (g.orphan tag sourceId before)).map (·.vid)
      (.ok (((preferring order orphans).take limit).map fun vid => [vid]), g)
  | deleteVertices vids =>
      (.ok [], { g with vertices := g.vertices.erase fun v => decide (v.vid ∈ vids) })

end Statement

/-- What happens to a statement on its way. -/
inductive GraphFault where
  /-- It runs and its answer arrives. -/
  | none
  /-- It does not run, and an error is reported. -/
  | refused
  /-- It runs, but an error is reported. -/
  | lost
deriving DecidableEq

structure GraphMove where
  fault : GraphFault
  order : List String

def graphHandler : Handler Statement (fun _ => GraphAnswer) GraphMove Graph :=
  fun statement move g =>
    match move.fault with
    | .none => (some (statement.execute move.order g).1, (statement.execute move.order g).2)
    | .refused => (some (.error .queryFailed), g)
    | .lost => (some (.error .queryFailed), (statement.execute move.order g).2)

/-- A statement leaves the graph as it is, or has its effect. -/
theorem graphHandler_state (statement : Statement) (move : GraphMove) (g : Graph) :
    (graphHandler statement move g).2 = g ∨
      (graphHandler statement move g).2 = (statement.execute move.order g).2 := by
  unfold graphHandler
  cases move.fault with
  | none => exact Or.inr rfl
  | refused => exact Or.inl rfl
  | lost => exact Or.inr rfl

/-- A refused statement leaves the graph as it is. -/
theorem graphHandler_refused {statement : Statement} {move : GraphMove} {g : Graph}
    (refused : move.fault = .refused) : (graphHandler statement move g).2 = g := by
  rw [graphHandler, refused]

/-- A statement that reports success had its effect. -/
theorem graphHandler_ok {statement : Statement} {move : GraphMove} {g : Graph}
    {rows : List (List String)}
    (ok : (graphHandler statement move g).1 = some (.ok rows)) :
    (statement.execute move.order g).1 = .ok rows ∧
      (graphHandler statement move g).2 = (statement.execute move.order g).2 := by
  unfold graphHandler at ok ⊢
  cases shape : move.fault with
  | none =>
      rw [shape] at ok
      exact ⟨Option.some.inj ok, rfl⟩
  | refused => rw [shape] at ok; cases ok
  | lost => rw [shape] at ok; cases ok

/-- Every statement is answered. -/
theorem graphHandler_answers (statement : Statement) (move : GraphMove) (g : Graph) :
    ∃ answer, (graphHandler statement move g).1 = some answer := by
  unfold graphHandler
  cases move.fault <;> exact ⟨_, rfl⟩

/-- One step of a program about to send a statement. -/
theorem stepOnce_statement {ε α : Type} (statement : Statement)
    (k : GraphAnswer → Prog Statement (fun _ => GraphAnswer) ε α) (move : GraphMove) (g : Graph) :
    ∃ answer, (graphHandler statement move g).1 = some answer ∧
      Prog.stepOnce graphHandler (.call statement k) move g =
        (k answer, (graphHandler statement move g).2) := by
  obtain ⟨answer, answered⟩ := graphHandler_answers statement move g
  refine ⟨answer, answered, ?_⟩
  rcases pair : graphHandler statement move g with ⟨_ | r, g'⟩
  · rw [pair] at answered
    cases answered
  · rw [pair] at answered
    cases answered
    simp only [Prog.stepOnce, pair]

end UnifiedInfraTopology
