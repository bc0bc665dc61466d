import Mathlib
import UnifiedInfraTopology.Graph.VertexRace
import UnifiedInfraTopology.Graph.EdgeRace
import UnifiedInfraTopology.Graph.OrphanCleanup
import UnifiedInfraTopology.Lib.Upserting

/-!
# The rows of the graph are upserted

`UpsertVertex` and `UpsertRelation` are writes of `Lib.Upserting`: insert, check the identity, merge.
`VertexAt` and `EdgeAt` say at which stage a call is; one statement of a call leads to a stage
whose assertion holds, changes nothing but the row under its key, and leaves the other table alone.

A cleanup only removes vertices, and none that is not older than its cutoff (`rowsKept_cleanup`).
-/

namespace UnifiedInfraTopology

open Lib

/-! ## One statement -/

/-- A statement is refused, or runs, or runs and its answer is lost. -/
theorem stepOnce_cases (statement : Statement) (k : GraphAnswer → GraphProg Unit) (m : GraphMove)
    (g : Graph) :
    (∃ e, Prog.stepOnce graphHandler (.call statement k) m g = (k (.error e), g)) ∨
      Prog.stepOnce graphHandler (.call statement k) m g =
        (k (statement.execute m.order g).1, (statement.execute m.order g).2) ∨
      ∃ e, Prog.stepOnce graphHandler (.call statement k) m g =
        (k (.error e), (statement.execute m.order g).2) := by
  simp only [Prog.stepOnce, graphHandler]
  cases m.fault with
  | none => exact Or.inr (Or.inl rfl)
  | refused => exact Or.inl ⟨_, rfl⟩
  | lost => exact Or.inr (Or.inr ⟨_, rfl⟩)

/-! ## Vertices -/

def vertexUpserts : Upsertable VertexRow VertexKey (String × String) Time where
  key := VertexRow.key
  identity row := (row.sourceId, row.stableId)
  born := VertexRow.createdAt
  time := VertexRow.syncedAt
  merge row written := row.refreshed written.columns written.syncedAt
  key_merge _ _ := rfl
  identity_merge _ _ := rfl
  born_merge _ _ := rfl
  time_merge _ _ := rfl

/-- A merge takes every column of the written row. -/
theorem columns_merge {old written : VertexRow} (same : old.key = written.key) :
    (vertexUpserts.merge old written).columns = written.columns := by
  have tag : old.tag = written.tag := congrArg Prod.fst same
  refine assign_of_names ?_ ?_
  · rw [old.named, written.named, tag]
  · rw [written.named]
    exact vertexColumns_nodup _

/-- The stage of a call of `UpsertVertex`. -/
inductive VertexAt (written : VertexRow) : Upsertable.Stage → GraphProg Unit → Prop where
  | start : VertexAt written .start (writeVertex written)
  | check : VertexAt written .check (checkVertex written)
  | merge : VertexAt written .merge (refreshVertex written)
  | returned : VertexAt written .returned (.ret ())
  | failed (e : GraphError) : VertexAt written .failed (.raise e)

section

variable {written : VertexRow} {g : Graph}

theorem step_insertVertex (written : VertexRow) (order : List String) (g : Graph) :
    vertexUpserts.Step written g.vertices.find?
      ((Statement.insertVertex written).execute order g).2.vertices.find? := by
  have after : ∀ k, ((Statement.insertVertex written).execute order g).2.vertices.find? k =
      if written.key = k then some ((g.vertices.find? k).getD written) else g.vertices.find? k :=
    Table.find?_insert g.vertices written
  refine ⟨?_, fun k apart => (after k).trans (if_neg (Ne.symm apart))⟩
  change vertexUpserts.Move written (g.vertices.find? written.key) (Table.find? _ written.key)
  rw [after, if_pos rfl]
  cases g.vertices.find? written.key with
  | none => exact .created
  | some row => exact .same _

/-- The update of a call whose row has its identity. -/
theorem step_updateVertex
    (reached : vertexUpserts.Reached written (g.vertices.find? written.key) .merge)
    (order : List String) : ∃ g', (Statement.updateVertex written.tag written.vid
        written.columns written.syncedAt).execute order g = (.ok [], g') ∧ g'.edges = g.edges ∧
      vertexUpserts.Step written g.vertices.find? g'.vertices.find? ∧
      vertexUpserts.Reached written (g'.vertices.find? written.key) .returned := by
  obtain ⟨row, found, named⟩ := reached
  have here : g.vertices.find? (written.tag, written.vid) = some row := found
  have chosen : row.key = (written.tag, written.vid) := Table.key_of_find? found
  have executed : (Statement.updateVertex written.tag written.vid written.columns
      written.syncedAt).execute order g = (.ok [], { g with
        vertices := g.vertices.update
          (fun v => decide (v.key = (written.tag, written.vid)) &&
            decide (v.syncedAt ≤ written.syncedAt))
          (VertexRow.refreshed written.columns written.syncedAt)
          (VertexRow.key_refreshed written.columns written.syncedAt) }) := by
    simp only [Statement.execute, here]
  refine ⟨_, executed, rfl, ⟨?_, fun k apart => ?_⟩, ?_⟩
  · change vertexUpserts.Move written (g.vertices.find? written.key) (Table.find? _ written.key)
    rw [Table.find?_update, found, Option.map_some]
    by_cases older : row.syncedAt ≤ written.syncedAt
    · simp only [chosen, older, decide_true, Bool.and_self, ↓reduceIte]
      exact .merged named older
    · simp only [older, decide_false, Bool.and_false, Bool.false_eq_true, ↓reduceIte]
      exact .same _
  · rw [Table.find?_update]
    cases other : g.vertices.find? k with
    | none => rfl
    | some row' =>
        have other : row'.key ≠ (written.tag, written.vid) := Table.key_of_find? other ▸ apart
        simp [other]
  · rw [Table.find?_update, found, Option.map_some]
    by_cases older : row.syncedAt ≤ written.syncedAt
    · simp only [chosen, older, decide_true, Bool.and_self, ↓reduceIte]
      exact .merged named
    · simp only [older, decide_false, Bool.and_false, Bool.false_eq_true, ↓reduceIte]
      exact ⟨row, rfl, named, le_of_not_ge older⟩

/-- The row that the identity check reads. -/
theorem topologySingleStringRow_fetchVertex {stored : Option VertexRow} {identity : List String}
    (single : topologySingleStringRow
      (stored.elim [] fun v => [[v.sourceId, v.stableId]]) 2 = some identity) :
    ∃ row, stored = some row ∧ identity = [row.sourceId, row.stableId] := by
  cases stored with
  | none => cases single
  | some row => exact ⟨row, rfl, (Option.some.inj single).symm⟩

/-- What one statement of a call does: it leads to a stage, moves the row under its key only, and
leaves the edges alone. -/
structure VertexStepped (written : VertexRow) (g : Graph) (next : GraphProg Unit × Graph) : Prop where
  stage : ∃ stage, VertexAt written stage next.1 ∧
    vertexUpserts.Reached written (next.2.vertices.find? written.key) stage
  step : vertexUpserts.Step written g.vertices.find? next.2.vertices.find?
  edges : next.2.edges = g.edges

theorem vertexStepped_failed (e : GraphError) : VertexStepped written g (.raise e, g) :=
  ⟨⟨.failed, .failed e, trivial⟩, .refl _ _, rfl⟩

theorem vertexStepped {stage : Upsertable.Stage} {p : GraphProg Unit}
    (at_ : VertexAt written stage p)
    (reached : vertexUpserts.Reached written (g.vertices.find? written.key) stage)
    (m : GraphMove) :
    VertexStepped written g (Prog.stepOnce graphHandler p m g) := by
  cases at_ with
  | returned => exact ⟨⟨.returned, .returned, reached⟩, .refl _ _, rfl⟩
  | failed e => exact vertexStepped_failed e
  | start =>
      have step := step_insertVertex written m.order g
      rw [writeVertex, executeTopology, Prog.bind]
      rcases stepOnce_cases (.insertVertex written) _ m g with ⟨e, refused⟩ | ran | ⟨e, lost⟩
      · rw [refused]
        exact vertexStepped_failed e
      · rw [ran]
        exact ⟨⟨.check, .check, by
          simp [Upsertable.Reached, Statement.execute, find?_insertVertex]⟩, step, rfl⟩
      · rw [lost]
        exact ⟨⟨.failed, .failed e, trivial⟩, step, rfl⟩
  | check =>
      rw [checkVertex, executeTopology, Prog.bind]
      rcases stepOnce_cases (.fetchVertex written.tag written.vid) _ m g with
        ⟨e, refused⟩ | ran | ⟨e, lost⟩
      · rw [refused]
        exact vertexStepped_failed e
      · rw [ran]
        refine ⟨?_, .refl _ _, rfl⟩
        dsimp only [Statement.execute, Prog.bind]
        split
        · exact ⟨.failed, .failed _, trivial⟩
        · rename_i identity single
          split
          · exact ⟨.failed, .failed _, trivial⟩
          · rename_i equal
            rw [not_not] at equal
            obtain ⟨row, found, cells⟩ := topologySingleStringRow_fetchVertex single
            rw [cells] at equal
            refine ⟨.merge, .merge, row, found, ?_⟩
            simpa [vertexUpserts] using equal
      · rw [lost]
        exact vertexStepped_failed e
  | merge =>
      obtain ⟨g', executed, alone, step, settled⟩ := step_updateVertex reached m.order
      rw [refreshVertex, executeTopology, Prog.bind]
      rcases stepOnce_cases (.updateVertex written.tag written.vid written.columns written.syncedAt)
        _ m g with ⟨e, refused⟩ | ran | ⟨e, lost⟩
      · rw [refused]
        exact vertexStepped_failed e
      · rw [ran, executed]
        exact ⟨⟨.returned, .returned, settled⟩, step, alone⟩
      · rw [lost, executed]
        exact ⟨⟨.failed, .failed e, trivial⟩, step, alone⟩

end

/-! ## Edges -/

def edgeUpserts : Upsertable EdgeRow EdgeKey (String × String × String) Time where
  key := EdgeRow.key
  identity row := (row.relationId, row.relationKind, row.sourceId)
  born := EdgeRow.createdAt
  time := EdgeRow.syncedAt
  merge row written := row.refreshed written.columns written.syncedAt
  key_merge _ _ := rfl
  identity_merge _ _ := rfl
  born_merge _ _ := rfl
  time_merge _ _ := rfl

/-- The stage of a call of `UpsertRelation`. -/
inductive EdgeAt (written : EdgeRow) : Upsertable.Stage → GraphProg Unit → Prop where
  | start : EdgeAt written .start (writeEdge written)
  | check : EdgeAt written .check (checkEdge written)
  | merge : EdgeAt written .merge (refreshEdge written)
  | returned : EdgeAt written .returned (.ret ())
  | failed (e : GraphError) : EdgeAt written .failed (.raise e)

section

variable {written : EdgeRow} {g : Graph}

theorem step_insertEdge (written : EdgeRow) (order : List String) (g : Graph) :
    edgeUpserts.Step written g.edges.find?
      ((Statement.insertEdge written).execute order g).2.edges.find? := by
  have after : ∀ k, ((Statement.insertEdge written).execute order g).2.edges.find? k =
      if written.key = k then some ((g.edges.find? k).getD written) else g.edges.find? k :=
    Table.find?_insert g.edges written
  refine ⟨?_, fun k apart => (after k).trans (if_neg (Ne.symm apart))⟩
  change edgeUpserts.Move written (g.edges.find? written.key) (Table.find? _ written.key)
  rw [after, if_pos rfl]
  cases g.edges.find? written.key with
  | none => exact .created
  | some row => exact .same _

theorem step_updateEdge
    (reached : edgeUpserts.Reached written (g.edges.find? written.key) .merge)
    (order : List String) : ∃ g', (Statement.updateEdge written.key
        written.columns written.syncedAt).execute order g = (.ok [], g') ∧ g'.vertices = g.vertices ∧
      edgeUpserts.Step written g.edges.find? g'.edges.find? ∧
      edgeUpserts.Reached written (g'.edges.find? written.key) .returned := by
  obtain ⟨row, found, named⟩ := reached
  have chosen : row.key = written.key := Table.key_of_find? found
  have executed : (Statement.updateEdge written.key written.columns
      written.syncedAt).execute order g = (.ok [], { g with
        edges := g.edges.update
          (fun e => decide (e.key = written.key) && decide (e.syncedAt ≤ written.syncedAt))
          (EdgeRow.refreshed written.columns written.syncedAt)
          (EdgeRow.key_refreshed written.columns written.syncedAt) }) := by
    simp only [Statement.execute, found]
  refine ⟨_, executed, rfl, ⟨?_, fun k apart => ?_⟩, ?_⟩
  · change edgeUpserts.Move written (g.edges.find? written.key) (Table.find? _ written.key)
    rw [Table.find?_update, found, Option.map_some]
    by_cases older : row.syncedAt ≤ written.syncedAt
    · simp only [chosen, older, decide_true, Bool.and_self, ↓reduceIte]
      exact .merged named older
    · simp only [older, decide_false, Bool.and_false, Bool.false_eq_true, ↓reduceIte]
      exact .same _
  · rw [Table.find?_update]
    cases other : g.edges.find? k with
    | none => rfl
    | some row' =>
        have other : row'.key ≠ written.key := Table.key_of_find? other ▸ apart
        simp [other]
  · rw [Table.find?_update, found, Option.map_some]
    by_cases older : row.syncedAt ≤ written.syncedAt
    · simp only [chosen, older, decide_true, Bool.and_self, ↓reduceIte]
      exact .merged named
    · simp only [older, decide_false, Bool.and_false, Bool.false_eq_true, ↓reduceIte]
      exact ⟨row, rfl, named, le_of_not_ge older⟩

/-- What one statement of a call does: it leads to a stage, moves the row under its key only, and
leaves the vertices alone. -/
structure EdgeStepped (written : EdgeRow) (g : Graph) (next : GraphProg Unit × Graph) : Prop where
  stage : ∃ stage, EdgeAt written stage next.1 ∧
    edgeUpserts.Reached written (next.2.edges.find? written.key) stage
  step : edgeUpserts.Step written g.edges.find? next.2.edges.find?
  vertices : next.2.vertices = g.vertices

theorem edgeStepped_failed (e : GraphError) : EdgeStepped written g (.raise e, g) :=
  ⟨⟨.failed, .failed e, trivial⟩, .refl _ _, rfl⟩

theorem edgeStepped {stage : Upsertable.Stage} {p : GraphProg Unit}
    (at_ : EdgeAt written stage p)
    (reached : edgeUpserts.Reached written (g.edges.find? written.key) stage) (m : GraphMove) :
    EdgeStepped written g (Prog.stepOnce graphHandler p m g) := by
  cases at_ with
  | returned => exact ⟨⟨.returned, .returned, reached⟩, .refl _ _, rfl⟩
  | failed e => exact edgeStepped_failed e
  | start =>
      have step := step_insertEdge written m.order g
      rw [writeEdge, executeTopology, Prog.bind]
      rcases stepOnce_cases (.insertEdge written) _ m g with ⟨e, refused⟩ | ran | ⟨e, lost⟩
      · rw [refused]
        exact edgeStepped_failed e
      · rw [ran]
        exact ⟨⟨.check, .check, (edgeEffect_insert written m.order g).2⟩, step, rfl⟩
      · rw [lost]
        exact ⟨⟨.failed, .failed e, trivial⟩, step, rfl⟩
  | check =>
      rw [checkEdge, executeTopology, Prog.bind]
      rcases stepOnce_cases (.fetchEdge written.key) _ m g with ⟨e, refused⟩ | ran | ⟨e, lost⟩
      · rw [refused]
        exact edgeStepped_failed e
      · rw [ran]
        refine ⟨?_, .refl _ _, rfl⟩
        dsimp only [Statement.execute, Prog.bind]
        split
        · exact ⟨.failed, .failed _, trivial⟩
        · rename_i identity single
          split
          · exact ⟨.failed, .failed _, trivial⟩
          · rename_i equal
            rw [not_not] at equal
            obtain ⟨row, found, cells⟩ := topologySingleStringRow_fetchEdge single
            rw [cells] at equal
            refine ⟨.merge, .merge, row, found, ?_⟩
            simpa [edgeUpserts] using equal
      · rw [lost]
        exact edgeStepped_failed e
  | merge =>
      obtain ⟨g', executed, alone, step, settled⟩ := step_updateEdge reached m.order
      rw [refreshEdge, executeTopology, Prog.bind]
      rcases stepOnce_cases (.updateEdge written.key written.columns written.syncedAt)
        _ m g with ⟨e, refused⟩ | ran | ⟨e, lost⟩
      · rw [refused]
        exact edgeStepped_failed e
      · rw [ran, executed]
        exact ⟨⟨.returned, .returned, settled⟩, step, alone⟩
      · rw [lost, executed]
        exact ⟨⟨.failed, .failed e, trivial⟩, step, alone⟩

end

/-! ## Cleanups -/

/-- A cleanup leaves the vertices of its tag that are not older than its cutoff. -/
theorem OrphansLeft.kept_of_newer {g g' : Graph} {tag : EntityType} {sourceId : String}
    {before : Time} (left : OrphansLeft g tag sourceId before g') {row : VertexRow}
    (found : g.vertices.find? row.key = some row) (tagged : row.tag = tag)
    (newer : before ≤ row.syncedAt) : g'.vertices.find? row.key = some row := by
  refine Table.find?_of_mem (left.kept row (Table.mem_of_find? found) fun other stored same => ?_)
  by_contra orphan
  rw [Bool.not_eq_false, Graph.orphan, Bool.and_eq_true, Bool.and_eq_true, Bool.and_eq_true,
    decide_eq_true_eq, beq_iff_eq] at orphan
  obtain ⟨⟨⟨tagged', -⟩, older⟩, -⟩ := orphan
  have one : other = row :=
    Table.eq_of_mem stored (Table.mem_of_find? found) (Prod.ext (tagged'.trans tagged.symm) same)
  rw [one] at older
  exact absurd older newer.not_gt

theorem OrphansLeft.find? {g g' : Graph} {tag : EntityType} {sourceId : String} {before : Time}
    (left : OrphansLeft g tag sourceId before g') {k : VertexKey} {row : VertexRow}
    (found : g'.vertices.find? k = some row) : g.vertices.find? k = some row := by
  rw [← Table.key_of_find? found]
  exact Table.find?_of_mem (left.stored row (Table.mem_of_find? found))

/-- **A cleanup that returns nil has left no orphan of its scope.** -/
theorem noOrphans_of_cleanUp {g : Graph} {sourceId : String} {tag : EntityType} {t : Time}
    {rounds : Nat} {script : List GraphMove}
    (ok : ((deleteOrphanVerticesNotSeen sourceId tag t rounds).run graphHandler script g).1 =
      .ok ()) :
    ∀ v ∈ ((deleteOrphanVerticesNotSeen sourceId tag t rounds).run graphHandler script
      g).2.1.vertices.rows,
      ((deleteOrphanVerticesNotSeen sourceId tag t rounds).run graphHandler script g).2.1.orphan tag
        sourceId (topologyTime t) v = false := by
  suffices contract : Prog.Ensures graphHandler (deleteOrphanVerticesNotSeen sourceId tag t rounds)
      (fun _ g' => ∀ v ∈ g'.vertices.rows, g'.orphan tag sourceId (topologyTime t) v = false) g from
    (Prog.contract_run (Prog.shrinking_true graphHandler) contract script trivial).1 () ok
  unfold deleteOrphanVerticesNotSeen
  split_ifs
  · exact Prog.contract_raise trivial
  · refine Prog.contract_loop (fun _ _ => True) (fun _ g' _ => ?_) rounds () trivial
    refine Prog.contract_bind (Prog.contract_call fun m answer _ answered => ?_)
    rcases answer with e | rows
    · exact Prog.contract_raise trivial
    · refine Prog.contract_ret ?_
      obtain ⟨read, state⟩ := graphHandler_ok answered
      cases Except.ok.inj read
      rw [state]
      rcases vids : topologyResultVIDs _ with _ | _ | ⟨vid, vids'⟩
      · exact Prog.contract_raise trivial
      · refine Prog.contract_ret fun v member => ?_
        rcases List.take_eq_nil_iff.mp (topologyResultVIDs_rows vids).symm with zero | empty
        · cases zero
        · have nothing := List.map_eq_nil_iff.mp (preferring_eq_nil empty)
          have absent := List.filter_eq_nil_iff.mp nothing v member
          simpa [Statement.execute] using absent
      · refine Prog.contract_bind (Prog.contract_call fun m answer _ _ => ?_)
        cases answer with
        | error e => exact Prog.contract_raise trivial
        | ok rows => exact Prog.contract_ret (Prog.contract_ret trivial)

end UnifiedInfraTopology
