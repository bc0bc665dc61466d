import UnifiedInfraTopology.Graph.EdgeRace
import UnifiedInfraTopology.Graph.VertexRace
import UnifiedInfraTopology.Graph.CleanupRace
import UnifiedInfraTopology.Lib.Total

/-!
# The effect of undisturbed calls

What each write and each cleanup does to the whole graph when every statement runs and is answered
and nothing runs in between: the call returns nil, and the graph after it is determined.

* `total_writeVertex`, `total_writeEdge`: the row is stored as the call computed it, with the
  creation time of the row that was stored before.
* `total_deleteRelationsNotSeen`, `total_deleteOrphanVerticesNotSeen`: exactly the rows of the
  cleanup's scope are gone.
-/

namespace UnifiedInfraTopology

open Lib

/-- The statement runs and its answer arrives. -/
def Faultless (m : GraphMove) : Prop := m.fault = .none

theorem graphHandler_faultless {statement : Statement} {m : GraphMove} {g : Graph}
    (faultless : Faultless m) :
    graphHandler statement m g =
      (some (statement.execute m.order g).1, (statement.execute m.order g).2) := by
  rw [graphHandler, faultless]

/-- A statement that reports success leads on. -/
theorem total_executeTopology {statement : Statement} {g : Graph}
    {Q : List (List String) → Graph → Prop}
    (runs : ∀ order, ∃ rows, (statement.execute order g).1 = .ok rows ∧
      Q rows (statement.execute order g).2) :
    Prog.total graphHandler Faultless (executeTopology statement) Q g := by
  intro m faultless
  obtain ⟨rows, ok, post⟩ := runs m.order
  rw [graphHandler_faultless faultless]
  refine ⟨.ok rows, by rw [ok], ?_⟩
  exact post

/-! ## Vertices -/

/-- The row after the write: what the call computed, created when the stored row was. -/
def VertexRow.landed (row : VertexRow) (stored : Option VertexRow) : VertexRow :=
  { row with createdAt := stored.elim row.createdAt (·.createdAt) }

/-- The write may refresh what is stored under its key: the same vertex, not newer. -/
def VertexRow.accepts (row stored : VertexRow) : Prop :=
  stored.sourceId = row.sourceId ∧ stored.stableId = row.stableId ∧ stored.syncedAt ≤ row.syncedAt

theorem VertexRow.ext_key {a b : VertexRow} (key : a.key = b.key) (sourceId : a.sourceId = b.sourceId)
    (stableId : a.stableId = b.stableId) (columns : a.columns = b.columns)
    (createdAt : a.createdAt = b.createdAt) (syncedAt : a.syncedAt = b.syncedAt) : a = b := by
  obtain ⟨tag, vid⟩ := Prod.mk.inj key
  cases a
  cases b
  simp_all

/-- Refreshing an accepted row stores the landed one. -/
theorem VertexRow.refreshed_landed {row stored : VertexRow} (same : stored.key = row.key)
    (accepted : row.accepts stored) :
    stored.refreshed row.columns row.syncedAt = row.landed (some stored) :=
  VertexRow.ext_key same accepted.1 accepted.2.1
    (columns_refreshed (congrArg Prod.fst same) row.syncedAt) rfl rfl

/-- The effect of a vertex write. -/
structure VertexWritten (row : VertexRow) (g g' : Graph) : Prop where
  edges : g'.edges = g.edges
  found : ∀ k, g'.vertices.find? k =
    if row.key = k then some (row.landed (g.vertices.find? k)) else g.vertices.find? k
  size : g'.vertices.rows.length ≤ g.vertices.rows.length + 1

theorem total_writeVertex {row : VertexRow} {g : Graph}
    (accepted : ∀ stored, g.vertices.find? row.key = some stored → row.accepts stored) :
    Prog.total graphHandler Faultless (writeVertex row) (fun _ => VertexWritten row g) g := by
  -- The row under the key after the insert, and what the update makes of it.
  let current := (g.vertices.find? row.key).getD row
  have own : row.accepts current ∧ current.key = row.key ∧
      row.landed (some current) = row.landed (g.vertices.find? row.key) := by
    cases found : g.vertices.find? row.key with
    | none =>
        simp only [current, found]
        exact ⟨⟨rfl, rfl, le_rfl⟩, rfl, rfl⟩
    | some stored =>
        simp only [current, found]
        exact ⟨accepted stored found, Table.key_of_find? found, rfl⟩
  obtain ⟨accepts, key, landed⟩ := own
  let inserted : Graph := { g with vertices := (g.vertices.insert row).getD g.vertices }
  have present : inserted.vertices.find? (row.tag, row.vid) = some current := by
    have here := Table.find?_insert g.vertices row row.key
    rw [if_pos rfl] at here
    exact here
  refine Prog.total_bind (total_executeTopology fun order => ⟨[], rfl, ?_⟩)
  refine Prog.total_bind (total_executeTopology fun order =>
    ⟨[[current.sourceId, current.stableId]], ?_, ?_⟩)
  · simp only [Statement.execute]
    rw [present]
    rfl
  change Prog.total graphHandler Faultless
    (if [current.sourceId, current.stableId] ≠ [row.sourceId, row.stableId] then
      .raise .identityCollision else refreshVertex row) _ inserted
  rw [if_neg (by simp [accepts.1, accepts.2.1])]
  refine Prog.total_bind (total_executeTopology fun order => ?_)
  simp only [Statement.execute, present]
  refine ⟨[], rfl, rfl, fun k => ?_, ?_⟩
  · rw [Table.find?_update, Table.find?_insert]
    split
    · rename_i here
      subst here
      have chosen : current.key = (row.tag, row.vid) := key
      have refreshed := VertexRow.refreshed_landed key accepts
      simp only [current] at chosen accepts refreshed landed
      simp [chosen, accepts.2.2, refreshed, landed]
    · rename_i apart
      cases stored : g.vertices.find? k with
      | none => rfl
      | some other =>
          have elsewhere : other.key ≠ (row.tag, row.vid) := by
            rw [Table.key_of_find? stored]
            exact Ne.symm apart
          simp [elsewhere]
  · rw [Table.length_update]
    exact Table.length_insert g.vertices row

/-! ## Edges -/

theorem edgeColumns_nodup (edgeType : EdgeType) : (edgeColumns edgeType).Nodup := by
  cases edgeType with
  | other text => exact List.nodup_nil
  | _ => exact (List.mergeSort_perm _ _).nodup_iff.mpr (by decide)

/-- The row after the write: what the call computed, created when the stored row was. -/
def EdgeRow.landed (row : EdgeRow) (stored : Option EdgeRow) : EdgeRow :=
  { row with createdAt := stored.elim row.createdAt (·.createdAt) }

/-- The write may refresh what is stored under its key: the same relation, not newer. -/
def EdgeRow.accepts (row stored : EdgeRow) : Prop :=
  stored.sameRelation row ∧ stored.syncedAt ≤ row.syncedAt

theorem EdgeRow.ext_key {a b : EdgeRow} (key : a.key = b.key) (relation : a.sameRelation b)
    (columns : a.columns = b.columns) (createdAt : a.createdAt = b.createdAt)
    (syncedAt : a.syncedAt = b.syncedAt) : a = b := by
  obtain ⟨origin, rest⟩ := Prod.mk.inj key
  obtain ⟨edgeType, rest⟩ := Prod.mk.inj rest
  obtain ⟨target, rank⟩ := Prod.mk.inj rest
  obtain ⟨relationId, relationKind, sourceId⟩ := relation
  cases a
  cases b
  simp_all

/-- Refreshing an accepted row stores the landed one. -/
theorem EdgeRow.refreshed_landed {row stored : EdgeRow} (same : stored.key = row.key)
    (accepted : row.accepts stored) :
    stored.refreshed row.columns row.syncedAt = row.landed (some stored) := by
  have edgeType : stored.edgeType = row.edgeType := congrArg (·.2.1) same
  have names : stored.columns.map (·.1) = row.columns.map (·.1) := by
    rw [stored.named, row.named, edgeType]
  exact EdgeRow.ext_key same accepted.1
    (assign_of_names names (row.named ▸ edgeColumns_nodup row.edgeType)) rfl rfl

/-- The effect of an edge write. -/
structure EdgeWritten (row : EdgeRow) (g g' : Graph) : Prop where
  vertices : g'.vertices = g.vertices
  found : ∀ k, g'.edges.find? k =
    if row.key = k then some (row.landed (g.edges.find? k)) else g.edges.find? k

theorem total_writeEdge {row : EdgeRow} {g : Graph}
    (accepted : ∀ stored, g.edges.find? row.key = some stored → row.accepts stored) :
    Prog.total graphHandler Faultless (writeEdge row) (fun _ => EdgeWritten row g) g := by
  let current := (g.edges.find? row.key).getD row
  have own : row.accepts current ∧ current.key = row.key ∧
      row.landed (some current) = row.landed (g.edges.find? row.key) := by
    cases found : g.edges.find? row.key with
    | none =>
        simp only [current, found]
        exact ⟨⟨⟨rfl, rfl, rfl⟩, le_rfl⟩, rfl, rfl⟩
    | some stored =>
        simp only [current, found]
        exact ⟨accepted stored found, Table.key_of_find? found, rfl⟩
  obtain ⟨accepts, key, landed⟩ := own
  let inserted : Graph := { g with edges := (g.edges.insert row).getD g.edges }
  have present : inserted.edges.find? row.key = some current := by
    have here := Table.find?_insert g.edges row row.key
    rw [if_pos rfl] at here
    exact here
  refine Prog.total_bind (total_executeTopology fun order => ⟨[], rfl, ?_⟩)
  refine Prog.total_bind (total_executeTopology fun order =>
    ⟨[[current.relationId, current.relationKind, current.sourceId]], ?_, ?_⟩)
  · simp only [Statement.execute]
    rw [present]
    rfl
  change Prog.total graphHandler Faultless
    (if [current.relationId, current.relationKind, current.sourceId] ≠
      [row.relationId, row.relationKind, row.sourceId] then
      .raise .rankCollision else refreshEdge row) _ inserted
  obtain ⟨⟨relationId, relationKind, sourceId⟩, older⟩ := accepts
  rw [if_neg (by simp [relationId, relationKind, sourceId])]
  refine Prog.total_bind (total_executeTopology fun order => ?_)
  simp only [Statement.execute, present]
  refine ⟨[], rfl, rfl, fun k => ?_⟩
  rw [Table.find?_update, Table.find?_insert]
  split
  · rename_i here
    subst here
    have refreshed := EdgeRow.refreshed_landed key ⟨⟨relationId, relationKind, sourceId⟩, older⟩
    simp only [current] at key older refreshed landed
    simp [key, older, refreshed, landed]
  · rename_i apart
    cases stored : g.edges.find? k with
    | none => rfl
    | some other =>
        have elsewhere : other.key ≠ row.key := by
          rw [Table.key_of_find? stored]
          exact Ne.symm apart
        simp [elsewhere]

/-! ## Cleanup of relations -/

/-- The edge is in the scope of a relation cleanup. -/
def EdgeRow.stale (sourceId : String) (before : Time) (e : EdgeRow) : Bool :=
  e.sourceId == sourceId && decide (e.syncedAt < before)

theorem total_deleteRelationsNotSeen {sourceId : String} {edgeType : EdgeType} {t : Time}
    {g : Graph} (sourced : sourceId ≠ "") (valid : edgeType.valid = true) (time : t.isZero = false) :
    Prog.total graphHandler Faultless (deleteRelationsNotSeen sourceId edgeType t)
      (fun _ g' => g'.vertices = g.vertices ∧ ∀ e, e ∈ g'.edges.rows ↔
        e ∈ g.edges.rows ∧ ¬(e.edgeType = edgeType ∧ e.stale sourceId (topologyTime t) = true)) g := by
  unfold deleteRelationsNotSeen
  rw [if_neg (by simp [sourced, valid, time])]
  refine Prog.total_bind (total_executeTopology fun order => ⟨[], rfl, ?_⟩)
  simp only [Statement.execute]
  refine ⟨rfl, fun e => ?_⟩
  rw [Table.mem_erase]
  simp [EdgeRow.stale]

/-! ## Cleanup of vertices -/

theorem mem_distinctItems {α : Type} [DecidableEq α] {x : α} {items : List α} :
    x ∈ distinctItems items ↔ x ∈ items := by
  induction items with
  | nil => rfl
  | cons y items ih =>
      rcases eq_or_ne x y with rfl | apart
      · simp [distinctItems]
      · simp [distinctItems, apart, ih]

/-- A batch is empty only when there is nothing to list. -/
theorem preferring_eq_nil {order items : List String} (empty : preferring order items = []) :
    items = [] := by
  obtain ⟨front, back⟩ := List.append_eq_nil_iff.mp empty
  rw [List.eq_nil_iff_forall_not_mem]
  intro x member
  by_cases listed : x ∈ order
  · have chosen : x ∈ distinctItems order := mem_distinctItems.mpr listed
    have absent := List.filter_eq_nil_iff.mp front x chosen
    simp [member] at absent
  · have absent := List.filter_eq_nil_iff.mp back x member
    simp [listed] at absent

/-- Well-formed vertex IDs are read back. -/
theorem topologyResultVIDs_of_pattern {vids : List String}
    (pattern : ∀ vid ∈ vids, topologyVIDPattern vid = true) :
    topologyResultVIDs (vids.map fun vid => [vid]) = some vids := by
  induction vids with
  | nil => rfl
  | cons vid vids ih =>
      obtain ⟨here, rest⟩ := List.forall_mem_cons.mp pattern
      simp only [List.map_cons, topologyResultVIDs]
      rw [if_pos here, ih rest]
      rfl

/-- Which vertices are orphans depends on the edges only. -/
theorem orphan_congr {g g' : Graph} (edges : g'.edges = g.edges) (tag : EntityType)
    (sourceId : String) (before : Time) :
    g'.orphan tag sourceId before = g.orphan tag sourceId before := by
  funext v
  rw [Graph.orphan, Graph.orphan, Graph.isolated, Graph.isolated, edges]

/-- The cleanup has removed vertices whose ID is that of an orphan of the scope, and nothing else. -/
structure OrphansLeft (g : Graph) (tag : EntityType) (sourceId : String) (before : Time)
    (g' : Graph) : Prop where
  edges : g'.edges = g.edges
  stored : ∀ v ∈ g'.vertices.rows, v ∈ g.vertices.rows
  kept : ∀ v ∈ g.vertices.rows, (∀ w ∈ g.vertices.rows, w.vid = v.vid →
    g.orphan tag sourceId before w = false) → v ∈ g'.vertices.rows

theorem OrphansLeft.refl (g : Graph) (tag : EntityType) (sourceId : String) (before : Time) :
    OrphansLeft g tag sourceId before g := ⟨rfl, fun _ member => member, fun _ member _ => member⟩

/-- Every ID of the batch is that of an orphan. -/
def OrphanBatch (g : Graph) (tag : EntityType) (sourceId : String) (before : Time)
    (vids : List String) : Prop :=
  ∀ vid ∈ vids, ∃ v ∈ g.vertices.rows, v.vid = vid ∧ g.orphan tag sourceId before v = true

/-- Deleting a batch of orphans. -/
theorem OrphansLeft.delete {g g' : Graph} {tag : EntityType} {sourceId : String} {before : Time}
    (left : OrphansLeft g tag sourceId before g') {vids : List String}
    (orphans : OrphanBatch g tag sourceId before vids) (order : List String) :
    OrphansLeft g tag sourceId before ((Statement.deleteVertices vids).execute order g').2 := by
  simp only [Statement.execute]
  refine ⟨left.edges, fun v member => ?_, fun v member remains => ?_⟩
  · exact left.stored v (Table.mem_erase.mp member).1
  · refine Table.mem_erase.mpr ⟨left.kept v member remains, decide_eq_false fun listed => ?_⟩
    obtain ⟨w, inside, same, orphan⟩ := orphans v.vid listed
    have spared := remains w inside same
    rw [orphan] at spared
    cases spared

/-- A batch that is found is a batch of orphans which are still stored. -/
theorem OrphansLeft.found {g g' : Graph} {tag : EntityType} {sourceId : String} {before : Time}
    (left : OrphansLeft g tag sourceId before g') (order : List String) (limit : Nat) :
    ∀ vid ∈ (preferring order
      ((g'.vertices.rows.filter (g'.orphan tag sourceId before)).map (·.vid))).take limit,
      ∃ v ∈ g'.vertices.rows, v.vid = vid ∧ g.orphan tag sourceId before v = true := by
  intro vid member
  obtain ⟨v, chosen, same⟩ := List.mem_map.mp (mem_preferring (List.mem_of_mem_take member))
  obtain ⟨inside, orphan⟩ := List.mem_filter.mp chosen
  rw [orphan_congr left.edges] at orphan
  exact ⟨v, inside, same, orphan⟩

/-- The cleanup returns, and leaves no orphan of its scope. -/
theorem total_removesOrphans {sourceId : String} {tag : EntityType} {t : Time} {g : Graph}
    (sourced : sourceId ≠ "") (valid : tag.valid = true) (time : t.isZero = false)
    (pattern : ∀ v ∈ g.vertices.rows, topologyVIDPattern v.vid = true)
    {rounds : Nat} (enough : g.vertices.rows.length < rounds) :
    Prog.total graphHandler Faultless (deleteOrphanVerticesNotSeen sourceId tag t rounds)
      (fun _ g' => OrphansLeft g tag sourceId (topologyTime t) g' ∧
        ∀ v ∈ g'.vertices.rows, g.orphan tag sourceId (topologyTime t) v = false) g := by
  unfold deleteOrphanVerticesNotSeen
  rw [if_neg (by simp [sourced, valid, time])]
  refine Prog.total_loop (fun _ => OrphansLeft g tag sourceId (topologyTime t))
    (fun _ g' => g'.vertices.rows.length) ?_ rounds () enough (.refl g tag sourceId (topologyTime t))
  intro _ g' left
  refine Prog.total_bind (total_executeTopology fun order => ⟨_, rfl, ?_⟩)
  have listed := left.found order topologyCleanupBatchSize
  have read := topologyResultVIDs_of_pattern fun vid member => by
    obtain ⟨v, inside, same, -⟩ := listed vid member
    exact same ▸ pattern v (left.stored v inside)
  dsimp only [Statement.execute]
  rw [read]
  cases batch : (preferring order
      ((g'.vertices.rows.filter (g'.orphan tag sourceId (topologyTime t))).map (·.vid))).take
        topologyCleanupBatchSize with
  | nil =>
      have nothing : (g'.vertices.rows.filter
          (g'.orphan tag sourceId (topologyTime t))).map (·.vid) = [] := by
        refine @preferring_eq_nil order _ ?_
        rcases List.take_eq_nil_iff.mp batch with zero | empty
        · cases zero
        · exact empty
      refine ⟨left, fun v member => ?_⟩
      have absent := List.filter_eq_nil_iff.mp (List.map_eq_nil_iff.mp nothing) v member
      rw [orphan_congr left.edges] at absent
      simpa using absent
  | cons vid vids =>
      rw [batch] at listed
      refine Prog.total_bind (total_executeTopology fun order' => ⟨[], rfl, ?_⟩)
      refine ⟨left.delete (fun vid member => ?_) order', ?_⟩
      · obtain ⟨v, inside, same, orphan⟩ := listed vid member
        exact ⟨v, left.stored v inside, same, orphan⟩
      · -- The batch is not empty, and what it lists is stored.
        obtain ⟨v, inside, same, -⟩ := listed vid List.mem_cons_self
        refine List.length_filter_lt_length_iff_exists.mpr ⟨v, inside, ?_⟩
        simp [same]

theorem total_deleteOrphanVerticesNotSeen {sourceId : String} {tag : EntityType} {t : Time}
    {g : Graph} (sourced : sourceId ≠ "") (valid : tag.valid = true) (time : t.isZero = false)
    (pattern : ∀ v ∈ g.vertices.rows, topologyVIDPattern v.vid = true)
    (one : ∀ v ∈ g.vertices.rows, ∀ w ∈ g.vertices.rows, v.vid = w.vid → v = w)
    {rounds : Nat} (enough : g.vertices.rows.length < rounds) :
    Prog.total graphHandler Faultless (deleteOrphanVerticesNotSeen sourceId tag t rounds)
      (fun _ g' => g'.edges = g.edges ∧ ∀ v, v ∈ g'.vertices.rows ↔
        v ∈ g.vertices.rows ∧ g.orphan tag sourceId (topologyTime t) v = false) g := by
  refine Prog.total_mono (total_removesOrphans sourced valid time pattern enough) ?_
  rintro _ g' ⟨left, none_⟩
  refine ⟨left.edges, fun v => ⟨fun member => ⟨left.stored v member, none_ v member⟩, ?_⟩⟩
  rintro ⟨member, spared⟩
  refine left.kept v member fun w inside same => ?_
  rw [one w inside v member same]
  exact spared

end UnifiedInfraTopology
