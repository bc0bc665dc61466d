import UnifiedInfraTopology.Graph.Built
import UnifiedInfraTopology.Graph.Effects
import Mathlib.Data.List.Perm.Subperm

/-!
# Convergence of a snapshot

A snapshot of one source is a list of vertices and relations, all synchronised at one time.  It is
published by writing the list in some order, then deleting the relations of the source that were not
seen, then its orphaned vertices.

`snapshot_converges`: on every graph that earlier writes have built, the source ends with exactly the
objects of the list.  An object that was stored before keeps its creation time, and the objects of
other sources stay.

The stages are `Upserted` (the list is written), `total_each` over the edge types and `total_each`
over the entity types.  That every stale vertex is an orphan by then is `isolated_stale`.
-/

namespace UnifiedInfraTopology

open Lib

/-! ## The snapshot -/

/-- The rows that the vertex writes compute. -/
def vertexRows (writes : List TopologyWrite) : List VertexRow :=
  writes.filterMap fun
    | .vertex v => (prepareVertex v).toOption
    | .relation _ => none

/-- The rows that the relation writes compute. -/
def edgeRows (writes : List TopologyWrite) : List EdgeRow :=
  writes.filterMap fun
    | .vertex _ => none
    | .relation r => (prepareRelation r).toOption

/-- The write passes the checks of its call, and belongs to the source and the time. -/
def TopologyWrite.Valid (sourceId : String) (t : Time) : TopologyWrite → Prop
  | vertex v => v.identity.sourceId = sourceId ∧ v.syncedAt = t ∧ (prepareVertex v).isOk = true
  | relation r =>
      r.identity.sourceId = sourceId ∧ r.syncedAt = t ∧ (prepareRelation r).isOk = true

instance (sourceId : String) (t : Time) : DecidablePred (TopologyWrite.Valid sourceId t)
  | .vertex _ => inferInstanceAs (Decidable (_ ∧ _ ∧ _))
  | .relation _ => inferInstanceAs (Decidable (_ ∧ _ ∧ _))

/-- A snapshot of a source at a time, over a graph with older objects of the source. -/
structure Snapshot (sourceId : String) (t : Time) (g : Graph) (writes : List TopologyWrite) :
    Prop where
  sourced : sourceId ≠ ""
  time : t.isZero = false
  micro : topologyTime t = t
  olderVertices : ∀ v ∈ g.vertices.rows, v.sourceId = sourceId → v.syncedAt < t
  olderEdges : ∀ e ∈ g.edges.rows, e.sourceId = sourceId → e.syncedAt < t
  valid : ∀ write ∈ writes, write.Valid sourceId t
  vids : ((vertexRows writes).map (·.vid)).Nodup
  relationIds : ((edgeRows writes).map (·.relationId)).Nodup
  /-- The endpoints of a relation are vertices of the list. -/
  endpoints : ∀ r, .relation r ∈ writes → ∀ i ∈ [r.identity.origin, r.identity.target],
    ∃ v, .vertex v ∈ writes ∧ v.identity = i
  /-- No two relations share a key, in the list or with a stored edge. -/
  ranks : ∀ row ∈ edgeRows writes, ∀ e, e ∈ edgeRows writes ∨ e ∈ g.edges.rows →
    e.key = row.key → e.relationId = row.relationId

/-- Write the list, then clean up what it did not write. -/
def publishSnapshot (sourceId : String) (t : Time) (writes : List TopologyWrite)
    (edgeTypes : List EdgeType) (entityTypes : List EntityType) (rounds : Nat) : GraphProg Unit :=
  (Prog.each TopologyWrite.run writes).bind fun _ =>
    (Prog.each (fun edgeType => deleteRelationsNotSeen sourceId edgeType t) edgeTypes).bind fun _ =>
      Prog.each (fun tag => deleteOrphanVerticesNotSeen sourceId tag t rounds) entityTypes

/-- The source has exactly the objects of the list, the other sources have what they had. -/
structure Converged (sourceId : String) (writes : List TopologyWrite) (g g' : Graph) : Prop where
  vertices : ∀ v, v.sourceId = sourceId → (v ∈ g'.vertices.rows ↔
    ∃ row ∈ vertexRows writes, v = row.landed (g.vertices.find? row.key))
  edges : ∀ e, e.sourceId = sourceId → (e ∈ g'.edges.rows ↔
    ∃ row ∈ edgeRows writes, e = row.landed (g.edges.find? row.key))
  otherVertices : ∀ v, v.sourceId ≠ sourceId → (v ∈ g'.vertices.rows ↔ v ∈ g.vertices.rows)
  otherEdges : ∀ e, e.sourceId ≠ sourceId → (e ∈ g'.edges.rows ↔ e ∈ g.edges.rows)

/-! ## Normalised relations -/

/-- What normalisation leaves alone, and the endpoints up to their order. -/
structure SameRelation (r normalized : Relation) : Prop where
  sourceId : normalized.identity.sourceId = r.identity.sourceId
  syncedAt : normalized.syncedAt = r.syncedAt
  origin : normalized.identity.origin ∈ [r.identity.origin, r.identity.target]
  target : normalized.identity.target ∈ [r.identity.origin, r.identity.target]

theorem sameRelation_normalizeRelation {r normalized : Relation}
    (ok : normalizeRelation r = .ok normalized) : SameRelation r normalized := by
  obtain ⟨sourceId, -, -, -, -, syncedAt, endpoints⟩ := (normalizeRelation_ok_iff.mp ok).keeps
  rcases endpoints with ⟨origin, target⟩ | ⟨origin, target⟩
  · exact ⟨sourceId, syncedAt, by simp [origin], by simp [target]⟩
  · exact ⟨sourceId, syncedAt, by simp [origin], by simp [target]⟩

/-! ## Rows of the snapshot -/

theorem mem_vertexRows {writes : List TopologyWrite} {row : VertexRow} :
    row ∈ vertexRows writes ↔ ∃ v, .vertex v ∈ writes ∧ prepareVertex v = .ok row := by
  rw [vertexRows, List.mem_filterMap]
  constructor
  · intro prepared
    obtain ⟨write, member, ok⟩ := prepared
    cases write with
    | vertex v =>
        refine ⟨v, member, ?_⟩
        cases result : prepareVertex v with
        | error e => simp only [result, Except.toOption] at ok; cases ok
        | ok row' => simp only [result, Except.toOption] at ok; cases ok; rfl
    | relation r => cases ok
  · intro prepared
    obtain ⟨v, member, ok⟩ := prepared
    exact ⟨.vertex v, member, by simp only [ok, Except.toOption]⟩

theorem mem_edgeRows {writes : List TopologyWrite} {row : EdgeRow} :
    row ∈ edgeRows writes ↔ ∃ r, .relation r ∈ writes ∧ prepareRelation r = .ok row := by
  rw [edgeRows, List.mem_filterMap]
  constructor
  · intro prepared
    obtain ⟨write, member, ok⟩ := prepared
    cases write with
    | vertex v => cases ok
    | relation r =>
        refine ⟨r, member, ?_⟩
        cases result : prepareRelation r with
        | error e => simp only [result, Except.toOption] at ok; cases ok
        | ok row' => simp only [result, Except.toOption] at ok; cases ok; rfl
  · intro prepared
    obtain ⟨r, member, ok⟩ := prepared
    exact ⟨.relation r, member, by simp only [ok, Except.toOption]⟩

/-- One vertex ID, one identity. -/
theorem identity_of_vid {hashed : Set (List String)} (collisionFree : Set.InjOn hashJSON hashed)
    {i j : EntityIdentity} {vid : String} (first : i.vid = .ok vid) (second : j.vid = .ok vid)
    (known : i.hashed ∈ hashed) (known' : j.hashed ∈ hashed) : i = j := by
  have digests : hashJSON i.hashed = hashJSON j.hashed :=
    (EntityIdentity.vid_hashed first).symm.trans (EntityIdentity.vid_hashed second)
  have parts := collisionFree known known' digests
  simp only [EntityIdentity.hashed, List.cons.injEq, true_and, and_true] at parts
  obtain ⟨sourceId, text, stableId⟩ := parts
  have entityType := EntityType.text_injective
    (EntityIdentity.validate_ok (EntityIdentity.vid_ok first).1).2
    (EntityIdentity.validate_ok (EntityIdentity.vid_ok second).1).2 text
  cases i
  cases j
  simp_all

section Publish

variable {sourceId : String} {t : Time} {g : Graph} {writes : List TopologyWrite}
  {hashed : Set (List String)}

/-- A vertex of the list: whose identity it has, its source and its time. -/
theorem Snapshot.vertexRow (snapshot : Snapshot sourceId t g writes) {row : VertexRow}
    (known : ∀ write ∈ writes, ∀ parts ∈ write.hashed, parts ∈ hashed)
    (member : row ∈ vertexRows writes) :
    ∃ v, .vertex v ∈ writes ∧ row.Identified v.identity ∧ v.identity.hashed ∈ hashed ∧
      row.sourceId = sourceId ∧ row.syncedAt = t := by
  obtain ⟨v, listed, ok⟩ := mem_vertexRows.mp member
  obtain ⟨source, time, -⟩ := snapshot.valid _ listed
  obtain ⟨-, -, ofSource, -, -, synced⟩ := prepareVertex_ok ok
  refine ⟨v, listed, identified_prepareVertex ok,
    known _ listed _ (List.mem_singleton_self _), ofSource.trans source, ?_⟩
  rw [synced, time, snapshot.micro]

/-- A relation of the list: its source and its time, and its endpoints in the list. -/
theorem Snapshot.edgeRow (snapshot : Snapshot sourceId t g writes) {row : EdgeRow}
    (known : ∀ write ∈ writes, ∀ parts ∈ write.hashed, parts ∈ hashed)
    (member : row ∈ edgeRows writes) :
    (∃ i, row.Identified i ∧ i.hashed ∈ hashed) ∧ row.sourceId = sourceId ∧ row.syncedAt = t ∧
      ∀ vid ∈ [row.origin, row.target], ∃ v ∈ vertexRows writes, v.vid = vid := by
  obtain ⟨r, listed, ok⟩ := mem_edgeRows.mp member
  obtain ⟨source, time, -⟩ := snapshot.valid _ listed
  obtain ⟨normalized, normal, identified⟩ := identified_prepareRelation ok
  obtain ⟨normalized', normal', -, -, -, -, -, -, -, -, synced⟩ := prepareRelation_ok ok
  cases normal.symm.trans normal'
  have same := sameRelation_normalizeRelation normal
  have inList : ∀ i ∈ [r.identity.origin, r.identity.target], ∀ vid, i.vid = .ok vid →
      ∃ v ∈ vertexRows writes, v.vid = vid := by
    intro i endpoint vid hash
    obtain ⟨v, inside, rfl⟩ := snapshot.endpoints r listed i endpoint
    obtain ⟨-, -, prepared⟩ := snapshot.valid _ inside
    cases result : prepareVertex v with
    | error e => rw [result] at prepared; cases prepared
    | ok row' =>
        refine ⟨row', mem_vertexRows.mpr ⟨v, inside, result⟩, ?_⟩
        exact Except.ok.inj ((prepareVertex_ok result).1.symm.trans hash)
  refine ⟨⟨normalized.identity, identified, known _ listed _ ?_⟩, ?_, ?_, ?_⟩
  · simp [TopologyWrite.hashed, normal, Except.toOption]
  · exact identified.sourceId.trans (same.sourceId.trans source)
  · rw [synced, same.syncedAt, time, snapshot.micro]
  · simp only [List.forall_mem_cons, List.not_mem_nil, false_implies, implies_true, and_true]
    exact ⟨inList _ same.origin _ identified.origin, inList _ same.target _ identified.target⟩

/-- A vertex write of the list may refresh what is stored under its key. -/
theorem Snapshot.acceptsVertex (snapshot : Snapshot sourceId t g writes)
    (known : ∀ write ∈ writes, ∀ parts ∈ write.hashed, parts ∈ hashed)
    (identified : g.Identified hashed) (collisionFree : Set.InjOn hashJSON hashed)
    {row stored : VertexRow} (member : row ∈ vertexRows writes)
    (found : g.vertices.find? row.key = some stored) : row.accepts stored := by
  obtain ⟨inside, key⟩ := Table.find?_eq_some_iff.mp found
  obtain ⟨v, -, named, hash, source, time⟩ := snapshot.vertexRow known member
  obtain ⟨i, named', hash'⟩ := identified.vertices stored inside
  have vid : stored.vid = row.vid := congrArg Prod.snd key
  cases identity_of_vid collisionFree named.vid (vid ▸ named'.vid) hash hash'
  have ofSource : stored.sourceId = row.sourceId := named'.sourceId.trans named.sourceId.symm
  refine ⟨ofSource, named'.stableId.trans named.stableId.symm, ?_⟩
  rw [time]
  exact le_of_lt (snapshot.olderVertices stored inside (ofSource.trans source))

/-- A relation write of the list may refresh what is stored under its key. -/
theorem Snapshot.acceptsEdge (snapshot : Snapshot sourceId t g writes)
    (known : ∀ write ∈ writes, ∀ parts ∈ write.hashed, parts ∈ hashed)
    (identified : g.Identified hashed) (collisionFree : Set.InjOn hashJSON hashed)
    {row stored : EdgeRow} (member : row ∈ edgeRows writes)
    (found : g.edges.find? row.key = some stored) : row.accepts stored := by
  obtain ⟨inside, key⟩ := Table.find?_eq_some_iff.mp found
  obtain ⟨⟨i, named, hash⟩, source, time, -⟩ := snapshot.edgeRow known member
  obtain ⟨j, named', hash', -⟩ := identified.edges stored inside
  have relationId := snapshot.ranks row member stored (Or.inr inside) key
  have digests : hashJSON j.hashed = hashJSON i.hashed := by
    rw [← (RelationIdentity.id_ok named'.id).2, relationId, (RelationIdentity.id_ok named.id).2]
  obtain ⟨sources, kinds⟩ := RelationIdentity.hashed_inj (collisionFree hash' hash digests)
  have ofSource : stored.sourceId = row.sourceId := by
    rw [named'.sourceId, sources, named.sourceId]
  refine ⟨⟨relationId, by rw [named'.kind, kinds, named.kind], ofSource⟩, ?_⟩
  rw [time]
  exact le_of_lt (snapshot.olderEdges stored inside (ofSource.trans source))

/-! ## Writing the list -/

/-- The rows of some writes are stored, and the rest is as before. -/
structure Upserted (rows : List VertexRow) (links : List EdgeRow) (g g' : Graph) : Prop where
  vertices : Table.Overlaid VertexRow.landed rows g.vertices g'.vertices
  edges : Table.Overlaid EdgeRow.landed links g.edges g'.edges
  size : g'.vertices.rows.length ≤ g.vertices.rows.length + rows.length

theorem vertexRows_append (before after : List TopologyWrite) :
    vertexRows (before ++ after) = vertexRows before ++ vertexRows after :=
  List.filterMap_append

theorem edgeRows_append (before after : List TopologyWrite) :
    edgeRows (before ++ after) = edgeRows before ++ edgeRows after :=
  List.filterMap_append

/-- The rows of the list have distinct keys. -/
theorem Snapshot.vertexKeys (snapshot : Snapshot sourceId t g writes) :
    ((vertexRows writes).map (·.key)).Nodup := by
  have vids := snapshot.vids
  refine List.Nodup.of_map Prod.snd ?_
  rwa [List.map_map]

theorem Snapshot.edgeKeys (snapshot : Snapshot sourceId t g writes) :
    ((edgeRows writes).map (·.key)).Nodup := by
  have ids := snapshot.relationIds
  refine List.Nodup.map_on (fun e member row member' same => ?_) (List.Nodup.of_map _ ids)
  exact List.inj_on_of_nodup_map ids member member'
    (snapshot.ranks row member' e (Or.inl member) same)

/-- The key of the next row is not among those before it. -/
theorem fresh_of_nodup {α κ : Type} {key : α → κ} {before after : List α} {x : α}
    (nodup : ((before ++ x :: after).map key).Nodup) : key x ∉ before.map key := by
  rw [List.map_append, List.map_cons, List.nodup_append] at nodup
  intro member
  exact nodup.2.2 _ member _ List.mem_cons_self rfl

/-- The list is written, in the order it has. -/
theorem total_upserts (snapshot : Snapshot sourceId t g writes)
    (known : ∀ write ∈ writes, ∀ parts ∈ write.hashed, parts ∈ hashed)
    (identified : g.Identified hashed) (collisionFree : Set.InjOn hashJSON hashed) :
    Prog.total graphHandler Faultless (Prog.each TopologyWrite.run writes)
      (fun _ => Upserted (vertexRows writes) (edgeRows writes) g) g := by
  refine Prog.total_each (fun before => Upserted (vertexRows before) (edgeRows before) g) writes ?_
    ⟨Table.overlaid_nil _, Table.overlaid_nil _, le_rfl⟩
  intro before write after g' whole upserted
  have listed : write ∈ writes := by simp [whole]
  have valid := snapshot.valid write listed
  cases write with
  | vertex v =>
      obtain ⟨-, -, prepared⟩ := valid
      cases result : prepareVertex v with
      | error e => rw [result] at prepared; cases prepared
      | ok row =>
          have rows : vertexRows [.vertex v] = [row] := by
            simp [vertexRows, result, Except.toOption]
          have keys := snapshot.vertexKeys
          rw [whole, ← List.singleton_append, vertexRows_append, vertexRows_append, rows,
            List.singleton_append] at keys
          have fresh := fresh_of_nodup keys
          have member : row ∈ vertexRows writes := mem_vertexRows.mpr ⟨v, listed, result⟩
          have accepted : ∀ stored, g'.vertices.find? row.key = some stored →
              row.accepts stored := by
            intro stored found
            rw [upserted.vertices.other _ fresh] at found
            exact snapshot.acceptsVertex known identified collisionFree member found
          simp only [TopologyWrite.run, upsertVertex, result]
          refine Prog.total_mono (total_writeVertex accepted) fun _ g'' written => ?_
          have none : edgeRows [.vertex v] = [] := rfl
          rw [vertexRows_append, edgeRows_append, rows, none, List.append_nil]
          refine ⟨upserted.vertices.concat fresh written.found, written.edges ▸ upserted.edges, ?_⟩
          have more := written.size
          have size := upserted.size
          rw [List.length_append, List.length_singleton]
          omega
  | relation r =>
      obtain ⟨-, -, prepared⟩ := valid
      cases result : prepareRelation r with
      | error e => rw [result] at prepared; cases prepared
      | ok row =>
          have rows : edgeRows [.relation r] = [row] := by
            simp [edgeRows, result, Except.toOption]
          have keys := snapshot.edgeKeys
          rw [whole, ← List.singleton_append, edgeRows_append, edgeRows_append, rows,
            List.singleton_append] at keys
          have fresh := fresh_of_nodup keys
          have member : row ∈ edgeRows writes := mem_edgeRows.mpr ⟨r, listed, result⟩
          have accepted : ∀ stored, g'.edges.find? row.key = some stored → row.accepts stored := by
            intro stored found
            rw [upserted.edges.other _ fresh] at found
            exact snapshot.acceptsEdge known identified collisionFree member found
          simp only [TopologyWrite.run, upsertRelation, result]
          refine Prog.total_mono (total_writeEdge accepted) fun _ g'' written => ?_
          have none : vertexRows [.relation r] = [] := rfl
          rw [vertexRows_append, edgeRows_append, rows, none, List.append_nil]
          exact ⟨written.vertices ▸ upserted.vertices, upserted.edges.concat fresh written.found,
            written.vertices ▸ upserted.size⟩

/-! ## Cleaning up -/

/-- The relations of every type are cleaned up. -/
theorem total_deleteRelations (sourced : sourceId ≠ "") (time : t.isZero = false)
    (micro : topologyTime t = t) {edgeTypes : List EdgeType}
    (valid : ∀ edgeType ∈ edgeTypes, edgeType.valid = true) (g : Graph) :
    Prog.total graphHandler Faultless
      (Prog.each (fun edgeType => deleteRelationsNotSeen sourceId edgeType t) edgeTypes)
      (fun _ g' => g'.vertices = g.vertices ∧ ∀ e, e ∈ g'.edges.rows ↔
        e ∈ g.edges.rows ∧ ¬(e.edgeType ∈ edgeTypes ∧ e.stale sourceId t = true)) g := by
  refine Prog.total_each (fun before (g' : Graph) => g'.vertices = g.vertices ∧ ∀ e, e ∈ g'.edges.rows ↔
    e ∈ g.edges.rows ∧ ¬(e.edgeType ∈ before ∧ e.stale sourceId t = true)) edgeTypes ?_
    ⟨rfl, fun e => by simp⟩
  intro before edgeType after g' whole held
  obtain ⟨vertices, edges⟩ := held
  refine Prog.total_mono
    (total_deleteRelationsNotSeen sourced (valid edgeType (by simp [whole])) time)
    fun _ g'' deleted => ⟨deleted.1.trans vertices, fun e => ?_⟩
  rw [deleted.2, edges, micro, and_assoc]
  refine and_congr_right fun _ => ?_
  rw [List.mem_append, List.mem_singleton]
  tauto

/-- The orphans of every type are cleaned up. -/
theorem total_deleteOrphans (sourced : sourceId ≠ "") (time : t.isZero = false)
    (micro : topologyTime t = t) {entityTypes : List EntityType}
    (valid : ∀ tag ∈ entityTypes, tag.valid = true) {g : Graph}
    (pattern : ∀ v ∈ g.vertices.rows, topologyVIDPattern v.vid = true)
    (one : ∀ v ∈ g.vertices.rows, ∀ w ∈ g.vertices.rows, v.vid = w.vid → v = w)
    {rounds : Nat} (enough : g.vertices.rows.length < rounds) :
    Prog.total graphHandler Faultless
      (Prog.each (fun tag => deleteOrphanVerticesNotSeen sourceId tag t rounds) entityTypes)
      (fun _ g' => g'.edges = g.edges ∧ ∀ v, v ∈ g'.vertices.rows ↔
        v ∈ g.vertices.rows ∧ ¬(v.tag ∈ entityTypes ∧ g.orphan v.tag sourceId t v = true)) g := by
  refine Prog.total_mono (Prog.total_each (fun before (g' : Graph) => g'.edges = g.edges ∧
    g'.vertices.rows.length ≤ g.vertices.rows.length ∧ ∀ v, v ∈ g'.vertices.rows ↔
      v ∈ g.vertices.rows ∧ ¬(v.tag ∈ before ∧ g.orphan v.tag sourceId t v = true)) entityTypes ?_
    ⟨rfl, le_rfl, fun v => by simp⟩) fun _ g' post => ⟨post.1, post.2.2⟩
  intro before tag after g' whole held
  obtain ⟨edges, size, vertices⟩ := held
  have stored : ∀ v ∈ g'.vertices.rows, v ∈ g.vertices.rows :=
    fun v member => ((vertices v).mp member).1
  refine Prog.total_mono
    (total_deleteOrphanVerticesNotSeen sourced (valid tag (by simp [whole])) time
      (fun v member => pattern v (stored v member))
      (fun v member w member' => one v (stored v member) w (stored w member'))
      (lt_of_le_of_lt size enough))
    fun _ g'' deleted => ?_
  obtain ⟨edges', left⟩ := deleted
  have remaining : ∀ v, v ∈ g''.vertices.rows ↔ v ∈ g.vertices.rows ∧
      ¬(v.tag ∈ before ++ [tag] ∧ g.orphan v.tag sourceId t v = true) := by
    intro v
    rw [left, vertices, micro, orphan_congr edges, and_assoc]
    refine and_congr_right fun _ => ?_
    -- An orphan of this round has the tag of the round.
    have tagged : g.orphan tag sourceId t v = true ↔
        v.tag = tag ∧ g.orphan v.tag sourceId t v = true := by
      constructor
      · intro orphan
        have same : v.tag = tag := by
          simp only [Graph.orphan, Bool.and_eq_true, beq_iff_eq] at orphan
          exact orphan.1.1.1
        exact ⟨same, same ▸ orphan⟩
      · intro both
        exact both.1 ▸ both.2
    rw [← Bool.not_eq_true, tagged, List.mem_append, List.mem_singleton]
    tauto
  refine ⟨edges'.trans edges, ?_, remaining⟩
  have nodup := g''.vertices.nodup.of_map
  refine (List.subperm_of_subset nodup fun v member => ?_).length_le.trans size
  exact ((left v).mp member).1

/-! ## The published graph -/

theorem VertexRow.key_landed (row : VertexRow) (stored : Option VertexRow) :
    (row.landed stored).key = row.key := rfl

theorem EdgeRow.key_landed (row : EdgeRow) (stored : Option EdgeRow) :
    (row.landed stored).key = row.key := rfl

/-- The vertices are identified once the list is written. -/
theorem Upserted.identified {g' : Graph}
    (upserted : Upserted (vertexRows writes) (edgeRows writes) g g')
    (snapshot : Snapshot sourceId t g writes)
    (known : ∀ write ∈ writes, ∀ parts ∈ write.hashed, parts ∈ hashed)
    (identified : g.Identified hashed) :
    ∀ v ∈ g'.vertices.rows, ∃ i, v.Identified i ∧ i.hashed ∈ hashed := by
  intro v member
  rcases (upserted.vertices.mem_rows VertexRow.key_landed).mp member with
    ⟨row, listed, rfl⟩ | ⟨stored, -⟩
  · obtain ⟨w, -, named, hash, -⟩ := snapshot.vertexRow known listed
    exact ⟨w.identity, ⟨named.vid, named.tag, named.sourceId, named.stableId⟩, hash⟩
  · exact identified.vertices v stored

/-- The edges once the stale relations are deleted. -/
def SnapshotEdges (sourceId : String) (writes : List TopologyWrite) (g g' : Graph) : Prop :=
  ∀ e, e ∈ g'.edges.rows ↔
    (∃ row ∈ edgeRows writes, e = row.landed (g.edges.find? row.key)) ∨
      e ∈ g.edges.rows ∧ e.sourceId ≠ sourceId

theorem Upserted.snapshotEdges {g' g'' : Graph}
    (upserted : Upserted (vertexRows writes) (edgeRows writes) g g')
    (snapshot : Snapshot sourceId t g writes)
    (known : ∀ write ∈ writes, ∀ parts ∈ write.hashed, parts ∈ hashed)
    (identified : g.Identified hashed) (collisionFree : Set.InjOn hashJSON hashed)
    {edgeTypes : List EdgeType} (every : ∀ edgeType, edgeType.valid = true → edgeType ∈ edgeTypes)
    (deleted : ∀ e, e ∈ g''.edges.rows ↔
      e ∈ g'.edges.rows ∧ ¬(e.edgeType ∈ edgeTypes ∧ e.stale sourceId t = true)) :
    SnapshotEdges sourceId writes g g'' := by
  intro e
  rw [deleted, upserted.edges.mem_rows EdgeRow.key_landed]
  constructor
  · intro both
    obtain ⟨written | ⟨stored, -⟩, remains⟩ := both
    · exact Or.inl written
    · refine Or.inr ⟨stored, fun ofSource => remains ⟨?_, ?_⟩⟩
      · obtain ⟨i, named, -⟩ := identified.edges e stored
        rw [named.edgeType]
        exact every _
          (RelationIdentity.validate_ok_iff.mp (RelationIdentity.id_ok named.id).1).edgeType
      · simp [EdgeRow.stale, ofSource, snapshot.olderEdges e stored ofSource]
  · intro either
    rcases either with ⟨row, listed, rfl⟩ | ⟨stored, foreign⟩
    · refine ⟨Or.inl ⟨row, listed, rfl⟩, fun gone => ?_⟩
      obtain ⟨-, -, time, -⟩ := snapshot.edgeRow known listed
      simp [EdgeRow.stale, EdgeRow.landed, time] at gone
    · refine ⟨Or.inr ⟨stored, fun listed => ?_⟩, fun gone => ?_⟩
      · obtain ⟨row, member, key⟩ := List.mem_map.mp listed
        have found : g.edges.find? row.key = some e := Table.find?_eq_some_iff.mpr ⟨stored, key.symm⟩
        have accepted := snapshot.acceptsEdge known identified collisionFree member found
        obtain ⟨-, source, -⟩ := snapshot.edgeRow known member
        exact foreign (accepted.1.2.2.trans source)
      · simp [EdgeRow.stale, foreign] at gone

/-- A vertex of the source that is not in the list has no edge left. -/
theorem isolated_stale {g' : Graph} (snapshot : Snapshot sourceId t g writes)
    (known : ∀ write ∈ writes, ∀ parts ∈ write.hashed, parts ∈ hashed)
    (identified : g.Identified hashed) (collisionFree : Set.InjOn hashJSON hashed)
    (edges : SnapshotEdges sourceId writes g g') {v : VertexRow} (stored : v ∈ g.vertices.rows)
    (ofSource : v.sourceId = sourceId) (unlisted : v.key ∉ (vertexRows writes).map (·.key)) :
    g'.isolated v.vid = true := by
  obtain ⟨i, named, hash⟩ := identified.vertices v stored
  refine List.all_eq_true.mpr fun e member => ?_
  suffices apart : ∀ vid ∈ [e.origin, e.target], vid ≠ v.vid by
    simp only [List.forall_mem_cons, List.not_mem_nil, false_implies, implies_true,
      and_true] at apart
    simp [EdgeRow.touches, apart]
  intro vid endpoint same
  rcases (edges e).mp member with ⟨row, listed, rfl⟩ | ⟨inside, foreign⟩
  · -- An edge of the list ends at vertices of the list.
    obtain ⟨-, -, -, endpoints⟩ := snapshot.edgeRow known listed
    obtain ⟨w, member', here⟩ := endpoints vid endpoint
    obtain ⟨w', -, named', hash', -⟩ := snapshot.vertexRow known member'
    have vids : w.vid = v.vid := here.trans same
    cases identity_of_vid collisionFree named.vid (vids ▸ named'.vid) hash hash'
    refine unlisted (List.mem_map.mpr ⟨w, member', ?_⟩)
    exact Prod.ext (named'.tag.trans named.tag.symm) vids
  · -- An edge of another source ends at vertices of that source.
    obtain ⟨j, named', -, origin, target⟩ := identified.edges e inside
    obtain ⟨-, -, -, -, -, fromSource, toSource⟩ :=
      RelationIdentity.validate_ok_iff.mp (RelationIdentity.id_ok named'.id).1
    have sources : j.sourceId = i.sourceId := by
      simp only [List.mem_cons, List.not_mem_nil, or_false] at endpoint
      rcases endpoint with rfl | rfl
      · rw [← fromSource, identity_of_vid collisionFree named'.origin (same ▸ named.vid) origin hash]
      · rw [← toSource, identity_of_vid collisionFree named'.target (same ▸ named.vid) target hash]
    exact foreign (by rw [named'.sourceId, sources, ← named.sourceId, ofSource])

/-- The vertices once the orphans are deleted. -/
theorem Upserted.snapshotVertices {g' before g'' : Graph}
    (upserted : Upserted (vertexRows writes) (edgeRows writes) g g')
    (snapshot : Snapshot sourceId t g writes)
    (known : ∀ write ∈ writes, ∀ parts ∈ write.hashed, parts ∈ hashed)
    (identified : g.Identified hashed) (collisionFree : Set.InjOn hashJSON hashed)
    (vertices : before.vertices = g'.vertices) (edges : SnapshotEdges sourceId writes g before)
    {entityTypes : List EntityType} (every : ∀ tag, tag.valid = true → tag ∈ entityTypes)
    (deleted : ∀ v, v ∈ g''.vertices.rows ↔ v ∈ before.vertices.rows ∧
      ¬(v.tag ∈ entityTypes ∧ before.orphan v.tag sourceId t v = true)) (v : VertexRow) :
    v ∈ g''.vertices.rows ↔
      (∃ row ∈ vertexRows writes, v = row.landed (g.vertices.find? row.key)) ∨
        v ∈ g.vertices.rows ∧ v.sourceId ≠ sourceId := by
  rw [deleted, vertices, upserted.vertices.mem_rows VertexRow.key_landed]
  constructor
  · intro both
    obtain ⟨written | ⟨stored, unlisted⟩, remains⟩ := both
    · exact Or.inl written
    · refine Or.inr ⟨stored, fun ofSource => remains ⟨?_, ?_⟩⟩
      · obtain ⟨i, named, -⟩ := identified.vertices v stored
        rw [named.tag]
        exact every _ (EntityIdentity.validate_ok (EntityIdentity.vid_ok named.vid).1).2
      · have alone := isolated_stale snapshot known identified collisionFree edges stored ofSource
          unlisted
        simp [Graph.orphan, ofSource, snapshot.olderVertices v stored ofSource, alone]
  · intro either
    rcases either with ⟨row, listed, rfl⟩ | ⟨stored, foreign⟩
    · refine ⟨Or.inl ⟨row, listed, rfl⟩, fun gone => ?_⟩
      obtain ⟨-, -, -, -, -, time⟩ := snapshot.vertexRow known listed
      simp [Graph.orphan, VertexRow.landed, time] at gone
    · refine ⟨Or.inr ⟨stored, fun listed => ?_⟩, fun gone => ?_⟩
      · obtain ⟨row, member, key⟩ := List.mem_map.mp listed
        have found : g.vertices.find? row.key = some v :=
          Table.find?_eq_some_iff.mpr ⟨stored, key.symm⟩
        have accepted := snapshot.acceptsVertex known identified collisionFree member found
        obtain ⟨-, -, -, -, source, -⟩ := snapshot.vertexRow known member
        exact foreign (accepted.1.trans source)
      · simp [Graph.orphan, foreign] at gone

/-- The published graph has converged. -/
theorem converged_of_rows {g' : Graph} (snapshot : Snapshot sourceId t g writes)
    (known : ∀ write ∈ writes, ∀ parts ∈ write.hashed, parts ∈ hashed)
    (vertices : ∀ v, v ∈ g'.vertices.rows ↔
      (∃ row ∈ vertexRows writes, v = row.landed (g.vertices.find? row.key)) ∨
        v ∈ g.vertices.rows ∧ v.sourceId ≠ sourceId)
    (edges : SnapshotEdges sourceId writes g g') : Converged sourceId writes g g' := by
  refine ⟨fun v ofSource => ?_, fun e ofSource => ?_, fun v foreign => ?_, fun e foreign => ?_⟩
  · simp [vertices, ofSource]
  · rw [edges]
    simp [ofSource]
  · rw [vertices, or_iff_right, and_iff_left foreign]
    intro written
    obtain ⟨row, listed, rfl⟩ := written
    obtain ⟨-, -, -, -, source, -⟩ := snapshot.vertexRow known listed
    exact foreign source
  · rw [edges, or_iff_right, and_iff_left foreign]
    intro written
    obtain ⟨row, listed, rfl⟩ := written
    obtain ⟨-, source, -⟩ := snapshot.edgeRow known listed
    exact foreign source

theorem total_publishSnapshot (snapshot : Snapshot sourceId t g writes)
    (known : ∀ write ∈ writes, ∀ parts ∈ write.hashed, parts ∈ hashed)
    (identified : g.Identified hashed) (collisionFree : Set.InjOn hashJSON hashed)
    {edgeTypes : List EdgeType} (everyEdge : ∀ edgeType, edgeType ∈ edgeTypes ↔ edgeType.valid = true)
    {entityTypes : List EntityType} (everyTag : ∀ tag, tag ∈ entityTypes ↔ tag.valid = true)
    {rounds : Nat} (enough : g.vertices.rows.length + (vertexRows writes).length < rounds) :
    Prog.total graphHandler Faultless
      (publishSnapshot sourceId t writes edgeTypes entityTypes rounds)
      (fun _ => Converged sourceId writes g) g := by
  refine Prog.total_bind (Prog.total_mono
    (total_upserts snapshot known identified collisionFree) fun _ g₁ upserted => ?_)
  refine Prog.total_bind (Prog.total_mono (total_deleteRelations snapshot.sourced snapshot.time
    snapshot.micro (fun edgeType => (everyEdge edgeType).mp) g₁) fun _ g₂ cleaned => ?_)
  obtain ⟨vertices, deleted⟩ := cleaned
  have edges := upserted.snapshotEdges snapshot known identified collisionFree
    (fun edgeType => (everyEdge edgeType).mpr) deleted
  have named := upserted.identified snapshot known identified
  rw [← vertices] at named
  refine Prog.total_mono (total_deleteOrphans snapshot.sourced snapshot.time snapshot.micro
    (fun tag => (everyTag tag).mp) ?_ ?_ ?_) fun _ g₃ cleaned => ?_
  · intro v member
    obtain ⟨i, identity, -⟩ := named v member
    rw [EntityIdentity.vid_hashed identity.vid]
    exact hashJSON_pattern _
  · intro v member w member' same
    obtain ⟨i, identity, hash⟩ := named v member
    obtain ⟨j, identity', hash'⟩ := named w member'
    cases identity_of_vid collisionFree identity.vid (same ▸ identity'.vid) hash hash'
    exact Table.eq_of_mem member member' (Prod.ext (identity.tag.trans identity'.tag.symm) same)
  · rw [vertices]
    exact lt_of_le_of_lt upserted.size enough
  · refine converged_of_rows snapshot known ?_ ?_
    · exact upserted.snapshotVertices snapshot known identified collisionFree vertices edges
        (fun tag => (everyTag tag).mpr) cleaned.2
    · intro e
      rw [cleaned.1]
      exact edges e

end Publish

/-! ## The theorem -/

/-- The snapshot may be written in any order. -/
theorem Snapshot.perm {sourceId : String} {t : Time} {g : Graph} {writes order : List TopologyWrite}
    (snapshot : Snapshot sourceId t g writes) (permuted : order.Perm writes) :
    Snapshot sourceId t g order := by
  have vertices : (vertexRows order).Perm (vertexRows writes) := permuted.filterMap _
  have edges : (edgeRows order).Perm (edgeRows writes) := permuted.filterMap _
  refine { snapshot with
    valid := fun write member => snapshot.valid write (permuted.mem_iff.mp member)
    vids := (vertices.map _).nodup_iff.mpr snapshot.vids
    relationIds := (edges.map _).nodup_iff.mpr snapshot.relationIds
    endpoints := fun r member i endpoint => ?_
    ranks := fun row member e either => ?_ }
  · obtain ⟨v, inside, same⟩ := snapshot.endpoints r (permuted.mem_iff.mp member) i endpoint
    exact ⟨v, permuted.mem_iff.mpr inside, same⟩
  · rw [edges.mem_iff] at member either
    exact snapshot.ranks row member e either

theorem Converged.perm {sourceId : String} {g g' : Graph} {writes order : List TopologyWrite}
    (converged : Converged sourceId order g g') (permuted : order.Perm writes) :
    Converged sourceId writes g g' := by
  have vertices : (vertexRows order).Perm (vertexRows writes) := permuted.filterMap _
  have edges : (edgeRows order).Perm (edgeRows writes) := permuted.filterMap _
  refine { converged with
    vertices := fun v ofSource => ?_
    edges := fun e ofSource => ?_ }
  · simp only [converged.vertices v ofSource, vertices.mem_iff]
  · simp only [converged.edges e ofSource, edges.mem_iff]

/-- **Snapshot convergence.**  Publishing a snapshot in any order, over any graph that earlier writes
have built, returns and leaves exactly the objects of the snapshot in its source. -/
theorem snapshot_converges {ι : Type} [DecidableEq ι] (earlier : ι → TopologyWrite)
    (schedule : List (ι × GraphMove)) (sourceId : String) (t : Time)
    (writes order : List TopologyWrite)
    (snapshot : Snapshot sourceId t (builtGraph earlier schedule) writes)
    (collisionFree : Set.InjOn hashJSON
      {parts | (∃ i, parts ∈ (earlier i).hashed) ∨ ∃ write ∈ writes, parts ∈ write.hashed})
    (permuted : order.Perm writes) (edgeTypes : List EdgeType)
    (everyEdge : edgeTypes.Perm [.spatial, .composition, .network, .power])
    (entityTypes : List EntityType)
    (everyTag : entityTypes.Perm [.device, .interface, .gpu, .pod, .cabinet, .dataCenter, .rpp,
      .upsGroup, .ups, .transformer])
    (rounds : Nat)
    (enough : (builtGraph earlier schedule).vertices.rows.length + writes.length < rounds)
    (moves : Nat → GraphMove) (faultless : ∀ i, Faultless (moves i)) :
    ∃ n g',
      (publishSnapshot sourceId t order edgeTypes entityTypes rounds).run graphHandler
        ((List.range n).map moves) (builtGraph earlier schedule) = (.ok (), g', []) ∧
      Converged sourceId writes (builtGraph earlier schedule) g' := by
  let hashed : Set (List String) :=
    {parts | (∃ i, parts ∈ (earlier i).hashed) ∨ ∃ write ∈ writes, parts ∈ write.hashed}
  have identified : (builtGraph earlier schedule).Identified hashed :=
    identified_builtGraph earlier schedule fun i parts member => Or.inl ⟨i, member⟩
  have known : ∀ write ∈ order, ∀ parts ∈ write.hashed, parts ∈ hashed := by
    intro write member parts text
    exact Or.inr ⟨write, permuted.mem_iff.mp member, text⟩
  have edgeTypes_valid : ∀ edgeType, edgeType ∈ edgeTypes ↔ edgeType.valid = true := by
    intro edgeType
    rw [everyEdge.mem_iff]
    cases edgeType <;> simp [EdgeType.valid]
  have entityTypes_valid : ∀ tag, tag ∈ entityTypes ↔ tag.valid = true := by
    intro tag
    rw [everyTag.mem_iff]
    cases tag <;> simp [EntityType.valid]
  have rounds_enough :
      (builtGraph earlier schedule).vertices.rows.length + (vertexRows order).length < rounds := by
    have fewer : (vertexRows order).length ≤ order.length := List.length_filterMap_le _ _
    rw [permuted.length_eq] at fewer
    omega
  have converges := total_publishSnapshot (snapshot.perm permuted) known identified collisionFree
    edgeTypes_valid entityTypes_valid rounds_enough
  obtain ⟨n, ⟨⟩, g', ran, converged⟩ := Prog.total_run converges faultless
  exact ⟨n, g', ran, converged.perm permuted⟩

/-! A device that owns one of two ports.  The graph holds both ports from an earlier time; the
snapshot has the device, the first port and the relation between them. -/

def knownPort (stableId : String) (t : Time) : TopologyWrite :=
  .vertex ⟨⟨"s", .interface, stableId⟩, .empty, t, t⟩

def knownPorts (second : Bool) : TopologyWrite :=
  knownPort (if second then "port-2" else "port-1") 1000

def ownedPort : List TopologyWrite := [
  .vertex ⟨⟨"s", .device, "device-1"⟩, .empty, 2000, 2000⟩,
  knownPort "port-1" 2000,
  .relation ⟨⟨"s", .composition, .ownsInterface, ⟨"s", .device, "device-1"⟩,
    ⟨"s", .interface, "port-1"⟩, "", ""⟩, .empty, 2000, 2000⟩]

def knownPortsSchedule : List (Bool × GraphMove) :=
  [false, false, false, true, true, true].map fun second => (second, ⟨.none, []⟩)

theorem ownedPort_snapshot :
    Snapshot "s" 2000 (builtGraph knownPorts knownPortsSchedule) ownedPort where
  sourced := by decide
  time := by decide
  micro := by decide
  olderVertices := by decide +kernel
  olderEdges := by decide +kernel
  valid := by decide +kernel
  vids := by decide +kernel
  relationIds := by decide +kernel
  endpoints := by
    intro r member i endpoint
    simp only [ownedPort, knownPort, List.mem_cons, reduceCtorEq, TopologyWrite.relation.injEq,
      List.not_mem_nil, or_false, false_or] at member
    subst member
    simp only [List.mem_cons, List.not_mem_nil, or_false] at endpoint
    rcases endpoint with rfl | rfl
    · exact ⟨⟨⟨"s", .device, "device-1"⟩, .empty, 2000, 2000⟩, by simp [ownedPort], rfl⟩
    · exact ⟨⟨⟨"s", .interface, "port-1"⟩, .empty, 2000, 2000⟩, by simp [ownedPort, knownPort], rfl⟩
  ranks := by
    intro row member e either
    have unlinked : (builtGraph knownPorts knownPortsSchedule).edges.rows = [] := by decide +kernel
    have single : (edgeRows ownedPort).length = 1 := by decide +kernel
    obtain ⟨only, shape⟩ := List.length_eq_one_iff.mp single
    rw [shape, List.mem_singleton] at member
    rw [shape, unlinked, List.mem_singleton, or_iff_left List.not_mem_nil] at either
    rw [member, either]
    exact fun _ => rfl

/-- What the writes of the example hash. -/
def ownedPortTexts : List (List String) := [
  ["vertex", "s", "device", "device-1"], ["vertex", "s", "interface", "port-1"],
  ["vertex", "s", "interface", "port-2"],
  ["relation", "s", "composition_relation", "owns_interface",
    jsonStrings ["s", "device", "device-1"], jsonStrings ["s", "interface", "port-1"], ""]]

theorem ownedPort_collisionFree : Set.InjOn hashJSON {parts |
    (∃ i, parts ∈ (knownPorts i).hashed) ∨ ∃ write ∈ ownedPort, parts ∈ write.hashed} := by
  have apart : (ownedPortTexts.map hashJSON).Nodup := by decide +kernel
  have listed : ∀ write ∈ knownPorts false :: knownPorts true :: ownedPort,
      ∀ parts ∈ write.hashed, parts ∈ ownedPortTexts := by
    decide +kernel
  have texts : ∀ parts, ((∃ i, parts ∈ (knownPorts i).hashed) ∨
      ∃ write ∈ ownedPort, parts ∈ write.hashed) → parts ∈ ownedPortTexts := by
    intro parts either
    rcases either with ⟨second, text⟩ | ⟨write, member, text⟩
    · refine listed (knownPorts second) ?_ parts text
      cases second <;> simp
    · exact listed write (by simp [member]) parts text
  intro parts member parts' member'
  exact List.inj_on_of_nodup_map apart (texts parts member) (texts parts' member')

theorem snapshot_converges_ownedPort : ∃ n g',
    (publishSnapshot "s" 2000 ownedPort [.spatial, .composition, .network, .power]
      [.device, .interface, .gpu, .pod, .cabinet, .dataCenter, .rpp, .upsGroup, .ups,
        .transformer] 10).run graphHandler ((List.range n).map fun _ => ⟨.none, []⟩)
      (builtGraph knownPorts knownPortsSchedule) = (.ok (), g', []) ∧
    Converged "s" ownedPort (builtGraph knownPorts knownPortsSchedule) g' :=
  snapshot_converges knownPorts knownPortsSchedule "s" 2000 ownedPort ownedPort ownedPort_snapshot
    ownedPort_collisionFree (.refl _) _ (.refl _) _ (.refl _) 10 (by decide +kernel)
    (fun _ => ⟨.none, []⟩) fun _ => rfl

end UnifiedInfraTopology
