import UnifiedInfraTopology.Graph.CleanupRace
import UnifiedInfraTopology.Model.Normalization

/-!
# Graphs built by writes

What every graph satisfies that was built from the empty graph by `UpsertVertex` and `UpsertRelation`
calls, in any order or interleaved, finished or stopped anywhere: each stored row names the identity
whose digests it carries (`Graph.Identified`).

The digests are SHA-256.  `Identified` keeps track of the texts that were hashed, so that freedom
from collisions can be asked of those texts only.
-/

namespace UnifiedInfraTopology

open Lib

/-! ## Hashed texts -/

/-- What `VID` hashes. -/
def EntityIdentity.hashed (i : EntityIdentity) : List String :=
  ["vertex", i.sourceId, i.entityType.text, i.stableId]

/-- What `ID` hashes. -/
def RelationIdentity.hashed (i : RelationIdentity) : List String :=
  if i.sourceRelationId ≠ "" then
    ["relation", i.sourceId, i.edgeType.text, i.kind.text, i.sourceRelationId]
  else
    ["relation", i.sourceId, i.edgeType.text, i.kind.text,
      jsonStrings [i.origin.sourceId, i.origin.entityType.text, i.origin.stableId],
      jsonStrings [i.target.sourceId, i.target.entityType.text, i.target.stableId], i.discriminator]

/-- The texts that a write hashes. -/
def TopologyWrite.hashed : TopologyWrite → List (List String)
  | vertex v => [v.identity.hashed]
  | relation r =>
      (normalizeRelation r).toOption.elim [] fun normalized =>
        [normalized.identity.hashed, normalized.identity.origin.hashed,
          normalized.identity.target.hashed]

theorem EntityIdentity.vid_hashed {i : EntityIdentity} {vid : String} (ok : i.vid = .ok vid) :
    vid = hashJSON i.hashed := (EntityIdentity.vid_ok ok).2

theorem EntityIdentity.validate_ok {i : EntityIdentity} (ok : i.validate = .ok ()) :
    i.sourceId ≠ "" ∧ i.entityType.valid = true := by
  unfold EntityIdentity.validate at ok
  split at ok
  · cases ok
  · split at ok
    · cases ok
    · exact ⟨‹_›, by simp_all⟩

theorem RelationIdentity.id_ok {i : RelationIdentity} {relationId : String}
    (ok : i.id = .ok relationId) : i.validate = .ok () ∧ relationId = hashJSON i.hashed := by
  unfold RelationIdentity.id at ok
  split at ok
  · cases ok
  · rename_i valid
    refine ⟨valid, ?_⟩
    unfold RelationIdentity.hashed
    split at ok
    · rename_i own
      rw [if_pos own]
      exact (Except.ok.inj ok).symm
    · rename_i derived
      rw [if_neg derived]
      split at ok
      · cases ok
      · rename_i origin first
        split at ok
        · cases ok
        · rename_i target second
          rw [← EntityIdentity.canonicalJSON_ok first, ← EntityIdentity.canonicalJSON_ok second]
          exact (Except.ok.inj ok).symm

/-- Valid entity types differ in their texts. -/
theorem EntityType.text_injective {a b : EntityType} (valid : a.valid = true)
    (valid' : b.valid = true) (same : a.text = b.text) : a = b := by
  cases a <;> cases b <;> simp_all [EntityType.valid, EntityType.text]

/-- Relations that hash the same text have the same source and kind. -/
theorem RelationIdentity.hashed_inj {i j : RelationIdentity} (same : i.hashed = j.hashed) :
    i.sourceId = j.sourceId ∧ i.kind.text = j.kind.text := by
  unfold RelationIdentity.hashed at same
  split at same <;> split at same <;> simp_all

/-! ## Identified rows -/

/-- The vertex is the one with this identity. -/
structure VertexRow.Identified (v : VertexRow) (i : EntityIdentity) : Prop where
  vid : i.vid = .ok v.vid
  tag : v.tag = i.entityType
  sourceId : v.sourceId = i.sourceId
  stableId : v.stableId = i.stableId

/-- The edge is the one with this identity. -/
structure EdgeRow.Identified (e : EdgeRow) (i : RelationIdentity) : Prop where
  id : i.id = .ok e.relationId
  edgeType : e.edgeType = i.edgeType
  kind : e.relationKind = i.kind.text
  sourceId : e.sourceId = i.sourceId
  origin : i.origin.vid = .ok e.origin
  target : i.target.vid = .ok e.target

/-- Every row names an identity among the hashed texts. -/
structure Graph.Identified (hashed : Set (List String)) (g : Graph) : Prop where
  vertices : ∀ v ∈ g.vertices.rows, ∃ i, v.Identified i ∧ i.hashed ∈ hashed
  edges : ∀ e ∈ g.edges.rows, ∃ i, e.Identified i ∧ i.hashed ∈ hashed ∧
    i.origin.hashed ∈ hashed ∧ i.target.hashed ∈ hashed

theorem identified_prepareVertex {vertex : TopologyVertex} {row : VertexRow}
    (ok : prepareVertex vertex = .ok row) : row.Identified vertex.identity := by
  obtain ⟨vid, tag, sourceId, stableId, -⟩ := prepareVertex_ok ok
  exact ⟨vid, tag, sourceId, stableId⟩

theorem identified_prepareRelation {relation : Relation} {row : EdgeRow}
    (ok : prepareRelation relation = .ok row) :
    ∃ normalized, normalizeRelation relation = .ok normalized ∧
      row.Identified normalized.identity := by
  obtain ⟨normalized, normal, id, -, origin, target, edgeType, kind, sourceId, -⟩ :=
    prepareRelation_ok ok
  exact ⟨normalized, normal, id, edgeType, kind, sourceId, origin, target⟩

/-! ## Every written graph is identified -/

/-- A statement of a write, whose inserted row names an identity among the hashed texts. -/
def Statement.Inserts (hashed : Set (List String)) : Statement → Prop
  | insertVertex row => ∃ i, row.Identified i ∧ i.hashed ∈ hashed
  | insertEdge row => ∃ i, row.Identified i ∧ i.hashed ∈ hashed ∧
      i.origin.hashed ∈ hashed ∧ i.target.hashed ∈ hashed
  | fetchVertex _ _ | updateVertex _ _ _ _ | fetchEdge _ | updateEdge _ _ _ => True
  | deleteEdges _ _ _ | matchOrphans _ _ _ _ | deleteVertices _ => False

theorem Graph.Identified.execute {hashed : Set (List String)} {g : Graph} {statement : Statement}
    (identified : g.Identified hashed) (inserts : statement.Inserts hashed)
    (order : List String) : (statement.execute order g).2.Identified hashed := by
  cases statement with
  | insertVertex row =>
      simp only [Statement.execute]
      cases inserted : g.vertices.insert row with
      | none => exact identified
      | some vertices =>
          refine ⟨fun v member => ?_, identified.edges⟩
          rcases (Table.mem_of_insert inserted).mp member with stored | rfl
          · exact identified.vertices v stored
          · exact inserts
  | updateVertex tag vid assignments syncedAt =>
      simp only [Statement.execute]
      split
      · exact identified
      · refine ⟨fun v member => ?_, identified.edges⟩
        obtain ⟨stored, inside, rfl⟩ := List.mem_map.mp member
        obtain ⟨i, named, known⟩ := identified.vertices stored inside
        refine ⟨i, ?_, known⟩
        split
        · exact ⟨named.vid, named.tag, named.sourceId, named.stableId⟩
        · exact named
  | insertEdge row =>
      simp only [Statement.execute]
      cases inserted : g.edges.insert row with
      | none => exact identified
      | some edges =>
          refine ⟨identified.vertices, fun e member => ?_⟩
          rcases (Table.mem_of_insert inserted).mp member with stored | rfl
          · exact identified.edges e stored
          · exact inserts
  | updateEdge key assignments syncedAt =>
      simp only [Statement.execute]
      split
      · exact identified
      · refine ⟨identified.vertices, fun e member => ?_⟩
        obtain ⟨stored, inside, rfl⟩ := List.mem_map.mp member
        obtain ⟨i, named, known⟩ := identified.edges stored inside
        refine ⟨i, ?_, known⟩
        split
        · exact ⟨named.id, named.edgeType, named.kind, named.sourceId, named.origin, named.target⟩
        · exact named
  | fetchVertex tag vid => exact identified
  | fetchEdge key => exact identified
  | deleteEdges => exact inserts.elim
  | matchOrphans => exact inserts.elim
  | deleteVertices => exact inserts.elim

/-- The statements after the insert change no identity. -/
theorem inserts_checkVertex (hashed : Set (List String)) (row : VertexRow) :
    (checkVertex row).Only (Statement.Inserts hashed) := by
  refine Prog.only_bind (only_executeTopology trivial) fun rows => ?_
  split
  · trivial
  · split
    · trivial
    · exact Prog.only_bind (only_executeTopology trivial) fun _ => trivial

theorem inserts_checkEdge (hashed : Set (List String)) (row : EdgeRow) :
    (checkEdge row).Only (Statement.Inserts hashed) := by
  refine Prog.only_bind (only_executeTopology trivial) fun rows => ?_
  split
  · trivial
  · split
    · trivial
    · exact Prog.only_bind (only_executeTopology trivial) fun _ => trivial

theorem inserts_run {hashed : Set (List String)} {write : TopologyWrite}
    (known : ∀ parts ∈ write.hashed, parts ∈ hashed) :
    write.run.Only (Statement.Inserts hashed) := by
  cases write with
  | vertex v =>
      simp only [TopologyWrite.run, upsertVertex]
      split
      · trivial
      · rename_i row ok
        have inserts : (Statement.insertVertex row).Inserts hashed :=
          ⟨v.identity, identified_prepareVertex ok, known _ (List.mem_singleton_self _)⟩
        exact Prog.only_bind (only_executeTopology inserts) fun _ => inserts_checkVertex hashed row
  | relation r =>
      simp only [TopologyWrite.run, upsertRelation]
      split
      · trivial
      · rename_i row ok
        obtain ⟨normalized, normal, named⟩ := identified_prepareRelation ok
        simp only [TopologyWrite.hashed, normal, Except.toOption, Option.elim] at known
        have inserts : (Statement.insertEdge row).Inserts hashed :=
          ⟨normalized.identity, named, known _ (by simp), known _ (by simp), known _ (by simp)⟩
        exact Prog.only_bind (only_executeTopology inserts) fun _ => inserts_checkEdge hashed row

/-- The graph that some writes have built, interleaved and stopped anywhere. -/
def builtGraph {ι : Type} [DecidableEq ι] (writes : ι → TopologyWrite)
    (schedule : List (ι × GraphMove)) : Graph :=
  (Prog.interleave graphHandler schedule (fun i => (writes i).run) ⟨.empty, .empty⟩).2

/-- **Identities of a built graph.** -/
theorem identified_builtGraph {ι : Type} [DecidableEq ι] {hashed : Set (List String)}
    (writes : ι → TopologyWrite) (schedule : List (ι × GraphMove))
    (known : ∀ i, ∀ parts ∈ (writes i).hashed, parts ∈ hashed) :
    (builtGraph writes schedule).Identified hashed := by
  refine (Prog.interleave_invariant (G := Graph.Identified hashed)
    (T := fun _ p _ => p.Only (Statement.Inserts hashed)) ?_ ?_ schedule ?_ ?_).1
  · intro i c k m g identified calls
    refine ⟨?_, fun _ => trivial, fun answer _ => calls.2 answer⟩
    rcases graphHandler_state c m g with same | ran
    · rwa [same]
    · rw [ran]
      exact identified.execute calls.1 m.order
  · intro i j _ c k m g _ _ p calls
    exact calls
  · constructor <;> intro row member <;> cases member
  · exact fun i => inserts_run (known i)

/-! ## What the writes keep of every edge -/

/-- A statement of a write, whose inserted edge satisfies `P`. -/
def Statement.InsertsEdge (P : EdgeRow → Prop) : Statement → Prop
  | insertEdge row => P row
  | _ => True

section EdgeInvariant

variable {P : EdgeRow → Prop}

theorem edges_execute (refreshed : ∀ e assignments t, P e → e.syncedAt ≤ t → P (e.refreshed assignments t))
    {g : Graph} {statement : Statement} (stored : ∀ e ∈ g.edges.rows, P e)
    (inserts : statement.InsertsEdge P) (order : List String) :
    ∀ e ∈ (statement.execute order g).2.edges.rows, P e := by
  cases statement with
  | insertEdge row =>
      simp only [Statement.execute]
      cases inserted : g.edges.insert row with
      | none => exact stored
      | some edges =>
          intro e member
          rcases (Table.mem_of_insert inserted).mp member with old | rfl
          · exact stored e old
          · exact inserts
  | updateEdge key assignments syncedAt =>
      simp only [Statement.execute]
      split
      · exact stored
      · intro e member
        obtain ⟨old, inside, rfl⟩ := List.mem_map.mp member
        split
        · rename_i selected
          rw [Bool.and_eq_true, decide_eq_true_eq, decide_eq_true_eq] at selected
          exact refreshed old assignments syncedAt (stored old inside) selected.2
        · exact stored old inside
  | updateVertex tag vid assignments syncedAt =>
      simp only [Statement.execute]
      split <;> exact stored
  | deleteEdges edgeType sourceId before => exact fun e member => stored e (Table.mem_erase.mp member).1
  | _ => exact stored

theorem insertsEdge_run {write : TopologyWrite}
    (prepared : ∀ r row, write = .relation r → prepareRelation r = .ok row → P row) :
    write.run.Only (Statement.InsertsEdge P) := by
  cases write with
  | vertex v =>
      simp only [TopologyWrite.run, upsertVertex]
      split
      · trivial
      · refine Prog.only_bind (only_executeTopology trivial) fun _ => ?_
        refine Prog.only_bind (only_executeTopology trivial) fun rows => ?_
        split
        · trivial
        · split
          · trivial
          · exact Prog.only_bind (only_executeTopology trivial) fun _ => trivial
  | relation r =>
      simp only [TopologyWrite.run, upsertRelation]
      split
      · trivial
      · rename_i row ok
        have inserts : (Statement.insertEdge row).InsertsEdge P := prepared r row rfl ok
        refine Prog.only_bind (only_executeTopology inserts) fun _ => ?_
        refine Prog.only_bind (only_executeTopology trivial) fun rows => ?_
        split
        · trivial
        · split
          · trivial
          · exact Prog.only_bind (only_executeTopology trivial) fun _ => trivial

/-- **Edges of a built graph.**  What holds of the row of a relation, and stays true when a row gets a
later time, holds of every stored edge. -/
theorem edges_builtGraph {ι : Type} [DecidableEq ι] (writes : ι → TopologyWrite)
    (schedule : List (ι × GraphMove))
    (prepared : ∀ i r row, writes i = .relation r → prepareRelation r = .ok row → P row)
    (refreshed : ∀ e assignments t, P e → e.syncedAt ≤ t → P (e.refreshed assignments t)) :
    ∀ e ∈ (builtGraph writes schedule).edges.rows, P e := by
  refine (Prog.interleave_invariant (G := fun g : Graph => ∀ e ∈ g.edges.rows, P e)
    (T := fun _ p _ => p.Only (Statement.InsertsEdge P)) ?_ ?_ schedule ?_ ?_).1
  · intro i c k m g stored calls
    refine ⟨?_, fun _ => trivial, fun answer _ => calls.2 answer⟩
    rcases graphHandler_state c m g with same | ran
    · rwa [same]
    · rw [ran]
      exact edges_execute refreshed stored calls.1 m.order
  · intro i j _ c k m g _ _ p calls
    exact calls
  · intro e member
    cases member
  · exact fun i => insertsEdge_run (prepared i)

end EdgeInvariant

end UnifiedInfraTopology
