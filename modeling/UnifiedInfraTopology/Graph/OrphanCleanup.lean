import UnifiedInfraTopology.Graph.Built
import UnifiedInfraTopology.Graph.Effects
import UnifiedInfraTopology.Lib.Contract

/-!
# A cleanup of vertices that nothing disturbs

`DeleteOrphanVerticesNotSeen` without a concurrent writer.  With statements that succeed the call
returns and no orphan of its scope is left; wherever the call is stopped or fails, only vertices of
the scope are gone.

* `deleteOrphanVerticesNotSeen_removes`: both, for every graph whose vertex IDs are made by `VID`;
* `orphan_submicrosecond`: the cutoff counts to the microsecond.
-/

namespace UnifiedInfraTopology

open Lib

/-- A statement of a cleanup of the graph: a batch that it deletes is one of orphans. -/
def CleansUp (g : Graph) (tag : EntityType) (sourceId : String) (before : Time) : Statement → Prop
  | .matchOrphans _ _ _ _ => True
  | .deleteVertices vids => OrphanBatch g tag sourceId before vids
  | _ => False

section Rounds

variable {g : Graph} {tag : EntityType} {sourceId : String} {before : Time}

theorem OrphansLeft.handler {g' : Graph} (left : OrphansLeft g tag sourceId before g')
    {statement : Statement} (cleans : CleansUp g tag sourceId before statement) (m : GraphMove) :
    OrphansLeft g tag sourceId before (graphHandler statement m g').2 := by
  rcases graphHandler_state statement m g' with same | ran
  · rw [same]
    exact left
  · rw [ran]
    cases statement with
    | matchOrphans => exact left
    | deleteVertices vids => exact left.delete cleans m.order
    | _ => exact cleans.elim

/-- The batch that a round reads is one of orphans. -/
theorem OrphansLeft.batch {g' : Graph} (left : OrphansLeft g tag sourceId before g')
    {m : GraphMove} {limit : Nat} {rows : List (List String)} {vids : List String}
    (answered : (graphHandler (.matchOrphans tag sourceId before limit) m g').1 = some (.ok rows))
    (read : topologyResultVIDs rows = some vids) : OrphanBatch g tag sourceId before vids := by
  cases Except.ok.inj (graphHandler_ok answered).1
  cases topologyResultVIDs_rows read
  intro vid member
  obtain ⟨v, inside, same, orphan⟩ := left.found m.order limit vid member
  exact ⟨v, left.stored v inside, same, orphan⟩

/-- What a round sends. -/
theorem OrphansLeft.round {g' : Graph} (left : OrphansLeft g tag sourceId before g') :
    (cleanupRound sourceId tag before).Issues graphHandler
      (fun statement _ => CleansUp g tag sourceId before statement) g' := by
  refine ⟨trivial, fun m answer answered => ?_⟩
  rcases answer with e | rows
  · trivial
  · dsimp only [Prog.bind]
    rcases read : topologyResultVIDs rows with _ | _ | ⟨vid, vids⟩
    · trivial
    · trivial
    · refine ⟨left.batch answered read, fun m' answer' _ => ?_⟩
      rcases answer' with e | rows' <;> trivial

/-- Wherever the cleanup is stopped or fails. -/
theorem orphansLeft_run {t : Time} (rounds : Nat) (script : List GraphMove) :
    OrphansLeft g tag sourceId (topologyTime t)
      ((deleteOrphanVerticesNotSeen sourceId tag t rounds).run graphHandler script g).2.1 := by
  have keeps (statement : Statement) (m : GraphMove) (g' : Graph)
      (cleans : CleansUp g tag sourceId (topologyTime t) statement)
      (left : OrphansLeft g tag sourceId (topologyTime t) g') :
      OrphansLeft g tag sourceId (topologyTime t) (graphHandler statement m g').2 :=
    left.handler cleans m
  have start := OrphansLeft.refl g tag sourceId (topologyTime t)
  refine Prog.issues_run keeps ?_ start script
  unfold deleteOrphanVerticesNotSeen
  split
  · trivial
  · refine Prog.issues_loop (fun _ => OrphansLeft g tag sourceId (topologyTime t))
      (fun _ g' left => left.round) (fun _ g' left => ?_) rounds () start
    exact Prog.contract_mono (Prog.ensures_of_issues keeps left.round left)
      fun _ g'' left' _ _ => left'

end Rounds

/-- **A cleanup removes the orphans of its scope.**  For a graph whose vertex IDs are made by `VID`:
with statements that succeed it returns, without an error if its scope is valid, and none of them is
left; and wherever a cleanup is stopped or fails, every edge is there, and what is gone had the ID of
an orphan of the scope, so was one unless another vertex has the same ID. -/
theorem deleteOrphanVerticesNotSeen_removes {g : Graph} (sourceId : String) (tag : EntityType)
    {t : Time} (time : t.isZero = false) (made : ∀ v ∈ g.vertices.rows, ∃ i, v.Identified i)
    {rounds : Nat} (enough : g.vertices.rows.length < rounds) :
    (∀ moves : Nat → GraphMove, (∀ i, Faultless (moves i)) → ∃ n outcome g',
      (deleteOrphanVerticesNotSeen sourceId tag t rounds).run graphHandler
        ((List.range n).map moves) g = (outcome, g', []) ∧ outcome ≠ .pending ∧
      (sourceId ≠ "" → tag.valid = true → outcome = .ok ()) ∧
      ∀ v ∈ g'.vertices.rows, ¬(v.tag = tag ∧ v.sourceId = sourceId ∧
        v.syncedAt < topologyTime t ∧ g'.isolated v.vid = true)) ∧
    (∀ script : List GraphMove, ∃ g',
      ((deleteOrphanVerticesNotSeen sourceId tag t rounds).run graphHandler script g).2.1 = g' ∧
      g'.edges = g.edges ∧ (∀ v ∈ g'.vertices.rows, v ∈ g.vertices.rows) ∧
      ∀ v ∈ g.vertices.rows, v ∉ g'.vertices.rows →
        ∃ w ∈ g.vertices.rows, w.vid = v.vid ∧ (w.tag = tag ∧ w.sourceId = sourceId ∧
          w.syncedAt < topologyTime t ∧ g.isolated w.vid = true) ∧
        ((∀ w ∈ g.vertices.rows, w.vid = v.vid → w = v) → w = v)) := by
  have orphan_iff (g : Graph) (v : VertexRow) : g.orphan tag sourceId (topologyTime t) v = true ↔
      v.tag = tag ∧ v.sourceId = sourceId ∧ v.syncedAt < topologyTime t ∧
        g.isolated v.vid = true := by
    simp [Graph.orphan, and_assoc]
  constructor
  · intro moves faultless
    by_cases scope : sourceId = "" ∨ ¬tag.valid ∨ t.isZero
    · -- The call is refused; `VID` makes no ID for such a source or type.
      refine ⟨0, .error .invalidCleanupScope, g, ?_, by rintro ⟨⟩, fun sourced valid => ?_, ?_⟩
      · rw [deleteOrphanVerticesNotSeen, if_pos scope]
        rfl
      · rcases scope with empty | unknown | zero
        · exact (sourced empty).elim
        · exact (unknown valid).elim
        · rw [time] at zero
          cases zero
      · rintro v member ⟨rfl, rfl, -⟩
        obtain ⟨i, vid, tagged, source, -⟩ := made v member
        obtain ⟨sourced, valid⟩ := EntityIdentity.validate_ok (EntityIdentity.vid_ok vid).1
        rcases scope with empty | unknown | zero
        · exact sourced (source ▸ empty)
        · exact unknown (tagged ▸ valid)
        · rw [time] at zero
          cases zero
    · rw [not_or, not_or, not_not] at scope
      obtain ⟨sourced, valid, -⟩ := scope
      have pattern : ∀ v ∈ g.vertices.rows, topologyVIDPattern v.vid = true := by
        intro v member
        obtain ⟨i, vid, -⟩ := made v member
        rw [(EntityIdentity.vid_ok vid).2]
        exact hashJSON_pattern _
      obtain ⟨n, _, g', ran, left, none_⟩ :=
        Prog.total_run (total_removesOrphans sourced valid time pattern enough) faultless
      refine ⟨n, _, g', ran, by rintro ⟨⟩, fun _ _ => rfl, fun v member orphan => ?_⟩
      have spared := none_ v member
      rw [← orphan_congr left.edges, (orphan_iff g' v).mpr orphan] at spared
      cases spared
  · intro script
    have left : OrphansLeft g tag sourceId (topologyTime t)
        ((deleteOrphanVerticesNotSeen sourceId tag t rounds).run graphHandler script g).2.1 :=
      orphansLeft_run rounds script
    refine ⟨_, rfl, left.edges, left.stored, fun v member gone => ?_⟩
    by_contra none_
    refine gone (left.kept v member fun w inside same => ?_)
    by_contra orphan
    rw [Bool.not_eq_false, orphan_iff] at orphan
    exact none_ ⟨w, inside, same, orphan, fun one => one w inside same⟩

/-- A cleanup of the graph with one old port. -/
theorem deleteOrphanVerticesNotSeen_removes_port : ∃ n outcome g',
    (deleteOrphanVerticesNotSeen "s" .interface 2000 2).run graphHandler
      ((List.range n).map fun _ => ⟨.none, []⟩) stalePortGraph = (outcome, g', []) ∧
    outcome ≠ .pending ∧ ("s" ≠ "" → EntityType.interface.valid = true → outcome = .ok ()) ∧
    ∀ v ∈ g'.vertices.rows, ¬(v.tag = .interface ∧ v.sourceId = "s" ∧
      v.syncedAt < topologyTime 2000 ∧ g'.isolated v.vid = true) := by
  have made : ∀ v ∈ stalePortGraph.vertices.rows, ∃ i, v.Identified i := by
    intro v member
    cases List.mem_singleton.mp member
    exact ⟨stalePort, rfl, rfl, rfl, rfl⟩
  exact (deleteOrphanVerticesNotSeen_removes "s" .interface (by decide) made
    (by decide : 1 < 2)).1 (fun _ => ⟨.none, []⟩) fun _ => rfl

/-- The port was seen at 1000 ns.  A cutoff of 1500 ns counts as 1000 ns, and leaves it. -/
theorem orphan_submicrosecond :
    (deleteOrphanVerticesNotSeen "s" .interface 1500 2).run graphHandler [⟨.none, []⟩]
      stalePortGraph = (.ok (), stalePortGraph, []) ∧
    stalePortRow ∈ stalePortGraph.vertices.rows ∧ stalePortRow.Identified stalePort ∧
    stalePortRow.syncedAt < 1500 ∧ stalePortGraph.isolated stalePortRow.vid = true := by
  exact ⟨rfl, List.mem_singleton_self _, ⟨rfl, rfl, rfl, rfl⟩, by decide, rfl⟩

end UnifiedInfraTopology
