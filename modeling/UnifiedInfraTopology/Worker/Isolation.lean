import UnifiedInfraTopology.Graph.History
import UnifiedInfraTopology.Worker.System

/-!
# A run keeps to its source

`executeClaimed` calls for records of its own source only, so that the graph, whatever the order of
the statements and wherever the run is stopped, is left as it was outside of that source.

* `executeClaimed_isolated`: rows of other sources.
* `executeClaimed_keeps`: what the first graph and the writes that returned nil leave behind.
-/

namespace UnifiedInfraTopology

open Lib

/-! ## The calls of a run -/

/-- A write or a cleanup of the source. -/
def Call.Own (sourceId : String) : Call syncService → Prop
  | .service (.startVertex v) =>
      ∃ entity snapshotAt r, v = recordVertex sourceId entity snapshotAt r
  | .service (.startRelation r) =>
      ∃ snapshotAt record, r = ownerRelation sourceId .interface snapshotAt record
  | .service (.deleteOrphanVerticesNotSeen id _ _) => id = sourceId
  | _ => True

section

variable {ε α : Type} {p : SyncProg ε α} {sourceId : String}

theorem own_of_aside (aside : Aside p) : p.Only (Call.Own sourceId) := by
  refine Prog.only_mono aside fun c held => ?_
  cases c with
  | service r => cases r <;> trivial
  | _ => trivial

theorem own_of_routine (routine : Routine p) : p.Only (Call.Own sourceId) :=
  own_of_aside (aside_of_routine routine)

variable {worker : SyncWorker} {entity : EntityType} {snapshotAt : Time}

theorem own_takeTurn (pool : Pool) (turn : PoolTurn) :
    (takeTurn worker sourceId entity snapshotAt pool turn : SyncProg ε Pool).Only
      (Call.Own sourceId) := by
  cases turn with
  | launch =>
      simp only [takeTurn, launchWrite]
      split
      · trivial
      · split_ifs
        · exact ⟨⟨_, _, _, rfl⟩, fun _ => trivial⟩
        · trivial
  | cut =>
      refine ⟨trivial, fun done => ?_⟩
      dsimp only [Prog.bind]
      split_ifs <;> trivial
  | finish index =>
      simp only [takeTurn]
      split
      · trivial
      · rename_i record stage here
        cases stage with
        | vertex =>
            refine ⟨trivial, fun written => ?_⟩
            dsimp only [Prog.bind]
            split_ifs with failed ports
            · trivial
            · exact ⟨⟨_, _, by rw [ports]⟩, fun _ => trivial⟩
            · trivial
        | relation => exact ⟨trivial, fun _ => trivial⟩

theorem own_writeEntityPage (records : List EntityRecord) :
    (writeEntityPage worker sourceId entity snapshotAt records :
      SyncProg ε (Except WriteError Unit)).Only (Call.Own sourceId) := by
  refine Prog.only_bind (Prog.only_loop (fun pool => ?_) _ _) fun failed => ?_
  · unfold poolTurn
    split_ifs
    · trivial
    · exact Prog.only_bind ⟨trivial, fun _ => trivial⟩ fun turn =>
        Prog.only_bind (own_takeTurn pool turn) fun _ => trivial
  · refine Prog.only_bind (own_of_routine routine_leaseContextError) fun lost => ?_
    cases lost with
    | true => trivial
    | false =>
        refine ⟨trivial, fun done => ?_⟩
        dsimp only [Prog.bind]
        split_ifs <;> trivial

end

section

variable {worker : SyncWorker} {run : SyncRun} {source : Source} {startedAt snapshotAt : Time}
  {selection : Selection}

theorem own_collectPage (state : Collected) :
    (collectPage worker run source startedAt selection snapshotAt state).Only
      (Call.Own source.id) := by
  refine Prog.only_bind (own_of_routine (routine_leaveIfCanceled _ _ _)) fun _ => ?_
  refine Prog.only_bind ?_ fun read => ?_
  · unfold readPage collectEntityPage
    split_ifs
    · exact ⟨trivial, fun _ => trivial⟩
    · exact ⟨trivial, fun _ => trivial⟩
    · exact Prog.only_bind ⟨trivial, fun _ => trivial⟩ fun _ => trivial
  refine Prog.only_bind (own_of_routine (routine_orFail _ _ _ _)) fun page => ?_
  refine Prog.only_bind ?_ fun accepted => ?_
  · unfold acceptPage
    split
    · trivial
    · exact own_of_routine (routine_leaveFailed _ _ _)
  refine Prog.only_bind ?_ fun owners => ?_
  · unfold checkOwners
    split_ifs
    · refine Prog.only_bind ?_ fun owners => own_of_routine (routine_orFail _ _ _ _)
      cases page.records with
      | nil => trivial
      | cons first records =>
          unfold validateInterfaceOwners
          dsimp only
          split_ifs
          · trivial
          · trivial
          · trivial
          · trivial
          · refine Prog.only_bind ⟨trivial, fun _ => trivial⟩ fun found => ?_
            split_ifs <;> trivial
    · trivial
  refine Prog.only_bind ?_ fun _ => ?_
  · refine Prog.only_bind (own_writeEntityPage _) fun written => ?_
    match written with
    | .ok () => trivial
    | .error .leaseLost => trivial
    | .error .canceled => exact own_of_routine (routine_leaveCanceled _ _)
    | .error .graphWrite => exact own_of_routine (routine_leaveFailed _ _ _)
  exact Prog.only_bind (own_of_aside (aside_storeCursor _ _ _ _ _ _ _ _)) fun cursor => trivial

theorem own_prepare : (prepare worker run source startedAt).Only (Call.Own source.id) := by
  have moves {origin target : SyncRunStatus} (unfinished : target ≠ .succeeded) :
      (moveRun run.id origin target).Only (Call.Own source.id) :=
    own_of_routine (routine_moveRun _ _ unfinished)
  refine Prog.only_bind (own_of_aside (aside_selectEntity _ _ _)) fun selection => ?_
  refine Prog.only_bind (own_of_aside (aside_beginCollection _ _ _ _)) fun cursor => ?_
  refine Prog.only_bind (Prog.only_loop own_collectPage _ _) fun state => ?_
  refine Prog.only_bind (own_of_routine (routine_leaveIfCanceled _ _ _)) fun _ => ?_
  refine Prog.only_bind (moves nofun) fun _ => ?_
  refine Prog.only_bind (own_of_aside (aside_validateCollected _ _ _ _ _)) fun _ => ?_
  refine Prog.only_bind (own_of_routine (routine_leaveIfCanceled _ _ _)) fun _ => ?_
  exact Prog.only_bind (moves nofun) fun _ => trivial

theorem own_publish : (publish run source selection snapshotAt).Only (Call.Own source.id) := by
  refine Prog.only_bind (own_of_routine routine_leaveIfLost) fun _ => ?_
  refine Prog.only_bind ?_ fun _ => ?_
  · refine Prog.only_bind ⟨trivial, fun _ => trivial⟩ fun covered => ?_
    refine Prog.only_bind (own_of_routine (routine_orFail _ _ _ _)) fun full => ?_
    split_ifs
    · refine Prog.only_bind ⟨rfl, fun _ => trivial⟩ fun cleaned => ?_
      split_ifs
      · trivial
      · exact Prog.only_bind (own_of_routine routine_leaveIfLost)
          fun _ => own_of_routine (routine_leaveFailed _ _ _)
    · trivial
  refine Prog.only_bind (own_of_routine routine_leaveIfLost) fun _ => ?_
  refine ⟨trivial, fun now => ⟨trivial, fun completed => ?_⟩⟩
  cases completed with
  | some reply => trivial
  | none => exact own_of_routine (routine_leaveFailed _ _ _)

theorem own_executeClaimed : (executeClaimed worker run source startedAt).Only (Call.Own source.id) :=
  Prog.only_bind own_prepare fun _ => own_publish

end

/-! ## The calls of an execution -/

/-- Every write and every cleanup so far was one of the source. -/
structure OwnCalls (sourceId : String) (w : World syncService) : Prop where
  vertices : ∀ v, w.CalledVertex v →
    ∃ entity snapshotAt r, v = recordVertex sourceId entity snapshotAt r
  relations : ∀ r, w.CalledRelation r →
    ∃ snapshotAt record, r = ownerRelation sourceId .interface snapshotAt record
  cleanups : ∀ scope, w.CalledCleanup scope → scope.sourceId = sourceId

theorem OwnCalls.handler {sourceId : String} {c : Call syncService} {w : World syncService}
    (own : c.Own sourceId) (m : Move syncService) (before : OwnCalls sourceId w) :
    OwnCalls sourceId (handler c m w).2 := by
  refine ⟨fun v called => ?_, fun r called => ?_, fun scope called => ?_⟩
  · rw [World.CalledVertex, writes_handler] at called
    rcases List.mem_append.mp called with old | new
    · exact before.vertices v old
    · rw [Option.mem_toList] at new
      unfold Event.write? at new
      split at new <;> cases new
      rename_i same
      cases same
      exact own
  · rw [World.CalledRelation, writes_handler] at called
    rcases List.mem_append.mp called with old | new
    · exact before.relations r old
    · rw [Option.mem_toList] at new
      unfold Event.write? at new
      split at new <;> cases new
      rename_i same
      cases same
      exact own
  · rw [World.CalledCleanup, filterMap_handler (fun e background => ?_)] at called
    · rcases List.mem_append.mp called with old | new
      · exact before.cleanups scope old
      · rw [Option.mem_toList] at new
        unfold Event.cleanup? at new
        split at new <;> cases new
        rename_i same
        cases same
        exact own
    · cases e with
      | call => cases background
      | _ => rfl

section

variable (worker : SyncWorker) (run : SyncRun) (source : Source) (startedAt : Time)
  (script : List SystemMove) {start : World syncService} (fresh : start.log = []) (first : Graph)

include fresh in
theorem ownCalls_executeClaimed : OwnCalls source.id
    ((executeClaimed worker run source startedAt).run systemHandler script
      (start, ⟨first, [], []⟩)).2.1.1 := by
  obtain ⟨moves, ran⟩ := projects_system.run (executeClaimed worker run source startedAt) script
    (start, ⟨first, [], []⟩)
  have world := congrArg (fun ran => ran.2.1) ran
  rw [← world]
  refine Prog.issues_run (fun c m w own before => before.handler own m)
    (Prog.issues_of_only own_executeClaimed fun _ _ own => own) ?_ moves
  refine ⟨fun v called => ?_, fun r called => ?_, fun scope called => ?_⟩
  · rw [World.CalledVertex, World.writes, fresh] at called
    cases called
  · rw [World.CalledRelation, World.writes, fresh] at called
    cases called
  · rw [World.CalledCleanup, fresh] at called
    cases called

end

/-! ## What is left -/

section

variable {sourceId : String} {w : World syncService}

theorem sourceId_prepareRelation {r : Relation} {row : EdgeRow} (ok : prepareRelation r = .ok row) :
    row.sourceId = r.identity.sourceId := by
  obtain ⟨normalized, normal, -, -, -, -, -, -, source, -⟩ := prepareRelation_ok ok
  exact source.trans (normalizeRelation_ok_iff.mp normal).keeps.sourceId

/-- A row of another source has an identity that no call has. -/
theorem OwnCalls.foreign_vertex (own : OwnCalls sourceId w) {v row : VertexRow}
    (other : v.sourceId ≠ sourceId) (called : CalledVertex w.CalledVertex row) :
    vertexUpserts.identity v ≠ vertexUpserts.identity row := by
  obtain ⟨u, called, prepared⟩ := called
  obtain ⟨entity, snapshotAt, r, rfl⟩ := own.vertices u called
  obtain ⟨-, -, source, -⟩ := prepareVertex_ok prepared
  exact fun same => other ((congrArg Prod.fst same).trans source)

theorem OwnCalls.foreign_edge (own : OwnCalls sourceId w) {e row : EdgeRow}
    (other : e.sourceId ≠ sourceId) (called : CalledEdge w.CalledRelation row) :
    edgeUpserts.identity e ≠ edgeUpserts.identity row := by
  obtain ⟨r, called, prepared⟩ := called
  obtain ⟨snapshotAt, record, rfl⟩ := own.relations r called
  have source := sourceId_prepareRelation prepared
  exact fun same => other ((congrArg (fun i => i.2.2) same).trans source)

end

/-- **A run leaves other sources alone.**  In every execution of `executeClaimed` over the graph,
however the statements of its goroutines interleave, whatever fails and wherever it is stopped: the
edges of other sources are those of the first graph, and so are their vertices, unless the ID of one
is that of a vertex of the source too. -/
theorem executeClaimed_isolated (worker : SyncWorker) (run : SyncRun) (source : Source)
    (startedAt : Time) (script : List SystemMove) (start : World syncService)
    (fresh : start.log = []) (first : Graph) :
    ∃ g, g = ((executeClaimed worker run source startedAt).run systemHandler script
        (start, ⟨first, [], []⟩)).2.1.2.graph ∧
      (∀ k e, e.sourceId ≠ source.id → (g.edges.find? k = some e ↔ first.edges.find? k = some e)) ∧
      (∀ k v, v.sourceId ≠ source.id → g.vertices.find? k = some v →
        first.vertices.find? k = some v) ∧
      ∀ v ∈ first.vertices.rows, v.sourceId ≠ source.id →
        (∀ w ∈ first.vertices.rows, w.sourceId = source.id → w.vid ≠ v.vid) →
        (∀ identity : EntityIdentity, identity.sourceId = source.id → identity.vid ≠ .ok v.vid) →
        v ∈ g.vertices.rows := by
  have own := ownCalls_executeClaimed worker run source startedAt script fresh first
  have history := (systemSound_executeClaimed worker run source startedAt script fresh
    first).sound.history
  refine ⟨_, rfl, fun k e other => ?_, fun k v other found => ?_,
    fun v stored other apart unhashed => ?_⟩
  · exact history.edge_bystander (fun row called => own.foreign_edge other called) k
  · exact history.vertex_unmade (fun row called => own.foreign_vertex other called) found
  · rcases history.vertex_bystander (fun row called => own.foreign_vertex other called)
      (Table.find?_of_mem stored) with kept | ⟨scope, cleaned, w, known, same, -, source, -⟩
    · exact Table.mem_of_find? kept
    · have source := source.trans (own.cleanups scope cleaned)
      rcases known with known | ⟨u, called, prepared⟩
      · exact (apart w (Table.mem_of_find? known) source same).elim
      · obtain ⟨vid, -, named, -⟩ := prepareVertex_ok prepared
        exact (unhashed u.identity (named.symm.trans source) (same ▸ vid)).elim

/-- The device of the other source is left where the old one of the source is removed. -/
theorem executeClaimed_isolated_device : otherDevice ∈ executeDeviceSystem.2.1.2.graph.vertices.rows ∧
    staleDevice ∉ executeDeviceSystem.2.1.2.graph.vertices.rows := by
  refine ⟨?_, executeDeviceSystem_ran.2.2.2⟩
  obtain ⟨g, same, -, -, kept⟩ := executeClaimed_isolated ⟨1, 3⟩
    (Store.claimed 2000 (queuedRun "r" "s")) ⟨"s", "lab", "cmdb", "ref", true⟩ 2000 systemScript
    claimedWorld rfl devicesGraph
  unfold executeDeviceSystem
  rw [← same]
  refine kept otherDevice (List.mem_cons_self) (by decide) (by decide +kernel) fun identity _ hashed => ?_
  have pattern : topologyVIDPattern otherDevice.vid = true := by
    rw [EntityIdentity.vid_hashed hashed]
    exact hashJSON_pattern _
  exact absurd pattern (by decide)

/-- **What a run leaves behind.**  In every execution of `executeClaimed` over the graph, wherever it
is stopped: every write that has returned nil is stored, with its identity and not older, whatever
came after it; every edge of the first graph is stored, with its identity and birth and not older; and
every row is one of the first graph, or that of a record for which the run has called `UpsertVertex`. -/
theorem executeClaimed_keeps (worker : SyncWorker) (run : SyncRun) (source : Source)
    (startedAt : Time) (script : List SystemMove) (start : World syncService)
    (fresh : start.log = []) (first : Graph) :
    ∃ w g, (w, g) = (((executeClaimed worker run source startedAt).run systemHandler script
          (start, ⟨first, [], []⟩)).2.1.1, ((executeClaimed worker run source startedAt).run
          systemHandler script (start, ⟨first, [], []⟩)).2.1.2.graph) ∧
      (∀ v, .vertex v true ∈ w.landmarks → VertexLanded g v) ∧
      (∀ r, .relation r true ∈ w.landmarks → EdgeLanded g r) ∧
      (∀ e ∈ first.edges.rows, ∃ e', g.edges.find? e.key = some e' ∧
        e'.relationId = e.relationId ∧ e'.relationKind = e.relationKind ∧
        e'.sourceId = e.sourceId ∧ e'.createdAt = e.createdAt ∧ e.syncedAt ≤ e'.syncedAt) ∧
      ∀ v ∈ g.vertices.rows, v ∈ first.vertices.rows ∨ ∃ entity snapshotAt r row,
        w.CalledVertex (recordVertex source.id entity snapshotAt r) ∧
        prepareVertex (recordVertex source.id entity snapshotAt r) = .ok row ∧ row.key = v.key ∧
          v.sourceId = source.id ∧ v.stableId = r.identity ∧ v.columns = row.columns ∧
          v.syncedAt = topologyTime snapshotAt := by
  have own := ownCalls_executeClaimed worker run source startedAt script fresh first
  have sound := systemSound_executeClaimed worker run source startedAt script fresh first
  have history := sound.sound.history
  refine ⟨_, _, rfl, fun v member => ?_, fun r member => ?_, fun e stored => ?_, fun v stored => ?_⟩
  · exact sound.vertices v (World.mem_writes_of_landmarks.1 v true member)
  · exact sound.relations r (World.mem_writes_of_landmarks.2 r true member)
  · obtain ⟨e', found, named, born, newer⟩ := history.edge_later (Table.find?_of_mem stored)
    simp only [edgeUpserts, Prod.mk.injEq] at named
    exact ⟨e', found, named.1, named.2.1, named.2.2, born, newer⟩
  · rcases (history.vertices.origin v.key v (Table.find?_of_mem stored)).written with
      found | ⟨row, ⟨u, called, prepared⟩, key, named, made⟩
    · exact Or.inl (Table.mem_of_find? found)
    · obtain ⟨entity, snapshotAt, r, rfl⟩ := own.vertices u called
      obtain ⟨-, tag, named', stable, created, synced⟩ := prepareVertex_ok prepared
      simp only [vertexUpserts, Prod.mk.injEq] at named
      refine Or.inr ⟨entity, snapshotAt, r, row, called, prepared, key, named.1.symm.trans named',
        named.2.symm.trans stable, ?_, ?_⟩
      · rcases made with rfl | ⟨old, rfl⟩
        · rfl
        · exact columns_merge key.symm
      · rcases made with rfl | ⟨old, rfl⟩
        · exact synced
        · exact synced

/-- The device that was written is a landmark, and has landed. -/
theorem executeClaimed_keeps_device : ∃ v, .vertex v true ∈ executeDeviceSystem.2.1.1.landmarks ∧
    VertexLanded executeDeviceSystem.2.1.2.graph v := by
  obtain ⟨w, g, same, landed, -⟩ := executeClaimed_keeps ⟨1, 3⟩
    (Store.claimed 2000 (queuedRun "r" "s")) ⟨"s", "lab", "cmdb", "ref", true⟩ 2000 systemScript
    claimedWorld rfl devicesGraph
  obtain ⟨world, graph⟩ := Prod.mk.inj same
  have written : ∃ v, .vertex v true ∈ executeDeviceSystem.2.1.1.landmarks := by
    obtain ⟨l, member, here⟩ := List.any_eq_true.mp executeDeviceSystem_ran.2.2.1
    cases l with
    | vertex v written =>
        cases written with
        | false => cases here
        | true => exact ⟨v, member⟩
    | _ => cases here
  obtain ⟨v, written⟩ := written
  refine ⟨v, written, ?_⟩
  unfold executeDeviceSystem at written ⊢
  rw [← graph]
  rw [← world] at written
  exact landed v written

end UnifiedInfraTopology
