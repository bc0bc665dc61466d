import UnifiedInfraTopology.Graph.InFlight
import UnifiedInfraTopology.Worker.Joining
import UnifiedInfraTopology.Worker.Success

/-!
# A worker and its graph

In `Worker.Environment` the graph answers whatever a move says.  Here it is the graph of `Graph.Store`:
a write that a goroutine has called is in flight until it returns, statement by statement and between
those of the others, and its answer is how it has ended.  The worker waits for a lookup or a cleanup,
whose statements a script answers.

* `projects_system`: an execution in this system is one in the adversarial environment, so that
  everything that is known of those holds of it.
* `SystemSound`: every row of the graph comes from the first graph or a write that was called, every
  call in flight is at a stage, and every write that has returned nil has landed.
-/

namespace UnifiedInfraTopology

open Lib

/-! ## The system -/

structure SystemMove where
  /-- The clock, the faults and the replies of the other services. -/
  move : Move syncService
  /-- The statements of calls in flight that are answered before. -/
  turns : List GraphTurn
  /-- What answers the statements of a call that the worker waits for. -/
  script : List GraphMove
  /-- A bound on the rounds of a cleanup. -/
  rounds : Nat

namespace GraphSide

variable (side : GraphSide) (m : SystemMove)

/-- A lookup. -/
def lookedUp (identity : EntityIdentity) : Outcome GraphError Bool × Graph × List GraphMove :=
  (vertexExists identity).run graphHandler m.script side.graph

/-- A cleanup. -/
def cleaned (sourceId : String) (entity : EntityType) (runStartedAt : Time) :
    Outcome GraphError Unit × Graph × List GraphMove :=
  (deleteOrphanVerticesNotSeen sourceId entity runStartedAt m.rounds).run graphHandler m.script
    side.graph

/-- The call has not returned yet. -/
def busy : Call syncService → Bool
  | .service (.upsertVertex v) => (joined v side.vertices).isNone
  | .service (.upsertRelation r) => (joined r side.relations).isNone
  | .service (.vertexExists identity) => (side.lookedUp m identity).1 = .pending
  | .service (.deleteOrphanVerticesNotSeen sourceId entity runStartedAt) =>
      (side.cleaned m sourceId entity runStartedAt).1 = .pending
  | _ => false

/-- The reply of the graph, or of another service. -/
def reply : (r : SyncRequest) → r.Reply
  | .upsertVertex v => ((joined v side.vertices).map Prod.fst).getD false
  | .upsertRelation r => ((joined r side.relations).map Prod.fst).getD false
  | .vertexExists identity =>
      match (side.lookedUp m identity).1 with
      | .ok found => some found
      | _ => none
  | .deleteOrphanVerticesNotSeen sourceId entity runStartedAt =>
      (side.cleaned m sourceId entity runStartedAt).1 = .ok ()
  | r => m.move.reply r

/-- The move that the worker sees. -/
def workerMove (c : Call syncService) : Move syncService :=
  { m.move with hangs := m.move.hangs || side.busy m c, reply := side.reply m }

/-- The graph and its calls after a call of the worker. -/
def after (answered : Bool) : Call syncService → GraphSide
  | .service (.startVertex v) => { side with vertices := side.vertices ++ [(v, upsertVertex v)] }
  | .service (.startRelation r) =>
      { side with relations := side.relations ++ [(r, upsertRelation r)] }
  | .service (.upsertVertex v) =>
      match answered, joined v side.vertices with
      | true, some (_, vertices) => { side with vertices }
      | _, _ => side
  | .service (.upsertRelation r) =>
      match answered, joined r side.relations with
      | true, some (_, relations) => { side with relations }
      | _, _ => side
  | .service (.vertexExists identity) => { side with graph := (side.lookedUp m identity).2.1 }
  | .service (.deleteOrphanVerticesNotSeen sourceId entity runStartedAt) =>
      { side with graph := (side.cleaned m sourceId entity runStartedAt).2.1 }
  | _ => side

end GraphSide

def systemHandler :
    Handler (Call syncService) Call.Answer SystemMove (World syncService × GraphSide) := fun c m s =>
  let side := s.2.turned m.turns
  let next := handler c (side.workerMove m c) s.1
  (next.1, next.2, side.after m next.1.isSome c)

/-- **The system refines the environment.**  The worker sees an execution of `Worker.Environment`. -/
theorem projects_system : Prog.Projects systemHandler handler Prod.fst :=
  fun c m s => ⟨(s.2.turned m.turns).workerMove m c, rfl, rfl⟩

/-! ## The parts of a step -/

section

variable {side : GraphSide} {m : SystemMove}

/-- A lookup leaves the graph alone. -/
theorem lookedUp_graph (identity : EntityIdentity) : (side.lookedUp m identity).2.1 = side.graph := by
  have reads : (vertexExists identity).Only fun c => ∃ tag vid, c = .fetchVertex tag vid := by
    unfold vertexExists
    split
    · trivial
    · split
      · trivial
      · refine Prog.only_bind (only_executeTopology ⟨_, _, rfl⟩) fun rows => ?_
        split_ifs
        · trivial
        · split
          · trivial
          · split_ifs <;> trivial
  refine Prog.wp_run (Q := fun _ g => g = side.graph) (Prog.shrinking_true graphHandler)
    (Prog.wp_of_only (I := fun g => g = side.graph) reads ?_ rfl) m.script trivial
  rintro _ move g ⟨tag, vid, rfl⟩ same -
  exact (graphHandler_state _ move g).elim (fun idle => idle.trans same) fun ran => ran.trans same

/-- What a call answers for a write that returns. -/
theorem joined_of_answered {v : TopologyVertex} {w : World syncService} {written : Bool}
    (answered : (handler (.service (SyncRequest.upsertVertex v))
      (side.workerMove m (.service (.upsertVertex v))) w).1 = some written) : ∃ rest, joined v side.vertices = some (written, rest) := by
  have reply := respond_of_handler answered
  cases here : joined v side.vertices with
  | none =>
      have hangs : (side.workerMove m (.service (.upsertVertex v))).hangs = true := by
        simp [GraphSide.workerMove, GraphSide.busy, here]
      simp [handler, hangs] at answered
  | some ended =>
      refine ⟨ended.2, ?_⟩
      simp only [World.respond, GraphSide.workerMove, GraphSide.reply, here, Option.map_some,
        Option.getD_some] at reply
      rw [← reply]

theorem joinedRelation_of_answered {r : Relation} {w : World syncService} {written : Bool}
    (answered : (handler (.service (SyncRequest.upsertRelation r))
      (side.workerMove m (.service (.upsertRelation r))) w).1 = some written) :
    ∃ rest, joined r side.relations = some (written, rest) := by
  have reply := respond_of_handler answered
  cases here : joined r side.relations with
  | none =>
      have hangs : (side.workerMove m (.service (.upsertRelation r))).hangs = true := by
        simp [GraphSide.workerMove, GraphSide.busy, here]
      simp [handler, hangs] at answered
  | some ended =>
      refine ⟨ended.2, ?_⟩
      simp only [World.respond, GraphSide.workerMove, GraphSide.reply, here, Option.map_some,
        Option.getD_some] at reply
      rw [← reply]

/-- A cleanup that is answered with success has returned nil. -/
theorem cleaned_of_answered {id : String} {entity : EntityType} {cutoff : Time}
    {w : World syncService}
    (answered : (handler (.service (SyncRequest.deleteOrphanVerticesNotSeen id entity cutoff))
      (side.workerMove m (.service (.deleteOrphanVerticesNotSeen id entity cutoff))) w).1 =
        some true) : (side.cleaned m id entity cutoff).1 = .ok () := by
  have reply := respond_of_handler answered
  simp only [World.respond, GraphSide.workerMove, GraphSide.reply] at reply
  exact of_decide_eq_true reply

end

/-! ## What a cleanup finds -/

/-- A cleanup follows a preparation of the run, and has its entity and its snapshot. -/
def CleansUpPrepared (sourceId runId : String) : Call syncService → World syncService → Prop
  | .service (.deleteOrphanVerticesNotSeen id entity cutoff), w => id = sourceId ∧
      ∃ p : Preparation sourceId runId entity, cutoff = p.checkpoint.cursor.snapshotAt ∧
        w.landmarks = p.landmarks true ++ [.covered entity (some true)]
  | _, _ => True

section

variable {worker : SyncWorker} {run : SyncRun} {source : Source} {startedAt : Time} {sound : Prop}
  {selection : Selection} {cursor : DeviceSyncCursor} {w : World syncService} {ε α : Type}
  {p : Preparation source.id run.id selection.entity} {sourceId runId : String}

theorem cleansUpPrepared_of_preparing {c : Call syncService} (preparing : c.concludes = false) :
    CleansUpPrepared sourceId runId c w := by
  cases c with
  | service r => cases r <;> trivial
  | _ => trivial

theorem cleansUpPrepared_of_routine {q : SyncProg ε α} (routine : Routine q) :
    q.Issues handler (CleansUpPrepared sourceId runId) w :=
  Prog.issues_of_only (preparing_of_aside (aside_of_routine routine))
    fun _ _ => cleansUpPrepared_of_preparing

theorem cleansUpPrepared_cleanUp
    (prepared : PreparedAs run source startedAt sound selection cursor p w) :
    (cleanUp run source selection cursor.snapshotAt).Issues handler
      (CleansUpPrepared source.id run.id) w := by
  refine Prog.issues_perform trivial fun m covered answered => ?_
  have trail := prepared.trail.call (fun _ same => by cases same) answered
  refine Prog.issues_bind (cleansUpPrepared_of_routine (routine_orFail _ _ _ _))
    (ensures_orFail fun currentFullSource same => ?_)
  cases same
  split_ifs with full
  · obtain ⟨fullSource, rfl⟩ := Bool.and_eq_true_iff.mp full
    have found := trail.landmarks
    rw [fullSource] at found
    refine Prog.issues_perform ⟨rfl, p, by rw [prepared.begun], found⟩ fun m cleaned _ => ?_
    split_ifs
    · trivial
    · exact Prog.issues_bind_always (cleansUpPrepared_of_routine routine_leaveIfLost)
        fun _ _ => cleansUpPrepared_of_routine (routine_leaveFailed _ _ _)
  · trivial

theorem cleansUpPrepared_publish
    (prepared : PreparedAs run source startedAt sound selection cursor p w) :
    (publish run source selection cursor.snapshotAt).Issues handler
      (CleansUpPrepared source.id run.id) w := by
  have lost : (leaveIfLost : SyncProg (Option SyncError) Unit).Only fun c => c.idle = true := by
    refine Prog.only_bind ⟨rfl, fun _ => trivial⟩ fun lost => ?_
    split_ifs <;> trivial
  refine Prog.issues_bind (cleansUpPrepared_of_routine routine_leaveIfLost) (Prog.contract_mono
    (Prog.ensures_of_only (I := PreparedAs run source startedAt sound selection cursor p) lost
      (fun _ m _ idle here => here.idle idle m) prepared)
    fun _ w' prepared => ?_)
  refine Prog.issues_bind_always (cleansUpPrepared_cleanUp prepared) fun _ w' => ?_
  refine Prog.issues_bind_always (cleansUpPrepared_of_routine routine_leaveIfLost) fun _ w' => ?_
  refine Prog.issues_perform trivial fun m now _ => ?_
  refine Prog.issues_perform trivial fun m completed _ => ?_
  cases completed with
  | some reply => trivial
  | none => exact cleansUpPrepared_of_routine (routine_leaveFailed _ _ _)

theorem cleansUpPrepared_executeClaimed (trail : Trail run.id sound (Started startedAt) [] w) :
    (executeClaimed worker run source startedAt).Issues handler
      (CleansUpPrepared source.id run.id) w := by
  refine Prog.issues_bind (Prog.issues_of_only (preparing_prepare worker run source startedAt)
    fun _ _ => cleansUpPrepared_of_preparing) (Prog.contract_mono (trail_prepare trail) ?_)
  rintro ⟨selection, cursor⟩ w' ⟨p, prepared⟩
  exact cleansUpPrepared_publish prepared

end

/-- What a prepared run has written: records of its pages, at its snapshot. -/
theorem Preparation.vertex_eq {sourceId runId : String} {entity : EntityType}
    (p : Preparation sourceId runId entity) {fullSource written : Bool} {v : TopologyVertex}
    (here : .vertex v written ∈ p.landmarks fullSource) :
    ∃ r ∈ allRecords p.pages, v = recordVertex sourceId entity p.checkpoint.cursor.snapshotAt r := by
  have collected : .vertex v written ∈ p.collected := by simpa [Preparation.landmarks] using here
  rcases p.collects.entries _ collected with
    ⟨page, -, ⟨⟩⟩ | ⟨cursor, ⟨⟩⟩ | ⟨r, inside, ⟨⟨⟩⟩ | same | ⟨⟨⟩⟩⟩
  cases same
  exact ⟨r, inside, rfl⟩

/-! ## The invariant -/

/-- The scope of a cleanup, once it is called. -/
def Event.cleanup? : Event syncService → Option CleanupScope
  | .call (.service (.deleteOrphanVerticesNotSeen sourceId entity cutoff)) _ _ _ _ _ =>
      some ⟨entity, sourceId, topologyTime cutoff⟩
  | _ => none

namespace World

variable (w : World syncService)

/-- `UpsertVertex` was called. -/
def CalledVertex (v : TopologyVertex) : Prop := .startVertex v ∈ w.writes

/-- `UpsertRelation` was called. -/
def CalledRelation (r : Relation) : Prop := .startRelation r ∈ w.writes

/-- `DeleteOrphanVerticesNotSeen` was called. -/
def CalledCleanup (scope : CleanupScope) : Prop := scope ∈ w.log.filterMap Event.cleanup?

/-- A write that has returned is a landmark. -/
theorem mem_landmarks_of_writes {w : World syncService} :
    (∀ v written, .vertex v written ∈ w.writes → .vertex v written ∈ w.landmarks) ∧
      ∀ r written, .relation r written ∈ w.writes → .relation r written ∈ w.landmarks := by
  refine ⟨fun v written member => ?_, fun r written member => ?_⟩
  · obtain ⟨e, inside, event⟩ := List.mem_filterMap.mp member
    refine List.mem_filterMap.mpr ⟨e, inside, ?_⟩
    unfold Event.write? at event
    split at event <;> cases event
    rfl
  · obtain ⟨e, inside, event⟩ := List.mem_filterMap.mp member
    refine List.mem_filterMap.mpr ⟨e, inside, ?_⟩
    unfold Event.write? at event
    split at event <;> cases event
    rfl

theorem mem_writes_of_landmarks {w : World syncService} :
    (∀ v written, .vertex v written ∈ w.landmarks → .vertex v written ∈ w.writes) ∧
      ∀ r written, .relation r written ∈ w.landmarks → .relation r written ∈ w.writes := by
  have event {e : Event syncService} {l : Landmark} (here : Event.observed landmark e = some l) :
      ∃ c time fault answer before after, e = .call c time fault (some answer) before after ∧
        landmark c answer = some l := by
    cases e with
    | call c time fault answer before after =>
        cases answer with
        | none => cases here
        | some answer => exact ⟨c, time, fault, answer, before, after, rfl, here⟩
    | _ => cases here
  refine ⟨fun v written member => ?_, fun r written member => ?_⟩
  · obtain ⟨e, inside, here⟩ := List.mem_filterMap.mp member
    obtain ⟨c, time, fault, answer, before, after, rfl, seen⟩ := event here
    refine List.mem_filterMap.mpr ⟨_, inside, ?_⟩
    unfold landmark at seen
    split at seen <;> cases seen
    rfl
  · obtain ⟨e, inside, here⟩ := List.mem_filterMap.mp member
    obtain ⟨c, time, fault, answer, before, after, rfl, seen⟩ := event here
    refine List.mem_filterMap.mpr ⟨_, inside, ?_⟩
    unfold landmark at seen
    split at seen <;> cases seen
    rfl

end World

namespace GraphSide

/-- The writes in flight. -/
def writing (side : GraphSide) : List TopologyWrite :=
  (side.vertices.map Prod.fst).map .vertex ++ (side.relations.map Prod.fst).map .relation

theorem writing_turn (side : GraphSide) (t : GraphTurn) : (side.turn t).writing = side.writing := by
  have unchanged {α : Type} {calls : List (α × GraphProg Unit)} {index : Nat} {a : α}
      {p q : GraphProg Unit} (here : calls[index]? = some (a, p)) :
      (calls.set index (a, q)).map Prod.fst = calls.map Prod.fst := by
    obtain ⟨inside, found⟩ := List.getElem?_eq_some_iff.mp here
    have inside : index < (calls.map Prod.fst).length := by rwa [List.length_map]
    have same : (calls.map Prod.fst)[index] = a := by simp [found]
    rw [List.map_set, ← same, List.set_getElem_self]
  cases t with
  | vertex index m =>
      simp only [turn]
      split
      · rfl
      · rename_i v p found
        simp only [writing, unchanged found]
  | relation index m =>
      simp only [turn]
      split
      · rfl
      · rename_i r p found
        simp only [writing, unchanged found]

theorem writing_turned (side : GraphSide) (turns : List GraphTurn) :
    (side.turned turns).writing = side.writing := by
  induction turns generalizing side with
  | nil => rfl
  | cons t turns ih => exact (ih (side.turn t)).trans (writing_turn side t)

end GraphSide

/-- The rows of the graph come from the first graph and the writes that were called, the calls in
flight are the outstanding writes, and the writes that have returned nil have landed. -/
structure SystemSound (first : Graph) (s : World syncService × GraphSide) : Prop where
  sound : Sound first s.1.CalledVertex s.1.CalledRelation s.1.CalledCleanup s.2
  inFlight : s.2.writing.Perm (outstanding s.1.writes)
  vertices : ∀ v, .vertex v true ∈ s.1.writes → VertexLanded s.2.graph v
  relations : ∀ r, .relation r true ∈ s.1.writes → EdgeLanded s.2.graph r

section

variable {first : Graph} {w : World syncService} {side : GraphSide} {m : SystemMove}

theorem SystemSound.turned (sound : SystemSound first (w, side)) (turns : List GraphTurn) :
    SystemSound first (w, side.turned turns) := by
  obtain ⟨next, retains⟩ := sound.sound.turned turns
  refine ⟨next, ?_, fun v member => retains.vertices v (sound.vertices v member),
    fun r member => retains.edges r (sound.relations r member)⟩
  simp only [GraphSide.writing_turned]
  exact sound.inFlight

end

/-! ## Steps -/

/-- What `c` may find. -/
def SystemIssues (sourceId runId : String) (c : Call syncService) (w : World syncService) : Prop :=
  CallsJoined c w ∧ CleansUpPrepared sourceId runId c w

/-- What was called stays called. -/
theorem called_mono (c : Call syncService) (n : Move syncService) (w : World syncService) :
    w.writes ⊆ (handler c n w).2.writes ∧
      w.log.filterMap Event.cleanup? ⊆ (handler c n w).2.log.filterMap Event.cleanup? := by
  constructor
  · rw [writes_handler]
    exact List.subset_append_left _ _
  · obtain ⟨more, grown⟩ := log_append_handler c n w
    rw [grown, List.filterMap_append]
    exact List.subset_append_left _ _

namespace GraphSide

/-- No write is in flight. -/
def Resting (side : GraphSide) : Prop := side.vertices = [] ∧ side.relations = []

theorem Resting.turn {side : GraphSide} (rest : side.Resting) (t : GraphTurn) :
    side.turn t = side := by
  obtain ⟨vertices, relations⟩ := rest
  cases t with
  | vertex index m => simp [GraphSide.turn, vertices]
  | relation index m => simp [GraphSide.turn, relations]

theorem Resting.turned {side : GraphSide} (rest : side.Resting) (turns : List GraphTurn) :
    side.turned turns = side := by
  induction turns with
  | nil => rfl
  | cons t turns ih =>
      rw [GraphSide.turned, List.foldl_cons, rest.turn]
      exact ih

end GraphSide

/-- No write is in flight where none is outstanding. -/
theorem resting_of_joined {first : Graph} {w : World syncService} {side : GraphSide}
    (sound : SystemSound first (w, side)) (joined : Joined w) : side.Resting := by
  have none_ : side.writing = [] := by
    have inFlight := sound.inFlight
    rw [joined] at inFlight
    exact inFlight.eq_nil
  obtain ⟨vertices, relations⟩ := List.append_eq_nil_iff.mp none_
  exact ⟨by simpa using vertices, by simpa using relations⟩

section

variable {first : Graph} {w : World syncService} {side side' : GraphSide} {m : SystemMove}
  {c : Call syncService} {n : Move syncService} {e : WriteEvent}

theorem SystemSound.more (sound : SystemSound first (w, side)) (c : Call syncService)
    (n : Move syncService) : Sound first (handler c n w).2.CalledVertex
      (handler c n w).2.CalledRelation (handler c n w).2.CalledCleanup side :=
  sound.sound.mono (fun _ called => (called_mono c n w).1 called)
    (fun _ called => (called_mono c n w).1 called) fun _ called => (called_mono c n w).2 called

/-- A step of the worker that is neither the call nor the return of a write. -/
theorem SystemSound.quiet (sound : SystemSound first (w, side))
    (same : (handler c n w).2.writes = w.writes) : SystemSound first ((handler c n w).2, side) := by
  refine ⟨sound.more c n, ?_, ?_, ?_⟩
  · rw [same]
    exact sound.inFlight
  · rw [same]
    exact sound.vertices
  · rw [same]
    exact sound.relations

/-- A step of the worker that is a call or a return. -/
theorem SystemSound.grown (sound : SystemSound first (w, side))
    (grown : (handler c n w).2.writes = w.writes ++ [e])
    (rows : Sound first (handler c n w).2.CalledVertex (handler c n w).2.CalledRelation
      (handler c n w).2.CalledCleanup side')
    (inFlight : side'.writing.Perm (outstandingAfter (outstanding w.writes) e))
    (same : side'.graph = side.graph) (vertices : ∀ v, e = .vertex v true → VertexLanded side.graph v)
    (relations : ∀ r, e = .relation r true → EdgeLanded side.graph r) :
    SystemSound first ((handler c n w).2, side') := by
  refine ⟨rows, ?_, fun v member => ?_, fun r member => ?_⟩
  · rwa [grown, outstanding_concat]
  · rw [same]
    rw [grown] at member
    rcases List.mem_append.mp member with old | new
    · exact sound.vertices v old
    · exact vertices v (List.mem_singleton.mp new).symm
  · rw [same]
    rw [grown] at member
    rcases List.mem_append.mp member with old | new
    · exact sound.relations r old
    · exact relations r (List.mem_singleton.mp new).symm

theorem SystemSound.calledVertex (sound : SystemSound first (w, side)) (v : TopologyVertex)
    (n : Move syncService) : SystemSound first ((handler (.service (SyncRequest.startVertex v)) n w).2,
      { side with vertices := side.vertices ++ [(v, upsertVertex v)] }) := by
  have grown : (handler (.service (SyncRequest.startVertex v)) n w).2.writes = w.writes ++ [.startVertex v] :=
    writes_handler _ n w
  refine sound.grown grown ((sound.more _ n).vertexCalled ?_) ?_ rfl (fun _ other => by cases other)
    fun _ other => by cases other
  · simp only [World.CalledVertex, grown, List.mem_append, List.mem_singleton, or_true]
  · have appended : (side.vertices ++ [(v, upsertVertex v)]).map Prod.fst =
        side.vertices.map Prod.fst ++ [v] := by simp
    simp only [GraphSide.writing, appended, List.map_append, List.append_assoc]
    exact (List.Perm.append_left _ List.perm_append_comm).trans
      ((List.append_assoc _ _ _).symm ▸ sound.inFlight.append_right _)

theorem SystemSound.calledRelation (sound : SystemSound first (w, side)) (r : Relation)
    (n : Move syncService) :
    SystemSound first ((handler (.service (SyncRequest.startRelation r)) n w).2,
      { side with relations := side.relations ++ [(r, upsertRelation r)] }) := by
  have grown : (handler (.service (SyncRequest.startRelation r)) n w).2.writes = w.writes ++ [.startRelation r] :=
    writes_handler _ n w
  refine sound.grown grown ((sound.more _ n).edgeCalled ?_) ?_ rfl (fun _ other => by cases other)
    fun _ other => by cases other
  · simp only [World.CalledRelation, grown, List.mem_append, List.mem_singleton, or_true]
  · have appended : (side.relations ++ [(r, upsertRelation r)]).map Prod.fst =
        side.relations.map Prod.fst ++ [r] := by simp
    simp only [GraphSide.writing, appended, List.map_append]
    exact (List.append_assoc _ _ _).symm ▸ sound.inFlight.append_right _

/-- A write of a vertex returns, or not yet. -/
theorem SystemSound.returnedVertex (sound : SystemSound first (w, side)) (v : TopologyVertex) :
    let c : Call syncService := .service (SyncRequest.upsertVertex v)
    let next := handler c (side.workerMove m c) w
    SystemSound first (next.2, side.after m next.1.isSome c) := by
  dsimp only
  cases answered : (handler (.service (SyncRequest.upsertVertex v))
      (side.workerMove m (.service (.upsertVertex v))) w).1 with
  | none =>
      refine sound.quiet ?_
      rw [writes_handler, answered]
      exact List.append_nil _
  | some written =>
      obtain ⟨rest, here⟩ := joined_of_answered answered
      obtain ⟨p, -, perm⟩ := joined_some here
      obtain ⟨rows, landed⟩ := (sound.more (.service (SyncRequest.upsertVertex v))
        (side.workerMove m (.service (.upsertVertex v)))).vertexJoined here
      have after : side.after m true (.service (.upsertVertex v)) = { side with vertices := rest } := by
        simp only [GraphSide.after, here]
      rw [Option.isSome_some, after]
      refine sound.grown (e := .vertex v written) ?_ rows ?_ rfl (fun u same => ?_)
        fun _ other => by cases other
      · rw [writes_handler, answered]
        rfl
      · have own : (side.vertices.map Prod.fst).Perm (v :: rest.map Prod.fst) := perm.map Prod.fst
        have erased := ((own.map TopologyWrite.vertex).append_right
          ((side.relations.map Prod.fst).map TopologyWrite.relation)).symm.trans sound.inFlight
        simpa [GraphSide.writing, outstandingAfter] using erased.erase (.vertex v)
      · cases same
        exact landed rfl

/-- A write of a relation returns, or not yet. -/
theorem SystemSound.returnedRelation (sound : SystemSound first (w, side)) (r : Relation) :
    let c : Call syncService := .service (SyncRequest.upsertRelation r)
    let next := handler c (side.workerMove m c) w
    SystemSound first (next.2, side.after m next.1.isSome c) := by
  dsimp only
  cases answered : (handler (.service (SyncRequest.upsertRelation r))
      (side.workerMove m (.service (.upsertRelation r))) w).1 with
  | none =>
      refine sound.quiet ?_
      rw [writes_handler, answered]
      exact List.append_nil _
  | some written =>
      obtain ⟨rest, here⟩ := joinedRelation_of_answered answered
      obtain ⟨p, -, perm⟩ := joined_some here
      obtain ⟨rows, landed⟩ := (sound.more (.service (SyncRequest.upsertRelation r))
        (side.workerMove m (.service (.upsertRelation r)))).edgeJoined here
      have after : side.after m true (.service (.upsertRelation r)) =
          { side with relations := rest } := by
        simp only [GraphSide.after, here]
      rw [Option.isSome_some, after]
      refine sound.grown (e := .relation r written) ?_ rows ?_ rfl (fun _ other => by cases other)
        fun u same => ?_
      · rw [writes_handler, answered]
        rfl
      · have own : (side.relations.map Prod.fst).Perm (r :: rest.map Prod.fst) := perm.map Prod.fst
        have moved := ((own.map TopologyWrite.relation).append_left
          ((side.vertices.map Prod.fst).map TopologyWrite.vertex)).symm.trans sound.inFlight
        have erased := (List.perm_middle.symm.trans moved).erase (.relation r)
        simpa [GraphSide.writing, outstandingAfter] using erased
      · cases same
        exact landed rfl

/-- A cleanup spares the records that the run has written. -/
theorem SystemSound.cleaned {sourceId runId id : String} {entity : EntityType} {cutoff : Time}
    (sound : SystemSound first (w, side))
    (may : SystemIssues sourceId runId
      (.service (.deleteOrphanVerticesNotSeen id entity cutoff)) w) :
    SystemSound first ((handler (.service (SyncRequest.deleteOrphanVerticesNotSeen id entity cutoff)) n
      w).2, { side with graph := (side.cleaned m id entity cutoff).2.1 }) := by
  obtain ⟨pooled | joined, rfl, p, rfl, landmarks⟩ := may
  · cases pooled
  · have left : OrphansLeft side.graph entity id (topologyTime p.checkpoint.cursor.snapshotAt)
        (side.cleaned m id entity p.checkpoint.cursor.snapshotAt).2.1 := orphansLeft_run _ _
    have scope : (handler (.service (SyncRequest.deleteOrphanVerticesNotSeen id entity
        p.checkpoint.cursor.snapshotAt)) n w).2.CalledCleanup
          ⟨entity, id, topologyTime p.checkpoint.cursor.snapshotAt⟩ := by
      rw [World.CalledCleanup, log_handler, List.filterMap_append]
      exact List.mem_append_right _ (List.mem_singleton_self _)
    have same := writes_silent (c := .service (SyncRequest.deleteOrphanVerticesNotSeen id entity
      p.checkpoint.cursor.snapshotAt)) rfl n w
    refine ⟨(sound.more _ n).cleanedUp (resting_of_joined sound joined).1 scope left, ?_, fun v member => ?_,
      fun r member => ?_⟩
    · rw [same]
      exact sound.inFlight
    · rw [same] at member
      have seen := World.mem_landmarks_of_writes.1 v true member
      rw [landmarks] at seen
      obtain ⟨record, -, rfl⟩ := p.vertex_eq (by simpa using seen)
      exact (sound.vertices _ member).cleanedUp left le_rfl
    · rw [same] at member
      exact (sound.relations r member).congr left.edges

/-- **A step of the system keeps its invariant.** -/
theorem systemSound_handler {sourceId runId : String} {s : World syncService × GraphSide}
    (sound : SystemSound first s) (may : SystemIssues sourceId runId c s.1) (m : SystemMove) :
    SystemSound first (systemHandler c m s).2 := by
  obtain ⟨w, side⟩ := s
  have ready := sound.turned m.turns
  simp only [systemHandler]
  generalize side.turned m.turns = side at ready ⊢
  cases c with
  | service r =>
      cases r with
      | startVertex v => exact ready.calledVertex v _
      | upsertVertex v => exact ready.returnedVertex v
      | startRelation r => exact ready.calledRelation r _
      | upsertRelation r => exact ready.returnedRelation r
      | vertexExists identity =>
          simp only [GraphSide.after, lookedUp_graph]
          exact ready.quiet (writes_silent rfl _ w)
      | deleteOrphanVerticesNotSeen id entity cutoff => exact ready.cleaned may
      | _ => exact ready.quiet (writes_silent rfl _ w)
  | _ => exact ready.quiet (writes_silent rfl _ w)

end

/-! ## Executions -/

section

variable {start : World syncService}

theorem joined_start (fresh : start.log = []) : Joined start := by
  rw [Joined, World.writes, fresh]
  rfl

theorem trail_start {runId : String} {P : String × String → DeviceSyncCursor → Prop}
    (fresh : start.log = []) : Trail runId False P [] start :=
  ⟨by rw [World.landmarks, World.observed, fresh]; rfl, False.elim⟩

theorem systemSound_start (fresh : start.log = []) (first : Graph) :
    SystemSound first (start, ⟨first, [], []⟩) := by
  have none_ : start.writes = [] := by rw [World.writes, fresh]; rfl
  refine ⟨.start first _ _ _, ?_, fun v member => ?_, fun r member => ?_⟩
  · rw [none_]
    rfl
  · rw [none_] at member
    cases member
  · rw [none_] at member
    cases member

/-- What a program issues in the environment it issues in the system. -/
theorem systemIssues_of_issues {α : Type} {p : SyncProg SyncLeft α} {sourceId runId : String}
    {w : World syncService} (side : GraphSide) (joins : p.Issues handler CallsJoined w)
    (cleans : p.Issues handler (CleansUpPrepared sourceId runId) w) :
    p.Issues systemHandler (fun c s => SystemIssues sourceId runId c s.1) (w, side) :=
  Prog.Projects.issues (s := (w, side)) projects_system (Prog.issues_and joins cleans)

/-- An execution of the system is sound. -/
theorem systemSound_executeClaimed (worker : SyncWorker) (run : SyncRun) (source : Source)
    (startedAt : Time) (script : List SystemMove) (fresh : start.log = []) (first : Graph) :
    SystemSound first ((executeClaimed worker run source startedAt).run systemHandler script
      (start, ⟨first, [], []⟩)).2.1 := by
  have joins : Joins (executeClaimed worker run source startedAt) start :=
    joins_executeClaimed (joined_start fresh)
  have issues := systemIssues_of_issues ⟨first, [], []⟩ joins.issues
    (cleansUpPrepared_executeClaimed (trail_start fresh))
  exact Prog.issues_run (fun c m s may sound => systemSound_handler sound may m) issues
    (systemSound_start fresh first) script

end

/-! ## An execution -/

def storedDevice (vid sourceId : String) : VertexRow where
  tag := .device
  vid := vid
  sourceId := sourceId
  stableId := "SN-1"
  columns := (vertexColumns .device).map fun name => (name, .null)
  createdAt := 1000
  syncedAt := 1000
  named := by simp [Function.comp_def]

/-- A device of another source. -/
def otherDevice : VertexRow := storedDevice "elsewhere" "t"

/-- A device that the source had before. -/
def staleDevice : VertexRow :=
  storedDevice ((EntityIdentity.mk "s" .device "SN-1").vid.toOption.getD "") "s"

def devicesGraph : Graph := ⟨⟨[otherDevice, staleDevice], by decide +kernel⟩, .empty⟩

/-- Every statement is answered, and a write is done when the worker asks for its end. -/
def systemScript : List SystemMove := deviceScript.map fun move =>
  ⟨move, List.replicate 3 (.vertex 0 ⟨.none, []⟩), List.replicate 3 ⟨.none, []⟩, 3⟩

/-- The claimed run collects the device, over the graph with the two others. -/
def executeDeviceSystem :
    Outcome (Option SyncError) Unit × (World syncService × GraphSide) × List SystemMove :=
  (executeClaimed ⟨1, 3⟩ (Store.claimed 2000 (queuedRun "r" "s")) ⟨"s", "lab", "cmdb", "ref", true⟩
    2000).run systemHandler systemScript (claimedWorld, ⟨devicesGraph, [], []⟩)

/-- It returns nil, has begun at its start, has written a device and removed the old one. -/
theorem executeDeviceSystem_ran : executeDeviceSystem.1 = .ok () ∧
    (∀ l ∈ executeDeviceSystem.2.1.1.landmarks, ∀ checkpoint ∈ l.begun?,
      checkpoint.cursor.snapshotAt = 2000) ∧
    (executeDeviceSystem.2.1.1.landmarks.any fun l => (l.vertex?).isSome) = true ∧
    staleDevice ∉ executeDeviceSystem.2.1.2.graph.vertices.rows := by
  decide +kernel

end UnifiedInfraTopology
