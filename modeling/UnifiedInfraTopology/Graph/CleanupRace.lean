import UnifiedInfraTopology.Graph.Upsert

/-!
# Cleanup and writers in different processes

One `DeleteOrphanVerticesNotSeen` call and any number of vertex and relation writes, their
statements interleaved.  The source lock orders them inside one process only, so the writers of
another process are not held back.

A round of the cleanup finds a batch with one statement and deletes it, unconditionally, with the
next.  Between the two a listed vertex may be refreshed or get an edge.  `quiet` is the condition
that this does not happen.

* `orphans_safe`: in a run whose steps are all quiet, every deleted vertex is older than the cutoff
  and isolated when it is deleted.
* `orphans_refreshed`: a run in which the refreshed vertex is deleted.
-/

namespace UnifiedInfraTopology

open Lib

/-! ## The system -/

/-- A write of the other process. -/
inductive TopologyWrite where
  | vertex (vertex : TopologyVertex)
  | relation (relation : Relation)

def TopologyWrite.run : TopologyWrite → GraphProg Unit
  | vertex v => upsertVertex v
  | relation r => upsertRelation r

/-- The cleanup call and its arguments. -/
structure OrphanCleanup where
  sourceId : String
  entityType : EntityType
  runStartedAt : Time
  /-- A bound on the rounds of the loop. -/
  rounds : Nat

def OrphanCleanup.run (cleanup : OrphanCleanup) : GraphProg Unit :=
  deleteOrphanVerticesNotSeen cleanup.sourceId cleanup.entityType cleanup.runStartedAt cleanup.rounds

/-- The cleanup is the thread without a name. -/
def cleanupThreads {ι : Type} (cleanup : OrphanCleanup) (writes : ι → TopologyWrite) :
    Option ι → GraphProg Unit
  | none => cleanup.run
  | some i => (writes i).run

/-- The statement is one that a write sends. -/
def Statement.writes : Statement → Bool
  | insertVertex _ | fetchVertex _ _ | updateVertex _ _ _ _ => true
  | insertEdge _ | fetchEdge _ | updateEdge _ _ _ => true
  | deleteEdges _ _ _ | matchOrphans _ _ _ _ | deleteVertices _ => false

/-! ## Quiet steps -/

/-- The statement changes a vertex of the batch or adds an edge to one. -/
def Statement.disturbs (g : Graph) (vids : List String) : Statement → Bool
  | insertVertex row => decide (row.vid ∈ vids) && (g.vertices.find? row.key).isNone
  | updateVertex tag vid _ syncedAt =>
      decide (vid ∈ vids) &&
        (g.vertices.find? (tag, vid)).any fun stored => decide (stored.syncedAt ≤ syncedAt)
  | insertEdge row => (g.edges.find? row.key).isNone && vids.any row.touches
  | _ => false

/-- The vertex IDs that the answer of a statement lists. -/
def Statement.listed (statement : Statement) (move : GraphMove) (g : Graph) : List String :=
  (((graphHandler statement move g).1.bind Except.toOption).getD []).flatten

/-- No row that a listed vertex has under a second tag is as recent as the cutoff. -/
def Graph.batchOld (g : Graph) (tag : EntityType) (before : Time) (vids : List String) : Bool :=
  g.vertices.rows.all fun w => decide (w.vid ∈ vids → w.tag ≠ tag → w.syncedAt < before)

/-- The step does not disturb the batch that the cleanup is about to delete.  A step that finds a
batch lists no vertex with a recent second tag, which takes two identities with one hash. -/
def quiet {ι : Type} (ps : Option ι → GraphProg Unit) (g : Graph) (step : Option ι × GraphMove) :
    Bool :=
  match step.1, (ps step.1).next?, (ps none).next? with
  | none, some (.matchOrphans tag sourceId before limit), _ =>
      g.batchOld tag before ((Statement.matchOrphans tag sourceId before limit).listed step.2 g)
  | some _, some statement, some (.deleteVertices vids) =>
      decide (step.2.fault = .refused) || !statement.disturbs g vids
  | _, _, _ => true

/-- A vertex that the step deletes is older than the cutoff and isolated. -/
def deletesOnlyOrphans {ι : Type} (before : Time) (ps : Option ι → GraphProg Unit) (g : Graph)
    (step : Option ι × GraphMove) : Prop :=
  ∀ v ∈ g.vertices.rows,
    (Prog.stepOnce graphHandler (ps step.1) step.2 g).2.vertices.find? v.key = none →
    v.syncedAt < before ∧ g.isolated v.vid = true

instance {ι : Type} (before : Time) (ps : Option ι → GraphProg Unit) (g : Graph)
    (step : Option ι × GraphMove) : Decidable (deletesOnlyOrphans before ps g step) :=
  inferInstanceAs (Decidable (∀ v ∈ g.vertices.rows, _))

/-! ## The batch -/

/-- Deleting the vertex is right: every row with its ID is old, and it has no edge. -/
def Graph.disposable (g : Graph) (before : Time) (vid : String) : Prop :=
  (∀ v ∈ g.vertices.rows, v.vid = vid → v.syncedAt < before) ∧ g.isolated vid = true

/-- A listed orphan may be deleted. -/
theorem disposable_of_orphan {g : Graph} {tag : EntityType} {sourceId : String} {before : Time}
    {vids : List String} (old : g.batchOld tag before vids = true) {v : VertexRow}
    (listed : v.vid ∈ vids) (member : v ∈ g.vertices.rows)
    (orphan : g.orphan tag sourceId before v = true) : g.disposable before v.vid := by
  simp only [Graph.batchOld, List.all_eq_true, decide_eq_true_eq] at old
  simp only [Graph.orphan, Bool.and_eq_true, decide_eq_true_eq, beq_iff_eq] at orphan
  obtain ⟨⟨⟨own, -⟩, older⟩, isolated⟩ := orphan
  refine ⟨fun w inside same => ?_, isolated⟩
  by_cases tagged : w.tag = tag
  · have same : w.key = v.key := Prod.ext (tagged.trans own.symm) same
    rw [Table.eq_of_mem inside member same]
    exact older
  · exact old w inside (same ▸ listed) tagged

theorem mem_preferring {order items : List String} {x : String}
    (member : x ∈ preferring order items) : x ∈ items := by
  rcases List.mem_append.mp member with front | back
  · exact of_decide_eq_true (List.mem_filter.mp front).2
  · exact (List.mem_filter.mp back).1

/-- The vertex IDs of a well-formed answer are its rows. -/
theorem topologyResultVIDs_rows {listed vids : List String}
    (read : topologyResultVIDs (listed.map fun vid => [vid]) = some vids) : vids = listed := by
  induction listed generalizing vids with
  | nil => exact (Option.some.inj read).symm
  | cons vid listed ih =>
      simp only [List.map_cons, topologyResultVIDs] at read
      split at read
      · obtain ⟨rest, readRest, rfl⟩ := Option.map_eq_some_iff.mp read
        rw [ih readRest]
      · cases read

/-- Every vertex of the batch that a round reads may be deleted. -/
theorem disposable_of_matchOrphans {g : Graph} {tag : EntityType} {sourceId : String}
    {before : Time} {limit : Nat} {m : GraphMove} {rows : List (List String)} {vids : List String}
    (old : g.batchOld tag before
      ((Statement.matchOrphans tag sourceId before limit).listed m g) = true)
    (answered : (graphHandler (.matchOrphans tag sourceId before limit) m g).1 = some (.ok rows))
    (read : topologyResultVIDs rows = some vids) : ∀ vid ∈ vids, g.disposable before vid := by
  have listing : (Statement.matchOrphans tag sourceId before limit).listed m g = rows.flatten := by
    rw [Statement.listed, answered]
    rfl
  rw [listing] at old
  cases Except.ok.inj (graphHandler_ok answered).1
  cases topologyResultVIDs_rows read
  intro vid member
  obtain ⟨v, chosen, rfl⟩ := List.mem_map.mp (mem_preferring (List.mem_of_mem_take member))
  obtain ⟨inside, orphan⟩ := List.mem_filter.mp chosen
  refine disposable_of_orphan old ?_ inside orphan
  exact List.mem_flatten.mpr ⟨_, List.mem_map_of_mem member, List.mem_singleton_self _⟩

/-! ## Writers -/

/-- The statements of a write remove no vertex. -/
theorem find?_execute_writes {statement : Statement} (writes : statement.writes = true)
    (order : List String) {g : Graph} {v : VertexRow} (member : v ∈ g.vertices.rows) :
    (statement.execute order g).2.vertices.find? v.key ≠ none := by
  have stored := Table.find?_of_mem member
  cases statement with
  | insertVertex row =>
      simp only [Statement.execute]
      cases inserted : g.vertices.insert row with
      | none => simp [stored]
      | some vertices =>
          rw [Option.getD_some, Table.find?_of_insert inserted]
          split <;> simp [stored]
  | updateVertex tag vid assignments syncedAt =>
      simp only [Statement.execute]
      split <;> simp [Table.find?_update, stored]
  | updateEdge key assignments syncedAt =>
      simp only [Statement.execute]
      split <;> simp [stored]
  | fetchVertex tag vid => simp [Statement.execute, stored]
  | insertEdge row => simp [Statement.execute, stored]
  | fetchEdge key => simp [Statement.execute, stored]
  | deleteEdges => cases writes
  | matchOrphans => cases writes
  | deleteVertices => cases writes

/-- A vertex of the batch that a write does not disturb may still be deleted. -/
theorem disposable_execute {statement : Statement} (writes : statement.writes = true)
    (order : List String) {g : Graph} {before : Time} {vids : List String}
    (undisturbed : statement.disturbs g vids = false) {vid : String} (listed : vid ∈ vids)
    (here : g.disposable before vid) : (statement.execute order g).2.disposable before vid := by
  obtain ⟨old, isolated⟩ := here
  cases statement with
  | insertVertex row =>
      simp only [Statement.execute]
      cases inserted : g.vertices.insert row with
      | none => exact ⟨old, isolated⟩
      | some vertices =>
          refine ⟨fun v member same => ?_, isolated⟩
          rcases (Table.mem_of_insert inserted).mp member with stored | rfl
          · exact old v stored same
          · have fresh := Table.fresh_of_insert inserted
            simp [Statement.disturbs, same, listed, fresh] at undisturbed
  | updateVertex tag updated assignments syncedAt =>
      simp only [Statement.execute]
      split
      · exact ⟨old, isolated⟩
      · refine ⟨fun v member same => ?_, isolated⟩
        obtain ⟨stored, inside, rfl⟩ := List.mem_map.mp member
        rw [apply_ite VertexRow.vid, VertexRow.vid_refreshed, ite_self] at same
        split
        · rename_i chosen
          simp only [Bool.and_eq_true, decide_eq_true_eq] at chosen
          have found := Table.find?_of_mem inside
          rw [chosen.1] at found
          have target : updated = vid := (congrArg Prod.snd chosen.1).symm.trans same
          simp [Statement.disturbs, target ▸ listed, found, chosen.2] at undisturbed
        · exact old stored inside same
  | insertEdge row =>
      simp only [Statement.execute]
      cases inserted : g.edges.insert row with
      | none => exact ⟨old, isolated⟩
      | some edges =>
          refine ⟨old, ?_⟩
          rw [Graph.isolated, List.all_eq_true] at isolated ⊢
          intro e member
          rcases (Table.mem_of_insert inserted).mp member with stored | rfl
          · exact isolated e stored
          · simp only [Statement.disturbs, Table.fresh_of_insert inserted, Option.isNone_none,
              Bool.true_and, List.any_eq_false] at undisturbed
            simpa using undisturbed vid listed
  | updateEdge key assignments syncedAt =>
      simp only [Statement.execute]
      split
      · exact ⟨old, isolated⟩
      · refine ⟨old, ?_⟩
        rw [Graph.isolated, List.all_eq_true] at isolated ⊢
        intro e member
        obtain ⟨stored, inside, rfl⟩ := List.mem_map.mp member
        split <;> exact isolated stored inside
  | fetchVertex tag vid => exact ⟨old, isolated⟩
  | fetchEdge key => exact ⟨old, isolated⟩
  | deleteEdges => cases writes
  | matchOrphans => cases writes
  | deleteVertices => cases writes

theorem only_executeTopology {P : Statement → Prop} {statement : Statement} (sent : P statement) :
    (executeTopology statement).Only P := by
  refine ⟨sent, fun answer => ?_⟩
  rcases answer with e | rows <;> trivial

theorem only_writes (write : TopologyWrite) :
    write.run.Only fun statement => statement.writes = true := by
  cases write with
  | vertex v =>
      simp only [TopologyWrite.run, upsertVertex]
      split
      · trivial
      · refine Prog.only_bind (only_executeTopology rfl) fun _ =>
          Prog.only_bind (only_executeTopology rfl) fun rows => ?_
        split
        · trivial
        · split
          · trivial
          · exact Prog.only_bind (only_executeTopology rfl) fun _ => trivial
  | relation r =>
      simp only [TopologyWrite.run, upsertRelation]
      split
      · trivial
      · refine Prog.only_bind (only_executeTopology rfl) fun _ =>
          Prog.only_bind (only_executeTopology rfl) fun rows => ?_
        split
        · trivial
        · split
          · trivial
          · exact Prog.only_bind (only_executeTopology rfl) fun _ => trivial

/-! ## The cleanup -/

/-- The rounds the cleanup has left. -/
def OrphanCleanup.rest (cleanup : OrphanCleanup) (n : Nat) : GraphProg Unit :=
  Prog.loop (fun _ => cleanupRound cleanup.sourceId cleanup.entityType
    (topologyTime cleanup.runStartedAt)) n ()

/-- What the cleanup does after a batch. -/
def OrphanCleanup.next (cleanup : OrphanCleanup) (n : Nat) : Unit ⊕ Unit → GraphProg Unit
  | .inl _ => cleanup.rest n
  | .inr _ => .ret ()

/-- Where the cleanup can be.  The batch it is about to delete may be deleted. -/
inductive CleanupThread (cleanup : OrphanCleanup) (g : Graph) : GraphProg Unit → Prop where
  | finding (n : Nat) {p : GraphProg Unit} (here : p = cleanup.rest n) : CleanupThread cleanup g p
  | deleting (n : Nat) (vids : List String) {p : GraphProg Unit}
      (here : p = (deleteBatch vids).bind (cleanup.next n))
      (disposable : ∀ vid ∈ vids, g.disposable (topologyTime cleanup.runStartedAt) vid) :
      CleanupThread cleanup g p
  | returned : CleanupThread cleanup g (.ret ())
  | failed (e : GraphError) : CleanupThread cleanup g (.raise e)

theorem cleanupThread_start (cleanup : OrphanCleanup) (g : Graph) :
    CleanupThread cleanup g cleanup.run := by
  unfold OrphanCleanup.run deleteOrphanVerticesNotSeen
  split
  · exact .failed _
  · exact .finding cleanup.rounds rfl

/-- A round finds its batch, and deletes it when there is one. -/
theorem OrphanCleanup.rest_succ (cleanup : OrphanCleanup) (n : Nat) :
    cleanup.rest (n + 1) = .call (.matchOrphans cleanup.entityType cleanup.sourceId
      (topologyTime cleanup.runStartedAt) topologyCleanupBatchSize) fun
        | .error e => .raise e
        | .ok rows => match topologyResultVIDs rows with
            | none => .raise .malformedResult
            | some [] => .ret ()
            | some vids => (deleteBatch vids).bind (cleanup.next n) := by
  refine congrArg (Prog.call _) (funext fun answer => ?_)
  rcases answer with e | rows
  · rfl
  · dsimp only [Prog.bind]
    rcases topologyResultVIDs rows with _ | _ | ⟨vid, vids⟩
    · rfl
    · rfl
    · refine congrArg (Prog.bind (deleteBatch (vid :: vids))) (funext fun result => ?_)
      rcases result with ⟨⟩ | ⟨⟩ <;> rfl

theorem OrphanCleanup.deleteBatch_next (cleanup : OrphanCleanup) (n : Nat) (vids : List String) :
    (deleteBatch vids).bind (cleanup.next n) = .call (.deleteVertices vids) fun
      | .error e => .raise e
      | .ok _ => cleanup.rest n := by
  refine congrArg (Prog.call _) (funext fun answer => ?_)
  rcases answer with e | rows <;> rfl

/-- The statement of the cleanup, and where it leads. -/
theorem CleanupThread.step {cleanup : OrphanCleanup} {g : Graph} {p : GraphProg Unit}
    (thread : CleanupThread cleanup g p) (m : GraphMove)
    (old : ∀ tag sourceId before limit, p.next? = some (.matchOrphans tag sourceId before limit) →
      g.batchOld tag before
        ((Statement.matchOrphans tag sourceId before limit).listed m g) = true) :
    (∀ v ∈ g.vertices.rows, (Prog.stepOnce graphHandler p m g).2.vertices.find? v.key = none →
      g.disposable (topologyTime cleanup.runStartedAt) v.vid) ∧
    CleanupThread cleanup (Prog.stepOnce graphHandler p m g).2
      (Prog.stepOnce graphHandler p m g).1 := by
  have idle : ∀ v ∈ g.vertices.rows, g.vertices.find? v.key = none →
      g.disposable (topologyTime cleanup.runStartedAt) v.vid := by
    intro v member gone
    rw [Table.find?_of_mem member] at gone
    cases gone
  cases thread with
  | returned => exact ⟨idle, .returned⟩
  | failed e => exact ⟨idle, .failed e⟩
  | finding n here =>
      subst here
      cases n with
      | zero => exact ⟨idle, .finding 0 rfl⟩
      | succ n =>
          rw [cleanup.rest_succ] at old ⊢
          have old := old _ _ _ _ rfl
          generalize statement : Statement.matchOrphans cleanup.entityType cleanup.sourceId
            (topologyTime cleanup.runStartedAt) topologyCleanupBatchSize = c
          obtain ⟨answer, answered, step⟩ := stepOnce_statement c _ m g
          have state : (graphHandler c m g).2 = g := by
            subst statement
            exact (graphHandler_state _ m g).elim id id
          rw [step, state]
          refine ⟨idle, ?_⟩
          rcases answer with e | rows
          · exact .failed e
          · subst statement
            have disposable := fun vids => @disposable_of_matchOrphans _ _ _ _ _ _ _ vids old answered
            dsimp only
            rcases read : topologyResultVIDs rows with _ | _ | ⟨vid, vids⟩
            · exact .failed _
            · exact .returned
            · exact .deleting n (vid :: vids) rfl (disposable _ read)
  | deleting n vids here disposable =>
      subst here
      rw [cleanup.deleteBatch_next]
      obtain ⟨answer, answered, step⟩ := stepOnce_statement (.deleteVertices vids) _ m g
      rw [step]
      refine ⟨fun v member gone => ?_, ?_⟩
      · rcases graphHandler_state (.deleteVertices vids) m g with same | ran
        · rw [same] at gone
          exact idle v member gone
        · rw [ran] at gone
          simp only [Statement.execute, Table.find?_erase, Table.find?_of_mem member] at gone
          refine disposable v.vid ?_
          simpa using gone
      · rcases answer with e | rows
        · exact .failed e
        · exact .finding n rfl

/-- A statement of a write that does not disturb the batch leaves the cleanup where it is. -/
theorem CleanupThread.tolerates {cleanup : OrphanCleanup} {g : Graph} {p : GraphProg Unit}
    (thread : CleanupThread cleanup g p) {statement : Statement} (writes : statement.writes = true)
    (order : List String)
    (undisturbed : ∀ vids, p.next? = some (.deleteVertices vids) →
      statement.disturbs g vids = false) :
    CleanupThread cleanup (statement.execute order g).2 p := by
  cases thread with
  | finding n here => exact .finding n here
  | returned => exact .returned
  | failed e => exact .failed e
  | deleting n vids here disposable =>
      have calm : statement.disturbs g vids = false := undisturbed vids (by rw [here]; rfl)
      exact .deleting n vids here fun vid listed =>
        disposable_execute writes order calm listed (disposable vid listed)

/-! ## Runs -/

section

variable {ι : Type} [DecidableEq ι]

/-- **Quiet runs are safe.**  Where nothing disturbs a batch between the statement that finds it and
the statement that deletes it, only old and isolated vertices are deleted. -/
theorem orphans_safe (cleanup : OrphanCleanup) (writes : ι → TopologyWrite) (g : Graph)
    (schedule : List (Option ι × GraphMove))
    (calm : Prog.Along graphHandler (fun ps g step => quiet ps g step = true) schedule
      (cleanupThreads cleanup writes) g) :
    Prog.Along graphHandler (deletesOnlyOrphans (topologyTime cleanup.runStartedAt)) schedule
      (cleanupThreads cleanup writes) g := by
  refine Prog.along_invariant (I := fun ps g => CleanupThread cleanup g (ps none) ∧
    ∀ i, (ps (some i)).Only fun statement => statement.writes = true) ?_ schedule
    ⟨cleanupThread_start cleanup g, fun i => only_writes (writes i)⟩ calm
  rintro ps g i m ⟨thread, others⟩ calm
  cases i with
  | none =>
      have old : ∀ tag sourceId before limit,
          (ps none).next? = some (.matchOrphans tag sourceId before limit) →
          g.batchOld tag before
            ((Statement.matchOrphans tag sourceId before limit).listed m g) = true := by
        intro tag sourceId before limit next
        simpa only [quiet, next] using calm
      obtain ⟨safe, next⟩ := thread.step m old
      refine ⟨fun v member gone => ?_, ?_, fun j => ?_⟩
      · obtain ⟨older, isolated⟩ := safe v member gone
        exact ⟨older v member rfl, isolated⟩
      · simpa only [Function.update_self] using next
      · simpa only [Function.update_of_ne, ne_eq, reduceCtorEq, not_false_eq_true] using others j
  | some i =>
      rw [Function.update_of_ne (Option.some_ne_none i).symm]
      have kept : ∀ j, (Function.update ps (some i) (Prog.stepOnce graphHandler (ps (some i)) m g).1
          (some j)).Only fun statement => statement.writes = true := by
        intro j
        rcases eq_or_ne j i with rfl | apart
        · simpa only [Function.update_self] using (others j).stepOnce m g
        · rw [Function.update_of_ne (by simpa using apart)]
          exact others j
      have stored : ∀ v ∈ g.vertices.rows, g.vertices.find? v.key ≠ none := by
        intro v member
        simp [Table.find?_of_mem member]
      suffices moved : (∀ v ∈ g.vertices.rows,
          (Prog.stepOnce graphHandler (ps (some i)) m g).2.vertices.find? v.key ≠ none) ∧
          CleanupThread cleanup (Prog.stepOnce graphHandler (ps (some i)) m g).2 (ps none) from
        ⟨fun v member gone => (moved.1 v member gone).elim, moved.2, kept⟩
      have sent := others i
      cases shape : ps (some i) with
      | call c k =>
          rw [shape] at sent
          obtain ⟨answer, -, step⟩ := stepOnce_statement c k m g
          rw [step]
          rcases graphHandler_state c m g with same | ran
          · rw [same]
            exact ⟨stored, thread⟩
          · by_cases refused : m.fault = .refused
            · rw [graphHandler_refused refused]
              exact ⟨stored, thread⟩
            · rw [ran]
              refine ⟨fun v => find?_execute_writes sent.1 m.order, thread.tolerates sent.1 m.order
                fun vids next => ?_⟩
              simp only [quiet, shape, Prog.next?_call, next] at calm
              simpa [refused] using calm
      | _ => exact ⟨stored, thread⟩

end

/-! A port last seen at the time 1000, and a cleanup with the cutoff 2000. -/

def stalePort : EntityIdentity := ⟨"s", .interface, "port-1"⟩

def stalePortRow : VertexRow where
  tag := .interface
  vid := stalePort.vid.toOption.getD ""
  sourceId := "s"
  stableId := "port-1"
  columns := (vertexColumns .interface).map fun name => (name, .null)
  createdAt := 1000
  syncedAt := 1000
  named := by simp [Function.comp_def]

def stalePortGraph : Graph := ⟨⟨[stalePortRow], by simp⟩, .empty⟩

def stalePortCleanup : OrphanCleanup := ⟨"s", .interface, 2000, 2⟩

/-- The other process sees the port again, at the time 3000. -/
def stalePortWrite : TopologyWrite :=
  .vertex ⟨stalePort, ⟨[("port_name", .string "eth0")], by simp⟩, 3000, 3000⟩

def stalePortSchedule (order : List Bool) : List (Option Unit × GraphMove) :=
  order.map fun writer => (if writer then some () else none, ⟨.none, []⟩)

/-- The cleanup deletes the port, then the write inserts it again. -/
theorem orphans_safe_serial :
    Prog.Along graphHandler (deletesOnlyOrphans 2000)
      (stalePortSchedule [false, false, true, true, true, false])
      (cleanupThreads stalePortCleanup fun _ => stalePortWrite) stalePortGraph :=
  orphans_safe stalePortCleanup (fun _ : Unit => stalePortWrite) stalePortGraph
    (stalePortSchedule [false, false, true, true, true, false]) (by decide +kernel)

/-- The cleanup finds the port, the write refreshes it, the cleanup deletes it. -/
theorem orphans_refreshed :
    ¬ Prog.Along graphHandler (deletesOnlyOrphans 2000)
      (stalePortSchedule [false, true, true, true, false])
      (cleanupThreads stalePortCleanup fun _ => stalePortWrite) stalePortGraph := by
  decide +kernel

end UnifiedInfraTopology
