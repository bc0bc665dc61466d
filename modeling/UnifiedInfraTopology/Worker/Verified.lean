import UnifiedInfraTopology.Verify.Persistence
import UnifiedInfraTopology.Worker.Completed
import UnifiedInfraTopology.Worker.Convergence

/-!
# The verification accepts a succeeded run

`cmd/worker/verify.go` knows nothing of the worker: it reads the rows of a run and of its checkpoint,
counts the vertices of the source, and checks each vertex of the snapshot.  What `executeClaimed`
leaves passes these checks (`executeClaimed_verified`), whatever the order in which its statements were
answered, where nobody else writes, the clock does not go back, and the vertices that were stored
before carry times in order.
-/

namespace UnifiedInfraTopology

open Lib Verify

/-! ## What the verification reads -/

/-- The stored vertices of the scope carry times in order, before this one. -/
def Graph.StoredBefore (g : Graph) (tag : EntityType) (sourceId : String) (t : Time) : Prop :=
  ∀ v ∈ g.vertices.rows, v.tag = tag → v.sourceId = sourceId →
    v.createdAt.isZero = false ∧ v.createdAt ≤ v.syncedAt ∧ v.syncedAt < t

theorem Graph.StoredBefore.older {g : Graph} {tag : EntityType} {sourceId : String} {t : Time}
    (before : g.StoredBefore tag sourceId t) : g.Older tag sourceId t :=
  fun v member tagged own => (before v member tagged own).2.2

/-- The rows of the source, of any time. -/
def Graph.ofSource (g : Graph) (tag : EntityType) (sourceId : String) : List VertexRow :=
  g.vertices.rows.filter fun v => v.tag = tag ∧ v.sourceId = sourceId

/-- What the verification checks of a vertex. -/
def VertexRow.sampled (v : VertexRow) : String × String × Time × Time :=
  (v.vid, v.stableId, v.createdAt, v.syncedAt)

/-- What a row of an answer says of its vertex. -/
def Verify.PersistenceSample.vertex (row : PersistenceSample) : String × String × Time × Time :=
  (row.vid, row.stableId, row.createdAt, row.syncedAt)

/-- The counts of the report and the rows are exact, the rows in any order. -/
structure ExactRows (g : Graph) (snapshot : Time) (report : PersistenceReport)
    (rows : List PersistenceSample) : Prop where
  total : report.graphTotal = (g.ofSource report.entity report.sourceId).length
  current : report.graphCurrent = (g.current report.entity report.sourceId snapshot).length
  rows : (rows.map PersistenceSample.vertex).Perm
    ((g.current report.entity report.sourceId snapshot).map VertexRow.sampled)

/-- The report on these rows of the control store, with exact counts. -/
def exactReport (s : Store) (g : Graph) (source : Source) (entity : EntityType) (run : PersistenceRun)
    (checkpoint : PersistenceCheckpoint) : PersistenceReport :=
  { preflightReport s source entity with
    run := some run
    checkpoint := some checkpoint
    graphTotal := (g.ofSource entity source.id).length
    graphCurrent :=
      (g.current entity source.id (topologyTime checkpoint.cursor.snapshotAt)).length }

/-- The rows of the graph at a time, with what is checked of them. -/
def exactSamples (g : Graph) (entity : EntityType) (sourceId : String) (snapshot : Time) :
    List PersistenceSample :=
  (g.current entity sourceId snapshot).map fun v =>
    ⟨v.vid, v.stableId, "", none, none, none, v.createdAt, v.syncedAt⟩

theorem exactRows_exactSamples (s : Store) (g : Graph) (source : Source) (entity : EntityType)
    (run : PersistenceRun) (checkpoint : PersistenceCheckpoint) :
    ExactRows g (topologyTime checkpoint.cursor.snapshotAt)
      (exactReport s g source entity run checkpoint)
      (exactSamples g entity source.id (topologyTime checkpoint.cursor.snapshotAt)) := by
  refine ⟨rfl, rfl, ?_⟩
  rw [exactSamples, List.map_map]
  exact .refl _

theorem Graph.current_le_ofSource (g : Graph) (tag : EntityType) (sourceId : String) (t : Time) :
    (g.current tag sourceId t).length ≤ (g.ofSource tag sourceId).length := by
  rw [Graph.current, Graph.ofSource, ← List.countP_eq_length_filter, ← List.countP_eq_length_filter]
  refine List.countP_mono_left fun v _ here => ?_
  have scope := of_decide_eq_true here
  exact decide_eq_true ⟨scope.1, scope.2.1⟩

/-! ## The rows of the control store -/

/-- The store is one that operations have led to, and the run is claimed in it at its start. -/
structure ClaimedStore (run : SyncRun) (source : Source) (startedAt : Time) (s : Store) : Prop where
  reached : ∃ sources ops, s = (Store.withoutRuns sources .empty).applyAll ops ∧
    (∀ request now, Op.enqueue request now ∈ ops → FreshRequest request) ∧
    ∀ op ∈ ops, op.BeginsAt run.id startedAt
  row : ∃ r, s.runs.find? run.id = some r ∧ r.status = .running ∧ r.sourceId = source.id ∧
    r.startedAt = some startedAt.truncateMicro

/-- The run was claimed for the source, and its columns agree. -/
structure StartedRow (sourceId : String) (startedAt : Time) (r : SyncRun) : Prop where
  source : r.sourceId = sourceId
  started : r.startedAt = some startedAt.truncateMicro
  claimed : r.status ≠ .queued
  columns : WellFormed r

theorem StartedRow.step {sourceId : String} {startedAt : Time} {op : Op} {r r' : SyncRun}
    (step : RunStep op r r') (row : StartedRow sourceId startedAt r) :
    StartedRow sourceId startedAt r' := by
  refine ⟨step.sourceId_eq.trans row.source, ?_, ?_, row.columns.step step⟩
  · cases step with
    | claimed _ _ queued => exact (row.claimed queued).elim
    | _ => exact row.started
  · cases step with
    | same => exact row.claimed
    | cancelRequested => exact row.claimed
    | renewed => exact row.claimed
    | advanced => exact row.claimed
    | transitioned allowed =>
        rcases target_of_transition allowed with rfl | rfl | ended
        · exact nofun
        · exact nofun
        · rintro rfl
          cases ended
    | _ => exact nofun

section

variable {run : SyncRun} {source : Source} {startedAt since : Time} {selection : Selection}
  {p : Preparation source.id run.id selection.entity} {w : World syncService} {r : SyncRun}
  {s : Store}

theorem ClaimedStore.startedRow (claimed : ClaimedStore run source startedAt s) :
    ∃ r, s.runs.find? run.id = some r ∧ StartedRow source.id startedAt r := by
  obtain ⟨sources, ops, rfl, enqueued, -⟩ := claimed.reached
  obtain ⟨r, found, running, own, started⟩ := claimed.row
  refine ⟨r, found, own, started, by simp [running], ?_⟩
  exact Store.rows_invariant (P := WellFormed) (fun r member => by cases member)
    (fun request now listed => (enqueued request now listed).wellFormed) (fun _ _ _ => .step) r
    (Table.mem_of_find? found)

theorem ClaimedStore.claimedIn (claimed : ClaimedStore run source startedAt s) :
    ClaimedIn run startedAt s := by
  obtain ⟨sources, ops, rfl, -, begins⟩ := claimed.reached
  obtain ⟨r, found, running, -⟩ := claimed.row
  exact claimedIn_applyAll sources begins ⟨r, found, by simp [running]⟩

/-- In every execution, the row of the run keeps its start, and the texts of checkpoints decode to
what was stored. -/
theorem ClaimedStore.after {ε α : Type} (claimed : ClaimedStore run source startedAt w.store)
    (prog : SyncProg ε α) (script : List (Move syncService)) :
    TextsOk (prog.run handler script w).2.1.store ∧
      ∃ r, (prog.run handler script w).2.1.store.runs.find? run.id = some r ∧
        StartedRow source.id startedAt r := by
  obtain ⟨ops, same⟩ := store_run prog script w
  rw [same]
  constructor
  · obtain ⟨sources, before, reached, -⟩ := claimed.reached
    rw [reached, ← Store.applyAll_append]
    exact textsOk_applyAll sources _
  · obtain ⟨r, found, row⟩ := claimed.startedRow
    exact Store.run_invariant found row (fun _ _ _ => .step) ops

/-- The verification reads the row of a completed run. -/
theorem CompletedAs.readRun (completed : CompletedAs run source startedAt selection p r w) :
    Verify.readRun w.store run.id =
      .ok ⟨r.id, r.sourceId, r.status, r.startedAt, r.finishedAt, r.leaseExpiresAt⟩ := by
  rw [Verify.readRun, completed.stored]

/-- A selected resource is the one that the verification looks for. -/
theorem Selection.Matched.resource (matched : selection.Matched) :
    persistenceResource selection.entity = selection.resource := by
  obtain ⟨entity, resource, collectionErrorCode, fullSource⟩ := selection
  obtain ⟨code, selected⟩ := matched
  cases entity <;> cases selected <;> rfl

/-- What a checkpoint that decodes passes. -/
theorem version_of_checks {resource : String} {cursor : DeviceSyncCursor}
    (valid : validateInventoryResourceCursor resource cursor = .ok ()) :
    cursor.version = 1 ∧ 0 ≤ cursor.total ∧ cursor.snapshotAt.isZero = false := by
  unfold validateInventoryResourceCursor at valid
  split_ifs at valid with uplinks failing
  · unfold validateDeviceSyncCursor at valid
    split_ifs at valid with failing
    simp only [not_or] at failing
    obtain ⟨version, -, -, -, -, real, total, -⟩ := failing
    exact ⟨not_not.mp version, not_lt.mp total, by simpa using real⟩
  · simp only [not_or] at failing
    obtain ⟨version, -, real, -, total, -⟩ := failing
    exact ⟨not_not.mp version, not_lt.mp total, by simpa using real⟩

/-- The verification reads the checkpoint of a completed run, with the cursor the run has reached. -/
theorem CompletedAs.readCheckpoint (completed : CompletedAs run source startedAt selection p r w)
    (texts : TextsOk w.store) (alone : Alone run.id w) : ∃ completedAt,
    Verify.readCheckpoint w.store source.id (persistenceResource selection.entity) =
        .ok ⟨true, some completedAt, .ofStored p.cursor⟩ ∧
      p.cursor.version = 1 ∧ p.cursor.runId = run.id ∧ 0 ≤ p.cursor.total ∧
      p.cursor.snapshotAt = startedAt.truncateMicro ∧ p.cursor.snapshotAt.isZero = false := by
  obtain ⟨checkpoint, stored, complete, dated, own⟩ := completed.checkpoint
  obtain ⟨extra, -, trail⟩ := completed.concluding
  obtain ⟨reached, snapshot⟩ := (trail.kept trivial).cursor alone _ checkpoint stored own rfl
  obtain ⟨row, found, decoded⟩ := Option.bind_eq_some_iff.mp stored
  have read := SyncCheckpoint.decoded?_eq_some.mp decoded
  have text := (texts _ row found).cursor read
  obtain ⟨version, total, real⟩ := version_of_checks (checks_of_decode read).1
  rw [reached] at text version total real own snapshot
  obtain ⟨completedAt, ended⟩ := Option.isSome_iff_exists.mp dated
  have columns : checkpoint.complete = row.complete ∧ checkpoint.completedAt = row.completedAt := by
    obtain ⟨cursor, -, rfl⟩ := decode_columns read
    exact ⟨rfl, rfl⟩
  refine ⟨completedAt, ?_, version, own, total, snapshot, real⟩
  rw [Verify.readCheckpoint, completed.matched.resource, found]
  simp only [unmarshalPersistenceCursor_ofStored text, ← columns.1, ← columns.2, complete, ended]

end

/-! ## The rows of the graph -/

section

variable {sourceId : String} {entity : EntityType} {snapshotAt : Time} {first g : Graph}
  {r : EntityRecord} {v : VertexRow}

/-- The row of a record is accepted. -/
theorem samplePersisted_of_recordStored {row : PersistenceSample}
    (stored : RecordStored sourceId entity snapshotAt first r v) (same : row.vertex = v.sampled)
    (named : r.identity ≠ "" ∧ trimSpace r.identity = r.identity)
    (whole : topologyTime snapshotAt = snapshotAt) (real : snapshotAt.isZero = false)
    (before : first.StoredBefore entity sourceId snapshotAt) :
    SamplePersisted sourceId entity snapshotAt row := by
  simp only [PersistenceSample.vertex, VertexRow.sampled, Prod.mk.injEq] at same
  obtain ⟨vid, stableId, createdAt, syncedAt⟩ := same
  obtain ⟨written, prepared, key, -⟩ := stored.row
  obtain ⟨hashed, tag, -, -, -, -⟩ := prepareVertex_ok prepared
  have identity : row.stableId = r.identity := stableId.trans stored.named.2
  have synced : row.syncedAt = snapshotAt := syncedAt.trans (stored.syncedAt.trans whole)
  refine ⟨by rw [identity]; exact named, ?_, synced, ?_⟩
  · rw [createdAt, synced]
    cases found : first.vertices.find? v.key with
    | none =>
        rw [stored.created found, whole]
        exact ⟨real, le_refl _⟩
    | some v₀ =>
        obtain ⟨source, -, old⟩ := stored.kept v₀ found
        have tagged : v₀.tag = entity :=
          (congrArg Prod.fst ((Table.key_of_find? found).trans key)).trans tag
        obtain ⟨born, ordered, earlier⟩ := before v₀ (Table.mem_of_find? found) tagged source
        rw [old]
        exact ⟨born, le_trans ordered earlier.le⟩
  · have placed : v.vid = written.vid := congrArg Prod.snd key
    rw [identity, vid, placed]
    exact hashed

/-- The vertices of a scope at a time are distinct. -/
theorem Graph.nodup_current (g : Graph) (tag : EntityType) (sourceId : String) (t : Time) :
    ((g.current tag sourceId t).map VertexRow.vid).Nodup := by
  refine List.Nodup.map_on (fun v member v' member' same => ?_)
    ((List.Nodup.of_map _ g.vertices.nodup).filter _)
  obtain ⟨stored, scope⟩ := List.mem_filter.mp member
  obtain ⟨stored', scope'⟩ := List.mem_filter.mp member'
  refine Table.eq_of_mem stored stored' (Prod.ext ?_ same)
  exact (of_decide_eq_true scope).1.trans (of_decide_eq_true scope').1.symm

/-- The vertices of a synchronised scope are those of the records. -/
theorem Synchronized.recorded {records : List EntityRecord}
    (synchronized : Synchronized sourceId entity snapshotAt records first g)
    (distinct : (records.map (·.identity)).Nodup)
    (member : v ∈ g.current entity sourceId (topologyTime snapshotAt)) :
    ∃ r ∈ records, RecordStored sourceId entity snapshotAt first r v := by
  obtain ⟨r, inside, identity⟩ := List.mem_map.mp
    (synchronized.exact_.mem_iff.mp (List.mem_map_of_mem (f := VertexRow.stableId) member))
  obtain ⟨v', member', stored⟩ := synchronized.stored r inside
  have apart := synchronized.exact_.nodup_iff.mpr distinct
  rw [List.inj_on_of_nodup_map apart member member' (identity.symm.trans stored.named.2.symm)]
  exact ⟨r, inside, stored⟩

/-- What the verification checks of the rows holds of a synchronised graph. -/
theorem persisted_of_synchronized {records : List EntityRecord} {rows : List PersistenceSample}
    (synchronized : Synchronized sourceId entity snapshotAt records first g)
    (distinct : (records.map (·.identity)).Nodup)
    (exact_ : (rows.map PersistenceSample.vertex).Perm
      ((g.current entity sourceId (topologyTime snapshotAt)).map VertexRow.sampled))
    (named : ∀ r ∈ records, r.identity ≠ "" ∧ trimSpace r.identity = r.identity)
    (whole : topologyTime snapshotAt = snapshotAt) (real : snapshotAt.isZero = false)
    (before : first.StoredBefore entity sourceId snapshotAt) :
    (∀ row ∈ rows, SamplePersisted sourceId entity snapshotAt row) ∧ (rows.map (·.vid)).Nodup ∧
      rows.length = records.length := by
  refine ⟨fun row member => ?_, ?_, ?_⟩
  · obtain ⟨v, here, same⟩ := List.mem_map.mp (exact_.mem_iff.mp (List.mem_map_of_mem member))
    obtain ⟨r, inside, stored⟩ := synchronized.recorded distinct here
    exact samplePersisted_of_recordStored stored same.symm (named r inside) whole real before
  · have vids := exact_.map Prod.fst
    rw [List.map_map, List.map_map] at vids
    exact vids.nodup_iff.mpr (g.nodup_current _ _ _)
  · have counted := synchronized.exact_.length_eq
    have answered := exact_.length_eq
    simp only [List.length_map] at counted answered
    omega

end

/-! ## Executions -/

section

variable {run : SyncRun} {source : Source} {startedAt since : Time} {selection : Selection}
  {p : Preparation source.id run.id selection.entity} {r : SyncRun} {first : Graph}
  {s : World syncService × GraphSide}

/-- What a completed run has stored passes every check. -/
theorem reportPersisted_of_completed (sound : SystemSound first s)
    (births : first.KeepsBirths s.2.graph)
    (completed : CompletedAs run source startedAt selection p r s.1)
    (row : StartedRow source.id startedAt r) (texts : TextsOk s.1.store) (alone : Alone run.id s.1)
    (fromStart : FromStart s.1.log)
    (before : first.StoredBefore selection.entity source.id startedAt.truncateMicro) :
    ∃ run' checkpoint', Verify.readRun s.1.store run.id = .ok run' ∧
      Verify.readCheckpoint s.1.store source.id (persistenceResource selection.entity) =
        .ok checkpoint' ∧
      ∀ report rows, report.sourceId = source.id → report.entity = selection.entity →
        ExactRows s.2.graph (topologyTime checkpoint'.cursor.snapshotAt) report rows →
          ReportPersisted report run' checkpoint' rows := by
  obtain ⟨completedAt, read, version, own, positive, snapshot, real⟩ :=
    completed.readCheckpoint texts alone
  obtain ⟨extra, later, trail⟩ := completed.concluding
  refine ⟨_, _, completed.readRun, read, fun report rows sourceId entity exact_ => ?_⟩
  have dated : p.checkpoint.cursor.snapshotAt = startedAt.truncateMicro :=
    (p.collects.kept p.begun.1 rfl).2.symm.trans snapshot
  have whole : topologyTime startedAt.truncateMicro = startedAt.truncateMicro :=
    Time.truncateMicro_truncateMicro startedAt
  have zero : p.checkpoint.cursor.nextOffset = 0 := by
    refine fromStart (.begun p.checkpoint) ?_ p.checkpoint rfl
    change Landmark.begun p.checkpoint ∈ s.1.landmarks
    rw [trail.landmarks]
    simp [Preparation.landmarks]
  obtain ⟨reached, counted⟩ := p.whole zero
  obtain ⟨seen, added⟩ := Option.isSome_iff_exists.mp p.identities
  obtain ⟨-, named, -⟩ := addEntityIdentities_some added
  have synchronized := synchronized_of_resting sound (resting_of_joined sound completed.joined)
    births trail.landmarks later (by rw [dated, whole]; exact before.older)
  have rowsExact := exact_.rows
  rw [dated] at synchronized
  simp only [sourceId, entity, PersistenceCursor.ofStored, snapshot] at rowsExact
  obtain ⟨stored, distinct, length⟩ := persisted_of_synchronized synchronized p.distinct rowsExact named
    whole (snapshot ▸ real) before
  obtain ⟨f, finished, ordered⟩ := completed.finished
  have released : r.leaseExpiresAt = none := by
    have lease := row.columns.lease
    rw [completed.succeeded] at lease
    simpa [SyncRunStatus.executing] using lease
  have id : r.id = run.id := Table.key_of_find? completed.stored
  have within := s.2.graph.current_le_ofSource selection.entity source.id
    (topologyTime startedAt.truncateMicro)
  have answered := exact_.rows.length_eq
  have current := exact_.current
  have total := exact_.total
  simp only [List.length_map, sourceId, entity, PersistenceCursor.ofStored, snapshot]
    at answered current total
  refine ⟨row.source.trans sourceId.symm, completed.succeeded,
    ⟨startedAt.truncateMicro, f, row.started, finished, ordered, snapshot⟩, released, ⟨rfl, rfl⟩,
    ⟨version, own.trans id.symm⟩, ⟨positive, reached⟩, ⟨?_, ?_, ?_⟩, ?_, distinct⟩
  · change report.graphCurrent = p.cursor.total
    omega
  · omega
  · omega
  · simp only [sourceId, entity, PersistenceCursor.ofStored, snapshot]
    exact stored

end

/-- The entity whose coverage the run has asked for. -/
def World.selected (w : World syncService) : Option EntityType :=
  match w.landmarks.head? with
  | some (.covered entity _) => some entity
  | _ => none

/-- **The verification accepts every success.**  In every execution of `executeClaimed` over a graph,
from offset 0, under a clock that does not go back and without another writer: where the run has
succeeded, and the vertices of its scope were stored before with times in order, the report on the
rows of the run and the checkpoint and on exact answers of the graph passes. -/
theorem executeClaimed_verified (worker : SyncWorker) (run : SyncRun) (source : Source)
    (startedAt since : Time) (script : List SystemMove) (start : World syncService)
    (fresh : start.log = []) (claimed : ClaimedStore run source startedAt start.store)
    (began : startedAt ≤ since) (first : Graph)
    (unrivaled : Unrivaled run.id source.id ((executeClaimed worker run source startedAt).run
      systemHandler script (start, ⟨first, [], []⟩)).2.1.1)
    (ticking : Ticking since ((executeClaimed worker run source startedAt).run
      systemHandler script (start, ⟨first, [], []⟩)).2.1.1.log)
    (fromStart : FromStart ((executeClaimed worker run source startedAt).run
      systemHandler script (start, ⟨first, [], []⟩)).2.1.1.log)
    (succeeded : ∃ r, ((executeClaimed worker run source startedAt).run systemHandler script
      (start, ⟨first, [], []⟩)).2.1.1.store.runs.find? run.id = some r ∧ r.status = .succeeded) :
    ∃ w side entity, (w, side) = ((executeClaimed worker run source startedAt).run systemHandler
        script (start, ⟨first, [], []⟩)).2.1 ∧ w.selected = some entity ∧
      (first.StoredBefore entity source.id startedAt.truncateMicro →
        ∃ run' checkpoint', Verify.readRun w.store run.id = .ok run' ∧
          Verify.readCheckpoint w.store source.id (persistenceResource entity) = .ok checkpoint' ∧
          ∀ report rows, report.sourceId = source.id → report.entity = entity →
            report.run = some run' → report.checkpoint = some checkpoint' →
            ExactRows side.graph (topologyTime checkpoint'.cursor.snapshotAt) report rows →
              ∃ passed, validatePersistenceReport report rows = .ok passed ∧
                passed.status = "PASS") := by
  have sound := systemSound_executeClaimed worker run source startedAt script fresh first
  have births : first.KeepsBirths ((executeClaimed worker run source startedAt).run systemHandler
      script (start, ⟨first, [], []⟩)).2.1.2.graph := keepsBirths_executeClaimed script fresh first
  obtain ⟨moves, projected⟩ := Prog.Projects.run projects_system
    (executeClaimed worker run source startedAt) script (start, ⟨first, [], []⟩)
  have sofar : CompletedSoFar run source startedAt since
      ((executeClaimed worker run source startedAt).run handler moves start).2.1 :=
    completedSoFar_executeClaimed fresh claimed.claimedIn began moves
  have kept := claimed.after (executeClaimed worker run source startedAt) moves
  simp only at projected
  rw [projected] at sofar kept
  obtain ⟨texts, row, found, started⟩ := kept
  generalize ((executeClaimed worker run source startedAt).run systemHandler script
    (start, ⟨first, [], []⟩)).2.1 = s at *
  obtain ⟨r, found', done⟩ := succeeded
  cases found.symm.trans found'
  rcases sofar unrivaled ticking with open_ | ⟨selection, p, r, completed⟩
  · obtain ⟨r, found', unsucceeded⟩ := open_
    cases found.symm.trans found'
    exact (unsucceeded done).elim
  · cases found.symm.trans completed.stored
    refine ⟨s.1, s.2, selection.entity, rfl, ?_, fun before => ?_⟩
    · obtain ⟨extra, -, trail⟩ := completed.concluding
      rw [World.selected, trail.landmarks]
      rfl
    · obtain ⟨run', checkpoint', readRun, readCheckpoint, persisted⟩ := reportPersisted_of_completed
        sound births completed started texts unrivaled.alone fromStart before
      refine ⟨run', checkpoint', readRun, readCheckpoint, ?_⟩
      intro report rows sourceId entity stored begun exact_
      obtain ⟨passed, ok, status, -⟩ := (validatePersistenceReport_ok_iff report rows).mpr
        ⟨run', checkpoint', stored, begun, persisted report rows sourceId entity exact_⟩
      exact ⟨passed, ok, status⟩

/-! ## Two executions -/

/-- The store of `claimedWorld` is such a store. -/
theorem claimedStore_claimedWorld : ClaimedStore (Store.claimed 2000 (queuedRun "r" "s"))
    ⟨"s", "lab", "cmdb", "ref", true⟩ 2000 claimedWorld.store := by
  constructor
  · refine ⟨oneSource "s", [.enqueue (queuedRun "r" "s") 1000, .claimNext none 2000], rfl, ?_,
      by simp [Op.BeginsAt]⟩
    intro request now listed
    simp only [List.mem_cons, Op.enqueue.injEq, reduceCtorEq, List.not_mem_nil, or_false] at listed
    rw [listed.1]
    exact ⟨rfl, rfl, rfl, rfl, rfl, rfl⟩
  · refine ⟨Store.claimed 2000 (queuedRun "r" "s"), ?_⟩
    decide +kernel

/-- The run that collects the device is verified. -/
theorem executeClaimed_verified_device : ∃ run' checkpoint' passed,
    validatePersistenceReport (exactReport executeDeviceSystem.2.1.1.store
        executeDeviceSystem.2.1.2.graph ⟨"s", "lab", "cmdb", "ref", true⟩ .device run' checkpoint')
      (exactSamples executeDeviceSystem.2.1.2.graph .device "s"
        (topologyTime checkpoint'.cursor.snapshotAt)) = .ok passed ∧ passed.status = "PASS" := by
  have ran : Unrivaled "r" "s" executeDeviceSystem.2.1.1 ∧
      Ticking 2000 executeDeviceSystem.2.1.1.log ∧ FromStart executeDeviceSystem.2.1.1.log ∧
      (executeDeviceSystem.2.1.1.store.runs.find? "r").any (fun r => r.status = .succeeded) = true ∧
      executeDeviceSystem.2.1.1.selected = some .device := by
    decide +kernel
  obtain ⟨unrivaled, ticking, fromStart, succeeded, selected⟩ := ran
  obtain ⟨r, found, done⟩ := (Option.any_eq_true _ _).mp succeeded
  have before : devicesGraph.StoredBefore .device "s" (Time.truncateMicro 2000) := by
    have times : ∀ v ∈ devicesGraph.vertices.rows, v.createdAt.isZero = false ∧
        v.createdAt ≤ v.syncedAt ∧ v.syncedAt < Time.truncateMicro 2000 := by decide
    exact fun v member _ _ => times v member
  unfold executeDeviceSystem at unrivaled ticking fromStart found selected ⊢
  obtain ⟨w, side, entity, same, asked, verified⟩ := executeClaimed_verified ⟨1, 3⟩
    (Store.claimed 2000 (queuedRun "r" "s")) ⟨"s", "lab", "cmdb", "ref", true⟩ 2000 2000 systemScript
    claimedWorld rfl claimedStore_claimedWorld (le_refl _) devicesGraph unrivaled ticking fromStart
    ⟨r, found, of_decide_eq_true done⟩
  rw [← same] at selected ⊢
  cases selected.symm.trans asked
  obtain ⟨run', checkpoint', -, -, passes⟩ := verified before
  obtain ⟨passed, ok, status⟩ := passes _ _ rfl rfl rfl rfl
    (exactRows_exactSamples w.store side.graph ⟨"s", "lab", "cmdb", "ref", true⟩ .device run'
      checkpoint')
  exact ⟨run', checkpoint', passed, ok, status⟩

theorem nullColumns_named (tag : EntityType) :
    ((vertexColumns tag).map fun name => (name, GraphValue.null)).map (·.1) = vertexColumns tag := by
  simp [Function.comp_def]

/-- A device that was stored with the zero time as its creation. -/
def undatedDevice : VertexRow where
  tag := .device
  vid := (EntityIdentity.mk "s" .device "SN-7").vid.toOption.getD ""
  sourceId := "s"
  stableId := "SN-7"
  columns := (vertexColumns .device).map fun name => (name, .null)
  createdAt := 0
  syncedAt := 1000
  named := nullColumns_named .device

def undatedGraph : Graph := ⟨⟨[undatedDevice], by decide +kernel⟩, .empty⟩

/-- The run collects the device again. -/
def executeUndatedSystem :
    Outcome (Option SyncError) Unit × (World syncService × GraphSide) × List SystemMove :=
  (executeClaimed ⟨1, 3⟩ (Store.claimed 2000 (queuedRun "r" "s")) ⟨"s", "lab", "cmdb", "ref", true⟩
    2000).run systemHandler systemScript (claimedWorld, ⟨undatedGraph, [], []⟩)

/-- A row without a creation time is refused, whatever the report says. -/
theorem not_validated_of_undated {report : PersistenceReport} {rows : List PersistenceSample}
    {row : PersistenceSample} (member : row ∈ rows) (undated : row.createdAt.isZero = true) :
    ¬∃ passed, validatePersistenceReport report rows = .ok passed := by
  rintro ⟨passed, ok⟩
  unfold validatePersistenceReport at ok
  split at ok
  · split_ifs at ok with accepted
    have born := ((persisted_iff.mp accepted).stored row member).born.1
    rw [undated] at born
    cases born
  · cases ok

/-- The creation time is kept, so that the success is not verified. -/
theorem executeClaimed_unverified :
    ClaimedStore (Store.claimed 2000 (queuedRun "r" "s")) ⟨"s", "lab", "cmdb", "ref", true⟩ 2000
        claimedWorld.store ∧
      (Unrivaled "r" "s" executeUndatedSystem.2.1.1 ∧
        Ticking 2000 executeUndatedSystem.2.1.1.log ∧ FromStart executeUndatedSystem.2.1.1.log ∧
        (executeUndatedSystem.2.1.1.store.runs.find? "r").any (fun r => r.status = .succeeded) = true ∧
        executeUndatedSystem.2.1.1.selected = some .device) ∧
      (∀ v ∈ undatedGraph.vertices.rows,
        v.createdAt ≤ v.syncedAt ∧ v.syncedAt < Time.truncateMicro 2000) ∧
      ∀ report passed, validatePersistenceReport report
        (exactSamples executeUndatedSystem.2.1.2.graph .device "s" (Time.truncateMicro 2000)) ≠
          .ok passed := by
  have ran : (Unrivaled "r" "s" executeUndatedSystem.2.1.1 ∧
      Ticking 2000 executeUndatedSystem.2.1.1.log ∧ FromStart executeUndatedSystem.2.1.1.log ∧
      (executeUndatedSystem.2.1.1.store.runs.find? "r").any (fun r => r.status = .succeeded) = true ∧
      executeUndatedSystem.2.1.1.selected = some .device) ∧
      ∃ row ∈ exactSamples executeUndatedSystem.2.1.2.graph .device "s" (Time.truncateMicro 2000),
        row.createdAt.isZero = true := by
    decide +kernel
  obtain ⟨facts, row, member, undated⟩ := ran
  exact ⟨claimedStore_claimedWorld, facts, by decide, fun report passed ok =>
    not_validated_of_undated member undated ⟨passed, ok⟩⟩

end UnifiedInfraTopology
