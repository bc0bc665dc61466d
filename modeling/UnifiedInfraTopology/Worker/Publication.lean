import UnifiedInfraTopology.Worker.Collection

/-!
# What a cleanup rests on

`DeleteOrphanVerticesNotSeen` deletes what a run has not written.  `Preparation` is what the run has
read, written and stored when it is published; `trail_prepare` says that `prepare` leaves one, and
that the published run was not canceled.  `CleanupEarned` is what the history before a cleanup says
of the cleanup, and `executeClaimed_cleanup` says that every cleanup is earned.
-/

namespace UnifiedInfraTopology

open Lib

/-! ## The row of a published run -/

/-- The run was published, and no cancellation of it was accepted. -/
def Store.Published (runId : String) (s : Store) : Prop :=
  ∃ r, s.runs.find? runId = some r ∧ (r.status = .publishing ∨ r.status.terminal = true) ∧
    r.cancelRequestedAt = none

section Published

variable {V : Service} {runId : String} {s : Store}

theorem Store.Holds.published (held : s.Holds runId .publishing) : s.Published runId := by
  obtain ⟨r, found, status, uncanceled⟩ := held
  exact ⟨r, found, Or.inl status, uncanceled status⟩

/-- From the published status a run moves to its end. -/
theorem terminal_of_publishing {target : SyncRunStatus}
    (allowed : syncRunTransitionAllowed .publishing target = true) : target.terminal = true := by
  cases target <;> first | rfl | cases allowed

/-- A published run stays so, whoever writes. -/
theorem Store.Published.apply (published : s.Published runId) (op : Op) :
    (s.apply op).Published runId := by
  obtain ⟨r, found, phase, uncanceled⟩ := published
  obtain ⟨r', found', step⟩ := @Store.find?_apply op _ _ _ found
  rcases phase with here | ended
  · refine ⟨r', found', ?_⟩
    cases step with
    | same => exact ⟨Or.inl here, uncanceled⟩
    | cancelQueued _ queued => rw [here] at queued; cases queued
    | cancelRequested _ held => rw [here] at held; simp at held
    | claimed _ _ queued => rw [here] at queued; cases queued
    | transitioned allowed => exact ⟨Or.inr (terminal_of_publishing (here ▸ allowed)), uncanceled⟩
    | renewed => exact ⟨Or.inl here, uncanceled⟩
    | advanced running => rw [here] at running; cases running
    | completed => exact ⟨Or.inr rfl, rfl⟩
    | expiredCanceled _ _ requested => rw [uncanceled] at requested; cases requested
    | expiredFailed => exact ⟨Or.inr rfl, uncanceled⟩
  · exact ⟨r, step.eq_of_terminal ended ▸ found', Or.inr ended, uncanceled⟩

theorem published_disturbed {w : World V} (published : w.store.Published runId)
    (disturbances : List Disturbance) : (w.disturbed disturbances).store.Published runId := by
  induction disturbances generalizing w with
  | nil => exact published
  | cons d disturbances ih =>
      refine ih (w := w.disturb d) ?_
      cases d with
      | operation op => exact published.apply op
      | contextEnds cause => exact published
      | parentEnds => exact published

theorem published_handler {w : World V} (published : w.store.Published runId) (c : Call V)
    (m : Move V) : (handler c m w).2.store.Published runId := by
  have before := published_disturbed published m.disturbances
  cases c with
  | control op =>
      rw [store_handler]
      rcases respond_control (w.disturbed m.disturbances) m op with same | applied
      · rw [same]
        exact before
      · rw [applied]
        exact before.apply op
  | _ => exact before

end Published

/-! ## Preparations -/

/-- What a run has done when it is published: the pages of both readings, the checkpoint it began
with, the landmarks of the collection, and the cursor it has reached. -/
structure Preparation (sourceId runId : String) (entity : EntityType) where
  checkpoint : DeviceSyncCheckpoint
  pages : List EntityPage
  collected : List Landmark
  cursor : DeviceSyncCursor
  reread : List EntityPage
  begun : checkpoint.cursor.runId = runId ∧ checkpoint.cursor.truncated = checkpoint.cursor ∧
    0 ≤ checkpoint.cursor.nextOffset ∧ 0 ≤ checkpoint.cursor.total
  collects : Collects sourceId entity runId checkpoint.cursor.snapshotAt checkpoint.cursor pages
    collected cursor
  finished : ∃ page, pages.getLast? = some page ∧ page.done = true
  identities : (addEntityIdentities [] (allRecords pages)).isSome = true
  confirmed : ∃ last, PagesRead entity rereadCursor (rereadStart cursor.total) reread last ∧
    last.nextOffset = cursor.total
  digest : sha256 (entityIdentityDigest (allRecords reread)) =
    sha256 (entityIdentityDigest (allRecords pages))

namespace Preparation

variable {sourceId runId : String} {entity : EntityType} (p : Preparation sourceId runId entity)

/-- The landmarks of a preparation. -/
def landmarks (fullSource : Bool) : List Landmark :=
  .covered entity (some fullSource) :: .begun p.checkpoint ::
    (p.collected ++ (.moved .validating :: (p.reread.map (.page .second) ++ [.moved .publishing])))

theorem filterMap_landmarks {O : Type} {f : Landmark → Option O} {fullSource : Bool}
    (covered : ∀ entity answer, f (.covered entity answer) = none)
    (moved : ∀ target, f (.moved target) = none) :
    (p.landmarks fullSource).filterMap f = (Landmark.begun p.checkpoint :: p.collected).filterMap f ++
      (p.reread.map (.page .second)).filterMap f := by
  have published : [Landmark.moved .publishing].filterMap f = [] :=
    List.filterMap_cons_none (moved _)
  rw [landmarks, List.filterMap_cons_none (covered _ _), ← List.cons_append, List.filterMap_append,
    List.filterMap_cons_none (moved _), List.filterMap_append, published, List.append_nil]

/-- The pages of both readings are landmarks. -/
theorem pages_eq (fullSource : Bool) :
    (p.landmarks fullSource).filterMap (Landmark.page? .first) = p.pages ∧
      (p.landmarks fullSource).filterMap (Landmark.page? .second) = p.reread := by
  obtain ⟨first, second⟩ := p.collects.pages_eq
  have begun : ∀ pass, (Landmark.begun p.checkpoint).page? pass = none := fun _ => rfl
  constructor
  · rw [p.filterMap_landmarks (fun _ _ => rfl) fun _ => rfl, List.filterMap_cons_none (begun _), first]
    simp [List.filterMap_map, Function.comp_def, Landmark.page?]
  · rw [p.filterMap_landmarks (fun _ _ => rfl) fun _ => rfl, List.filterMap_cons_none (begun _), second]
    simp [List.filterMap_map, Function.comp_def, Landmark.page?]

/-- The cursor reached is the last one stored. -/
theorem stored (fullSource : Bool) :
    ((p.landmarks fullSource).filterMap Landmark.cursor?).getLast? = some p.cursor := by
  have silent : (p.reread.map (Landmark.page .second)).filterMap Landmark.cursor? = [] := by
    simp [List.filterMap_map, Function.comp_def, Landmark.cursor?]
  rw [p.filterMap_landmarks (fun _ _ => rfl) fun _ => rfl, silent, List.append_nil]
  exact p.collects.stored p.checkpoint rfl

/-- From the start, the cursor reached is at its total. -/
theorem whole (fromStart : p.checkpoint.cursor.nextOffset = 0) :
    p.cursor.nextOffset = p.cursor.total ∧ ((allRecords p.pages).length : Int) = p.cursor.total := by
  have reached := p.collects.whole p.begun.2.2.2 fromStart p.finished
  have counted := p.collects.pagesRead.offset (follows_collectedCursor entity runId _)
  exact ⟨reached, by omega⟩

/-- The second reading counts to the total. -/
theorem recounted : ((allRecords p.reread).length : Int) = p.cursor.total := by
  obtain ⟨last, read, reached⟩ := p.confirmed
  have counted := read.offset (follows_rereadCursor entity)
  simp only [rereadStart, DeviceSyncCursor.zero] at counted
  omega

theorem snapshotAt_truncated :
    p.checkpoint.cursor.snapshotAt.truncateMicro = p.checkpoint.cursor.snapshotAt :=
  congrArg DeviceSyncCursor.snapshotAt p.begun.2.1

/-- Every record was written, and linked where it is an interface. -/
theorem written (fullSource : Bool) : ∀ r ∈ allRecords p.pages,
    .vertex (recordVertex sourceId entity p.checkpoint.cursor.snapshotAt r) true ∈
        p.landmarks fullSource ∧
      (entity = .interface →
        .relation (ownerRelation sourceId entity p.checkpoint.cursor.snapshotAt r) true ∈
          p.landmarks fullSource) := by
  intro r inside
  have within : ∀ l ∈ p.collected, l ∈ p.landmarks fullSource := by
    intro l member
    simp [landmarks, member]
  constructor
  · have member := p.collects.vertices.mem_iff.mpr (List.mem_map_of_mem inside)
    obtain ⟨l, here, same⟩ := List.mem_filterMap.mp member
    cases l with
    | vertex v done =>
        cases done with
        | false => cases same
        | true =>
            cases same
            exact within _ here
    | _ => cases same
  · intro ports
    have expected : ownerRelation sourceId entity p.checkpoint.cursor.snapshotAt r ∈
        pageRelations sourceId entity p.checkpoint.cursor.snapshotAt (allRecords p.pages) := by
      rw [pageRelations, if_pos ports]
      exact List.mem_map_of_mem inside
    obtain ⟨l, here, same⟩ := List.mem_filterMap.mp (p.collects.relations.mem_iff.mpr expected)
    cases l with
    | relation relation done =>
        cases done with
        | false => cases same
        | true =>
            cases same
            exact within _ here
    | _ => cases same

/-- What is written has the time of the snapshot. -/
theorem synced (fullSource : Bool) {v : TopologyVertex}
    (here : .launched v ∈ p.landmarks fullSource ∨ ∃ done, .vertex v done ∈ p.landmarks fullSource) :
    v.syncedAt = p.checkpoint.cursor.snapshotAt := by
  have collected : .launched v ∈ p.collected ∨ ∃ done, .vertex v done ∈ p.collected := by
    simpa [landmarks] using here
  rcases collected with member | ⟨done, member⟩
  · rcases p.collects.entries _ member with ⟨page, -, ⟨⟩⟩ | ⟨cursor, ⟨⟩⟩ | ⟨r, -, same | ⟨⟨⟩⟩ | ⟨⟨⟩⟩⟩
    cases same
    rfl
  · rcases p.collects.entries _ member with ⟨page, -, ⟨⟩⟩ | ⟨cursor, ⟨⟩⟩ | ⟨r, -, ⟨⟨⟩⟩ | same | ⟨⟨⟩⟩⟩
    cases same
    rfl

end Preparation

/-! ## The stages together -/

section Prepare

variable {worker : SyncWorker} {run : SyncRun} {source : Source} {startedAt : Time} {sound : Prop}
  {w : World syncService}

variable (run source startedAt sound) in
/-- A published run, the selection and the cursor it works with. -/
structure PreparedAs (selection : Selection) (cursor : DeviceSyncCursor)
    (p : Preparation source.id run.id selection.entity) (w : World syncService) : Prop where
  begun : cursor = p.checkpoint.cursor
  trail : Trail run.id sound (StoredAs startedAt source.id selection.resource p.cursor)
    (p.landmarks selection.fullSource) w
  published : w.store.Published run.id

theorem trail_prepare (trail : Trail run.id sound (Started startedAt) [] w) :
    Prog.Ensures handler (prepare worker run source startedAt) (fun prepared w' =>
      ∃ p, PreparedAs run source startedAt sound prepared.1 prepared.2 p w') w := by
  refine Prog.contract_bind (Prog.contract_mono (trail_selectEntity trail) fun selection w' trail => ?_)
  refine Prog.contract_bind (Prog.contract_mono (trail_beginCollection trail) ?_)
  rintro cursor w' ⟨checkpoint, rfl, begun, trail⟩
  refine Prog.contract_bind (Prog.contract_mono (trail_collectEntities begun.2.1 trail) ?_)
  rintro state w' ⟨pages, finished, digest, seen, collected, collects, trail⟩
  refine Prog.contract_bind (Prog.contract_mono (trail_leaveIfCanceled trail) fun _ w' trail => ?_)
  refine Prog.contract_bind (Prog.contract_mono (trail_moveRun trail) ?_)
  rintro _ w' ⟨trail, -⟩
  refine Prog.contract_bind (Prog.contract_mono (trail_validateCollected trail) ?_)
  rintro _ w' ⟨reread, last, digest', ⟨read, digested, trail⟩, reached, same⟩
  refine Prog.contract_bind (Prog.contract_mono (trail_leaveIfCanceled trail) fun _ w' trail => ?_)
  refine Prog.contract_bind (Prog.contract_mono (trail_moveRun trail) ?_)
  rintro _ w' ⟨trail, held⟩
  have confirmed : sha256 (entityIdentityDigest (allRecords reread)) =
      sha256 (entityIdentityDigest (allRecords pages)) := by
    rw [← digested, same, digest]
  refine Prog.contract_ret ⟨⟨checkpoint, pages, collected, state.cursor, reread, begun, collects,
    finished, by rw [seen]; rfl, ⟨last, read, reached⟩, confirmed⟩, rfl, ?_, held.published⟩
  simpa [Preparation.landmarks] using trail

end Prepare

/-! ## Cleanups -/

/-- The landmarks of a history. -/
abbrev landmarksOf (log : List (Event syncService)) : List Landmark :=
  log.filterMap (Event.observed landmark)

/-- The landmark of the last call of a history. -/
def lastLandmark (log : List (Event syncService)) : Option Landmark :=
  (log.filter Event.isCall).getLast?.bind (Event.observed landmark)

/-- The records that a pass has read. -/
def recordsRead (pass : Pass) (trace : List Landmark) : List EntityRecord :=
  allRecords (trace.filterMap (Landmark.page? pass))

/-- The run began at offset 0. -/
def FromStart (log : List (Event syncService)) : Prop :=
  ∀ l ∈ landmarksOf log, ∀ checkpoint ∈ l.begun?, checkpoint.cursor.nextOffset = 0

instance (log : List (Event syncService)) : Decidable (FromStart log) := by
  unfold FromStart
  infer_instance

/-- The first reading from a checkpoint to its total, with the cutoff as its snapshot. -/
structure FirstReading (runId : String) (entity : EntityType) (cutoff : Time) (trace : List Landmark)
    (checkpoint : DeviceSyncCheckpoint) (cursor : DeviceSyncCursor) : Prop where
  begun : .begun checkpoint ∈ trace
  snapshotAt : checkpoint.cursor.snapshotAt = cutoff
  /-- Every page was accepted after those before it. -/
  accepted : PagesRead entity (collectedCursor runId cutoff) checkpoint.cursor
    (trace.filterMap (Landmark.page? .first)) cursor
  identities : (addEntityIdentities [] (recordsRead .first trace)).isSome = true
  /-- The cursor was the last one stored. -/
  stored : (trace.filterMap Landmark.cursor?).getLast? = some cursor
  whole : cursor.nextOffset = cursor.total

/-- A cleanup of an entity with this cutoff may follow these landmarks, the last of them the last
call, in this store. -/
structure CleanupEarned (sourceId runId : String) (entity : EntityType) (cutoff : Time)
    (trace : List Landmark) (last : Option Landmark) (store : Store) : Prop where
  read : ∃ checkpoint cursor, FirstReading runId entity cutoff trace checkpoint cursor ∧
    ((recordsRead .second trace).length : Int) = cursor.total
  written : ∀ r ∈ recordsRead .first trace,
    .vertex (recordVertex sourceId entity cutoff r) true ∈ trace ∧
      (entity = .interface → .relation (ownerRelation sourceId entity cutoff r) true ∈ trace)
  /-- Where the hash does not collide, the second reading has digested what the first has. -/
  unchanged : (sha256 (entityIdentityDigest (recordsRead .second trace)) =
        sha256 (entityIdentityDigest (recordsRead .first trace)) →
      entityIdentityDigest (recordsRead .second trace) =
        entityIdentityDigest (recordsRead .first trace)) →
    entityIdentityDigest (recordsRead .second trace) =
      entityIdentityDigest (recordsRead .first trace)
  /-- The source was covered before anything was read. -/
  covered : trace.head? = some (.covered entity (some true))
  /-- The last call has found it covered still. -/
  stillCovered : last = some (.covered entity (some true))
  published : .moved .publishing ∈ trace ∧ store.Published runId
  /-- The cutoff spares what the run has written. -/
  spared : cutoff.truncateMicro = cutoff ∧
    ∀ v, .launched v ∈ trace ∨ (∃ done, .vertex v done ∈ trace) → ¬v.syncedAt < cutoff

/-- Every cleanup of the run is earned. -/
def MayCleanUp (sourceId runId : String) (past : List (Event syncService)) : Event syncService → Prop
  | .call (.service (.deleteOrphanVerticesNotSeen id entity cutoff)) _ _ _ before _ =>
      id = sourceId ∧
        CleanupEarned sourceId runId entity cutoff (landmarksOf past) (lastLandmark past) before
  | _ => True

section Cleanup

variable {worker : SyncWorker} {run : SyncRun} {source : Source} {startedAt : Time} {sound : Prop}
  {selection : Selection} {cursor : DeviceSyncCursor} {w : World syncService}
  {p : Preparation source.id run.id selection.entity}

theorem PreparedAs.idle {c : Call syncService}
    (prepared : PreparedAs run source startedAt sound selection cursor p w) (idle : c.idle = true)
    (m : Move syncService) :
    PreparedAs run source startedAt sound selection cursor p (handler c m w).2 :=
  ⟨prepared.begun, prepared.trail.idle idle, published_handler prepared.published c m⟩

/-- A prepared run whose source is still covered has earned its cleanup. -/
theorem cleanupEarned_of_preparation {trace : List Landmark} {store : Store}
    (fromStart : p.checkpoint.cursor.nextOffset = 0)
    (shape : trace = p.landmarks true ++ [.covered selection.entity (some true)])
    (published : store.Published run.id) :
    CleanupEarned source.id run.id selection.entity p.checkpoint.cursor.snapshotAt trace
      (some (.covered selection.entity (some true))) store := by
  obtain ⟨first, second⟩ := p.pages_eq true
  have unseen : ∀ pass, (Landmark.covered selection.entity (some true)).page? pass = none :=
    fun _ => rfl
  have pages : trace.filterMap (Landmark.page? .first) = p.pages := by
    rw [shape, List.filterMap_append, List.filterMap_cons_none (unseen _), first]
    simp
  have reread : trace.filterMap (Landmark.page? .second) = p.reread := by
    rw [shape, List.filterMap_append, List.filterMap_cons_none (unseen _), second]
    simp
  have cursors : trace.filterMap Landmark.cursor? =
      (p.landmarks true).filterMap Landmark.cursor? := by
    rw [shape, List.filterMap_append]
    simp [Landmark.cursor?]
  have within : ∀ l ∈ p.landmarks true, l ∈ trace := fun l member => by simp [shape, member]
  refine ⟨⟨p.checkpoint, p.cursor, ⟨?_, rfl, ?_, ?_, ?_, (p.whole fromStart).1⟩, ?_⟩, ?_, ?_, ?_, rfl,
    ⟨?_, published⟩, p.snapshotAt_truncated, ?_⟩
  · exact within _ (by simp [Preparation.landmarks])
  · rw [pages]
    exact p.collects.pagesRead
  · rw [recordsRead, pages]
    exact p.identities
  · rw [cursors]
    exact p.stored true
  · rw [recordsRead, reread]
    exact p.recounted
  · intro r inside
    rw [recordsRead, pages] at inside
    obtain ⟨vertex, relation⟩ := p.written true r inside
    exact ⟨within _ vertex, fun ports => within _ (relation ports)⟩
  · intro collisionFree
    rw [recordsRead, recordsRead, pages, reread] at collisionFree ⊢
    exact collisionFree p.digest
  · simp [shape, Preparation.landmarks]
  · exact within _ (by simp [Preparation.landmarks])
  · intro v here
    have inside : .launched v ∈ p.landmarks true ∨ ∃ done, .vertex v done ∈ p.landmarks true := by
      simpa [shape] using here
    rw [p.synced true inside]
    exact lt_irrefl _

end Cleanup

/-! ## Executions -/

/-- What a call finds when it is issued: a cleanup is earned, if the run began at offset 0. -/
def CleansUpEarned (sourceId runId : String) : Call syncService → World syncService → Prop
  | .service (.deleteOrphanVerticesNotSeen id entity cutoff), w => id = sourceId ∧
      (FromStart w.log → CleanupEarned sourceId runId entity cutoff (landmarksOf w.log)
        (lastLandmark w.log) w.store)
  | _, _ => True

section Executions

variable {worker : SyncWorker} {run : SyncRun} {source : Source} {startedAt : Time} {sound : Prop}
  {selection : Selection} {cursor : DeviceSyncCursor} {w : World syncService} {ε α : Type}
  {p : Preparation source.id run.id selection.entity} {sourceId runId : String}

theorem cleansUpEarned_of_preparing {c : Call syncService} (preparing : c.concludes = false) :
    CleansUpEarned sourceId runId c w := by
  cases c with
  | service r => cases r <;> trivial
  | _ => trivial

theorem cleansUpEarned_of_routine {q : SyncProg ε α} (routine : Routine q) :
    q.Issues handler (CleansUpEarned sourceId runId) w :=
  Prog.issues_of_only (preparing_of_aside (aside_of_routine routine))
    fun _ _ => cleansUpEarned_of_preparing

theorem cleansUpEarned_cleanUp
    (prepared : PreparedAs run source startedAt sound selection cursor p w) :
    (cleanUp run source selection cursor.snapshotAt).Issues handler
      (CleansUpEarned source.id run.id) w := by
  refine Prog.issues_perform trivial fun m covered answered => ?_
  have published := published_handler prepared.published
    (.service (SyncRequest.coversFullSource source selection.entity)) m
  have trail := prepared.trail.call (fun _ same => by cases same) answered
  have last : lastLandmark (handler (.service (SyncRequest.coversFullSource source selection.entity)) m
      w).2.log = some (.covered selection.entity covered) := by
    rw [lastLandmark, log_handler, List.filter_append, answered]
    simp [Event.isCall, Event.observed, landmark]
  refine Prog.issues_bind (cleansUpEarned_of_routine (routine_orFail _ _ _ _))
    (ensures_orFail fun currentFullSource same => ?_)
  cases same
  split_ifs with full
  · obtain ⟨fullSource, rfl⟩ := Bool.and_eq_true_iff.mp full
    refine Prog.issues_perform ⟨rfl, fun fromStart => ?_⟩ fun m cleaned _ => ?_
    · have shape : landmarksOf (handler (.service (SyncRequest.coversFullSource source
          selection.entity)) m w).2.log = p.landmarks true ++ [.covered selection.entity (some true)] := by
        have found := trail.landmarks
        rw [fullSource] at found
        exact found
      have zero : p.checkpoint.cursor.nextOffset = 0 := by
        refine fromStart (.begun p.checkpoint) ?_ p.checkpoint rfl
        rw [shape]
        simp [Preparation.landmarks]
      rw [last, prepared.begun]
      exact cleanupEarned_of_preparation zero shape published
    · split_ifs
      · trivial
      · exact Prog.issues_bind_always (cleansUpEarned_of_routine routine_leaveIfLost)
          fun _ _ => cleansUpEarned_of_routine (routine_leaveFailed _ _ _)
  · trivial

theorem cleansUpEarned_publish
    (prepared : PreparedAs run source startedAt sound selection cursor p w) :
    (publish run source selection cursor.snapshotAt).Issues handler
      (CleansUpEarned source.id run.id) w := by
  have lost : (leaveIfLost : SyncProg (Option SyncError) Unit).Only fun c => c.idle = true := by
    refine Prog.only_bind ⟨rfl, fun _ => trivial⟩ fun lost => ?_
    split_ifs <;> trivial
  refine Prog.issues_bind (cleansUpEarned_of_routine routine_leaveIfLost) (Prog.contract_mono
    (Prog.ensures_of_only (I := PreparedAs run source startedAt sound selection cursor p) lost
      (fun _ m _ idle here => here.idle idle m) prepared)
    fun _ w' prepared => ?_)
  refine Prog.issues_bind_always (cleansUpEarned_cleanUp prepared) fun _ w' => ?_
  refine Prog.issues_bind_always (cleansUpEarned_of_routine routine_leaveIfLost) fun _ w' => ?_
  refine Prog.issues_perform trivial fun m now _ => ?_
  refine Prog.issues_perform trivial fun m completed _ => ?_
  cases completed with
  | some reply => trivial
  | none => exact cleansUpEarned_of_routine (routine_leaveFailed _ _ _)

theorem cleansUpEarned_executeClaimed (trail : Trail run.id sound (Started startedAt) [] w) :
    (executeClaimed worker run source startedAt).Issues handler
      (CleansUpEarned source.id run.id) w := by
  refine Prog.issues_bind (Prog.issues_of_only (preparing_prepare worker run source startedAt)
    fun _ _ => cleansUpEarned_of_preparing) (Prog.contract_mono (trail_prepare trail) ?_)
  rintro ⟨selection, cursor⟩ w' ⟨p, prepared⟩
  exact cleansUpEarned_publish prepared

/-- The disturbances before a call change nothing that a cleanup rests on. -/
theorem CleanupEarned.disturbed {entity : EntityType} {cutoff : Time}
    (earned : CleanupEarned sourceId runId entity cutoff (landmarksOf w.log) (lastLandmark w.log)
      w.store) (disturbances : List Disturbance) :
    CleanupEarned sourceId runId entity cutoff (landmarksOf (w.disturbed disturbances).log)
      (lastLandmark (w.disturbed disturbances).log) (w.disturbed disturbances).store := by
  obtain ⟨more, grown, background⟩ := log_disturbed w disturbances
  have calls : more.filter Event.isCall = [] :=
    List.filter_eq_nil_iff.mpr fun e member => by simp [background e member]
  have last : lastLandmark (w.disturbed disturbances).log = lastLandmark w.log := by
    rw [lastLandmark, grown, List.filter_append, calls, List.append_nil]
    rfl
  rw [last, landmarksOf, ← World.observed, observed_disturbed]
  exact { earned with published := ⟨earned.published.1, published_disturbed earned.published.2 _⟩ }

theorem mayCleanUp_handler {c : Call syncService} (m : Move syncService)
    (earned : CleansUpEarned sourceId runId c w)
    (sofar : FromStart w.log → Throughout (MayCleanUp sourceId runId) [] w.log)
    (fromStart : FromStart (handler c m w).2.log) :
    Throughout (MayCleanUp sourceId runId) [] (handler c m w).2.log := by
  obtain ⟨more, grown, background⟩ := log_disturbed w m.disturbances
  have before : FromStart w.log := by
    intro l member
    refine fromStart l ?_
    rw [log_handler, grown, landmarksOf, List.filterMap_append, List.filterMap_append]
    exact List.mem_append_left _ (List.mem_append_left _ member)
  rw [log_handler]
  refine throughout_concat.mpr ⟨?_, ?_⟩
  · rw [grown]
    refine throughout_append.mpr ⟨sofar before, throughout_of_forall fun e member past => ?_⟩
    have silent := background e member
    cases e with
    | call => cases silent
    | _ => trivial
  · cases c with
    | service r =>
        cases r with
        | deleteOrphanVerticesNotSeen id entity cutoff =>
            exact ⟨earned.1, (earned.2 before).disturbed m.disturbances⟩
        | _ => trivial
    | _ => trivial

end Executions

/-- **Every cleanup is earned.**  In every execution of `executeClaimed` that begins at offset 0,
whatever the source, the graph, the store and the scheduler answer and wherever it ends: a cleanup
follows a whole first reading that was accepted, written and stored, a second reading that found the
same, two answers that the source is covered, and the publication of a run that is not canceled. -/
theorem executeClaimed_cleanup (worker : SyncWorker) (run : SyncRun) (source : Source)
    (startedAt : Time) (script : List (Move syncService)) (start : World syncService)
    (fresh : start.log = [])
    (fromStart : FromStart
      ((executeClaimed worker run source startedAt).run handler script start).2.1.log) :
    Throughout (MayCleanUp source.id run.id) []
      ((executeClaimed worker run source startedAt).run handler script start).2.1.log := by
  have trail : Trail run.id False (Started startedAt) [] start :=
    ⟨by rw [World.landmarks, World.observed, fresh, List.filterMap_nil], False.elim⟩
  refine Prog.issues_run (H := handler) (J := CleansUpEarned source.id run.id)
    (K := fun w => FromStart w.log → Throughout (MayCleanUp source.id run.id) [] w.log)
    (fun _ m _ => mayCleanUp_handler m) (cleansUpEarned_executeClaimed trail) ?_ script fromStart
  intro _
  rw [fresh]
  exact throughout_nil

/-! ## An execution -/

/-- The cutoff of a cleanup. -/
def Event.cutoff? : Event syncService → Option Time
  | .call (.service (.deleteOrphanVerticesNotSeen _ _ cutoff)) _ _ _ _ _ => some cutoff
  | _ => none

/-- The run cleans up once, as it may. -/
theorem executeClaimed_cleanup_device :
    executeDeviceRun.2.1.log.filterMap Event.cutoff? = [Time.truncateMicro 2000] ∧
      Throughout (MayCleanUp "s" "r") [] executeDeviceRun.2.1.log := by
  have fromStart : FromStart executeDeviceRun.2.1.log := by decide +kernel
  refine ⟨by decide +kernel, ?_⟩
  unfold executeDeviceRun at fromStart ⊢
  exact executeClaimed_cleanup ⟨1, 3⟩ (Store.claimed 2000 (queuedRun "r" "s"))
    ⟨"s", "lab", "cmdb", "ref", true⟩ 2000 deviceScript claimedWorld rfl fromStart

end UnifiedInfraTopology
