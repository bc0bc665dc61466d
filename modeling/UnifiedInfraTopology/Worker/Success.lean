import UnifiedInfraTopology.Worker.Publication

/-!
# What a succeeded run has written

A run succeeds by one operation, `CompleteCheckpointAndRun`, and the worker issues it for a prepared
run only.  `SuccessEarned` is what the landmarks of such a run say of its records: counted, ordered,
apart from each other, each written once and linked once.  `executeClaimed_success` says that a
run that `executeClaimed` leaves succeeded has earned it.
-/

namespace UnifiedInfraTopology

open Lib

/-! ## Permutations of written records -/

/-- Where the keys of some items are distinct, one item has the key. -/
theorem filter_key_eq_singleton {α β γ : Type} [DecidableEq γ] {items : List α} {made : List β}
    {make : α → β} (key : β → γ) (all : made.Perm (items.map make))
    (distinct : (items.map fun a => key (make a)).Nodup) {a : α} (inside : a ∈ items) :
    made.filter (fun b => decide (key b = key (make a))) = [make a] := by
  refine List.perm_singleton.mp ((all.filter _).trans ?_)
  clear all
  induction items with
  | nil => cases inside
  | cons b items ih =>
      obtain ⟨fresh, rest⟩ := List.nodup_cons.mp distinct
      rw [List.map_cons]
      rcases List.mem_cons.mp inside with rfl | later
      · have others : (items.map make).filter (fun b => decide (key b = key (make a))) = [] := by
          refine List.filter_eq_nil_iff.mpr fun made member same => ?_
          obtain ⟨c, here, rfl⟩ := List.mem_map.mp member
          exact fresh (List.mem_map.mpr ⟨c, here, of_decide_eq_true same⟩)
        simp [others]
      · have apart : key (make b) ≠ key (make a) :=
          fun same => fresh (List.mem_map.mpr ⟨a, later, same.symm⟩)
        simpa [List.filter_cons, apart] using ih rest later

/-! ## Success -/

/-- The record was written once, and an interface was linked to its owner once, after that. -/
structure RecordWritten (sourceId : String) (entity : EntityType) (snapshotAt : Time)
    (trace : List Landmark) (r : EntityRecord) : Prop where
  vertex : (trace.filterMap Landmark.vertex?).filter
      (fun v => decide (v.identity = ⟨sourceId, entity, r.identity⟩)) =
    [recordVertex sourceId entity snapshotAt r]
  relation : entity = .interface → (trace.filterMap Landmark.relation?).filter
      (fun x => decide (x.identity.target = ⟨sourceId, entity, r.identity⟩)) =
    [ownerRelation sourceId entity snapshotAt r]
  ordered : ∀ before after,
    trace = before ++ .relation (ownerRelation sourceId entity snapshotAt r) true :: after →
      .vertex (recordVertex sourceId entity snapshotAt r) true ∈ before

/-- What the landmarks of a succeeded run say of the records of its first reading. -/
structure SuccessEarned (sourceId : String) (entity : EntityType) (snapshotAt : Time)
    (trace : List Landmark) (total : Int) : Prop where
  counted : ((recordsRead .first trace).length : Int) = total
  identities : ∀ r ∈ recordsRead .first trace, r.identity ≠ "" ∧ trimSpace r.identity = r.identity
  distinct : ((recordsRead .first trace).map (·.identity)).Nodup
  ascending : ((recordsRead .first trace).map (·.key)).Pairwise (· < ·)
  written : ∀ r ∈ recordsRead .first trace, RecordWritten sourceId entity snapshotAt trace r

/-- The landmark is one of the collection. -/
def Landmark.collecting : Landmark → Bool
  | .page .first _ | .launched _ | .vertex _ _ | .relation _ _ | .advanced _ => true
  | _ => false

section

variable {sourceId runId : String} {entity : EntityType} {p : Preparation sourceId runId entity}
  {fullSource : Bool} {extra : List Landmark}

/-- What a projection sees of the collection only. -/
theorem filterMap_collected {O : Type} {f : Landmark → Option O}
    (silent : ∀ l : Landmark, l.collecting = false → f l = none)
    (later : ∀ l ∈ extra, l.collecting = false) :
    (p.landmarks fullSource ++ extra).filterMap f = p.collected.filterMap f := by
  have after : extra.filterMap f = [] :=
    List.filterMap_eq_nil_iff.mpr fun l member => silent l (later l member)
  have reread : (p.reread.map (Landmark.page .second)).filterMap f = [] := by
    refine List.filterMap_eq_nil_iff.mpr fun l member => ?_
    obtain ⟨page, -, rfl⟩ := List.mem_map.mp member
    exact silent _ rfl
  rw [List.filterMap_append, after, List.append_nil, p.filterMap_landmarks
    (fun _ _ => silent _ rfl) fun _ => silent _ rfl, reread, List.append_nil,
    List.filterMap_cons_none (silent _ rfl)]

/-- No interface is linked before it has been written. -/
theorem ordered_collected (p : Preparation sourceId runId entity) (fullSource : Bool)
    (later : ∀ l ∈ extra, l.collecting = false) :
    Throughout (AfterVertex sourceId entity p.checkpoint.cursor.snapshotAt (allRecords p.pages)) []
      (p.landmarks fullSource ++ extra) := by
  have quiet : ∀ {past log : List Landmark}, (∀ l ∈ log, l.collecting = false) →
      Throughout (AfterVertex sourceId entity p.checkpoint.cursor.snapshotAt (allRecords p.pages))
        past log := by
    intro past log others
    refine throughout_of_forall fun l member before => ?_
    cases l with
    | relation => cases others _ member
    | _ => trivial
  have shape : p.landmarks fullSource ++ extra =
      [.covered entity (some fullSource), .begun p.checkpoint] ++ (p.collected ++
        (.moved .validating :: (p.reread.map (.page .second) ++ .moved .publishing :: extra))) := by
    simp [Preparation.landmarks]
  rw [shape]
  refine throughout_append.mpr ⟨quiet (by simp [Landmark.collecting]), throughout_append.mpr ⟨?_, quiet ?_⟩⟩
  · rw [← List.append_nil ([] ++ _)]
    refine p.collects.ordered.prepend fun past l after => ?_
    cases l with
    | relation =>
        obtain ⟨r, inside, same, here⟩ := after
        exact ⟨r, inside, same, List.mem_append_right _ here⟩
    | _ => trivial
  · intro l member
    simp only [List.mem_cons, List.mem_append, List.mem_map] at member
    rcases member with rfl | ⟨page, -, rfl⟩ | rfl | member
    · rfl
    · rfl
    · rfl
    · exact later l member

/-- A prepared run has earned its success, if it began at offset 0. -/
theorem successEarned_of_preparation {trace : List Landmark}
    (shape : trace = p.landmarks fullSource ++ extra) (later : ∀ l ∈ extra, l.collecting = false)
    (fromStart : p.checkpoint.cursor.nextOffset = 0) :
    SuccessEarned sourceId entity p.checkpoint.cursor.snapshotAt trace p.cursor.total := by
  obtain ⟨seen, added⟩ := Option.isSome_iff_exists.mp p.identities
  obtain ⟨rfl, named, distinct⟩ := addEntityIdentities_some added
  have apart : ((allRecords p.pages).map (·.identity)).Nodup := by
    simpa using distinct List.nodup_nil
  have pages : recordsRead .first trace = allRecords p.pages := by
    have first : ∀ l : Landmark, l.collecting = false → l.page? .first = none := by
      intro l others
      cases l with
      | page pass page =>
          cases pass with
          | first => cases others
          | second => rfl
      | _ => rfl
    rw [recordsRead, shape, filterMap_collected first later, p.collects.pages_eq.1]
  have vertices : (trace.filterMap Landmark.vertex?).Perm ((allRecords p.pages).map
      (recordVertex sourceId entity p.checkpoint.cursor.snapshotAt)) := by
    have silent : ∀ l : Landmark, l.collecting = false → l.vertex? = none := by
      intro l others
      cases l with
      | vertex => cases others
      | _ => rfl
    rw [shape, filterMap_collected silent later]
    exact p.collects.vertices
  have relations : (trace.filterMap Landmark.relation?).Perm
      (pageRelations sourceId entity p.checkpoint.cursor.snapshotAt (allRecords p.pages)) := by
    have silent : ∀ l : Landmark, l.collecting = false → l.relation? = none := by
      intro l others
      cases l with
      | relation => cases others
      | _ => rfl
    rw [shape, filterMap_collected silent later]
    exact p.collects.relations
  have climbs := (p.collects.pagesRead.ascending (follows_collectedCursor entity runId _)).pairwise.2
  rw [← pages] at apart named vertices relations climbs
  refine ⟨by rw [pages]; exact (p.whole fromStart).2, named, apart, climbs, fun r inside => ?_⟩
  have keyed : ((recordsRead .first trace).map fun r =>
      (⟨sourceId, entity, r.identity⟩ : EntityIdentity)).Nodup := by
    refine List.Nodup.of_map (·.stableId) ?_
    rw [List.map_map]
    exact apart
  refine ⟨filter_key_eq_singleton (fun v : TopologyVertex => v.identity) vertices keyed inside,
    fun ports => ?_, ?_⟩
  · rw [pageRelations, if_pos ports] at relations
    exact filter_key_eq_singleton (fun x : Relation => x.identity.target) relations keyed inside
  · intro before after same
    have ordered := ordered_collected p fullSource later
    rw [← shape] at ordered
    obtain ⟨r', inside', linked, here⟩ := ordered before _ after same
    have target := congrArg (fun x : Relation => x.identity.target.stableId) linked
    rw [← pages] at inside'
    rw [List.inj_on_of_nodup_map apart inside inside' target]
    simpa using here

end

/-! ## The operation that succeeds -/

/-- The run is stored, and has not succeeded. -/
def Store.Unsucceeded (runId : String) (s : Store) : Prop :=
  ∃ r, s.runs.find? runId = some r ∧ r.status ≠ .succeeded

/-- The operation can make a run succeed. -/
def Op.succeeds : Op → Bool
  | .transitionRun _ _ target _ _ => target = .succeeded
  | .completeCheckpointAndRun _ _ _ _ _ => true
  | _ => false

/-- A run succeeds by its completion, or by a transition. -/
theorem succeeds_by {op : Op} {r r' : SyncRun} (step : RunStep op r r')
    (before : r.status ≠ .succeeded) (after : r'.status = .succeeded) :
    (∃ resource t, op = .completeCheckpointAndRun r.sourceId resource r.id .publishing t) ∨
      ∃ now code, op = .transitionRun r.id r.status .succeeded now code := by
  cases step with
  | same => exact (before after).elim
  | cancelRequested => exact (before after).elim
  | renewed => exact (before after).elim
  | advanced => exact (before after).elim
  | @transitioned _ target now code =>
      have same : target = .succeeded := after
      exact Or.inr ⟨now, code, by rw [same]⟩
  | completed => exact Or.inl ⟨_, _, rfl⟩
  | _ => cases after

/-- A completion keeps the cursor of its checkpoint. -/
theorem checkpoint_of_completion {s : Store} {sourceId resource runId : String} {status : SyncRunStatus}
    {completedAt : Time} (ok : CheckpointsOk s)
    (accepted : s.accepts (.completeCheckpointAndRun sourceId resource runId status completedAt) = true) :
    ∃ previous checkpoint, s.checkpoint? (sourceId, resource) = some previous ∧
      previous.cursor.runId = runId ∧
      (s.apply (.completeCheckpointAndRun sourceId resource runId status completedAt)).checkpoint?
          (sourceId, resource) = some checkpoint ∧
      checkpoint.complete = true ∧ checkpoint.cursor = previous.cursor := by
  have move := checkpointMove_apply ok
    (.completeCheckpointAndRun sourceId resource runId status completedAt) (sourceId, resource)
  generalize s.checkpoint? (sourceId, resource) = stored at move ⊢
  generalize (s.apply _).checkpoint? (sourceId, resource) = next at move ⊢
  cases move with
  | same stored idle => exact (idle accepted rfl).elim
  | @completed _ _ _ _ previous _ incomplete own => exact ⟨previous, _, rfl, own, rfl, rfl, rfl⟩

section Rows

variable {V : Service} {runId : String} {w : World V}

/-- Other clients do not make the run succeed. -/
theorem unsucceeded_disturbed {disturbances : List Disturbance}
    (unsucceeded : w.store.Unsucceeded runId) (alone : Alone runId (w.disturbed disturbances)) :
    (w.disturbed disturbances).store.Unsucceeded runId := by
  induction disturbances generalizing w with
  | nil => exact unsucceeded
  | cons d disturbances ih =>
      refine ih (w := w.disturb d) ?_ alone
      have here : Alone runId (w.disturb d) :=
        @alone_disturbed _ _ (w.disturb d) disturbances alone
      cases d with
      | operation op =>
          obtain ⟨r, found, open_⟩ := unsucceeded
          obtain ⟨r', found', step⟩ := @Store.find?_apply op _ _ _ found
          have id : r.id = runId := Table.key_of_find? found
          have foreign := here op w.store (List.mem_append_right _ (List.mem_singleton_self _))
          refine ⟨r', found', fun succeeded => ?_⟩
          rcases succeeds_by step open_ succeeded with ⟨resource, t, rfl⟩ | ⟨now, code, rfl⟩ <;>
            simp [Op.owns, id] at foreign
      | contextEnds cause => exact unsucceeded
      | parentEnds => exact unsucceeded

/-- A run stays stored. -/
theorem exists_row_handler {r : SyncRun} (found : w.store.runs.find? runId = some r) (c : Call V)
    (m : Move V) : ∃ r', (handler c m w).2.store.runs.find? runId = some r' := by
  have before : ∃ r', (w.disturbed m.disturbances).store.runs.find? runId = some r' := by
    generalize m.disturbances = disturbances
    induction disturbances generalizing w r with
    | nil => exact ⟨r, found⟩
    | cons d disturbances ih =>
        cases d with
        | operation op =>
            obtain ⟨r', found', -⟩ := @Store.find?_apply op _ _ _ found
            exact ih (w := w.disturb (.operation op)) found'
        | contextEnds cause => exact ih (w := w.disturb (.contextEnds cause)) found
        | parentEnds => exact ih (w := w.disturb .parentEnds) found
  obtain ⟨r', here⟩ := before
  cases c with
  | control op =>
      rw [store_handler]
      rcases respond_control (w.disturbed m.disturbances) m op with same | applied
      · exact ⟨r', by rw [same]; exact here⟩
      · rw [applied]
        obtain ⟨r'', found'', -⟩ := @Store.find?_apply op _ _ _ here
        exact ⟨r'', found''⟩
  | _ => exact ⟨r', here⟩

end Rows

/-! ## Executions -/

/-- The run has completed this checkpoint. -/
def CompletedWith (sourceId runId : String) (checkpoint : DeviceSyncCheckpoint)
    (log : List (Event syncService)) : Prop :=
  ∃ resource completedAt time fault answer before after,
    .call (.control (.completeCheckpointAndRun sourceId resource runId .publishing completedAt)) time
        fault answer before after ∈ log ∧
      after.checkpoint? (sourceId, resource) = some checkpoint ∧ checkpoint.complete = true ∧
      checkpoint.cursor.runId = runId

section Executions

variable {run : SyncRun} {source : Source} {startedAt : Time} {w : World syncService}
  {selection : Selection} {p : Preparation source.id run.id selection.entity}
  {sourceId resource : String} {c : Call syncService}

variable (run source startedAt) in
/-- A run is concluded that is prepared. -/
def Concluding (selection : Selection) (p : Preparation source.id run.id selection.entity)
    (w : World syncService) : Prop :=
  ∃ extra, (∀ l ∈ extra, l.collecting = false) ∧
    Trail run.id True (StoredAs startedAt source.id selection.resource p.cursor)
      (p.landmarks selection.fullSource ++ extra) w

variable (run source startedAt) in
/-- What a call finds: a run that has not succeeded, or, where it may conclude it, a prepared one. -/
def ConcludesPrepared (c : Call syncService) (w : World syncService) : Prop :=
  (c.concludes = false ∧ (Alone run.id w → w.store.Unsucceeded run.id)) ∨
    ∃ selection p, c.Closing source.id selection.resource ∧
      Concluding run source startedAt selection p w

variable (run source startedAt) in
/-- If the run has succeeded, it was prepared, and has completed the checkpoint it has reached. -/
def SucceededPrepared (w : World syncService) : Prop :=
  Alone run.id w → ∃ r, w.store.runs.find? run.id = some r ∧ (r.status = .succeeded →
    ∃ selection p checkpoint, Concluding run source startedAt selection p w ∧
      CompletedWith source.id run.id checkpoint w.log ∧ checkpoint.cursor = p.cursor ∧
      p.cursor.snapshotAt = startedAt.truncateMicro)

theorem landmark_closing (closing : c.Closing sourceId resource) (answer : c.Answer) :
    ∀ l ∈ landmark c answer, l.collecting = false := by
  intro l here
  cases c with
  | control op =>
      cases op with
      | transitionRun =>
          cases answer <;> cases here
          rfl
      | completeCheckpointAndRun => cases here
      | _ => cases closing
  | service r =>
      cases r with
      | coversFullSource => cases here; rfl
      | deleteOrphanVerticesNotSeen => cases here
      | _ => cases closing
  | _ => cases here

theorem storesCursor_closing (closing : c.Closing sourceId resource) :
    ∀ op, c = .control op → op.storesCursor = false := by
  rintro op rfl
  cases op with
  | beginCheckpoint => cases closing
  | advanceCheckpoint => cases closing
  | _ => rfl

/-- A call of the publication adds to the publication. -/
theorem Concluding.call (concluding : Concluding run source startedAt selection p w)
    (closing : c.Closing sourceId resource) (m : Move syncService) :
    Concluding run source startedAt selection p (handler c m w).2 := by
  obtain ⟨extra, later, trail⟩ := concluding
  have grown := filterMap_handler (f := Event.observed landmark)
    (fun _ background => Event.observed_of_background background) c m w
  refine ⟨extra ++ (Event.observed landmark (.call c m.now m.fault (handler c m w).1
    (w.disturbed m.disturbances).store (handler c m w).2.store)).toList, fun l member => ?_, ?_,
      fun here => cursorKept_handler (storesCursor_closing closing) (trail.kept here)⟩
  · rcases List.mem_append.mp member with old | new
    · exact later l old
    · rw [Option.mem_toList] at new
      cases answered : (handler c m w).1 with
      | none =>
          rw [answered] at new
          cases new
      | some answer =>
          rw [answered] at new
          exact landmark_closing closing answer l new
  · rw [← List.append_assoc, ← trail.landmarks]
    exact grown

theorem CompletedWith.append {checkpoint : DeviceSyncCheckpoint} {log more : List (Event syncService)}
    {runId : String} (completed : CompletedWith sourceId runId checkpoint log) :
    CompletedWith sourceId runId checkpoint (log ++ more) := by
  obtain ⟨resource, completedAt, time, fault, answer, before, after, member, stored⟩ := completed
  exact ⟨resource, completedAt, time, fault, answer, before, after, List.mem_append_left _ member,
    stored⟩

theorem log_append_handler (c : Call syncService) (m : Move syncService) (w : World syncService) :
    ∃ more, (handler c m w).2.log = w.log ++ more := by
  obtain ⟨more, grown, -⟩ := log_disturbed w m.disturbances
  exact ⟨_, by rw [log_handler, grown, List.append_assoc]⟩

/-- A call that makes the run succeed completes the checkpoint that the run has reached. -/
theorem completed_of_succeeds (concluding : Concluding run source startedAt selection p w)
    (closing : c.Closing source.id selection.resource) {m : Move syncService} {r r' : SyncRun}
    (alone : Alone run.id (w.disturbed m.disturbances))
    (found : (w.disturbed m.disturbances).store.runs.find? run.id = some r)
    (open_ : r.status ≠ .succeeded)
    (found' : (handler c m w).2.store.runs.find? run.id = some r') (succeeded : r'.status = .succeeded) :
    ∃ checkpoint, CompletedWith source.id run.id checkpoint (handler c m w).2.log ∧
      checkpoint.cursor = p.cursor ∧ p.cursor.snapshotAt = startedAt.truncateMicro := by
  obtain ⟨extra, later, trail⟩ := concluding
  have kept := cursorKept_disturbed (trail.kept trivial) m.disturbances
  have checkpoints := kept.checkpoints
  have cursors := kept.cursor alone
  have id : r.id = run.id := Table.key_of_find? found
  have unmoved : (handler c m w).2.store ≠ (w.disturbed m.disturbances).store := by
    intro same
    rw [same, found] at found'
    exact open_ (Option.some.inj found' ▸ succeeded)
  cases c with
  | control op =>
      have logged := log_handler (.control op) m w
      rw [store_handler] at unmoved found' logged
      rcases respond_control (w.disturbed m.disturbances) m op with same | applied
      · exact (unmoved same).elim
      rw [applied] at found' logged
      generalize (w.disturbed m.disturbances).store = s at checkpoints cursors found found' logged unmoved applied
      obtain ⟨r₁, found₁, step⟩ := @Store.find?_apply op _ _ _ found
      cases found₁.symm.trans found'
      rcases succeeds_by step open_ succeeded with ⟨resource, completedAt, rfl⟩ | ⟨now, code, rfl⟩
      · obtain ⟨same, rfl⟩ := closing
        rw [same, id] at applied logged unmoved ⊢
        have accepted : s.accepts (.completeCheckpointAndRun source.id selection.resource run.id
            .publishing completedAt) = true := by
          cases executed : s.execute (.completeCheckpointAndRun source.id selection.resource run.id
            .publishing completedAt) with
          | ok s' => simp [Store.accepts, executed, Except.toOption]
          | error e => exact (unmoved (applied.trans (Store.apply_of_error executed))).elim
        obtain ⟨previous, checkpoint, stored, own, now, complete, same⟩ :=
          checkpoint_of_completion checkpoints accepted
        obtain ⟨reached, snapshot⟩ := cursors _ previous stored own rfl
        have ours : checkpoint.cursor.runId = run.id :=
          (congrArg DeviceSyncCursor.runId same).trans own
        refine ⟨checkpoint, ?_, same.trans reached, reached ▸ snapshot⟩
        rw [logged]
        exact ⟨selection.resource, completedAt, m.now, m.fault, _, s, _,
          List.mem_append_right _ (List.mem_singleton_self _), now, complete, ours⟩
      · simp [Call.Closing, Call.routine] at closing
  | _ => exact (unmoved rfl).elim

/-- A call that does not conclude leaves the run unsucceeded. -/
theorem unsucceeded_handler {V : Service} {runId : String} {w : World V} {c : Call V} {m : Move V}
    (preparing : ∀ op, c = .control op → op.succeeds = false)
    (open_ : w.store.Unsucceeded runId) (alone : Alone runId (w.disturbed m.disturbances)) :
    (handler c m w).2.store.Unsucceeded runId := by
  have before := unsucceeded_disturbed open_ alone
  cases c with
  | control op =>
      rw [store_handler]
      rcases respond_control (w.disturbed m.disturbances) m op with same | applied
      · rw [same]
        exact before
      · rw [applied]
        obtain ⟨r, found, unsucceeded⟩ := before
        obtain ⟨r', found', step⟩ := @Store.find?_apply op _ _ _ found
        refine ⟨r', found', fun succeeded => ?_⟩
        have calm := preparing op rfl
        rcases succeeds_by step unsucceeded succeeded with ⟨resource, t, rfl⟩ | ⟨now, code, rfl⟩ <;>
          cases calm
  | _ => exact before

theorem succeededPrepared_handler (m : Move syncService)
    (prepared : ConcludesPrepared run source startedAt c w)
    (sofar : SucceededPrepared run source startedAt w) :
    SucceededPrepared run source startedAt (handler c m w).2 := by
  intro alone
  have before := alone_handler alone
  have fresh := alone_disturbed before
  obtain ⟨r, found, earned⟩ := sofar fresh
  obtain ⟨r', found'⟩ := exists_row_handler found c m
  refine ⟨r', found', fun succeeded => ?_⟩
  rcases prepared with ⟨preparing, open_⟩ | ⟨selection, p, closing, concluding⟩
  · have calm : ∀ op, c = .control op → op.succeeds = false := by
      rintro op rfl
      cases op <;> exact preparing
    obtain ⟨r₁, found₁, unsucceeded⟩ := unsucceeded_handler calm (open_ fresh) before
    exact (unsucceeded (Option.some.inj (found₁.symm.trans found') ▸ succeeded)).elim
  · by_cases done : r.status = .succeeded
    · obtain ⟨selection', p', checkpoint, concluding', completed, same, snapshot⟩ := earned done
      obtain ⟨more, grown⟩ := log_append_handler c m w
      exact ⟨selection', p', checkpoint, concluding'.call closing m, grown ▸ completed.append, same,
        snapshot⟩
    · obtain ⟨r₁, found₁, open_⟩ := unsucceeded_disturbed ⟨r, found, done⟩ before
      obtain ⟨checkpoint, completed, same, snapshot⟩ :=
        completed_of_succeeds concluding closing before found₁ open_ found' succeeded
      exact ⟨selection, p, checkpoint, concluding.call closing m, completed, same, snapshot⟩

/-- Before the publication the run has not succeeded. -/
theorem concludesPrepared_prepare (worker : SyncWorker) (unsucceeded : w.store.Unsucceeded run.id) :
    (prepare worker run source startedAt).Issues handler
      (ConcludesPrepared run source startedAt) w := by
  refine (Prog.behaves_of_only (P := fun c => c.concludes = false)
    (I := fun w => Alone run.id w → w.store.Unsucceeded run.id)
    (preparing_prepare worker run source startedAt) (fun _ _ preparing held => Or.inl ⟨preparing, held⟩)
    (fun c m w' preparing held alone => ?_) fun _ => unsucceeded).issues
  have before := alone_handler alone
  refine unsucceeded_handler ?_ (held (alone_disturbed before)) before
  rintro op rfl
  cases op <;> exact preparing

/-- From then on it is prepared. -/
theorem concludesPrepared_publish (snapshotAt : Time)
    (concluding : Concluding run source startedAt selection p w) :
    (publish run source selection snapshotAt).Issues handler
      (ConcludesPrepared run source startedAt) w :=
  (Prog.behaves_of_only (P := Call.Closing source.id selection.resource)
    (I := Concluding run source startedAt selection p) (closing_publish run source selection snapshotAt)
    (fun _ _ closing held => Or.inr ⟨selection, p, closing, held⟩)
    (fun _ m _ closing held => held.call closing m) concluding).issues

theorem concludesPrepared_executeClaimed {worker : SyncWorker}
    (trail : Trail run.id True (Started startedAt) [] w) (unsucceeded : w.store.Unsucceeded run.id) :
    (executeClaimed worker run source startedAt).Issues handler
      (ConcludesPrepared run source startedAt) w := by
  refine Prog.issues_bind (concludesPrepared_prepare worker unsucceeded)
    (Prog.contract_mono (trail_prepare trail) ?_)
  rintro ⟨selection, cursor⟩ w' ⟨p, prepared⟩
  have concluding : Concluding run source startedAt selection p w' := by
    refine ⟨[], fun _ member => (List.not_mem_nil member).elim, ?_⟩
    rw [List.append_nil]
    exact prepared.trail
  exact concludesPrepared_publish cursor.snapshotAt concluding

end Executions

/-! ## The claimed run -/

/-- The run is claimed: it has not succeeded, and what was begun for it was begun at its start. -/
structure ClaimedIn (run : SyncRun) (startedAt : Time) (s : Store) : Prop where
  checkpoints : CheckpointsOk s
  snapshot : ∀ key checkpoint, s.checkpoint? key = some checkpoint →
    checkpoint.cursor.runId = run.id → checkpoint.cursor.snapshotAt = startedAt.truncateMicro
  unsucceeded : s.Unsucceeded run.id

/-- A checkpoint is begun for the run at its start only. -/
def Op.BeginsAt (runId : String) (startedAt : Time) : Op → Prop
  | .beginCheckpoint _ _ id begunAt _ =>
      id = runId → begunAt.truncateMicro = startedAt.truncateMicro
  | _ => True

/-- Every reachable store in which the run has not succeeded is such a store. -/
theorem claimedIn_applyAll (sources : Table Source Source.id) {ops : List Op} {run : SyncRun}
    {startedAt : Time} (begins : ∀ op ∈ ops, op.BeginsAt run.id startedAt)
    (unsucceeded : ((Store.withoutRuns sources .empty).applyAll ops).Unsucceeded run.id) :
    ClaimedIn run startedAt ((Store.withoutRuns sources .empty).applyAll ops) := by
  refine ⟨checkpointsOk_applyAll sources ops, ?_, unsucceeded⟩
  clear unsucceeded
  refine (Store.applyAll_invariant (I := fun s => CheckpointsOk s ∧ ∀ key checkpoint,
    s.checkpoint? key = some checkpoint → checkpoint.cursor.runId = run.id →
      checkpoint.cursor.snapshotAt = startedAt.truncateMicro)
    ⟨checkpointsOk_empty sources, fun _ _ found => by cases found⟩ ?_).2
  rintro op listed s ⟨ok, dated⟩
  refine ⟨ok.apply op, fun key checkpoint now own => ?_⟩
  have move := checkpointMove_apply ok op key
  have earlier := dated key
  have begins := begins op listed
  generalize s.checkpoint? key = stored at move earlier
  rw [now] at move
  cases move with
  | same => exact earlier checkpoint rfl own
  | begun => exact begins own
  | @resumed _ _ _ _ _ previous => exact earlier previous rfl own
  | @advanced _ _ _ _ _ previous _ _ own' named ahead =>
      exact ahead.snapshotAt.trans (earlier previous rfl (own'.trans (named.symm.trans own)))
  | @completed _ _ _ _ previous => exact earlier previous rfl own

/-- **Every success is earned.**  In every execution of `executeClaimed` that begins at offset 0 and
leaves the run succeeded: the first reading numbers the total of the completed checkpoint, its records
have distinct identities and increasing keys, and each was written once at the start of the run, and
linked once to its owner if it is an interface. -/
theorem executeClaimed_success (worker : SyncWorker) (run : SyncRun) (source : Source)
    (startedAt : Time) (script : List (Move syncService)) (start : World syncService)
    (fresh : start.log = []) (claimed : ClaimedIn run startedAt start.store)
    (alone : Alone run.id
      ((executeClaimed worker run source startedAt).run handler script start).2.1)
    (fromStart : FromStart
      ((executeClaimed worker run source startedAt).run handler script start).2.1.log)
    (succeeded : ∃ r, ((executeClaimed worker run source startedAt).run handler script
      start).2.1.store.runs.find? run.id = some r ∧ r.status = .succeeded) :
    ∃ entity checkpoint, CompletedWith source.id run.id checkpoint
        ((executeClaimed worker run source startedAt).run handler script start).2.1.log ∧
      SuccessEarned source.id entity startedAt.truncateMicro
        (landmarksOf ((executeClaimed worker run source startedAt).run handler script start).2.1.log)
        checkpoint.cursor.total := by
  have trail : Trail run.id True (Started startedAt) [] start :=
    ⟨by rw [World.landmarks, World.observed, fresh, List.filterMap_nil],
      fun _ => ⟨claimed.checkpoints, fun _ => claimed.snapshot⟩⟩
  have here : SucceededPrepared run source startedAt start := by
    obtain ⟨r, found, open_⟩ := claimed.unsucceeded
    exact fun _ => ⟨r, found, fun succeeded => (open_ succeeded).elim⟩
  obtain ⟨r, found, earned⟩ := Prog.issues_run (H := handler)
    (J := ConcludesPrepared run source startedAt) (K := SucceededPrepared run source startedAt)
    (fun _ m _ => succeededPrepared_handler m)
    (concludesPrepared_executeClaimed trail claimed.unsucceeded) here script alone
  obtain ⟨r', found', done⟩ := succeeded
  cases found.symm.trans found'
  obtain ⟨selection, p, checkpoint, ⟨extra, later, trail⟩, completed, same, snapshot⟩ := earned done
  have shape := trail.landmarks
  have zero : p.checkpoint.cursor.nextOffset = 0 := by
    refine fromStart (.begun p.checkpoint) ?_ p.checkpoint rfl
    change Landmark.begun p.checkpoint ∈ World.landmarks _
    rw [shape]
    simp [Preparation.landmarks]
  have dated : p.checkpoint.cursor.snapshotAt = startedAt.truncateMicro :=
    (p.collects.kept p.begun.1 rfl).2.symm.trans snapshot
  refine ⟨selection.entity, checkpoint, completed, ?_⟩
  rw [same, ← dated]
  exact successEarned_of_preparation shape later zero

/-- A source with two interfaces of one device. -/
def portsSource (turn : PoolTurn) : (r : SyncRequest) → r.Reply
  | .validate _ | .openEntityPass _ _ _ | .upsertVertex _ | .upsertRelation _ => true
  | .selectedEntity _ => some .interface
  | .coversFullSource _ _ | .vertexExists _ => some true
  | .passPage _ _ =>
      some ⟨[⟨3, 7, "P-7", "SN-3", .empty⟩, ⟨3, 8, "P-8", "SN-3", .empty⟩], 2, 2, true⟩
  | .collectDevicePage _ _ _ | .collectEntityPage _ _ _ _ => none
  | .schedule => turn
  | .startVertex _ | .startRelation _ => ()
  | .deleteOrphanVerticesNotSeen _ _ _ => true

/-- A write is launched and one returns, in turn. -/
def portsScript : List (Move syncService) :=
  (List.replicate 40 [PoolTurn.launch, .finish 0]).flatten.map fun turn =>
    ⟨[], 3000, .none, false, portsSource turn⟩

/-- The claimed run collects the interfaces. -/
def executePortsRun : Outcome (Option SyncError) Unit × World syncService × List (Move syncService) :=
  (executeClaimed ⟨2, 20⟩ (Store.claimed 2000 (queuedRun "r" "s")) ⟨"s", "lab", "cmdb", "ref", true⟩
    2000).run handler portsScript claimedWorld

/-- The run that collects the interfaces succeeds, as it may. -/
theorem executeClaimed_success_ports : ∃ entity checkpoint,
    CompletedWith "s" "r" checkpoint executePortsRun.2.1.log ∧
      SuccessEarned "s" entity (Time.truncateMicro 2000) (landmarksOf executePortsRun.2.1.log)
        checkpoint.cursor.total := by
  have ran : Alone "r" executePortsRun.2.1 ∧ FromStart executePortsRun.2.1.log ∧
      (executePortsRun.2.1.store.runs.find? "r").any (fun r => r.status = .succeeded) = true := by
    decide +kernel
  obtain ⟨alone, fromStart, succeeded⟩ := ran
  obtain ⟨r, found, done⟩ := (Option.any_eq_true _ _).mp succeeded
  have claimed : ClaimedIn (Store.claimed 2000 (queuedRun "r" "s")) 2000 claimedWorld.store := by
    refine claimedIn_applyAll _ (by simp [Op.BeginsAt]) ⟨Store.claimed 2000 (queuedRun "r" "s"), ?_, nofun⟩
    decide +kernel
  unfold executePortsRun at alone fromStart found ⊢
  exact executeClaimed_success ⟨2, 20⟩ (Store.claimed 2000 (queuedRun "r" "s"))
    ⟨"s", "lab", "cmdb", "ref", true⟩ 2000 portsScript claimedWorld rfl claimed alone fromStart
    ⟨r, found, of_decide_eq_true done⟩

end UnifiedInfraTopology
