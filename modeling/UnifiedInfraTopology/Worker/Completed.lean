import UnifiedInfraTopology.Worker.Finishing
import UnifiedInfraTopology.Worker.Joining
import UnifiedInfraTopology.Worker.Success

/-!
# What a succeeded run has stored

`CompletedAs` is what the control store and the writes say of a run that has succeeded: it was prepared,
its checkpoint is complete and its own, it has finished no earlier than it started, and no write
of the graph is outstanding.  It holds from the success on, whatever the worker is told of it
(`executeClaimed_completed`), where nobody else writes to the run or the checkpoints of its source.
-/

namespace UnifiedInfraTopology

open Lib

/-! ## Other clients -/

section

variable {V : Service} {runId sourceId : String} {w : World V}

/-- No other client acts for the run, or on a checkpoint of the source. -/
def Unrivaled (runId sourceId : String) (w : World V) : Prop :=
  ∀ op before, Event.foreign op before ∈ w.log →
    op.owns runId = false ∧ ∀ key ∈ op.checkpointKey, key.1 ≠ sourceId

/-- The event is not an operation of another client for the run or the source. -/
def Event.unrivaled (runId sourceId : String) : Event V → Bool
  | .foreign op _ => !op.owns runId && op.checkpointKey.all fun key => key.1 ≠ sourceId
  | _ => true

theorem unrivaled_iff : Unrivaled runId sourceId w ↔ ∀ e ∈ w.log, e.unrivaled runId sourceId = true := by
  constructor
  · intro unrivaled e member
    cases e with
    | foreign op before =>
        obtain ⟨foreign, elsewhere⟩ := unrivaled op before member
        simp only [Event.unrivaled, foreign, Bool.not_false, Bool.true_and, Option.all_eq_true_iff_get]
        exact fun keyed => decide_eq_true (elsewhere _ (Option.get_mem keyed))
    | _ => rfl
  · intro each op before member
    have here := each _ member
    simp only [Event.unrivaled, Bool.and_eq_true, Bool.not_eq_true'] at here
    refine ⟨here.1, fun key keyed => ?_⟩
    have apart := here.2
    rw [Option.mem_def.mp keyed] at apart
    simpa using apart

instance (runId sourceId : String) (w : World V) : Decidable (Unrivaled runId sourceId w) :=
  decidable_of_iff _ unrivaled_iff.symm

theorem Unrivaled.alone (unrivaled : Unrivaled runId sourceId w) : Alone runId w :=
  fun op before member => (unrivaled op before member).1

theorem Unrivaled.of_log {w' : World V} {more : List (Event V)}
    (unrivaled : Unrivaled runId sourceId w') (grown : w'.log = w.log ++ more) :
    Unrivaled runId sourceId w :=
  fun op before member => unrivaled op before (by rw [grown]; exact List.mem_append_left _ member)

end

/-! ## The store of an execution -/

section

variable {V : Service} {ε α : Type}

theorem store_disturbed (w : World V) (disturbances : List Disturbance) :
    ∃ ops, (w.disturbed disturbances).store = w.store.applyAll ops := by
  induction disturbances generalizing w with
  | nil => exact ⟨[], rfl⟩
  | cons d disturbances ih =>
      obtain ⟨ops, applied⟩ := ih (w.disturb d)
      cases d with
      | operation op => exact ⟨op :: ops, applied⟩
      | contextEnds cause => exact ⟨ops, applied⟩
      | parentEnds => exact ⟨ops, applied⟩

/-- What an execution makes of the store are operations, its own and those of others. -/
theorem store_run (p : Prog (Call V) Call.Answer ε α) (script : List (Move V)) (w : World V) :
    ∃ ops, (p.run handler script w).2.1.store = w.store.applyAll ops := by
  have always : p.Issues handler (fun _ _ => True) w :=
    Prog.issues_of_only (Prog.only_true p) fun _ _ _ => trivial
  refine Prog.issues_run (H := handler) (K := fun w' => ∃ ops, w'.store = w.store.applyAll ops)
    (fun c m w' _ sofar => ?_) always ⟨[], rfl⟩ script
  obtain ⟨ops, reached⟩ := sofar
  obtain ⟨more, disturbed⟩ := store_disturbed w' m.disturbances
  rw [reached, ← Store.applyAll_append] at disturbed
  cases c with
  | control op =>
      rw [store_handler]
      rcases respond_control (w'.disturbed m.disturbances) m op with same | applied
      · exact ⟨ops ++ more, same.trans disturbed⟩
      · refine ⟨ops ++ more ++ [op], applied.trans ?_⟩
        rw [disturbed, Store.applyAll_append (ops ++ more)]
        rfl
  | _ => exact ⟨ops ++ more, disturbed⟩

end

/-! ## Completed runs -/

section

variable {run : SyncRun} {source : Source} {startedAt since : Time} {selection : Selection}
  {p : Preparation source.id run.id selection.entity} {w : World syncService}
  {c : Call syncService} {r : SyncRun}

/-- A checkpoint of the run that is complete. -/
structure OwnComplete (runId : String) (checkpoint : DeviceSyncCheckpoint) : Prop where
  complete : checkpoint.complete = true
  completedAt : checkpoint.completedAt.isSome = true
  own : checkpoint.cursor.runId = runId

/-- The resource is that of the entity. -/
def Selection.Matched (selection : Selection) : Prop :=
  ∃ code, syncResource selection.entity = some (selection.resource, code)

variable (run source startedAt selection p r) in
/-- The run has succeeded, as it was prepared. -/
structure CompletedAs (w : World syncService) : Prop where
  stored : w.store.runs.find? run.id = some r
  succeeded : r.status = .succeeded
  matched : selection.Matched
  concluding : Concluding run source startedAt selection p w
  joined : Joined w
  finished : ∃ f, r.finishedAt = some f ∧ startedAt.truncateMicro ≤ f
  checkpoint : ∃ checkpoint, w.store.checkpoint? (source.id, selection.resource) = some checkpoint ∧
    OwnComplete run.id checkpoint

/-- An operation that is not about the checkpoint, or stores no cursor, leaves a complete one alone. -/
theorem OwnComplete.apply {s : Store} {key : String × String} {runId : String} {op : Op}
    (ok : CheckpointsOk s) (quiet : op.checkpointKey ≠ some key ∨ op.storesCursor = false)
    (stored : ∃ checkpoint, s.checkpoint? key = some checkpoint ∧ OwnComplete runId checkpoint) :
    ∃ checkpoint, (s.apply op).checkpoint? key = some checkpoint ∧ OwnComplete runId checkpoint := by
  obtain ⟨checkpoint, here, complete⟩ := stored
  have move := checkpointMove_apply ok op key
  rw [here] at move
  generalize (s.apply op).checkpoint? key = next at move
  cases move with
  | same => exact ⟨checkpoint, rfl, complete⟩
  | begun => exact (quiet.elim (fun apart => apart rfl) nofun).elim
  | resumed => exact (quiet.elim (fun apart => apart rfl) nofun).elim
  | advanced => exact (quiet.elim (fun apart => apart rfl) nofun).elim
  | completed _ incomplete => rw [complete.complete] at incomplete; cases incomplete

theorem CompletedAs.checkpoints (completed : CompletedAs run source startedAt selection p r w) :
    CheckpointsOk w.store := by
  obtain ⟨extra, -, trail⟩ := completed.concluding
  exact (trail.kept trivial).checkpoints

/-- A succeeded run stays as it is. -/
theorem CompletedAs.stored_apply (completed : CompletedAs run source startedAt selection p r w)
    (op : Op) : (w.store.apply op).runs.find? run.id = some r := by
  obtain ⟨r', found, step⟩ := @Store.find?_apply op _ _ _ completed.stored
  rwa [step.eq_of_terminal (by rw [completed.succeeded]; rfl)] at found

theorem joined_disturbed (disturbances : List Disturbance) (joined : Joined w) :
    Joined (w.disturbed disturbances) := by
  obtain ⟨more, grown, background⟩ := log_disturbed w disturbances
  have silent : more.filterMap Event.write? = [] :=
    List.filterMap_eq_nil_iff.mpr fun e member => write?_background (background e member)
  rw [Joined, World.writes, grown, List.filterMap_append, silent, List.append_nil]
  exact joined

theorem concluding_disturbed (disturbances : List Disturbance)
    (concluding : Concluding run source startedAt selection p w) :
    Concluding run source startedAt selection p (w.disturbed disturbances) := by
  obtain ⟨extra, later, trail⟩ := concluding
  exact ⟨extra, later, (observed_disturbed w disturbances).trans trail.landmarks,
    fun here => cursorKept_disturbed (trail.kept here) disturbances⟩

theorem CompletedAs.disturbed (completed : CompletedAs run source startedAt selection p r w)
    {disturbances : List Disturbance} (unrivaled : Unrivaled run.id source.id (w.disturbed disturbances)) :
    CompletedAs run source startedAt selection p r (w.disturbed disturbances) := by
  induction disturbances generalizing w with
  | nil => exact completed
  | cons d disturbances ih =>
      refine ih (w := w.disturb d) ?_ unrivaled
      have concluding := concluding_disturbed [d] completed.concluding
      have joined := joined_disturbed [d] completed.joined
      cases d with
      | operation op =>
          obtain ⟨more, grown, -⟩ := log_disturbed (w.disturb (.operation op)) disturbances
          have here : Unrivaled run.id source.id (w.disturb (.operation op)) := unrivaled.of_log grown
          obtain ⟨-, elsewhere⟩ := here op w.store (List.mem_append_right _ (List.mem_singleton_self _))
          exact ⟨completed.stored_apply op, completed.succeeded, completed.matched, concluding, joined,
            completed.finished, OwnComplete.apply completed.checkpoints
              (Or.inl fun keyed => elsewhere _ keyed rfl) completed.checkpoint⟩
      | contextEnds cause => exact { completed with concluding := concluding, joined := joined }
      | parentEnds => exact { completed with concluding := concluding, joined := joined }

theorem writes_closing {sourceId resource : String} (closing : c.Closing sourceId resource) :
    c.writes = false := by
  cases c with
  | service r =>
      cases r with
      | coversFullSource => rfl
      | deleteOrphanVerticesNotSeen => rfl
      | _ => cases closing
  | _ => rfl

/-- The worker's own calls leave a completed run alone. -/
theorem CompletedAs.call {sourceId resource : String} {m : Move syncService}
    (completed : CompletedAs run source startedAt selection p r w)
    (closing : c.Closing sourceId resource)
    (unrivaled : Unrivaled run.id source.id (w.disturbed m.disturbances)) :
    CompletedAs run source startedAt selection p r (handler c m w).2 := by
  have before := completed.disturbed unrivaled
  have concluding := completed.concluding.call closing m
  have joined : Joined (handler c m w).2 :=
    (outstanding_silent (writes_closing closing) m w).trans completed.joined
  cases c with
  | control op =>
      have kept : (handler (.control op) m w).2.store.runs.find? run.id = some r ∧
          ∃ checkpoint, (handler (.control op) m w).2.store.checkpoint?
              (source.id, selection.resource) = some checkpoint ∧ OwnComplete run.id checkpoint := by
        rw [store_handler]
        rcases respond_control (w.disturbed m.disturbances) m op with same | applied
        · rw [same]
          exact ⟨before.stored, before.checkpoint⟩
        · rw [applied]
          exact ⟨before.stored_apply op, OwnComplete.apply before.checkpoints
            (Or.inr (storesCursor_closing closing op rfl)) before.checkpoint⟩
      exact ⟨kept.1, completed.succeeded, completed.matched, concluding, joined, completed.finished,
        kept.2⟩
  | _ => exact { before with concluding := concluding, joined := joined }

/-! ## The success -/

/-- A completion that is accepted leaves a complete checkpoint. -/
theorem ownComplete_of_accepted {s : Store} {sourceId resource runId : String} {status : SyncRunStatus}
    {completedAt : Time} (ok : CheckpointsOk s)
    (accepted : s.accepts (.completeCheckpointAndRun sourceId resource runId status completedAt) = true) :
    ∃ checkpoint, (s.apply (.completeCheckpointAndRun sourceId resource runId status
        completedAt)).checkpoint? (sourceId, resource) = some checkpoint ∧
      OwnComplete runId checkpoint := by
  have move := checkpointMove_apply ok
    (.completeCheckpointAndRun sourceId resource runId status completedAt) (sourceId, resource)
  generalize s.checkpoint? (sourceId, resource) = stored at move
  generalize (s.apply _).checkpoint? (sourceId, resource) = next at move
  cases move with
  | same stored idle => exact (idle accepted rfl).elim
  | completed _ _ own => exact ⟨_, rfl, rfl, rfl, own⟩

theorem finishedAt_of_completion {op : Op} {r r' : SyncRun} {sourceId resource runId : String}
    {completedAt : Time} (step : RunStep op r r') (before : r.status ≠ .succeeded)
    (after : r'.status = .succeeded)
    (completes : op = .completeCheckpointAndRun sourceId resource runId .publishing completedAt) :
    r'.finishedAt = some completedAt.truncateMicro := by
  cases step with
  | same => exact (before after).elim
  | completed =>
      cases completes
      rfl
  | expiredCanceled => cases after
  | expiredFailed => cases after
  | _ => cases completes

/-- The times that the worker passes are known. -/
theorem passesKnown_of_reading {op : Op} {m : Move syncService}
    (passes : PassesReading run.id startedAt (.control op : Call syncService) w)
    (ticking : Ticking since (w.disturbed m.disturbances).log) :
    PassesKnown since startedAt (w.disturbed m.disturbances).log op := by
  obtain ⟨more, grown, background⟩ := log_disturbed w m.disturbances
  have clock : lastClock (w.disturbed m.disturbances).log = lastClock w.log := by
    rw [grown]
    exact lastClock_background background
  have before : Ticking since w.log := by
    rw [grown] at ticking
    exact ticking_append ticking
  obtain ⟨-, known⟩ := passes
  rw [PassesKnown, clock]
  rcases known with fresh | ⟨transition, unread, now, timed, rfl | ⟨t, reading, rfl⟩⟩
  · exact Or.inl fresh
  · exact Or.inr ⟨transition, unread, now, timed, Or.inl rfl⟩
  · exact Or.inr ⟨transition, unread, _, timed, Or.inr ⟨t, since_le_reading before rfl reading, rfl⟩⟩

/-- The call by which the run succeeds. -/
theorem completedAs_of_succeeds {m : Move syncService} {r' : SyncRun}
    (concluding : Concluding run source startedAt selection p w) (matched : selection.Matched)
    (closing : c.Closing source.id selection.resource) (joins : CallsJoined c w)
    (passes : PassesReading run.id startedAt c w)
    (began : startedAt.truncateMicro ≤ since.truncateMicro)
    (ticking : Ticking since (w.disturbed m.disturbances).log)
    (open_ : (w.disturbed m.disturbances).store.Unsucceeded run.id)
    (found : (handler c m w).2.store.runs.find? run.id = some r') (succeeded : r'.status = .succeeded) :
    CompletedAs run source startedAt selection p r' (handler c m w).2 := by
  have after := concluding.call closing m
  obtain ⟨extra, later, trail⟩ := concluding
  have checkpoints := (cursorKept_disturbed (trail.kept trivial) m.disturbances).checkpoints
  obtain ⟨r, before, unsucceeded⟩ := open_
  have id : r.id = run.id := Table.key_of_find? before
  cases c with
  | control op =>
      have joined : Joined (handler (.control op) m w).2 := by
        rcases joins with pooled | joined
        · cases pooled
        · exact (outstanding_silent rfl m w).trans joined
      have known := passesKnown_of_reading passes ticking
      have moved : (w.disturbed m.disturbances).store.apply op =
          (handler (.control op) m w).2.store := by
        rw [store_handler]
        rcases respond_control (w.disturbed m.disturbances) m op with same | applied
        · rw [store_handler, same, before] at found
          exact (unsucceeded (Option.some.inj found ▸ succeeded)).elim
        · exact applied.symm
      obtain ⟨r₁, found₁, step⟩ := @Store.find?_apply op _ _ _ before
      rw [moved] at found₁
      cases found₁.symm.trans found
      rcases succeeds_by step unsucceeded succeeded with ⟨resource, completedAt, rfl⟩ | ⟨now, code, rfl⟩
      · obtain ⟨same, rfl⟩ := closing
        have finished := finishedAt_of_completion step unsucceeded succeeded rfl
        have accepted : (w.disturbed m.disturbances).store.accepts (.completeCheckpointAndRun
            r.sourceId selection.resource r.id .publishing completedAt) = true := by
          cases executed : (w.disturbed m.disturbances).store.execute (.completeCheckpointAndRun
            r.sourceId selection.resource r.id .publishing completedAt) with
          | ok s' => simp [Store.accepts, executed, Except.toOption]
          | error e =>
              rw [Store.apply_of_error executed] at moved
              rw [← moved, before] at found
              exact (unsucceeded (Option.some.inj found ▸ succeeded)).elim
        have complete := ownComplete_of_accepted checkpoints accepted
        rw [moved] at complete
        generalize (handler _ m w).2 = w' at complete found after joined ⊢
        rw [same, id] at complete
        exact ⟨found, succeeded, matched, after, joined,
          ⟨_, finished, start_le_passed ticking known rfl began⟩, complete⟩
      · simp [Call.Closing, Call.routine] at closing
  | _ =>
      rw [show (handler _ m w).2.store = (w.disturbed m.disturbances).store from rfl, before] at found
      exact (unsucceeded (Option.some.inj found ▸ succeeded)).elim

/-! ## Executions -/

variable (run source startedAt) in
/-- What a call finds: a run that has not succeeded, or a prepared one with a matched resource. -/
def Publishes (c : Call syncService) (w : World syncService) : Prop :=
  (c.concludes = false ∧ (Alone run.id w → w.store.Unsucceeded run.id)) ∨
    ∃ selection p, c.Closing source.id selection.resource ∧ selection.Matched ∧
      Concluding run source startedAt selection p w

variable (run source startedAt since) in
/-- While nobody interferes, the run has not succeeded or is completed. -/
def CompletedSoFar (w : World syncService) : Prop :=
  Unrivaled run.id source.id w → Ticking since w.log → w.store.Unsucceeded run.id ∨
    ∃ selection p r, CompletedAs run source startedAt selection p r w

theorem CompletedAs.not_unsucceeded (completed : CompletedAs run source startedAt selection p r w)
    (unsucceeded : w.store.Unsucceeded run.id) : False := by
  obtain ⟨r', found, open_⟩ := unsucceeded
  cases completed.stored.symm.trans found
  exact open_ completed.succeeded

/-- The calls of the preparation leave the run unsucceeded. -/
theorem unsucceeded_preparing {m : Move syncService} (preparing : c.concludes = false)
    (held : Alone run.id w → w.store.Unsucceeded run.id) (alone : Alone run.id (handler c m w).2) :
    (handler c m w).2.store.Unsucceeded run.id := by
  have before := alone_handler alone
  refine unsucceeded_handler ?_ (held (alone_disturbed before)) before
  rintro op rfl
  cases op <;> exact preparing

theorem completed_handler (began : startedAt.truncateMicro ≤ since.truncateMicro) {m : Move syncService}
    (publishes : Publishes run source startedAt c w) (joins : CallsJoined c w)
    (passes : PassesReading run.id startedAt c w)
    (sofar : CompletedSoFar run source startedAt since w) :
    CompletedSoFar run source startedAt since (handler c m w).2 := by
  intro unrivaled ticking
  have unrivaledBefore : Unrivaled run.id source.id (w.disturbed m.disturbances) :=
    unrivaled.of_log (log_handler c m w)
  have tickingBefore : Ticking since (w.disturbed m.disturbances).log := by
    rw [log_handler] at ticking
    exact ticking_append ticking
  obtain ⟨more, grown, -⟩ := log_disturbed w m.disturbances
  have tickingStart : Ticking since w.log := by
    rw [grown] at tickingBefore
    exact ticking_append tickingBefore
  rcases sofar (unrivaledBefore.of_log grown) tickingStart with open_ | ⟨selection, p, r, completed⟩
  · have before := unsucceeded_disturbed open_ unrivaledBefore.alone
    obtain ⟨r, found, -⟩ := open_
    obtain ⟨r', found'⟩ := exists_row_handler found c m
    by_cases succeeded : r'.status = .succeeded
    · rcases publishes with ⟨preparing, held⟩ | ⟨selection, p, closing, matched, concluding⟩
      · obtain ⟨r₁, found₁, unsucceeded⟩ := unsucceeded_preparing preparing held unrivaled.alone
        exact (unsucceeded (Option.some.inj (found₁.symm.trans found') ▸ succeeded)).elim
      · exact Or.inr ⟨selection, p, r', completedAs_of_succeeds concluding matched closing joins passes
          began tickingBefore before found' succeeded⟩
    · exact Or.inl ⟨r', found', succeeded⟩
  · rcases publishes with ⟨-, open_⟩ | ⟨selection', p', closing, -, -⟩
    · exact (completed.not_unsucceeded (open_ (unrivaledBefore.of_log grown).alone)).elim
    · exact Or.inr ⟨selection, p, r, completed.call closing unrivaledBefore⟩

end

/-! ## The program -/

section

variable {worker : SyncWorker} {run : SyncRun} {source : Source} {startedAt since : Time}
  {w : World syncService}

theorem ensures_selectEntity :
    Prog.Ensures handler (selectEntity run source startedAt) (fun selection _ => selection.Matched) w := by
  refine Prog.contract_bind (Prog.contract_of_forall (fun _ w' => ?_) fun _ _ => trivial)
  split_ifs
  · exact Prog.ensures_exitWith _ _
  · refine Prog.contract_perform fun m valid _ _ => ?_
    refine Prog.contract_bind (ensures_orFail fun _ _ => ?_)
    refine Prog.contract_perform fun m selected _ _ => ?_
    refine Prog.contract_bind (ensures_orFail fun entity _ => ?_)
    refine Prog.contract_bind (ensures_orFail fun resource same => ?_)
    refine Prog.contract_perform fun m covered _ _ => ?_
    exact Prog.contract_bind (ensures_orFail fun fullSource _ => Prog.contract_ret ⟨resource.2, same⟩)

/-- The selected resource is that of the entity. -/
theorem ensures_matched :
    Prog.Ensures handler (prepare worker run source startedAt) (fun prepared _ => prepared.1.Matched) w := by
  have next {α β : Type} {q : SyncProg (Option SyncError) α} {f : α → SyncProg (Option SyncError) β}
      {Q : β → World syncService → Prop} (w : World syncService)
      (later : ∀ a w', Prog.Ensures handler (f a) Q w') : Prog.Ensures handler (q.bind f) Q w :=
    Prog.contract_bind (Prog.contract_of_forall (fun a w' => later a w') fun _ _ => trivial)
  refine Prog.contract_bind (Prog.contract_mono ensures_selectEntity fun selection w matched => ?_)
  refine next w fun _ w => next w fun _ w => next w fun _ w => next w fun _ w => next w fun _ w =>
    next w fun _ w => next w fun _ w => ?_
  exact Prog.contract_ret matched

theorem publishes_executeClaimed (trail : Trail run.id True (Started startedAt) [] w)
    (unsucceeded : w.store.Unsucceeded run.id) :
    (executeClaimed worker run source startedAt).Issues handler (Publishes run source startedAt) w := by
  refine Prog.issues_bind ?_
    (Prog.contract_mono (Prog.ensures_and (trail_prepare trail) ensures_matched) ?_)
  · exact (Prog.behaves_of_only (P := fun c : Call syncService => c.concludes = false)
      (I := fun w => Alone run.id w → w.store.Unsucceeded run.id)
      (preparing_prepare worker run source startedAt)
      (fun _ _ preparing held => Or.inl ⟨preparing, held⟩)
      (fun _ _ _ preparing held alone => unsucceeded_preparing preparing held alone)
      fun _ => unsucceeded).issues
  · rintro ⟨selection, cursor⟩ w' ⟨⟨p, prepared⟩, matched⟩
    have concluding : Concluding run source startedAt selection p w' := by
      refine ⟨[], fun _ member => (List.not_mem_nil member).elim, ?_⟩
      rw [List.append_nil]
      exact prepared.trail
    exact (Prog.behaves_of_only (P := Call.Closing source.id selection.resource)
      (I := Concluding run source startedAt selection p)
      (closing_publish run source selection cursor.snapshotAt)
      (fun _ _ closing held => Or.inr ⟨selection, p, closing, matched, held⟩)
      (fun _ m _ closing held => held.call closing m) concluding).issues

/-- **What a succeeded run has stored.**  In every execution of `executeClaimed` under a clock that does
not go back, without another writer of the run or of the checkpoints of its source: once the run
has succeeded, it was prepared, its checkpoint is complete, and it has finished no earlier than
it started. -/
theorem completedSoFar_executeClaimed (fresh : w.log = []) (claimed : ClaimedIn run startedAt w.store)
    (began : startedAt ≤ since) (script : List (Move syncService)) :
    CompletedSoFar run source startedAt since
      ((executeClaimed worker run source startedAt).run handler script w).2.1 := by
  have trail : Trail run.id True (Started startedAt) [] w :=
    ⟨by rw [World.landmarks, World.observed, fresh, List.filterMap_nil],
      fun _ => ⟨claimed.checkpoints, fun _ => claimed.snapshot⟩⟩
  have joins : Joins (executeClaimed worker run source startedAt) w := by
    refine joins_executeClaimed ?_
    rw [Joined, World.writes, fresh]
    rfl
  have publishes : (executeClaimed worker run source startedAt).Issues handler
      (Publishes run source startedAt) w := publishes_executeClaimed trail claimed.unsucceeded
  have issues := Prog.issues_and publishes
    (Prog.issues_and joins.issues (dated_executeClaimed worker run source startedAt w))
  exact Prog.issues_run (fun c m w may => completed_handler (Time.truncateMicro_mono began) may.1 may.2.1
    may.2.2) issues (fun _ _ => Or.inl claimed.unsucceeded) script

end

end UnifiedInfraTopology
