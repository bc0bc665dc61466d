import UnifiedInfraTopology.Worker.Unchanging
import UnifiedInfraTopology.Worker.Terminal

/-!
# A run that goes on from its cursor

`BeginCheckpoint` returns the cursor that a run has stored before, and `executeClaimed` reads on from
there.  The validation reads all pages, and compares them with what was read since.

A `CalmExecution` is one in which `BeginCheckpoint` returns a given cursor and nothing but the pages
of an unchanging source decides how the run ends.  `calmly_executeClaimed` says how it ends, and
`status_resumed_iff` compares a run that goes on from a boundary with one that begins again.
-/

namespace UnifiedInfraTopology

open Lib

/-! ## Calm executions -/

/-- The reply is the one of the source and the graph, and favourable where they do not decide it. -/
def UnchangingSource.Replies (S : UnchangingSource) (entity : EntityType) :
    (r : SyncRequest) → r.Reply → Prop
  | .validate _, valid => valid = true
  | .selectedEntity _, selected => selected = some entity
  | .coversFullSource _ _, covered => covered.isSome = true
  | .openEntityPass _ _ _, opened => opened = true
  | .passPage _ offset, page => page = S.passPage offset
  | .collectDevicePage _ _ offset, page => page = S.collectDevicePage offset
  | .collectEntityPage _ _ entity offset, page => page = S.collectEntityPage entity offset
  | .vertexExists identity, found => found = S.vertexExists identity
  | .upsertVertex _, written | .upsertRelation _, written => written = true
  | .deleteOrphanVerticesNotSeen _ _ _, cleaned => cleaned = true
  | .schedule, _ | .startVertex _, _ | .startRelation _, _ => True

/-- The context lives, the run is not canceled, the store does what it is asked for, and
`BeginCheckpoint` returns the cursor. -/
def Call.Calm (S : UnchangingSource) (entity : EntityType) (cursor : DeviceSyncCursor) :
    (c : Call syncService) → c.Answer → Prop
  | .now, _ | .parentErr, _ => True
  | .contextErr, done => done = false
  | .contextCause, cause => cause = none
  | .runCancellationRequested _, requested => requested = some false
  | .control (.beginCheckpoint _ _ _ _ _), begun => begun.map (·.cursor) = some cursor
  | .control _, done => done.isSome = true
  | .service r, reply => S.Replies entity r reply

def Event.Calm (S : UnchangingSource) (entity : EntityType) (cursor : DeviceSyncCursor) :
    Event syncService → Prop
  | .call c _ _ (some answer) _ _ => c.Calm S entity cursor answer
  | _ => True

instance (S : UnchangingSource) (entity : EntityType) (r : SyncRequest) (reply : r.Reply) :
    Decidable (S.Replies entity r reply) := by
  unfold UnchangingSource.Replies
  split <;> infer_instance

instance (S : UnchangingSource) (entity : EntityType) (cursor : DeviceSyncCursor)
    (c : Call syncService) (answer : c.Answer) : Decidable (c.Calm S entity cursor answer) := by
  unfold Call.Calm
  split <;> infer_instance

instance (S : UnchangingSource) (entity : EntityType) (cursor : DeviceSyncCursor)
    (e : Event syncService) : Decidable (e.Calm S entity cursor) := by
  unfold Event.Calm
  split <;> infer_instance

/-- Every call that was answered was answered calmly. -/
def World.Calm (S : UnchangingSource) (entity : EntityType) (cursor : DeviceSyncCursor)
    (w : World syncService) : Prop := ∀ e ∈ w.log, e.Calm S entity cursor

instance (S : UnchangingSource) (entity : EntityType) (cursor : DeviceSyncCursor)
    (w : World syncService) : Decidable (w.Calm S entity cursor) :=
  inferInstanceAs (Decidable (∀ e ∈ w.log, e.Calm S entity cursor))

/-- The stored status of a run. -/
def World.status? (runId : String) (w : World syncService) : Option SyncRunStatus :=
  (w.store.runs.find? runId).map (·.status)

/-- A finished execution of a run in which `BeginCheckpoint` returns the cursor, and which only the
source decides. -/
structure CalmExecution (S : UnchangingSource) (entity : EntityType) (run : SyncRun)
    (source : Source) (cursor : DeviceSyncCursor) where
  worker : SyncWorker
  startedAt : Time
  script : List (Move syncService)
  start : World syncService
  fresh : start.log = []
  returned : ((executeClaimed worker run source startedAt).run handler script start).1 ≠ .pending
  calm : ((executeClaimed worker run source startedAt).run handler script start).2.1.Calm S entity cursor

namespace CalmExecution

variable {S : UnchangingSource} {entity : EntityType} {run : SyncRun} {source : Source}
  {cursor : DeviceSyncCursor}

/-- The status with which the run ends. -/
def status (execution : CalmExecution S entity run source cursor) : Option SyncRunStatus :=
  ((executeClaimed execution.worker run source execution.startedAt).run handler execution.script
    execution.start).2.1.status? run.id

end CalmExecution

section Calm

variable {S : UnchangingSource} {entity : EntityType} {cursor : DeviceSyncCursor}
  {w : World syncService} {ε α : Type} {exit : ε → World syncService → Prop}
  {runId : String} {status : SyncRunStatus}

theorem shrinking_calm (S : UnchangingSource) (entity : EntityType) (cursor : DeviceSyncCursor) :
    Prog.Shrinking handler (World.Calm S entity cursor) := by
  intro c m w calm e member
  obtain ⟨before, grown, -⟩ := log_disturbed w m.disturbances
  refine calm e ?_
  rw [log_handler, grown]
  exact List.mem_append_left _ (List.mem_append_left _ member)

theorem calm_answer {c : Call syncService} {m : Move syncService} {answer : c.Answer}
    (calm : (handler c m w).2.Calm S entity cursor) (answered : (handler c m w).1 = some answer) :
    c.Calm S entity cursor answer := by
  have event := calm _ (by rw [log_handler]; exact List.mem_append_right _ (List.mem_singleton_self _))
  rw [answered] at event
  exact event

/-- A transition that was answered has moved the run. -/
theorem status_of_transition {origin target : SyncRunStatus} {now : Time} {code : String}
    {m : Move syncService}
    (answered : (handler (.control (.transitionRun runId origin target now code)) m w).1 =
      some (some ())) :
    (handler (.control (.transitionRun runId origin target now code)) m w).2.status? runId =
      some target := by
  have respond_eq := respond_of_handler answered
  rw [World.status?, store_handler]
  generalize w.disturbed m.disturbances = w' at respond_eq
  cases fault : m.fault with
  | lost => simp [World.respond, fault] at respond_eq
  | refused => simp [World.respond, fault] at respond_eq
  | none =>
      cases outcome : w'.store.attempt (.transitionRun runId origin target now code) with
      | error e => simp [World.respond, fault, outcome] at respond_eq
      | ok result =>
          obtain ⟨reply, store⟩ := result
          have executed := Store.execute_eq_attempt (.transitionRun runId origin target now code)
            w'.store
          rw [outcome] at executed
          obtain ⟨run, ok⟩ := Store.ok_of_map executed
          obtain ⟨-, r, found, here, -⟩ := holds_transitioned ok
          simp only [World.respond, fault, outcome, found, Option.map_some, here]

/-- A completion that was answered has made the run succeed. -/
theorem status_of_completion {sourceId resource : String} {origin : SyncRunStatus} {now : Time}
    {m : Move syncService}
    (answered : (handler (.control (.completeCheckpointAndRun sourceId resource runId origin now)) m
      w).1 = some (some ())) :
    (handler (.control (.completeCheckpointAndRun sourceId resource runId origin now)) m w).2.status?
      runId = some .succeeded := by
  have respond_eq := respond_of_handler answered
  rw [World.status?, store_handler]
  generalize w.disturbed m.disturbances = w' at respond_eq
  cases fault : m.fault with
  | lost => simp [World.respond, fault] at respond_eq
  | refused => simp [World.respond, fault] at respond_eq
  | none =>
      cases outcome : w'.store.attempt
        (.completeCheckpointAndRun sourceId resource runId origin now) with
      | error e => simp [World.respond, fault, outcome] at respond_eq
      | ok result =>
          obtain ⟨reply, store⟩ := result
          have executed := Store.execute_eq_attempt
            (.completeCheckpointAndRun sourceId resource runId origin now) w'.store
          rw [outcome] at executed
          obtain ⟨run, ok⟩ := Store.ok_of_map executed
          obtain ⟨rfl, ⟨r, locked⟩, -, -, -, -, -, -, -, rfl⟩ := Store.completeCheckpointAndRun_ok ok
          obtain ⟨found, rfl, here, -, -⟩ := Store.lockRun_eq_some locked
          simp [World.respond, fault, outcome, Table.find?_update, found, Table.key_of_find? found,
            here, Store.succeeded]

/-! ### Steps -/

variable (S entity cursor) in
/-- What a program does in a calm execution. -/
abbrev Calmly (exit : ε → World syncService → Prop) (p : SyncProg ε α)
    (Q : α → World syncService → Prop) (w : World syncService) : Prop :=
  Prog.Contract handler (World.Calm S entity cursor) exit p Q w

/-- The run has failed, for a reason. -/
def Fails (runId : String) (reason : Prop) (_ : Option SyncError) (w : World syncService) : Prop :=
  reason ∧ w.status? runId = some .failed

theorem calmly_currentTime :
    Calmly S entity cursor exit (currentTime : SyncProg ε Time) (fun _ _ => True) w :=
  Prog.contract_perform fun _ _ _ _ => Prog.contract_ret trivial

theorem calmly_leaseContextError :
    Calmly S entity cursor exit (leaseContextError : SyncProg ε Bool) (fun lost _ => lost = false) w := by
  refine Prog.contract_perform fun m cause calm answered => Prog.contract_ret ?_
  have alive : cause = none := calm_answer calm answered
  rw [alive]
  exact decide_eq_false nofun

theorem calmly_contextErr {k : Bool → SyncProg ε α} {Q : α → World syncService → Prop}
    (next : ∀ w', Calmly S entity cursor exit (k false) Q w') :
    Calmly S entity cursor exit (contextErr.bind k) Q w := by
  refine Prog.contract_perform fun m done calm answered => ?_
  have alive : done = false := calm_answer calm answered
  rw [alive]
  exact next _

theorem calmly_askCancellation {k : Option Bool → SyncProg ε α} {Q : α → World syncService → Prop}
    (next : ∀ w', Calmly S entity cursor exit (k (some false)) Q w') :
    Calmly S entity cursor exit ((askCancellation runId).bind k) Q w := by
  refine Prog.contract_perform fun m requested calm answered => ?_
  have uncanceled : requested = some false := calm_answer calm answered
  rw [uncanceled]
  exact next _

theorem calmly_cancellationRequested :
    Calmly S entity cursor exit (cancellationRequested runId : SyncProg ε _)
      (fun answer _ => answer = .ok false) w := by
  refine Prog.contract_bind (Prog.contract_mono calmly_leaseContextError ?_)
  rintro lost w' rfl
  exact calmly_contextErr fun _ => calmly_askCancellation fun _ => Prog.contract_ret rfl

theorem calmly_leaveIfCanceled {exit : Option SyncError → World syncService → Prop} {startedAt : Time} :
    Calmly S entity cursor exit (leaveIfCanceled runId status startedAt) (fun _ _ => True) w := by
  refine Prog.contract_bind (Prog.contract_mono calmly_cancellationRequested ?_)
  rintro answer w' rfl
  exact Prog.contract_ret trivial

theorem calmly_leaveIfLost {exit : Option SyncError → World syncService → Prop} :
    Calmly S entity cursor exit leaveIfLost (fun _ _ => True) w := by
  refine Prog.contract_bind (Prog.contract_mono calmly_leaseContextError ?_)
  rintro lost w' rfl
  exact Prog.contract_ret trivial

theorem calmly_moveRun {exit : Option SyncError → World syncService → Prop} {target : SyncRunStatus} :
    Calmly S entity cursor exit (moveRun runId status target) (fun _ _ => True) w := by
  refine Prog.contract_bind (Prog.contract_mono calmly_currentTime fun now w' _ => ?_)
  refine Prog.contract_perform fun m moved calm answered => ?_
  obtain ⟨reply, rfl⟩ := Option.isSome_iff_exists.mp (calm_answer calm answered)
  exact Prog.contract_ret trivial

/-! ### Leaving -/

theorem calmly_failRun {now : Time} {code : String} :
    Calmly S entity cursor exit (failRun runId status now code : SyncProg ε _)
      (fun _ w' => w'.status? runId = some .failed) w := by
  refine Prog.contract_perform fun m moved calm answered => Prog.contract_ret ?_
  obtain ⟨reply, rfl⟩ := Option.isSome_iff_exists.mp (calm_answer calm answered)
  exact status_of_transition answered

theorem calmly_failOrCancel {code : String} :
    Calmly S entity cursor exit (failOrCancel runId status code : SyncProg ε _)
      (fun _ w' => w'.status? runId = some .failed) w := by
  refine Prog.contract_bind (Prog.contract_mono calmly_leaseContextError ?_)
  rintro lost w' rfl
  refine Prog.contract_bind (Prog.contract_mono calmly_currentTime fun now w' _ => ?_)
  exact calmly_contextErr fun _ => calmly_askCancellation fun _ => calmly_failRun

variable {reason : Prop} {code : String} {Q : α → World syncService → Prop}

theorem calmly_exit (why : reason) :
    Calmly S entity cursor (Fails runId reason) (Prog.exitWith (failOrCancel runId status code)) Q w :=
  Prog.contract_exitWith (Prog.contract_mono calmly_failOrCancel fun _ _ failed => ⟨why, failed⟩)

theorem calmly_leaveFailed (why : reason) :
    Calmly S entity cursor (Fails runId reason) (leaveFailed runId status code) Q w :=
  Prog.contract_bind (Prog.contract_mono calmly_currentTime fun _ _ _ => Prog.contract_exitWith
    (Prog.contract_mono calmly_failRun fun _ _ failed => ⟨why, failed⟩))

/-! ### Pages -/

theorem calmly_readPage {pass : Pass} {source : Source} {offset : Int} :
    Calmly S entity cursor exit (readPage pass source entity offset : SyncProg ε _)
      (fun page _ => page = S.page entity offset) w := by
  by_cases ports : entity = .interface
  · rw [readPage, if_pos ports, UnchangingSource.page, if_pos ports]
    exact Prog.contract_call fun m page calm answered => Prog.contract_ret (calm_answer calm answered)
  · rw [readPage, if_neg ports, UnchangingSource.page, if_neg ports]
    by_cases others : entity ≠ .device
    · rw [collectEntityPage, if_pos others, if_pos others]
      exact Prog.contract_call fun m page calm answered => Prog.contract_ret (calm_answer calm answered)
    · rw [collectEntityPage, if_neg others, if_neg others]
      refine Prog.contract_perform fun m page calm answered => Prog.contract_ret ?_
      have served : page = S.collectDevicePage offset := calm_answer calm answered
      rw [served]

theorem calmly_validateInterfaceOwners {sourceId : String} {owners : InterfaceOwners}
    {records : List EntityRecord} :
    Calmly S entity cursor exit (validateInterfaceOwners sourceId owners records : SyncProg ε _)
      (fun found _ => found = S.owners sourceId owners records) w := by
  cases records with
  | nil => exact Prog.contract_ret rfl
  | cons first records =>
      unfold validateInterfaceOwners UnchangingSource.owners
      dsimp only
      split_ifs
      · exact Prog.contract_ret rfl
      · exact Prog.contract_ret rfl
      · exact Prog.contract_ret rfl
      · exact Prog.contract_ret rfl
      all_goals
        refine Prog.contract_perform fun m found calm answered => ?_
        have known : found = S.vertexExists _ := calm_answer calm answered
        rw [known]
        rename_i here
      · rw [if_pos here]
        exact Prog.contract_ret rfl
      · rw [if_neg here]
        exact Prog.contract_ret rfl

/-! ### Writing -/

section Write

variable {worker : SyncWorker} {sourceId : String} {snapshotAt : Time}

theorem calmly_finishWrite {pool : Pool} {index : Nat} {record : EntityRecord} {stage : WriteStage}
    (kept : pool.failed = false) :
    Calmly S entity cursor exit
      (finishWrite sourceId entity snapshotAt pool index record stage : SyncProg ε Pool)
      (fun pool' _ => pool'.failed = false) w := by
  cases stage with
  | vertex =>
      refine Prog.contract_perform fun m written calm answered => ?_
      have done : written = true := calm_answer calm answered
      subst done
      by_cases ports : entity = .interface
      · simp only [Bool.not_true, Bool.false_eq_true, ↓reduceIte, if_pos ports]
        exact Prog.contract_perform fun m _ _ _ => Prog.contract_ret kept
      · simp only [Bool.not_true, Bool.false_eq_true, ↓reduceIte, if_neg ports]
        exact Prog.contract_ret kept
  | relation =>
      refine Prog.contract_perform fun m written calm answered => Prog.contract_ret ?_
      have done : written = true := calm_answer calm answered
      subst done
      simp [kept]

theorem calmly_launchWrite {pool : Pool} (kept : pool.failed = false) :
    Calmly S entity cursor exit
      (launchWrite worker sourceId entity snapshotAt pool : SyncProg ε Pool)
      (fun pool' _ => pool'.failed = false) w := by
  unfold launchWrite
  split
  · exact Prog.contract_ret kept
  · split_ifs
    · exact Prog.contract_perform fun _ _ _ _ => Prog.contract_ret kept
    · exact Prog.contract_ret kept

theorem calmly_takeTurn {pool : Pool} (kept : pool.failed = false) (turn : PoolTurn) :
    Calmly S entity cursor exit
      (takeTurn worker sourceId entity snapshotAt pool turn : SyncProg ε Pool)
      (fun pool' _ => pool'.failed = false) w := by
  cases turn with
  | launch => exact calmly_launchWrite kept
  | cut =>
      refine calmly_contextErr fun w' => ?_
      rw [kept]
      exact Prog.contract_ret kept
  | finish index =>
      simp only [takeTurn]
      split
      · exact Prog.contract_ret kept
      · exact calmly_finishWrite kept

theorem calmly_poolTurn {pool : Pool} (kept : pool.failed = false) :
    Calmly S entity cursor exit (poolTurn worker sourceId entity snapshotAt pool : SyncProg ε _)
      (fun result _ => match result with
        | .inl pool' => pool'.failed = false
        | .inr failed => failed = false) w := by
  unfold poolTurn
  split_ifs
  · exact Prog.contract_ret kept
  · exact Prog.contract_perform fun m turn _ _ => Prog.contract_bind
      (Prog.contract_mono (calmly_takeTurn kept turn) fun _ _ kept => Prog.contract_ret kept)

theorem calmly_writeEntityPage {records : List EntityRecord} :
    Calmly S entity cursor exit
      (writeEntityPage worker sourceId entity snapshotAt records : SyncProg ε _)
      (fun written _ => written = .ok ()) w := by
  have pool : Calmly S entity cursor exit (Prog.loop (poolTurn worker sourceId entity snapshotAt)
      worker.iterations ⟨records, [], false⟩ : SyncProg ε Bool) (fun failed _ => failed = false) w :=
    Prog.contract_loop (fun pool _ => pool.failed = false) (fun _ _ kept =>
      Prog.contract_mono (calmly_poolTurn kept) fun result _ kept => by cases result <;> exact kept) _ _ rfl
  refine Prog.contract_bind (Prog.contract_mono pool ?_)
  rintro failed w' rfl
  refine Prog.contract_bind (Prog.contract_mono calmly_leaseContextError ?_)
  rintro lost w' rfl
  exact calmly_contextErr fun _ => Prog.contract_ret rfl

end Write

/-! ### Stages -/

section Stages

variable {worker : SyncWorker} {run : SyncRun} {source : Source} {startedAt snapshotAt : Time}
  {selection : Selection} {state : Collected} {page : EntityPage}

theorem calmly_selectEntity {exit : Option SyncError → World syncService → Prop}
    (kind : source.adapterKind = "cmdb") (syncable : (syncResource entity).isSome = true) :
    Calmly S entity cursor exit (selectEntity run source startedAt)
      (fun selection _ => selection.entity = entity) w := by
  refine Prog.contract_bind (Prog.contract_mono calmly_leaveIfCanceled fun _ w' _ => ?_)
  rw [if_neg (not_not.mpr kind)]
  refine Prog.contract_perform fun m valid calm answered => ?_
  have accepted : valid = true := calm_answer calm answered
  subst accepted
  refine Prog.contract_bind (Prog.contract_ret ?_)
  refine Prog.contract_perform fun m selected calm answered => ?_
  have chosen : selected = some entity := calm_answer calm answered
  subst chosen
  obtain ⟨⟨resource, errorCode⟩, named⟩ := Option.isSome_iff_exists.mp syncable
  refine Prog.contract_bind (Prog.contract_ret ?_)
  rw [named]
  refine Prog.contract_bind (Prog.contract_ret ?_)
  refine Prog.contract_perform fun m covered calm answered => ?_
  obtain ⟨full, rfl⟩ := Option.isSome_iff_exists.mp (calm_answer calm answered)
  exact Prog.contract_bind (Prog.contract_ret (Prog.contract_ret rfl))

theorem calmly_beginCollection {exit : Option SyncError → World syncService → Prop}
    (chosen : selection.entity = entity) :
    Calmly S entity cursor exit (beginCollection run source startedAt selection)
      (fun begun _ => begun = cursor) w := by
  subst chosen
  refine Prog.contract_bind (Prog.contract_mono calmly_currentTime fun now w' _ => ?_)
  refine Prog.contract_perform fun m begun calm answered => ?_
  obtain ⟨checkpoint, rfl, same⟩ := Option.map_eq_some_iff.mp (calm_answer calm answered)
  refine Prog.contract_bind (Prog.contract_ret ?_)
  split_ifs
  · refine Prog.contract_perform fun m opened calm answered => ?_
    have accepted : opened = true := calm_answer calm answered
    subst accepted
    exact Prog.contract_bind (Prog.contract_ret (Prog.contract_ret same))
  · exact Prog.contract_ret same

theorem calmly_acceptPage (chosen : selection.entity = entity)
    (refused : validateEntityPage state.cursor page entity = none ∨
      addEntityIdentities state.seen page.records = none → reason) :
    Calmly S entity cursor (Fails run.id reason) (acceptPage run selection state page)
      (fun accepted _ => validateEntityPage state.cursor page entity = some accepted.1 ∧
        addEntityIdentities state.seen page.records = some accepted.2) w := by
  subst chosen
  unfold acceptPage
  cases accepted : validateEntityPage state.cursor page selection.entity with
  | none => exact calmly_leaveFailed (refused (Or.inl accepted))
  | some last =>
      cases identities : addEntityIdentities state.seen page.records with
      | none => exact calmly_leaveFailed (refused (Or.inr identities))
      | some seen => exact Prog.contract_ret ⟨rfl, rfl⟩

theorem calmly_checkOwners (chosen : selection.entity = entity)
    (refused : S.entityOwners source.id entity state.owners page.records = none → reason) :
    Calmly S entity cursor (Fails run.id reason) (checkOwners run source selection state page)
      (fun owners _ => S.entityOwners source.id entity state.owners page.records = some owners) w := by
  subst chosen
  unfold checkOwners UnchangingSource.entityOwners at *
  split_ifs with ports
  · rw [if_pos ports] at refused
    refine Prog.contract_bind (Prog.contract_mono calmly_validateInterfaceOwners ?_)
    rintro found w' rfl
    cases owners : S.owners source.id state.owners page.records with
    | none => exact calmly_exit (refused owners)
    | some owners => exact Prog.contract_ret rfl
  · exact Prog.contract_ret rfl

theorem calmly_writePage {exit : Option SyncError → World syncService → Prop}
    (chosen : selection.entity = entity) :
    Calmly S entity cursor exit (writePage worker run source selection snapshotAt page)
      (fun _ _ => True) w := by
  subst chosen
  refine Prog.contract_bind (Prog.contract_mono calmly_writeEntityPage ?_)
  rintro written w' rfl
  exact Prog.contract_ret trivial

theorem calmly_storeCursor {exit : Option SyncError → World syncService → Prop}
    {at_ : DeviceSyncCursor} {last : Int64} :
    Calmly S entity cursor exit
      (storeCursor run source startedAt selection snapshotAt at_ page last)
      (fun next _ => next = collectedCursor run.id snapshotAt at_ page last) w := by
  unfold storeCursor
  split_ifs
  · exact Prog.contract_ret rfl
  · refine Prog.contract_bind (Prog.contract_mono calmly_leaveIfCanceled fun _ w' _ => ?_)
    refine Prog.contract_bind (Prog.contract_mono calmly_currentTime fun now w' _ => ?_)
    refine Prog.contract_perform fun m stored calm answered => ?_
    obtain ⟨reply, rfl⟩ := Option.isSome_iff_exists.mp (calm_answer calm answered)
    exact Prog.contract_bind (Prog.contract_ret (Prog.contract_ret rfl))

/-- One page of the collection. -/
theorem calmly_collectPage (chosen : selection.entity = entity) :
    Calmly S entity cursor
      (Fails run.id (S.collectStep source.id run.id entity snapshotAt state = none))
      (collectPage worker run source startedAt selection snapshotAt state)
      (fun result _ => S.collectStep source.id run.id entity snapshotAt state = some result) w := by
  refine Prog.contract_bind (Prog.contract_mono calmly_leaveIfCanceled fun _ w' _ => ?_)
  rw [chosen]
  refine Prog.contract_bind (Prog.contract_mono calmly_readPage ?_)
  rintro read w' rfl
  cases served : S.page entity state.cursor.nextOffset with
  | none =>
      exact Prog.contract_bind (calmly_exit (by simp [UnchangingSource.collectStep, served]))
  | some page =>
      refine Prog.contract_bind (Prog.contract_ret ?_)
      refine Prog.contract_bind (Prog.contract_mono (calmly_acceptPage chosen ?_) ?_)
      · rintro (refused | refused) <;> simp [UnchangingSource.collectStep, served, refused]
      rintro ⟨last, seen⟩ w' ⟨accepted, identities⟩
      refine Prog.contract_bind (Prog.contract_mono (calmly_checkOwners chosen ?_) ?_)
      · intro refused
        simp [UnchangingSource.collectStep, served, accepted, identities, refused]
      intro owners w' owned
      refine Prog.contract_bind (Prog.contract_mono (calmly_writePage chosen) fun _ w' _ => ?_)
      refine Prog.contract_bind (Prog.contract_mono calmly_storeCursor ?_)
      rintro next w' rfl
      refine Prog.contract_ret ?_
      simp [UnchangingSource.collectStep, served, accepted, identities, owned]

theorem calmly_collectEntities (chosen : selection.entity = entity)
    (refused : (∀ final, ¬Finishes (S.collectStep source.id run.id entity cursor.snapshotAt)
      (collectionStart cursor) final) → reason) :
    Calmly S entity cursor (Fails run.id reason)
      (collectEntities worker run source startedAt selection cursor)
      (fun final _ => Finishes (S.collectStep source.id run.id entity cursor.snapshotAt)
        (collectionStart cursor) final) w := by
  have collected : Calmly S entity cursor
      (fun _ w' => (∀ final, ¬Finishes (S.collectStep source.id run.id entity cursor.snapshotAt)
        (collectionStart cursor) final) ∧ w'.status? run.id = some .failed)
      (Prog.loop (collectPage worker run source startedAt selection cursor.snapshotAt)
        worker.iterations (collectionStart cursor))
      (fun final _ => Finishes (S.collectStep source.id run.id entity cursor.snapshotAt)
        (collectionStart cursor) final) w :=
    Prog.contract_loop_finishes (fun state w' => calmly_collectPage chosen) worker.iterations _
  refine Prog.wp_mono collected fun o w' post => ?_
  rcases o with final | e | _
  · exact post
  · exact ⟨refused post.1, post.2⟩
  · trivial

/-! ### The validation -/

theorem calmly_compareEntityPage {total : Int} {expected : List UInt8}
    {again : DeviceSyncCursor × List UInt8}
    (served : S.page entity again.1.nextOffset = some page) :
    Calmly S entity cursor
      (fun e _ => S.rereadStep entity total expected again = none ∧ e = SnapshotError.other)
      (compareEntityPage entity total expected again page)
      (fun result _ => S.rereadStep entity total expected again = some result) w := by
  by_cases apart : page.total ≠ total
  · rw [compareEntityPage, if_pos apart]
    exact Prog.contract_raise ⟨by simp [UnchangingSource.rereadStep, served, apart], rfl⟩
  · rw [compareEntityPage, if_neg apart]
    cases accepted : validateEntityPage again.1 page entity with
    | none =>
        exact Prog.contract_raise ⟨by simp [UnchangingSource.rereadStep, served, accepted], rfl⟩
    | some last =>
        have step : S.rereadStep entity total expected again =
            if page.done then
              if (rereadCursor again.1 page last).nextOffset ≠ total ∨
                sha256 (again.2 ++ entityIdentityDigest page.records) ≠ expected then none
              else some (.inr ())
            else some (.inl (rereadCursor again.1 page last,
              again.2 ++ entityIdentityDigest page.records)) := by
          simp only [UnchangingSource.rereadStep, served, Option.bind_eq_bind, Option.bind_some,
            if_neg apart, accepted]
        rw [step]
        dsimp only
        split_ifs
        · exact Prog.contract_raise ⟨rfl, rfl⟩
        · exact Prog.contract_ret rfl
        · exact Prog.contract_ret rfl

/-- One page of the validation. -/
theorem calmly_rereadPage {total : Int} {expected : List UInt8}
    {again : DeviceSyncCursor × List UInt8} :
    Calmly S entity cursor
      (fun e _ => S.rereadStep entity total expected again = none ∧ e = SnapshotError.other)
      (rereadPage run source entity total expected again)
      (fun result _ => S.rereadStep entity total expected again = some result) w := by
  refine Prog.contract_bind (Prog.contract_mono calmly_cancellationRequested ?_)
  rintro answer w' rfl
  refine Prog.contract_bind (Prog.contract_mono calmly_readPage ?_)
  rintro read w' rfl
  cases served : S.page entity again.1.nextOffset with
  | none =>
      refine Prog.contract_bind (Prog.contract_mono calmly_leaseContextError ?_)
      rintro lost w' rfl
      exact Prog.contract_raise ⟨by simp [UnchangingSource.rereadStep, served], rfl⟩
  | some page => exact calmly_compareEntityPage served

theorem calmly_openSecondPass :
    Calmly S entity cursor exit (openSecondPass source entity : SyncProg ε Bool)
      (fun opened _ => opened = true) w := by
  unfold openSecondPass
  split_ifs
  · exact Prog.contract_call fun m opened calm answered => Prog.contract_ret (calm_answer calm answered)
  · exact Prog.contract_ret rfl

theorem calmly_validateEntitySnapshot {total : Int} {expected : List UInt8} :
    Calmly S entity cursor
      (fun e _ => (∀ t, ¬Finishes (S.rereadStep entity total expected) (validationStart total) t) ∧
        e = SnapshotError.other)
      (validateEntitySnapshot worker run source entity total expected)
      (fun t _ => Finishes (S.rereadStep entity total expected) (validationStart total) t) w := by
  refine Prog.contract_bind (Prog.contract_mono calmly_openSecondPass ?_)
  rintro opened w' rfl
  have compared : ∀ (again : DeviceSyncCursor × List UInt8) w', Calmly S entity cursor
      (fun e _ => S.rereadStep entity total expected again = none ∧ e = SnapshotError.other)
      (rereadPage run source entity total expected again)
      (fun result _ => S.rereadStep entity total expected again = some result) w' :=
    fun again w' => calmly_rereadPage
  exact Prog.contract_loop_finishes compared worker.iterations (validationStart total)

theorem calmly_validateCollected (chosen : selection.entity = entity)
    (refused : ¬Finishes (S.rereadStep entity state.cursor.total (sha256 state.identityDigest))
      (validationStart state.cursor.total) () → reason) :
    Calmly S entity cursor (Fails run.id reason) (validateCollected worker run source selection state)
      (fun _ _ => Finishes (S.rereadStep entity state.cursor.total (sha256 state.identityDigest))
        (validationStart state.cursor.total) ()) w := by
  subst chosen
  refine Prog.contract_bind (Prog.contract_reify ?_)
  refine Prog.wp_mono calmly_validateEntitySnapshot fun o w' post => ?_
  rcases o with _ | e | _
  · exact Prog.contract_ret post
  · obtain ⟨differs, rfl⟩ := post
    exact calmly_exit (refused (differs ()))
  · trivial

/-! ### The end -/

theorem calmly_cleanUp {exit : Option SyncError → World syncService → Prop} :
    Calmly S entity cursor exit (cleanUp run source selection snapshotAt) (fun _ _ => True) w := by
  refine Prog.contract_perform fun m covered calm answered => ?_
  obtain ⟨current, rfl⟩ := Option.isSome_iff_exists.mp (calm_answer calm answered)
  refine Prog.contract_bind (Prog.contract_ret ?_)
  split_ifs
  · refine Prog.contract_perform fun m cleaned calm answered => ?_
    have done : cleaned = true := calm_answer calm answered
    subst done
    exact Prog.contract_ret trivial
  · exact Prog.contract_ret trivial

theorem calmly_publish {exit : Option SyncError → World syncService → Prop} :
    Calmly S entity cursor exit (publish run source selection snapshotAt)
      (fun _ w' => w'.status? run.id = some .succeeded) w := by
  refine Prog.contract_bind (Prog.contract_mono calmly_leaveIfLost fun _ w' _ => ?_)
  refine Prog.contract_bind (Prog.contract_mono calmly_cleanUp fun _ w' _ => ?_)
  refine Prog.contract_bind (Prog.contract_mono calmly_leaveIfLost fun _ w' _ => ?_)
  refine Prog.contract_bind (Prog.contract_mono calmly_currentTime fun now w' _ => ?_)
  refine Prog.contract_perform fun m completed calm answered => ?_
  obtain ⟨reply, rfl⟩ := Option.isSome_iff_exists.mp (calm_answer calm answered)
  exact Prog.contract_ret (status_of_completion answered)

/-- How a calm execution ends. -/
theorem calmly_executeClaimed (kind : source.adapterKind = "cmdb")
    (syncable : (syncResource entity).isSome = true) :
    Calmly S entity cursor (Fails run.id (¬S.Confirms source.id run.id entity cursor))
      (executeClaimed worker run source startedAt)
      (fun _ w' => S.Confirms source.id run.id entity cursor ∧ w'.status? run.id = some .succeeded)
      w := by
  refine Prog.contract_bind ?_
  refine Prog.contract_bind (Prog.contract_mono (calmly_selectEntity kind syncable) ?_)
  intro selection w' chosen
  refine Prog.contract_bind (Prog.contract_mono (calmly_beginCollection chosen) ?_)
  rintro _ w' rfl
  refine Prog.contract_bind (Prog.contract_mono (calmly_collectEntities chosen ?_) ?_)
  · rintro unfinished ⟨final, finishes, -⟩
    exact unfinished final finishes
  intro state w' finishes
  refine Prog.contract_bind (Prog.contract_mono calmly_leaveIfCanceled fun _ w' _ => ?_)
  refine Prog.contract_bind (Prog.contract_mono calmly_moveRun fun _ w' _ => ?_)
  refine Prog.contract_bind (Prog.contract_mono (calmly_validateCollected chosen ?_) ?_)
  · rintro differs ⟨final, finishes', same⟩
    cases finishes.unique finishes'
    exact differs same
  intro _ w' same
  refine Prog.contract_bind (Prog.contract_mono calmly_leaveIfCanceled fun _ w' _ => ?_)
  refine Prog.contract_bind (Prog.contract_mono calmly_moveRun fun _ w' _ => Prog.contract_ret ?_)
  exact Prog.contract_mono calmly_publish fun _ w' succeeded => ⟨⟨state, finishes, same⟩, succeeded⟩

end Stages

end Calm

/-! ## Going on and beginning again -/

section

variable {S : UnchangingSource} {entity : EntityType} {run : SyncRun} {source : Source}

/-- A calm execution succeeds or fails, by what its two readings find. -/
theorem CalmExecution.status_eq {cursor : DeviceSyncCursor} (kind : source.adapterKind = "cmdb")
    (syncable : (syncResource entity).isSome = true)
    (execution : CalmExecution S entity run source cursor) :
    (S.Confirms source.id run.id entity cursor ∧ execution.status = some .succeeded) ∨
      (¬S.Confirms source.id run.id entity cursor ∧ execution.status = some .failed) := by
  obtain ⟨worker, startedAt, script, start, fresh, returned, calm⟩ := execution
  have ends : Calmly S entity cursor (Fails run.id (¬S.Confirms source.id run.id entity cursor))
      (executeClaimed worker run source startedAt)
      (fun _ w' => S.Confirms source.id run.id entity cursor ∧ w'.status? run.id = some .succeeded)
      start := calmly_executeClaimed kind syncable
  obtain ⟨finished, left⟩ := Prog.contract_run (shrinking_calm S entity cursor) ends script calm
  cases outcome : ((executeClaimed worker run source startedAt).run handler script start).1 with
  | ok a => exact Or.inl (finished a outcome)
  | error e => exact Or.inr (left e outcome)
  | pending => exact (returned outcome).elim

/-- **When a run that goes on ends like one that begins again.**  The source does not change, and the
run goes on from a boundary between its pages.  The two end alike exactly where no run gets through
the source, or where the digest of all records is the one of the records after the boundary. -/
theorem status_resumed_iff {snapshotAt : Time} {before : Collected}
    (kind : source.adapterKind = "cmdb") (syncable : (syncResource entity).isSome = true)
    (boundary : S.Boundary source.id run.id entity snapshotAt before)
    (restarted : CalmExecution S entity run source (Store.freshCursor run.id snapshotAt))
    (resumed : CalmExecution S entity run source before.cursor) :
    (resumed.status = restarted.status ∧
        (S.Repeats source.id run.id entity snapshotAt before → resumed.status = some .failed)) ↔
      (S.Collectable source.id run.id entity snapshotAt ↔
        S.Collides source.id run.id entity snapshotAt before) := by
  have again := restarted.status_eq kind syncable
  have on := resumed.status_eq kind syncable
  rw [UnchangingSource.confirms_fresh_iff] at again
  rw [UnchangingSource.confirms_boundary_iff boundary] at on
  have apart : some SyncRunStatus.succeeded ≠ some SyncRunStatus.failed := by decide
  have repeated := UnchangingSource.not_collectable_of_repeats boundary
  rcases again with ⟨collectable, again⟩ | ⟨stuck, again⟩ <;>
    rcases on with ⟨collides, on⟩ | ⟨differs, on⟩ <;> rw [on, again]
  · exact iff_of_true ⟨rfl, fun repeats => (repeated repeats collectable).elim⟩
      (iff_of_true collectable collides)
  · exact iff_of_false (fun same => apart same.1.symm) fun same => differs (same.mp collectable)
  · exact iff_of_false (fun same => apart same.1) fun same => stuck (same.mpr collides)
  · exact iff_of_true ⟨rfl, fun _ => rfl⟩ (iff_of_false stuck differs)

end

/-! ## Two devices on two pages -/

/-- A source with two devices, each on a page of its own. -/
def pairSource : UnchangingSource where
  collectDevicePage offset :=
    if offset = 0 then some ⟨[⟨7, "SN-7", "node", 0, 0, "compute", []⟩], 1, 2, false⟩
    else if offset = 1 then some ⟨[⟨8, "SN-8", "node", 0, 0, "compute", []⟩], 2, 2, true⟩
    else none
  collectEntityPage _ _ := none
  passPage _ := none
  vertexExists _ := some true

/-- The replies of the source, and of collaborators that do what they are asked for. -/
def UnchangingSource.reply (S : UnchangingSource) (turn : PoolTurn) : (r : SyncRequest) → r.Reply
  | .validate _ | .openEntityPass _ _ _ | .upsertVertex _ | .upsertRelation _ => true
  | .selectedEntity _ => some .device
  | .coversFullSource _ _ => some true
  | .vertexExists identity => S.vertexExists identity
  | .passPage _ offset => S.passPage offset
  | .collectEntityPage _ _ entity offset => S.collectEntityPage entity offset
  | .collectDevicePage _ _ offset => S.collectDevicePage offset
  | .schedule => turn
  | .startVertex _ | .startRelation _ => ()
  | .deleteOrphanVerticesNotSeen _ _ _ => true

/-- The scheduler launches a write and lets a write return in turn, while the clock goes on. -/
def pairScript : List (Move syncService) :=
  (List.replicate 40 [PoolTurn.launch, .finish 0]).flatten.zipIdx.map fun turn =>
    ⟨[], 4000 + 1000 * (turn.2 : Time), .none, false, pairSource.reply turn.1⟩

/-- The claimed run. -/
def pairRun : SyncRun := Store.claimed 2000 (queuedRun "r" "s")

def labSource : Source := ⟨"s", "lab", "cmdb", "ref", true⟩

/-- What the run has in memory after the first page. -/
def pairBefore : Collected :=
  ⟨⟨1, "r", 1, 7, 0, 2000, 2⟩, entityIdentityDigest [⟨0, 7, "SN-7", "", .empty⟩], ["SN-7"], ⟨[], []⟩⟩

/-- A store that has done some operations for the claimed run. -/
def pairWorld (ops : List Op) : World syncService :=
  { claimedWorld with store := claimedWorld.store.applyAll ops }

/-- The run has stored its cursor after the first page. -/
def pairStored : List Op :=
  [.beginCheckpoint "s" "devices" "r" 2000 2000,
    .advanceCheckpoint "s" "devices" "r" pairBefore.cursor 3000]

section

variable (cursor : DeviceSyncCursor) (ops : List Op) (status : SyncRunStatus)

/-- An execution of the run in that store is finished and calm, and ends with a status. -/
def PairEnds : Prop :=
  ((executeClaimed ⟨1, 6⟩ pairRun labSource 2000).run handler pairScript (pairWorld ops)).1 ≠ .pending ∧
    ((executeClaimed ⟨1, 6⟩ pairRun labSource 2000).run handler pairScript
      (pairWorld ops)).2.1.Calm pairSource .device cursor ∧
    ((executeClaimed ⟨1, 6⟩ pairRun labSource 2000).run handler pairScript
      (pairWorld ops)).2.1.status? pairRun.id = some status

instance : Decidable (PairEnds cursor ops status) := inferInstanceAs (Decidable (_ ∧ _))

end

/-- Beginning again succeeds. -/
theorem pair_restarted : PairEnds (Store.freshCursor "r" 2000) [] .succeeded := by decide +kernel

/-- Going on fails. -/
theorem pair_resumed : PairEnds pairBefore.cursor pairStored .failed := by decide +kernel

/-- The run begins again. -/
def pairRestarted : CalmExecution pairSource .device pairRun labSource (Store.freshCursor "r" 2000) :=
  ⟨⟨1, 6⟩, 2000, pairScript, pairWorld [], rfl, pair_restarted.1, pair_restarted.2.1⟩

/-- The run goes on from the cursor it has stored after the first page. -/
def pairResumed : CalmExecution pairSource .device pairRun labSource pairBefore.cursor :=
  ⟨⟨1, 6⟩, 2000, pairScript, pairWorld pairStored, rfl, pair_resumed.1, pair_resumed.2.1⟩

theorem boundary_pair : pairSource.Boundary "s" "r" .device 2000 pairBefore := by
  refine ⟨Or.inl (.single ?_), by decide⟩
  show pairSource.collectStep "s" "r" .device 2000 (collectionStart (Store.freshCursor "r" 2000)) =
    some (.inl pairBefore)
  decide +kernel

/-- A run that goes on need not end like one that begins again. -/
theorem resumed_apart : ¬∀ (S : UnchangingSource) (entity : EntityType) (run : SyncRun)
    (source : Source) (snapshotAt : Time) (before : Collected), source.adapterKind = "cmdb" →
    (syncResource entity).isSome = true →
    S.Boundary source.id run.id entity snapshotAt before →
    ∀ (restarted : CalmExecution S entity run source (Store.freshCursor run.id snapshotAt))
      (resumed : CalmExecution S entity run source before.cursor),
      resumed.status = restarted.status := by
  intro alike
  have same := alike pairSource .device pairRun labSource 2000 pairBefore rfl rfl boundary_pair
    pairRestarted pairResumed
  have failed : pairResumed.status = some .failed := by
    dsimp only [CalmExecution.status, pairResumed]
    exact pair_resumed.2.2
  have succeeded : pairRestarted.status = some .succeeded := by
    dsimp only [CalmExecution.status, pairRestarted]
    exact pair_restarted.2.2
  cases (failed.symm.trans same).trans succeeded

/-- The two devices. -/
theorem status_resumed_iff_pair :
    (pairResumed.status = pairRestarted.status ∧
        (pairSource.Repeats "s" "r" .device 2000 pairBefore → pairResumed.status = some .failed)) ↔
      (pairSource.Collectable "s" "r" .device 2000 ↔
        pairSource.Collides "s" "r" .device 2000 pairBefore) :=
  @status_resumed_iff pairSource .device pairRun labSource 2000 pairBefore rfl rfl boundary_pair
    pairRestarted pairResumed

end UnifiedInfraTopology
