import UnifiedInfraTopology.Worker.Terminal

/-!
# How `executeClaimed` leaves

What the returned error of `executeClaimed` says about its execution, in any world: lost leases, lost
answers and other clients included.

An operation that ends the run (`Op.conclusion`) is the last call of an execution when it succeeds, and
the error is the one that goes with it.  The error of a lost lease is returned only where the context
was ended with that cause.
-/

namespace UnifiedInfraTopology

open Lib

/-- The error that goes with an operation that ends the run; `none` inside is nil. -/
def Op.conclusion (runId : String) : Op → Option (Option SyncError)
  | .transitionRun id _ target _ code =>
      if id ≠ runId then none
      else
        match target with
        | .failed => some (some (.failed code))
        | .canceled => some none
        | _ => none
  | .completeCheckpointAndRun _ _ id _ _ => if id ≠ runId then none else some none
  | _ => none

theorem conclusion_executing {target : SyncRunStatus} (executing : target.executing = true)
    (runId id : String) (origin : SyncRunStatus) (now : Time) (code : String) :
    (Op.transitionRun id origin target now code).conclusion runId = none := by
  have open_ : target ≠ .failed ∧ target ≠ .canceled := by
    constructor <;> rintro rfl <;> cases executing
  dsimp only [Op.conclusion]
  split_ifs
  · rfl
  · split
    · exact (open_.1 rfl).elim
    · exact (open_.2 rfl).elim
    · rfl

/-- What an operation that reported success concludes. -/
def observeConclusion (runId : String) : (c : Call syncService) → c.Answer → Option (Option SyncError)
  | .control op, some _ => op.conclusion runId
  | _, _ => none

/-- No operation that ends the run has reported success. -/
def Underway (runId : String) (w : World syncService) : Prop := w.observed (observeConclusion runId) = []

/-- The error fits the operations and the cause of the context. -/
structure Leaves (runId : String) (e : Option SyncError) (w : World syncService) : Prop where
  lost : e = some .leaseLost → w.cause = some .leaseLost
  concluded : w.observed (observeConclusion runId) = [] ∨ w.observed (observeConclusion runId) = [e]

variable {runId : String} {w : World syncService} {ε α : Type} {exit : ε → World syncService → Prop}

theorem Underway.leaves {e : Option SyncError} (open_ : Underway runId w)
    (lost : e = some .leaseLost → w.cause = some .leaseLost) : Leaves runId e w := ⟨lost, .inl open_⟩

/-- The contract of a part of `executeClaimed`. -/
abbrev Leaving (runId : String) (p : SyncProg (Option SyncError) α)
    (Q : α → World syncService → Prop) (w : World syncService) : Prop :=
  Prog.Contract handler (fun _ => True) (Leaves runId) p Q w

/-! ## Calls -/

theorem observeConclusion_neutral {c : Call syncService} (neutral : c.neutral = true)
    (answer : c.Answer) : observeConclusion runId c answer = none := by
  unfold observeConclusion
  split
  · rename_i op reply
    cases op <;> first | rfl | cases neutral
  · rfl

theorem Underway.call {c : Call syncService} {m : Move syncService} (open_ : Underway runId w)
    (silent : ∀ answer, observeConclusion runId c answer = none) : Underway runId (handler c m w).2 :=
  (observed_silent silent).trans open_

theorem cause_handler (c : Call syncService) (m : Move syncService) (w : World syncService) :
    (handler c m w).2.cause = (w.disturbed m.disturbances).cause := rfl

theorem open_quiet {p : SyncProg ε α} (quiet : Quiet p) (open_ : Underway runId w) :
    Prog.Contract handler (fun _ => True) exit p (fun _ w' => Underway runId w') w :=
  Prog.contract_of_settles quiet.settles quiet.calls
    (fun _ _ _ neutral held _ => held.call (observeConclusion_neutral neutral)) open_

theorem open_leaseContextError (open_ : Underway runId w) :
    Prog.Contract handler (fun _ => True) exit leaseContextError
      (fun lost w' => (lost = true → w'.cause = some .leaseLost) ∧ Underway runId w') w := by
  refine Prog.contract_perform fun m cause _ answered => Prog.contract_ret ⟨fun lost => ?_, ?_⟩
  · rw [cause_handler]
    exact (respond_of_handler answered).trans (of_decide_eq_true lost)
  · exact open_.call fun _ => rfl

theorem open_cancellationRequested (open_ : Underway runId w) :
    Prog.Contract handler (fun _ => True) exit (cancellationRequested runId)
      (fun answer w' => (answer = .error .leaseLost → w'.cause = some .leaseLost) ∧ Underway runId w') w := by
  refine Prog.contract_bind (Prog.contract_mono (open_leaseContextError open_) ?_)
  intro lost w' here
  obtain ⟨cause, open_⟩ := here
  cases lost with
  | true => exact Prog.contract_ret ⟨fun _ => cause rfl, open_⟩
  | false =>
      refine Prog.contract_perform fun m done _ _ => ?_
      have open_ := open_.call (c := .contextErr) (m := m) fun _ => rfl
      cases done with
      | true => exact Prog.contract_ret ⟨nofun, open_⟩
      | false =>
          refine Prog.contract_perform fun m requested _ _ => Prog.contract_ret ⟨?_, ?_⟩
          · cases requested <;> nofun
          · exact open_.call fun _ => rfl

/-! ## Exits -/

section Exits

variable {status : SyncRunStatus} {now startedAt : Time} {code : String}
  {Q : α → World syncService → Prop}

/-- A transition to an end, and its error. -/
theorem leaves_transition {target : SyncRunStatus} {e : Option SyncError} (open_ : Underway runId w)
    (concludes : (Op.transitionRun runId status target now code).conclusion runId = some e)
    (kept : e ≠ some .leaseLost) :
    Leaving runId (do
      let moved ← controlOp (.transitionRun runId status target now code)
      return if moved.isNone then some .transitionFailed else e) (fun e' w' => Leaves runId e' w') w := by
  refine Prog.contract_perform fun m (moved : Option Unit) _ answered => Prog.contract_ret ?_
  cases moved with
  | none =>
      refine ⟨nofun, .inl ?_⟩
      rw [observed_handler answered, open_]
      rfl
  | some reply =>
      refine ⟨fun lost => (kept lost).elim, .inr ?_⟩
      rw [observed_handler answered, open_]
      exact congrArg Option.toList concludes

theorem leaves_failRun (open_ : Underway runId w) :
    Leaving runId (failRun runId status now code) (fun e w' => Leaves runId e w') w :=
  leaves_transition open_ (if_neg (not_not.mpr rfl)) nofun

theorem leaves_cancelRun (open_ : Underway runId w) :
    Leaving runId (cancelRun runId status now) (fun e w' => Leaves runId e w') w :=
  leaves_transition open_ (if_neg (not_not.mpr rfl)) nofun

theorem leaves_failOrCancel (open_ : Underway runId w) :
    Leaving runId (failOrCancel runId status code) (fun e w' => Leaves runId e w') w := by
  refine Prog.contract_bind (Prog.contract_mono (open_leaseContextError open_) ?_)
  intro lost w' here
  obtain ⟨cause, open_⟩ := here
  cases lost with
  | true => exact Prog.contract_ret (open_.leaves fun _ => cause rfl)
  | false =>
      refine Prog.contract_bind (Prog.contract_mono (open_quiet quiet_currentTime open_)
        fun now w' open_ => ?_)
      refine Prog.contract_perform fun m done _ _ => ?_
      have open_ := open_.call (c := .contextErr) (m := m) fun _ => rfl
      cases done with
      | true => exact leaves_cancelRun open_
      | false =>
          refine Prog.contract_perform fun m requested _ _ => ?_
          have open_ := open_.call (c := .runCancellationRequested runId) (m := m) fun _ => rfl
          by_cases canceled : requested = some true
          · rw [if_pos canceled]
            exact leaves_cancelRun open_
          · rw [if_neg canceled]
            exact leaves_failRun open_

theorem leaves_orFail {answer : Option α} (open_ : Underway runId w)
    (returned : ∀ a, answer = some a → Q a w) : Leaving runId (orFail runId status code answer) Q w := by
  cases answer with
  | some a => exact Prog.contract_ret (returned a rfl)
  | none => exact Prog.contract_exitWith (leaves_failOrCancel open_)

theorem leaves_leaveFailed (open_ : Underway runId w) :
    Leaving runId (leaveFailed runId status code) Q w :=
  Prog.contract_bind (Prog.contract_mono (open_quiet quiet_currentTime open_)
    fun _ _ open_ => Prog.contract_exitWith (leaves_failRun open_))

theorem leaves_leaveCanceled (open_ : Underway runId w) : Leaving runId (leaveCanceled runId status) Q w :=
  Prog.contract_bind (Prog.contract_mono (open_quiet quiet_currentTime open_)
    fun _ _ open_ => Prog.contract_exitWith (leaves_cancelRun open_))

theorem leaves_leaveIfCanceled (open_ : Underway runId w) :
    Leaving runId (leaveIfCanceled runId status startedAt) (fun _ w' => Underway runId w') w := by
  refine Prog.contract_bind (Prog.contract_mono (open_cancellationRequested open_) ?_)
  intro answer w' here
  obtain ⟨cause, open_⟩ := here
  match answer with
  | .error .leaseLost =>
      exact Prog.contract_exitWith (Prog.contract_ret (open_.leaves fun _ => cause rfl))
  | .error .unavailable => exact Prog.contract_exitWith (leaves_failRun open_)
  | .ok true => exact Prog.contract_exitWith (leaves_cancelRun open_)
  | .ok false => exact Prog.contract_ret open_

theorem leaves_leaveIfLost (open_ : Underway runId w) :
    Leaving runId leaveIfLost (fun _ w' => Underway runId w') w := by
  refine Prog.contract_bind (Prog.contract_mono (open_leaseContextError open_) ?_)
  intro lost w' here
  obtain ⟨cause, open_⟩ := here
  cases lost with
  | true => exact Prog.contract_raise (open_.leaves fun _ => cause rfl)
  | false => exact Prog.contract_ret open_

theorem leaves_moveRun {origin target : SyncRunStatus} (executing : target.executing = true)
    (open_ : Underway runId w) :
    Leaving runId (moveRun runId origin target) (fun _ w' => Underway runId w') w := by
  refine Prog.contract_bind (Prog.contract_mono (open_quiet quiet_currentTime open_)
    fun now w' open_ => ?_)
  refine Prog.contract_perform fun m moved _ _ => ?_
  have silent : ∀ answer, observeConclusion runId
      (Call.control (.transitionRun runId origin target now "")) answer = none := by
    intro answer
    cases answer with
    | none => rfl
    | some reply => exact conclusion_executing executing runId runId origin now ""
  have open_ := open_.call (m := m) silent
  exact leaves_orFail open_ fun _ _ => open_

end Exits

/-! ## Stages -/

section Stages

variable {worker : SyncWorker} {run : SyncRun} {source : Source} {startedAt snapshotAt : Time}
  {selection : Selection}

theorem leaves_selectEntity (open_ : Underway run.id w) :
    Leaving run.id (selectEntity run source startedAt) (fun _ w' => Underway run.id w') w := by
  refine Prog.contract_bind (Prog.contract_mono (leaves_leaveIfCanceled open_) fun _ w' open_ => ?_)
  by_cases foreign : source.adapterKind ≠ "cmdb"
  · rw [if_pos foreign]
    exact Prog.contract_exitWith (leaves_failRun open_)
  · rw [if_neg foreign]
    refine Prog.contract_perform fun m valid _ _ => ?_
    have open_ := open_.call (c := .service (SyncRequest.validate source)) (m := m) fun _ => rfl
    refine Prog.contract_bind (leaves_orFail open_ fun _ _ => ?_)
    refine Prog.contract_perform fun m selected _ _ => ?_
    have open_ := open_.call (c := .service (SyncRequest.selectedEntity source)) (m := m) fun _ => rfl
    refine Prog.contract_bind (leaves_orFail open_ fun entity _ => ?_)
    refine Prog.contract_bind (leaves_orFail open_ fun resource _ => ?_)
    refine Prog.contract_perform fun m covered _ _ => ?_
    have open_ := open_.call (c := .service (SyncRequest.coversFullSource source entity)) (m := m)
      fun _ => rfl
    exact Prog.contract_bind (leaves_orFail open_ fun _ _ => Prog.contract_ret open_)

theorem leaves_beginCollection (open_ : Underway run.id w) :
    Leaving run.id (beginCollection run source startedAt selection) (fun _ w' => Underway run.id w') w := by
  refine Prog.contract_bind (Prog.contract_mono (open_quiet quiet_currentTime open_)
    fun now w' open_ => ?_)
  refine Prog.contract_perform fun m begun _ _ => ?_
  have open_ := open_.call (m := m) (c := .control (.beginCheckpoint source.id selection.resource run.id
    startedAt now)) (observeConclusion_neutral rfl)
  refine Prog.contract_bind (leaves_orFail open_ fun checkpoint _ => ?_)
  by_cases ports : selection.entity = .interface
  · rw [if_pos ports]
    refine Prog.contract_perform fun m opened _ _ => ?_
    have open_ := open_.call (m := m)
      (c := .service (SyncRequest.openEntityPass .first source selection.entity)) fun _ => rfl
    exact Prog.contract_bind (leaves_orFail open_ fun _ _ => Prog.contract_ret open_)
  · rw [if_neg ports]
    exact Prog.contract_ret open_

theorem open_writeEntityPage {records : List EntityRecord} {entity : EntityType} (open_ : Underway runId w) :
    Prog.Contract handler (fun _ => True) exit
      (writeEntityPage worker source.id entity snapshotAt records)
      (fun written w' => (written = .error .leaseLost → w'.cause = some .leaseLost) ∧ Underway runId w')
      w := by
  refine Prog.contract_bind (Prog.contract_mono (open_quiet
    (quiet_loop (quiet_poolTurn worker source.id entity snapshotAt) _ _) open_) fun failed w' open_ => ?_)
  refine Prog.contract_bind (Prog.contract_mono (open_leaseContextError open_) ?_)
  intro lost w' here
  obtain ⟨cause, open_⟩ := here
  cases lost with
  | true => exact Prog.contract_ret ⟨fun _ => cause rfl, open_⟩
  | false =>
      refine Prog.contract_perform fun m done _ _ => ?_
      have open_ := open_.call (c := .contextErr) (m := m) fun _ => rfl
      cases done with
      | true => exact Prog.contract_ret ⟨nofun, open_⟩
      | false => cases failed <;> exact Prog.contract_ret ⟨nofun, open_⟩

theorem leaves_writePage {page : EntityPage} (open_ : Underway run.id w) :
    Leaving run.id (writePage worker run source selection snapshotAt page)
      (fun _ w' => Underway run.id w') w := by
  refine Prog.contract_bind (Prog.contract_mono (open_writeEntityPage open_) ?_)
  intro written w' here
  obtain ⟨cause, open_⟩ := here
  match written with
  | .ok () => exact Prog.contract_ret open_
  | .error .leaseLost => exact Prog.contract_raise (open_.leaves fun _ => cause rfl)
  | .error .canceled => exact leaves_leaveCanceled open_
  | .error .graphWrite => exact leaves_leaveFailed open_

theorem leaves_storeCursor {cursor : DeviceSyncCursor} {page : EntityPage} {last : Int64}
    (open_ : Underway run.id w) :
    Leaving run.id (storeCursor run source startedAt selection snapshotAt cursor page last)
      (fun _ w' => Underway run.id w') w := by
  unfold storeCursor
  dsimp only
  by_cases empty : page.records = []
  · rw [if_pos empty]
    exact Prog.contract_ret open_
  · rw [if_neg empty]
    refine Prog.contract_bind (Prog.contract_mono (leaves_leaveIfCanceled open_) fun _ w' open_ => ?_)
    refine Prog.contract_bind (Prog.contract_mono (open_quiet quiet_currentTime open_)
      fun now w' open_ => ?_)
    refine Prog.contract_perform fun m stored _ _ => ?_
    have open_ := open_.call (m := m) (c := .control (.advanceCheckpoint source.id selection.resource
      run.id (collectedCursor run.id snapshotAt cursor page last) now)) (observeConclusion_neutral rfl)
    exact Prog.contract_bind (leaves_orFail open_ fun _ _ => Prog.contract_ret open_)

theorem leaves_collectPage {state : Collected} (open_ : Underway run.id w) :
    Leaving run.id (collectPage worker run source startedAt selection snapshotAt state)
      (fun _ w' => Underway run.id w') w := by
  refine Prog.contract_bind (Prog.contract_mono (leaves_leaveIfCanceled open_) fun _ w' open_ => ?_)
  refine Prog.contract_bind (Prog.contract_mono (open_quiet (quiet_readPage _ _ _ _) open_)
    fun read w' open_ => ?_)
  refine Prog.contract_bind (leaves_orFail open_ fun page _ => ?_)
  have accepted : Leaving run.id (acceptPage run selection state page) (fun _ w' => Underway run.id w') w' := by
    unfold acceptPage
    split
    · exact Prog.contract_ret open_
    · exact leaves_leaveFailed open_
  refine Prog.contract_bind (Prog.contract_mono accepted fun accepted w' open_ => ?_)
  have owners : Leaving run.id (checkOwners run source selection state page)
      (fun _ w' => Underway run.id w') w' := by
    unfold checkOwners
    by_cases ports : selection.entity = .interface
    · rw [if_pos ports]
      exact Prog.contract_bind (Prog.contract_mono
        (open_quiet (quiet_validateInterfaceOwners _ _ _) open_)
        fun owners w' open_ => leaves_orFail open_ fun _ _ => open_)
    · rw [if_neg ports]
      exact Prog.contract_ret open_
  refine Prog.contract_bind (Prog.contract_mono owners fun owners w' open_ => ?_)
  refine Prog.contract_bind (Prog.contract_mono (leaves_writePage open_) fun _ w' open_ => ?_)
  exact Prog.contract_bind (Prog.contract_mono (leaves_storeCursor open_) fun _ _ open_ =>
    Prog.contract_ret open_)

theorem leaves_collectEntities {cursor : DeviceSyncCursor} (open_ : Underway run.id w) :
    Leaving run.id (collectEntities worker run source startedAt selection cursor)
      (fun _ w' => Underway run.id w') w := by
  refine Prog.contract_loop (fun _ => Underway run.id) (fun state w' open_ => ?_) _ _ open_
  refine Prog.contract_mono (leaves_collectPage open_) fun result w'' open_ => ?_
  cases result <;> exact open_

/-! ### Reading again -/

/-- The second reading leaves with a lost lease only where the lease is lost. -/
abbrev Rereading (runId : String) (p : SyncProg SnapshotError α) (w : World syncService) : Prop :=
  Prog.Contract handler (fun _ => True)
    (fun e w' => (e = .leaseLost → w'.cause = some .leaseLost) ∧ Underway runId w') p
    (fun _ w' => Underway runId w') w

theorem rereading_leaveUnread (open_ : Underway runId w) :
    Rereading runId (leaveUnread : SyncProg SnapshotError α) w := by
  refine Prog.contract_bind (Prog.contract_mono (open_leaseContextError open_) ?_)
  intro lost w' here
  obtain ⟨cause, open_⟩ := here
  cases lost with
  | true => exact Prog.contract_raise ⟨fun _ => cause rfl, open_⟩
  | false => exact Prog.contract_raise ⟨nofun, open_⟩

theorem rereading_compareEntityPage {entity : EntityType} {total : Int} {expected : List UInt8}
    {state : DeviceSyncCursor × List UInt8} {page : EntityPage} (open_ : Underway runId w) :
    Rereading runId (compareEntityPage entity total expected state page) w := by
  unfold compareEntityPage
  split
  · exact Prog.contract_raise ⟨nofun, open_⟩
  · split
    · exact Prog.contract_raise ⟨nofun, open_⟩
    · dsimp only
      split_ifs
      · exact Prog.contract_raise ⟨nofun, open_⟩
      · exact Prog.contract_ret open_
      · exact Prog.contract_ret open_

theorem rereading_rereadPage {entity : EntityType} {total : Int} {expected : List UInt8}
    {state : DeviceSyncCursor × List UInt8} (open_ : Underway run.id w) :
    Rereading run.id (rereadPage run source entity total expected state) w := by
  refine Prog.contract_bind (Prog.contract_mono (open_cancellationRequested open_) ?_)
  intro answer w' here
  obtain ⟨cause, open_⟩ := here
  match answer with
  | .error .leaseLost => exact Prog.contract_raise ⟨fun _ => cause rfl, open_⟩
  | .error .unavailable => exact Prog.contract_raise ⟨nofun, open_⟩
  | .ok true => exact Prog.contract_raise ⟨nofun, open_⟩
  | .ok false =>
      refine Prog.contract_bind (Prog.contract_mono (open_quiet (quiet_readPage _ _ _ _) open_)
        fun read w' open_ => ?_)
      cases read with
      | none => exact rereading_leaveUnread open_
      | some page => exact rereading_compareEntityPage open_

theorem rereading_validateEntitySnapshot {entity : EntityType} {total : Int} {expected : List UInt8}
    (open_ : Underway run.id w) :
    Rereading run.id (validateEntitySnapshot worker run source entity total expected) w := by
  refine Prog.contract_bind (Prog.contract_mono (open_quiet (quiet_openSecondPass _ _) open_)
    fun opened w' open_ => ?_)
  split_ifs
  · refine Prog.contract_loop (fun _ => Underway run.id) (fun state w' open_ => ?_) _ _ open_
    refine Prog.contract_mono (rereading_rereadPage open_) fun result w'' open_ => ?_
    cases result <;> exact open_
  · exact rereading_leaveUnread open_

theorem leaves_validateCollected {state : Collected} (open_ : Underway run.id w) :
    Leaving run.id (validateCollected worker run source selection state)
      (fun _ w' => Underway run.id w') w := by
  have checked : Leaving run.id (Prog.reify (validateEntitySnapshot worker run source
      selection.entity state.cursor.total (sha256 state.identityDigest)))
      (fun result w' => (result = .error .leaseLost → w'.cause = some .leaseLost) ∧ Underway run.id w')
      w := by
    refine Prog.contract_reify (Prog.wp_mono (rereading_validateEntitySnapshot open_) ?_)
    intro o w' post
    cases o with
    | ok a => exact ⟨nofun, post⟩
    | error e => exact ⟨fun lost => post.1 (Except.error.inj lost), post.2⟩
    | pending => trivial
  refine Prog.contract_bind (Prog.contract_mono checked ?_)
  intro result w' here
  obtain ⟨cause, open_⟩ := here
  match result with
  | .ok () => exact Prog.contract_ret open_
  | .error .leaseLost => exact Prog.contract_raise (open_.leaves fun _ => cause rfl)
  | .error .canceled => exact leaves_leaveCanceled open_
  | .error .other => exact Prog.contract_exitWith (leaves_failOrCancel open_)

theorem leaves_prepare (open_ : Underway run.id w) :
    Leaving run.id (prepare worker run source startedAt) (fun _ w' => Underway run.id w') w := by
  refine Prog.contract_bind (Prog.contract_mono (leaves_selectEntity open_) fun selection _ open_ => ?_)
  refine Prog.contract_bind (Prog.contract_mono (leaves_beginCollection open_) fun cursor _ open_ => ?_)
  refine Prog.contract_bind (Prog.contract_mono (leaves_collectEntities open_) fun state _ open_ => ?_)
  refine Prog.contract_bind (Prog.contract_mono (leaves_leaveIfCanceled open_) fun _ _ open_ => ?_)
  refine Prog.contract_bind (Prog.contract_mono (leaves_moveRun rfl open_) fun _ _ open_ => ?_)
  refine Prog.contract_bind (Prog.contract_mono (leaves_validateCollected open_) fun _ _ open_ => ?_)
  refine Prog.contract_bind (Prog.contract_mono (leaves_leaveIfCanceled open_) fun _ _ open_ => ?_)
  exact Prog.contract_bind (Prog.contract_mono (leaves_moveRun rfl open_) fun _ _ open_ =>
    Prog.contract_ret open_)

/-! ### Publishing -/

theorem leaves_cleanUp (open_ : Underway run.id w) :
    Leaving run.id (cleanUp run source selection snapshotAt) (fun _ w' => Underway run.id w') w := by
  refine Prog.contract_perform fun m covered _ _ => ?_
  have open_ := open_.call (m := m)
    (c := .service (SyncRequest.coversFullSource source selection.entity)) fun _ => rfl
  refine Prog.contract_bind (leaves_orFail open_ fun currentFullSource _ => ?_)
  by_cases full : (selection.fullSource && currentFullSource) = true
  · rw [if_pos full]
    refine Prog.contract_perform fun m cleaned _ _ => ?_
    have open_ := open_.call (m := m) (c := .service (SyncRequest.deleteOrphanVerticesNotSeen source.id
      selection.entity snapshotAt)) fun _ => rfl
    cases cleaned with
    | true => exact Prog.contract_ret open_
    | false =>
        exact Prog.contract_bind (Prog.contract_mono (leaves_leaveIfLost open_) fun _ _ open_ =>
          leaves_leaveFailed open_)
  · rw [if_neg full]
    exact Prog.contract_ret open_

/-- A completed run is reported as nil. -/
theorem leaves_completeRun (open_ : Underway run.id w) :
    Leaving run.id (completeRun run source selection) (fun _ w' => Leaves run.id none w') w := by
  refine Prog.contract_bind (Prog.contract_mono (open_quiet quiet_currentTime open_)
    fun now w' open_ => ?_)
  refine Prog.contract_perform fun m completed _ answered => ?_
  have seen : (handler (.control (.completeCheckpointAndRun source.id selection.resource run.id
      .publishing now)) m w').2.observed (observeConclusion run.id) =
      (observeConclusion run.id (.control (.completeCheckpointAndRun source.id selection.resource run.id
        .publishing now)) completed).toList := by
    rw [observed_handler answered, open_]
    rfl
  cases completed with
  | some reply =>
      refine Prog.contract_ret ⟨nofun, .inr (seen.trans ?_)⟩
      exact congrArg Option.toList (if_neg (not_not.mpr rfl))
  | none => exact leaves_leaveFailed seen

theorem leaves_publish (open_ : Underway run.id w) :
    Leaving run.id (publish run source selection snapshotAt) (fun _ w' => Leaves run.id none w') w := by
  refine Prog.contract_bind (Prog.contract_mono (leaves_leaveIfLost open_) fun _ _ open_ => ?_)
  refine Prog.contract_bind (Prog.contract_mono (leaves_cleanUp open_) fun _ _ open_ => ?_)
  refine Prog.contract_bind (Prog.contract_mono (leaves_leaveIfLost open_) fun _ _ open_ => ?_)
  exact leaves_completeRun open_

theorem leaves_executeClaimed (open_ : Underway run.id w) :
    Leaving run.id (executeClaimed worker run source startedAt) (fun _ w' => Leaves run.id none w')
      w := by
  refine Prog.contract_bind (Prog.contract_mono (leaves_prepare open_) fun prepared _ open_ => ?_)
  exact leaves_publish open_

end Stages

/-- The error that an ended execution returns. -/
def returnedError : Outcome (Option SyncError) Unit → Option (Option SyncError)
  | .ok () => some none
  | .error e => some e
  | .pending => none

/-- **How an execution leaves.** -/
theorem executeClaimed_leaves (worker : SyncWorker) (run : SyncRun) (source : Source) (startedAt : Time)
    (script : List (Move syncService)) {start : World syncService} (fresh : start.log = [])
    {e : Option SyncError}
    (returned : returnedError ((executeClaimed worker run source startedAt).run handler script start).1 =
      some e) :
    Leaves run.id e ((executeClaimed worker run source startedAt).run handler script start).2.1 := by
  have open_ : Underway run.id start := by rw [Underway, World.observed, fresh, List.filterMap_nil]
  obtain ⟨finished, left⟩ := Prog.contract_run (Prog.shrinking_true handler)
    (@leaves_executeClaimed start worker run source startedAt open_) script trivial
  cases outcome : ((executeClaimed worker run source startedAt).run handler script start).1 with
  | ok a =>
      rw [outcome] at returned
      cases returned
      exact finished a outcome
  | error e' =>
      rw [outcome] at returned
      cases returned
      exact left e outcome
  | pending =>
      rw [outcome] at returned
      cases returned

end UnifiedInfraTopology
