import UnifiedInfraTopology.Worker.Execute
import UnifiedInfraTopology.Worker.RunStatus

/-!
# `executeClaimed` finishes its run

Every exit of `executeClaimed` in a lawful log where the lease is kept: which exits leave the run in
a terminal status.

Before the run is published every exit does, by `failRun` or `cancelRun`, both of which the table of
transitions allows.  A published run cannot be canceled any more.  `failOrCancel` still tries to when
it finds the context done, and one exit after the publication goes through it: the second
`CoversFullSource` failing.  `CanceledInPublishing` describes that exit, and
`executeClaimed_terminal` says that it is the only one that leaves the run unfinished.
-/

namespace UnifiedInfraTopology

open Lib

/-! ## What the exits depend on -/

/-- The answers of `CoversFullSource`. -/
def observeCoverage : (c : Call syncService) → c.Answer → Option (Option Bool)
  | .service (.coversFullSource _ _), covered => some covered
  | _, _ => none

/-- The answers of `ctx.Err() != nil`. -/
def observeContext : (c : Call syncService) → c.Answer → Option Bool
  | .contextErr, done => some done
  | _, _ => none

/-- The second `CoversFullSource` fails, and the context was done when it was last asked. -/
def CanceledInPublishing (w : World syncService) : Prop :=
  (∃ full, w.observed observeCoverage = [some full, none]) ∧
    (w.observed observeContext).getLast? = some true

instance (w : World syncService) : Decidable (CanceledInPublishing w) :=
  inferInstanceAs (Decidable (_ ∧ _))

/-- The executions the result is about: a lawful log, and a lease that is kept. -/
def SyncLawful (runId : String) (w : World syncService) : Prop :=
  w.lawful runId ∧ w.cause ≠ some .leaseLost

instance (runId : String) (w : World syncService) : Decidable (SyncLawful runId w) :=
  inferInstanceAs (Decidable (_ ∧ _))

/-- The exit condition: unless the store failed in the end, the run is finished or the exit is the
one that cancels a published run. -/
def SyncExit (runId : String) (w : World syncService) : Prop :=
  TransitionReached w → (w.Ended runId ↔ ¬CanceledInPublishing w)

/-- The run has a status and `CoversFullSource` was answered so far as listed. -/
structure Working (runId : String) (status : SyncRunStatus) (covered : List (Option Bool))
    (w : World syncService) : Prop where
  holds : w.Holds runId status
  covered : w.observed observeCoverage = covered

/-- The run can still be canceled, and the coverage has not failed a second time. -/
structure Cancelable (runId : String) (status : SyncRunStatus) (covered : List (Option Bool)) :
    Prop where
  executing : status.executing = true
  unpublished : status ≠ .publishing
  named : runId ≠ ""
  safe : ∀ full, covered ≠ [some full, none]

/-- The call neither moves the run nor asks for the coverage. -/
def Call.neutral : Call syncService → Bool
  | .service (.coversFullSource _ _) => false
  | c => c.keepsStatus

theorem cause_disturbed {V : Service} {w : World V} {cause : Cause} (ended : w.cause = some cause)
    (disturbances : List Disturbance) : (w.disturbed disturbances).cause = some cause := by
  induction disturbances generalizing w with
  | nil => exact ended
  | cons d disturbances ih =>
      refine ih (w := w.disturb d) ?_
      cases d <;> simp [World.disturb, ended]

theorem shrinking_syncLawful (runId : String) : Prog.Shrinking handler (SyncLawful runId) := by
  intro c m w admitted
  refine ⟨shrinking_lawful runId c m w admitted.1, fun lost => ?_⟩
  exact admitted.2 (cause_disturbed lost m.disturbances)

/-- A call that is neither `CoversFullSource` nor `ctx.Err()` leaves the last exit undecided. -/
theorem canceledInPublishing_silent {c : Call syncService} {m : Move syncService}
    {w : World syncService} (coverage : ∀ answer, observeCoverage c answer = none)
    (context : ∀ answer, observeContext c answer = none) :
    CanceledInPublishing (handler c m w).2 ↔ CanceledInPublishing w := by
  rw [CanceledInPublishing, CanceledInPublishing, observed_silent coverage, observed_silent context]

/-! ## Calls that change nothing -/

section

variable {runId : String} {status : SyncRunStatus} {covered : List (Option Bool)}
  {w : World syncService}

theorem Working.uncanceled (working : Working runId status covered w)
    (safe : ∀ full, covered ≠ [some full, none]) : ¬CanceledInPublishing w := by
  rintro ⟨⟨full, failed⟩, -⟩
  exact safe full (working.covered.symm.trans failed)

theorem observeCoverage_neutral {c : Call syncService} (neutral : c.neutral = true)
    (answer : c.Answer) : observeCoverage c answer = none := by
  unfold observeCoverage
  split
  · cases neutral
  · rfl

theorem Working.call {c : Call syncService} {m : Move syncService}
    (working : Working runId status covered w) (neutral : c.neutral = true)
    (executing : status.executing = true) (admitted : SyncLawful runId (handler c m w).2) :
    Working runId status covered (handler c m w).2 := by
  have keeps : c.keepsStatus = true := by
    cases c with
    | service r => rfl
    | _ => exact neutral
  refine ⟨holds_call keeps working.holds executing admitted.1, ?_⟩
  rw [observed_silent (observeCoverage_neutral neutral), working.covered]

theorem Working.covers {source : Source} {entity : EntityType} {m : Move syncService}
    {answer : Option Bool} (working : Working runId status covered w)
    (executing : status.executing = true)
    (admitted : SyncLawful runId
      (handler (.service (SyncRequest.coversFullSource source entity)) m w).2)
    (answered : (handler (.service (SyncRequest.coversFullSource source entity)) m w).1 =
      some answer) :
    Working runId status (covered ++ [answer])
      (handler (.service (SyncRequest.coversFullSource source entity)) m w).2 := by
  refine ⟨holds_call rfl working.holds executing admitted.1, ?_⟩
  rw [observed_handler answered, working.covered]
  rfl

end

/-- A program without an early exit, whose calls change nothing. -/
structure Quiet {ε α : Type} (p : SyncProg ε α) : Prop where
  settles : p.Settles
  calls : p.Only fun c => c.neutral = true

section Quiet

variable {ε α β γ : Type}

theorem quiet_ret (a : α) : Quiet (.ret a : SyncProg ε α) := ⟨trivial, trivial⟩

theorem quiet_perform {c : Call syncService} (neutral : c.neutral = true) :
    Quiet (Prog.perform c : SyncProg ε c.Answer) :=
  ⟨fun _ => trivial, neutral, fun _ => trivial⟩

theorem quiet_bind {p : SyncProg ε α} {f : α → SyncProg ε β} (first : Quiet p)
    (second : ∀ a, Quiet (f a)) : Quiet (p.bind f) :=
  ⟨Prog.settles_bind first.settles fun a => (second a).settles,
    Prog.only_bind first.calls fun a => (second a).calls⟩

theorem quiet_loop {body : γ → SyncProg ε (γ ⊕ β)} (each : ∀ g, Quiet (body g)) (n : Nat) (g : γ) :
    Quiet (Prog.loop body n g) :=
  ⟨Prog.settles_loop (fun g => (each g).settles) n g, Prog.only_loop (fun g => (each g).calls) n g⟩

theorem quiet_currentTime : Quiet (currentTime : SyncProg ε Time) :=
  quiet_bind (quiet_perform rfl) fun _ => quiet_ret _

theorem quiet_readPage (pass : Pass) (source : Source) (entity : EntityType) (offset : Int) :
    Quiet (readPage pass source entity offset : SyncProg ε (Option EntityPage)) := by
  by_cases ports : entity = .interface
  · rw [readPage, if_pos ports]
    exact quiet_perform rfl
  · rw [readPage, if_neg ports]
    by_cases others : entity ≠ .device
    · rw [collectEntityPage, if_pos others]
      exact quiet_perform rfl
    · rw [collectEntityPage, if_neg others]
      exact quiet_bind (quiet_perform rfl) fun _ => quiet_ret _

theorem quiet_openSecondPass (source : Source) (entity : EntityType) :
    Quiet (openSecondPass source entity : SyncProg ε Bool) := by
  unfold openSecondPass
  split_ifs
  · exact quiet_perform rfl
  · exact quiet_ret true

theorem quiet_validateInterfaceOwners (sourceId : String) (owners : InterfaceOwners)
    (records : List EntityRecord) :
    Quiet (validateInterfaceOwners sourceId owners records :
      SyncProg ε (Option InterfaceOwners)) := by
  cases records with
  | nil => exact quiet_ret _
  | cons first records =>
      unfold validateInterfaceOwners
      dsimp only
      split_ifs
      · exact quiet_ret _
      · exact quiet_ret _
      · exact quiet_ret _
      · exact quiet_ret _
      · refine quiet_bind (quiet_perform rfl) fun found => ?_
        split_ifs <;> exact quiet_ret _

section

variable (w : SyncWorker) (sourceId : String) (entity : EntityType) (snapshotAt : Time)

theorem quiet_finishWrite (pool : Pool) (index : Nat) (record : EntityRecord) (stage : WriteStage) :
    Quiet (finishWrite sourceId entity snapshotAt pool index record stage : SyncProg ε Pool) := by
  cases stage with
  | vertex =>
      refine quiet_bind (quiet_perform rfl) fun written => ?_
      split_ifs
      · exact quiet_ret _
      · exact quiet_bind (quiet_perform rfl) fun _ => quiet_ret _
      · exact quiet_ret _
  | relation => exact quiet_bind (quiet_perform rfl) fun _ => quiet_ret _

theorem quiet_launchWrite (pool : Pool) :
    Quiet (launchWrite w sourceId entity snapshotAt pool : SyncProg ε Pool) := by
  unfold launchWrite
  split
  · exact quiet_ret _
  · split_ifs
    · exact quiet_bind (quiet_perform rfl) fun _ => quiet_ret _
    · exact quiet_ret _

theorem quiet_cutLaunch (pool : Pool) : Quiet (cutLaunch pool : SyncProg ε Pool) := by
  refine quiet_bind (quiet_perform rfl) fun done => ?_
  split_ifs <;> exact quiet_ret _

theorem quiet_takeTurn (pool : Pool) (turn : PoolTurn) :
    Quiet (takeTurn w sourceId entity snapshotAt pool turn : SyncProg ε Pool) := by
  cases turn with
  | launch => exact quiet_launchWrite w sourceId entity snapshotAt pool
  | cut => exact quiet_cutLaunch pool
  | finish index =>
      simp only [takeTurn]
      split
      · exact quiet_ret _
      · exact quiet_finishWrite sourceId entity snapshotAt _ _ _ _

theorem quiet_poolTurn (pool : Pool) :
    Quiet (poolTurn w sourceId entity snapshotAt pool : SyncProg ε (Pool ⊕ Bool)) := by
  unfold poolTurn
  split_ifs
  · exact quiet_ret _
  · exact quiet_bind (quiet_perform rfl) fun turn =>
      quiet_bind (quiet_takeTurn w sourceId entity snapshotAt pool turn) fun _ => quiet_ret _

end

end Quiet

/-! ## Stages before the run is published -/

section Stages

variable {runId : String} {status : SyncRunStatus} {covered : List (Option Bool)}
  {w : World syncService} {ε α : Type} {exit : ε → World syncService → Prop}

/-- The contract of a stage: every exit meets the exit condition. -/
abbrev Stage (runId : String) (p : SyncProg (Option SyncError) α)
    (Q : α → World syncService → Prop) (w : World syncService) : Prop :=
  Prog.Contract handler (SyncLawful runId) (fun _ => SyncExit runId) p Q w

theorem contract_quiet {p : SyncProg ε α} (quiet : Quiet p) (executing : status.executing = true)
    (working : Working runId status covered w) :
    Prog.Contract handler (SyncLawful runId) exit p
      (fun _ w' => Working runId status covered w') w :=
  Prog.contract_of_settles quiet.settles quiet.calls
    (fun _ _ _ neutral held admitted => held.call neutral executing admitted) working

theorem contract_leaseContextError (executing : status.executing = true)
    (working : Working runId status covered w) :
    Prog.Contract handler (SyncLawful runId) exit leaseContextError
      (fun lost w' => lost = false ∧ Working runId status covered w') w := by
  refine Prog.contract_perform fun m cause admitted answered => Prog.contract_ret ⟨?_, ?_⟩
  · rw [← respond_of_handler answered]
    exact decide_eq_false admitted.2
  · exact working.call rfl executing admitted

theorem contract_cancellationRequested (executing : status.executing = true)
    (working : Working runId status covered w) :
    Prog.Contract handler (SyncLawful runId) exit (cancellationRequested runId)
      (fun answer w' => answer ≠ .error .leaseLost ∧ Working runId status covered w') w := by
  refine Prog.contract_bind (Prog.contract_mono (contract_leaseContextError executing working) ?_)
  rintro lost w' ⟨rfl, working⟩
  refine Prog.contract_perform fun m done admitted _ => ?_
  have working := working.call rfl executing admitted
  cases done with
  | true => exact Prog.contract_ret ⟨nofun, working⟩
  | false =>
      refine Prog.contract_perform fun m requested admitted _ => Prog.contract_ret ⟨?_, ?_⟩
      · cases requested <;> nofun
      · exact working.call rfl executing admitted

/-! ### Exits -/

variable {target : SyncRunStatus} {now : Time} {code : String} {m : Move syncService}

theorem exit_of_transition {answer : Option Unit} (working : Working runId status covered w)
    (executing : status.executing = true) (named : runId ≠ "")
    (allowed : syncRunTransitionAllowed status target = true) (ended : target.terminal = true)
    (coded : target = .failed → syncRunErrorCodePattern code = true)
    (uncanceled : ¬CanceledInPublishing w)
    (admitted : SyncLawful runId
      (handler (.control (.transitionRun runId status target now code)) m w).2)
    (answered : (handler (.control (.transitionRun runId status target now code)) m w).1 =
      some answer) :
    SyncExit runId (handler (.control (.transitionRun runId status target now code)) m w).2 := by
  intro reached
  refine iff_of_true ?_ ?_
  · exact ended_of_transition working.holds executing named allowed ended coded admitted.1 answered
      reached
  · rwa [canceledInPublishing_silent (fun _ => rfl) fun _ => rfl]

/-- A run can fail from every status in which it executes. -/
theorem contract_failRun (working : Working runId status covered w)
    (executing : status.executing = true) (named : runId ≠ "")
    (coded : syncRunErrorCodePattern code = true) (uncanceled : ¬CanceledInPublishing w) :
    Prog.Contract handler (SyncLawful runId) exit (failRun runId status now code)
      (fun _ => SyncExit runId) w := by
  have allowed : syncRunTransitionAllowed status .failed = true := by
    cases status <;> first | rfl | cases executing
  exact Prog.contract_perform fun m moved admitted answered => Prog.contract_ret
    (exit_of_transition working executing named allowed rfl (fun _ => coded) uncanceled admitted
      answered)

/-- A run can be canceled until it is published. -/
theorem contract_cancelRun (live : Cancelable runId status covered)
    (working : Working runId status covered w) :
    Prog.Contract handler (SyncLawful runId) exit (cancelRun runId status now)
      (fun _ => SyncExit runId) w := by
  have allowed : syncRunTransitionAllowed status .canceled = true := by
    have executing := live.executing
    cases status <;> first | rfl | exact (live.unpublished rfl).elim | cases executing
  exact Prog.contract_perform fun m moved admitted answered => Prog.contract_ret
    (exit_of_transition working live.executing live.named allowed rfl nofun
      (working.uncanceled live.safe) admitted answered)

theorem contract_failOrCancel (live : Cancelable runId status covered)
    (working : Working runId status covered w) (coded : syncRunErrorCodePattern code = true) :
    Prog.Contract handler (SyncLawful runId) exit (failOrCancel runId status code)
      (fun _ => SyncExit runId) w := by
  refine Prog.contract_bind
    (Prog.contract_mono (contract_leaseContextError live.executing working) ?_)
  rintro lost w' ⟨rfl, working⟩
  refine Prog.contract_bind (Prog.contract_mono
    (contract_quiet quiet_currentTime live.executing working) fun now w' working => ?_)
  refine Prog.contract_perform fun m done admitted _ => ?_
  have working := working.call rfl live.executing admitted
  cases done with
  | true => exact contract_cancelRun live working
  | false =>
      refine Prog.contract_perform fun m requested admitted _ => ?_
      have working := working.call rfl live.executing admitted
      show Prog.Contract _ _ _ (if requested = some true then _ else _) _ _
      split_ifs
      · exact contract_cancelRun live working
      · exact contract_failRun working live.executing live.named coded
          (working.uncanceled live.safe)

/-! ### Leaving -/

theorem stage_leaveFailed {Q : α → World syncService → Prop}
    (working : Working runId status covered w) (executing : status.executing = true)
    (named : runId ≠ "") (safe : ∀ full, covered ≠ [some full, none])
    (coded : syncRunErrorCodePattern code = true) :
    Stage runId (leaveFailed runId status code) Q w :=
  Prog.contract_bind (Prog.contract_mono (contract_quiet quiet_currentTime executing working)
    fun _ _ working => Prog.contract_exitWith
      (contract_failRun working executing named coded (working.uncanceled safe)))

section

variable (live : Cancelable runId status covered) (working : Working runId status covered w)

include live working

theorem stage_leaveCanceled {Q : α → World syncService → Prop} :
    Stage runId (leaveCanceled runId status) Q w :=
  Prog.contract_bind (Prog.contract_mono (contract_quiet quiet_currentTime live.executing working)
    fun _ _ working => Prog.contract_exitWith (contract_cancelRun live working))

theorem stage_orFail {a : Option α} (coded : syncRunErrorCodePattern code = true) :
    Stage runId (orFail runId status code a)
      (fun b w' => a = some b ∧ Working runId status covered w') w := by
  cases a with
  | some a => exact Prog.contract_ret ⟨rfl, working⟩
  | none => exact Prog.contract_exitWith (contract_failOrCancel live working coded)

theorem stage_leaveIfCanceled {startedAt : Time} :
    Stage runId (leaveIfCanceled runId status startedAt)
      (fun _ w' => Working runId status covered w') w := by
  refine Prog.contract_bind
    (Prog.contract_mono (contract_cancellationRequested live.executing working) ?_)
  rintro answer w' ⟨kept, working⟩
  match answer with
  | .error .leaseLost => exact (kept rfl).elim
  | .error .unavailable =>
      exact Prog.contract_exitWith (contract_failRun working live.executing live.named (by decide)
        (working.uncanceled live.safe))
  | .ok true => exact Prog.contract_exitWith (contract_cancelRun live working)
  | .ok false => exact Prog.contract_ret working

/-- A transition moves the run, or the run is finished from where it is. -/
theorem stage_moveRun :
    Stage runId (moveRun runId status target)
      (fun _ w' => Working runId target covered w') w := by
  refine Prog.contract_bind (Prog.contract_mono
    (contract_quiet quiet_currentTime live.executing working) fun now w' working => ?_)
  refine Prog.contract_perform fun m moved admitted answered => ?_
  obtain ⟨accepted, refused⟩ := transition_answer working.holds live.executing admitted.1 answered
  have seen : (handler (.control (.transitionRun runId status target now "")) m w').2.observed
      observeCoverage = covered := (observed_silent fun _ => rfl).trans working.covered
  cases moved with
  | some reply => exact Prog.contract_ret ⟨(accepted rfl).2, seen⟩
  | none =>
      exact Prog.contract_exitWith
        (contract_failOrCancel live ⟨(refused rfl).1, seen⟩ (by decide))

end

end Stages

/-! ## From the start to the published status -/

section Prepare

variable {run : SyncRun} {source : Source} {startedAt : Time} {full : Bool}
  {w : World syncService}

theorem syncResource_coded {entity : EntityType} {resource : String × String}
    (known : syncResource entity = some resource) :
    syncRunErrorCodePattern resource.2 = true := by
  cases entity <;> cases known <;> decide

theorem stage_selectEntity (named : run.id ≠ "") (working : Working run.id .running [] w) :
    Stage run.id (selectEntity run source startedAt)
      (fun selection w' => syncRunErrorCodePattern selection.collectionErrorCode = true ∧
        ∃ full, Working run.id .running [some full] w') w := by
  have live : Cancelable run.id .running [] := ⟨rfl, nofun, named, nofun⟩
  refine Prog.contract_bind (Prog.contract_mono
    (stage_leaveIfCanceled live working) fun _ w' working => ?_)
  show Prog.Contract _ _ _ (if source.adapterKind ≠ "cmdb" then _ else _) _ _
  split_ifs
  · exact Prog.contract_exitWith
      (contract_failRun working rfl named (by decide) (working.uncanceled live.safe))
  · refine Prog.contract_perform fun m valid admitted _ => ?_
    have working := working.call rfl rfl admitted
    refine Prog.contract_bind (Prog.contract_mono
      (stage_orFail live working (by decide)) fun _ w' checked => ?_)
    refine Prog.contract_perform fun m selected admitted _ => ?_
    have working := checked.2.call rfl rfl admitted
    refine Prog.contract_bind (Prog.contract_mono
      (stage_orFail live working (by decide)) fun entity w' checked => ?_)
    refine Prog.contract_bind (Prog.contract_mono
      (stage_orFail live checked.2 (by decide)) fun resource w' found => ?_)
    refine Prog.contract_perform fun m answer admitted answered => ?_
    have working := found.2.covers rfl admitted answered
    have live : Cancelable run.id .running [answer] := ⟨rfl, nofun, named, nofun⟩
    refine Prog.contract_bind (Prog.contract_mono
      (stage_orFail live working (by decide)) ?_)
    rintro full w' ⟨rfl, working⟩
    exact Prog.contract_ret ⟨syncResource_coded found.1, full, working⟩

variable (live : Cancelable run.id .running [some full])
  (working : Working run.id .running [some full] w) {selection : Selection}
  (coded : syncRunErrorCodePattern selection.collectionErrorCode = true)

include live working coded

theorem stage_beginCollection :
    Stage run.id (beginCollection run source startedAt selection)
      (fun _ w' => Working run.id .running [some full] w') w := by
  refine Prog.contract_bind (Prog.contract_mono
    (contract_quiet quiet_currentTime rfl working) fun now w' working => ?_)
  refine Prog.contract_perform fun m begun admitted _ => ?_
  have working := working.call rfl rfl admitted
  refine Prog.contract_bind (Prog.contract_mono
    (stage_orFail live working (by decide)) fun checkpoint w' checked => ?_)
  show Prog.Contract _ _ _ (if selection.entity = .interface then _ else _) _ _
  split_ifs
  · refine Prog.contract_perform fun m opened admitted _ => ?_
    have working := checked.2.call rfl rfl admitted
    exact Prog.contract_bind (Prog.contract_mono
      (stage_orFail live working coded)
      fun _ w' checked => Prog.contract_ret checked.2)
  · exact Prog.contract_ret checked.2

theorem stage_acceptPage {state : Collected} {page : EntityPage} :
    Stage run.id (acceptPage run selection state page)
      (fun _ w' => Working run.id .running [some full] w') w := by
  unfold acceptPage
  split
  · exact Prog.contract_ret working
  · exact stage_leaveFailed working rfl live.named live.safe coded

omit coded

theorem stage_checkOwners {state : Collected} {page : EntityPage} :
    Stage run.id (checkOwners run source selection state page)
      (fun _ w' => Working run.id .running [some full] w') w := by
  unfold checkOwners
  split_ifs
  · refine Prog.contract_bind (Prog.contract_mono
      (contract_quiet (quiet_validateInterfaceOwners _ _ _) rfl working) fun owners w' working => ?_)
    exact Prog.contract_mono (stage_orFail live working (by decide))
      fun _ _ checked => checked.2
  · exact Prog.contract_ret working

theorem stage_writePage {worker : SyncWorker} {snapshotAt : Time} {page : EntityPage} :
    Stage run.id (writePage worker run source selection snapshotAt page)
      (fun _ w' => Working run.id .running [some full] w') w := by
  have written : Stage run.id
      (writeEntityPage worker source.id selection.entity snapshotAt page.records)
      (fun result w' => result ≠ .error .leaseLost ∧ Working run.id .running [some full] w') w := by
    refine Prog.contract_bind (Prog.contract_mono
      (contract_quiet (quiet_loop (quiet_poolTurn _ _ _ _) _ _) rfl working) fun failed w' working => ?_)
    refine Prog.contract_bind (Prog.contract_mono (contract_leaseContextError rfl working) ?_)
    rintro lost w' ⟨rfl, working⟩
    refine Prog.contract_perform fun m done admitted _ => ?_
    have working := working.call rfl rfl admitted
    cases done with
    | true => exact Prog.contract_ret ⟨nofun, working⟩
    | false => cases failed <;> exact Prog.contract_ret ⟨nofun, working⟩
  refine Prog.contract_bind (Prog.contract_mono written ?_)
  rintro result w' ⟨kept, working⟩
  match result with
  | .ok () => exact Prog.contract_ret working
  | .error .leaseLost => exact (kept rfl).elim
  | .error .canceled => exact stage_leaveCanceled live working
  | .error .graphWrite => exact stage_leaveFailed working rfl live.named live.safe (by decide)

theorem stage_storeCursor {snapshotAt : Time} {cursor : DeviceSyncCursor} {page : EntityPage}
    {last : Int64} :
    Stage run.id (storeCursor run source startedAt selection snapshotAt cursor page last)
      (fun _ w' => Working run.id .running [some full] w') w := by
  unfold storeCursor
  dsimp only
  split_ifs
  · exact Prog.contract_ret working
  · refine Prog.contract_bind (Prog.contract_mono
      (stage_leaveIfCanceled live working) fun _ w' working => ?_)
    refine Prog.contract_bind (Prog.contract_mono
      (contract_quiet quiet_currentTime rfl working) fun now w' working => ?_)
    refine Prog.contract_perform fun m stored admitted _ => ?_
    have working := working.call rfl rfl admitted
    exact Prog.contract_bind (Prog.contract_mono
      (stage_orFail live working (by decide))
      fun _ w' checked => Prog.contract_ret checked.2)

include coded

theorem stage_collectPage {worker : SyncWorker} {snapshotAt : Time} {state : Collected} :
    Stage run.id (collectPage worker run source startedAt selection snapshotAt state)
      (fun _ w' => Working run.id .running [some full] w') w := by
  refine Prog.contract_bind (Prog.contract_mono
    (stage_leaveIfCanceled live working) fun _ w' working => ?_)
  refine Prog.contract_bind (Prog.contract_mono
    (contract_quiet (quiet_readPage _ _ _ _) rfl working) fun read w' working => ?_)
  refine Prog.contract_bind (Prog.contract_mono
    (stage_orFail live working coded) fun page w' checked => ?_)
  refine Prog.contract_bind (Prog.contract_mono
    (stage_acceptPage live checked.2 coded) fun accepted w' working => ?_)
  refine Prog.contract_bind (Prog.contract_mono
    (stage_checkOwners live working) fun owners w' working => ?_)
  refine Prog.contract_bind (Prog.contract_mono
    (stage_writePage live working) fun _ w' working => ?_)
  exact Prog.contract_bind (Prog.contract_mono
    (stage_storeCursor live working) fun _ w' working => Prog.contract_ret working)

theorem stage_collectEntities {worker : SyncWorker} {cursor : DeviceSyncCursor} :
    Stage run.id (collectEntities worker run source startedAt selection cursor)
      (fun _ w' => Working run.id .running [some full] w') w := by
  refine Prog.contract_loop (fun _ => Working run.id .running [some full])
    (fun state w' working => ?_) _ _ working
  refine Prog.contract_mono (stage_collectPage live working coded) fun result w'' working => ?_
  cases result <;> exact working

end Prepare

/-! ### Reading again -/

section Reread

variable {run : SyncRun} {source : Source} {full : Bool} {w : World syncService} {α : Type}

/-- How the validation ends: not with the lease lost, and where it started. -/
abbrev Reread (runId : String) (full : Bool) (p : SyncProg SnapshotError α)
    (w : World syncService) : Prop :=
  Prog.Contract handler (SyncLawful runId)
    (fun e w' => e ≠ .leaseLost ∧ Working runId .validating [some full] w') p
    (fun _ w' => Working runId .validating [some full] w') w

variable (working : Working run.id .validating [some full] w)

include working

theorem reread_leaveUnread : Reread run.id full (leaveUnread : SyncProg SnapshotError α) w := by
  refine Prog.contract_bind (Prog.contract_mono (contract_leaseContextError rfl working) ?_)
  rintro lost w' ⟨rfl, working⟩
  exact Prog.contract_raise ⟨nofun, working⟩

theorem reread_compareEntityPage {entity : EntityType} {total : Int} {expected : List UInt8}
    {state : DeviceSyncCursor × List UInt8} {page : EntityPage} :
    Reread run.id full (compareEntityPage entity total expected state page) w := by
  by_cases apart : page.total ≠ total
  · rw [compareEntityPage, if_pos apart]
    exact Prog.contract_raise ⟨nofun, working⟩
  · rw [compareEntityPage, if_neg apart]
    cases validateEntityPage state.1 page entity with
    | none => exact Prog.contract_raise ⟨nofun, working⟩
    | some last =>
        dsimp only
        split_ifs
        · exact Prog.contract_raise ⟨nofun, working⟩
        · exact Prog.contract_ret working
        · exact Prog.contract_ret working

theorem reread_rereadPage {entity : EntityType} {total : Int} {expected : List UInt8}
    {state : DeviceSyncCursor × List UInt8} :
    Reread run.id full (rereadPage run source entity total expected state) w := by
  refine Prog.contract_bind (Prog.contract_mono (contract_cancellationRequested rfl working) ?_)
  rintro answer w' ⟨kept, working⟩
  match answer with
  | .error .leaseLost => exact (kept rfl).elim
  | .error .unavailable => exact Prog.contract_raise ⟨nofun, working⟩
  | .ok true => exact Prog.contract_raise ⟨nofun, working⟩
  | .ok false =>
      refine Prog.contract_bind (Prog.contract_mono
        (contract_quiet (quiet_readPage _ _ _ _) rfl working) fun read w' working => ?_)
      cases read with
      | none => exact reread_leaveUnread working
      | some page => exact reread_compareEntityPage working

theorem reread_validateEntitySnapshot {worker : SyncWorker} {entity : EntityType} {total : Int}
    {expected : List UInt8} :
    Reread run.id full (validateEntitySnapshot worker run source entity total expected) w := by
  refine Prog.contract_bind (Prog.contract_mono
    (contract_quiet (quiet_openSecondPass _ _) rfl working) fun opened w' working => ?_)
  split_ifs
  · refine Prog.contract_loop (fun _ => Working run.id .validating [some full])
      (fun state w' working => ?_) _ _ working
    refine Prog.contract_mono (reread_rereadPage working) fun result w'' working => ?_
    cases result <;> exact working
  · exact reread_leaveUnread working

theorem stage_validateCollected (live : Cancelable run.id .validating [some full])
    {worker : SyncWorker} {selection : Selection} {state : Collected}
    (coded : syncRunErrorCodePattern selection.collectionErrorCode = true) :
    Stage run.id (validateCollected worker run source selection state)
      (fun _ w' => Working run.id .validating [some full] w') w := by
  have checked : Stage run.id (Prog.reify (validateEntitySnapshot worker run source
      selection.entity state.cursor.total (sha256 state.identityDigest)))
      (fun result w' => result ≠ .error .leaseLost ∧ Working run.id .validating [some full] w') w := by
    refine Prog.contract_reify (Prog.wp_mono (reread_validateEntitySnapshot working) ?_)
    intro o w' post
    cases o with
    | ok a => exact ⟨nofun, post⟩
    | error e => exact ⟨fun lost => post.1 (Except.error.inj lost), post.2⟩
    | pending => trivial
  refine Prog.contract_bind (Prog.contract_mono checked ?_)
  rintro result w' ⟨kept, working⟩
  match result with
  | .ok () => exact Prog.contract_ret working
  | .error .leaseLost => exact (kept rfl).elim
  | .error .canceled => exact stage_leaveCanceled live working
  | .error .other => exact Prog.contract_exitWith (contract_failOrCancel live working coded)

end Reread

/-- The run is published, or finished. -/
theorem stage_prepare {worker : SyncWorker} {run : SyncRun} {source : Source} {startedAt : Time}
    {w : World syncService} (named : run.id ≠ "") (working : Working run.id .running [] w) :
    Stage run.id (prepare worker run source startedAt)
      (fun _ w' => ∃ full, Working run.id .publishing [some full] w') w := by
  refine Prog.contract_bind (Prog.contract_mono (stage_selectEntity named working) ?_)
  rintro selection w' ⟨coded, full, working⟩
  have running : Cancelable run.id .running [some full] := ⟨rfl, nofun, named, nofun⟩
  have validating : Cancelable run.id .validating [some full] := ⟨rfl, nofun, named, nofun⟩
  refine Prog.contract_bind (Prog.contract_mono
    (stage_beginCollection running working coded) fun cursor w' working => ?_)
  refine Prog.contract_bind (Prog.contract_mono
    (stage_collectEntities running working coded) fun state w' working => ?_)
  refine Prog.contract_bind (Prog.contract_mono
    (stage_leaveIfCanceled running working) fun _ w' working => ?_)
  refine Prog.contract_bind (Prog.contract_mono
    (stage_moveRun running working) fun _ w' working => ?_)
  refine Prog.contract_bind (Prog.contract_mono
    (stage_validateCollected working validating coded) fun _ w' working => ?_)
  refine Prog.contract_bind (Prog.contract_mono
    (stage_leaveIfCanceled validating working) fun _ w' working => ?_)
  exact Prog.contract_bind (Prog.contract_mono
    (stage_moveRun validating working) fun _ w' working => Prog.contract_ret ⟨full, working⟩)

/-! ## From the published status to the end -/

section Publish

variable {run : SyncRun} {source : Source} {selection : Selection} {full b : Bool}
  {covered : List (Option Bool)} {w : World syncService}

theorem stage_leaveIfLost (working : Working run.id .publishing covered w) :
    Stage run.id leaveIfLost (fun _ w' => Working run.id .publishing covered w') w := by
  refine Prog.contract_bind (Prog.contract_mono (contract_leaseContextError rfl working) ?_)
  rintro lost w' ⟨rfl, working⟩
  exact Prog.contract_ret working

/-- The exit after the second `CoversFullSource` has failed: it cancels a published run, which the
table of transitions forbids, or fails it. -/
theorem stage_failOrCancel_publishing (named : run.id ≠ "") {code : String}
    (coded : syncRunErrorCodePattern code = true)
    (working : Working run.id .publishing [some full, none] w) :
    Stage run.id (failOrCancel run.id .publishing code) (fun _ => SyncExit run.id) w := by
  refine Prog.contract_bind (Prog.contract_mono (contract_leaseContextError rfl working) ?_)
  rintro lost w' ⟨rfl, working⟩
  refine Prog.contract_bind (Prog.contract_mono
    (contract_quiet quiet_currentTime rfl working) fun now w' working => ?_)
  refine Prog.contract_perform fun m done admitted answered => ?_
  have working := working.call rfl rfl admitted
  have asked : ((handler .contextErr m w').2.observed observeContext).getLast? = some done := by
    rw [observed_handler answered]
    exact List.getLast?_concat
  cases done with
  | true =>
      refine Prog.contract_perform fun m moved admitted answered => Prog.contract_ret ?_
      have stuck := holds_of_transition working.holds rfl rfl admitted.1 answered
      refine fun _ => iff_of_false (stuck.not_ended rfl) (not_not.mpr ?_)
      rw [canceledInPublishing_silent (fun _ => rfl) fun _ => rfl]
      exact ⟨⟨full, working.covered⟩, asked⟩
  | false =>
      have uncanceled : ¬CanceledInPublishing (handler .contextErr m w').2 := by
        rintro ⟨-, canceled⟩
        cases asked.symm.trans canceled
      refine Prog.contract_perform fun m requested admitted answered => ?_
      rw [if_neg (not_requested_of_publishing working.holds admitted.1 answered)]
      refine contract_failRun (working.call rfl rfl admitted) rfl named coded ?_
      rwa [canceledInPublishing_silent (fun _ => rfl) fun _ => rfl]

theorem stage_cleanUp (named : run.id ≠ "") {snapshotAt : Time}
    (working : Working run.id .publishing [some full] w) :
    Stage run.id (cleanUp run source selection snapshotAt)
      (fun _ w' => ∃ b, Working run.id .publishing [some full, some b] w') w := by
  refine Prog.contract_perform fun m covered admitted answered => ?_
  have working := working.covers rfl admitted answered
  cases covered with
  | none =>
      have coded : syncRunErrorCodePattern syncErrorSourceValidation = true := by decide
      exact Prog.contract_bind (Prog.contract_exitWith
        (stage_failOrCancel_publishing named coded working))
  | some b =>
      refine Prog.contract_bind (Prog.contract_ret ?_)
      split_ifs
      · refine Prog.contract_perform fun m cleaned admitted _ => ?_
        have working := working.call rfl rfl admitted
        split_ifs
        · exact Prog.contract_ret ⟨b, working⟩
        · exact Prog.contract_bind (Prog.contract_mono (stage_leaveIfLost working)
            fun _ w' working => stage_leaveFailed working rfl named nofun (by decide))
      · exact Prog.contract_ret ⟨b, working⟩

theorem stage_completeRun (named : run.id ≠ "")
    (working : Working run.id .publishing [some full, some b] w) :
    Stage run.id (completeRun run source selection) (fun _ => SyncExit run.id) w := by
  refine Prog.contract_bind (Prog.contract_mono
    (contract_quiet quiet_currentTime rfl working) fun now w' working => ?_)
  refine Prog.contract_perform fun m completed admitted answered => ?_
  obtain ⟨ended, unfinished⟩ := complete_answer working.holds admitted.1 answered
  have seen : (handler (.control (.completeCheckpointAndRun source.id selection.resource run.id
      .publishing now)) m w').2.observed observeCoverage = [some full, some b] :=
    (observed_silent fun _ => rfl).trans working.covered
  cases completed with
  | some reply =>
      refine Prog.contract_ret fun _ => iff_of_true (ended rfl) ?_
      rintro ⟨⟨full', failed⟩, -⟩
      cases seen.symm.trans failed
  | none =>
      have safe : ∀ full', [some full, some b] ≠ [some full', none] := nofun
      exact stage_leaveFailed ⟨unfinished rfl, seen⟩ rfl named safe (by decide)

theorem stage_publish (named : run.id ≠ "") {snapshotAt : Time}
    (working : Working run.id .publishing [some full] w) :
    Stage run.id (publish run source selection snapshotAt) (fun _ => SyncExit run.id) w := by
  refine Prog.contract_bind (Prog.contract_mono (stage_leaveIfLost working)
    fun _ w' working => ?_)
  refine Prog.contract_bind (Prog.contract_mono (stage_cleanUp named working) ?_)
  rintro _ w' ⟨b, working⟩
  exact Prog.contract_bind (Prog.contract_mono (stage_leaveIfLost working)
    fun _ w' working => stage_completeRun named working)

end Publish

/-! ## The result -/

section

variable (worker : SyncWorker) (run : SyncRun) (source : Source) (startedAt : Time)

theorem stage_executeClaimed {w : World syncService} (named : run.id ≠ "")
    (working : Working run.id .running [] w) :
    Stage run.id (executeClaimed worker run source startedAt) (fun _ => SyncExit run.id) w := by
  refine Prog.contract_bind (Prog.contract_mono (stage_prepare named working) ?_)
  rintro ⟨selection, cursor⟩ w' ⟨full, working⟩
  exact stage_publish named working

/-- **A returned `executeClaimed` has finished its run, unless it cancels a published one.**  The
store keeps its promises, the lease is kept, and the last `TransitionRun` reaches the store; the
source, the graph, and the ends of contexts are arbitrary. -/
theorem executeClaimed_terminal (script : List (Move syncService)) (start : World syncService)
    (fresh : start.log = []) (named : run.id ≠ "") (running : start.Holds run.id .running)
    (returned : ((executeClaimed worker run source startedAt).run handler script start).1 ≠ .pending)
    (lawful : SyncLawful run.id
      ((executeClaimed worker run source startedAt).run handler script start).2.1)
    (reached : TransitionReached
      ((executeClaimed worker run source startedAt).run handler script start).2.1) :
    ((executeClaimed worker run source startedAt).run handler script start).2.1.Ended run.id ↔
      ¬CanceledInPublishing
        ((executeClaimed worker run source startedAt).run handler script start).2.1 := by
  have working : Working run.id .running [] start :=
    ⟨running, by rw [World.observed, fresh, List.filterMap_nil]⟩
  obtain ⟨finished, left⟩ := Prog.contract_run (shrinking_syncLawful run.id)
    (stage_executeClaimed worker run source startedAt named working) script lawful
  cases outcome : ((executeClaimed worker run source startedAt).run handler script start).1 with
  | ok a => exact finished a outcome reached
  | error e => exact left e outcome reached
  | pending => exact (returned outcome).elim

end

/-! ## Executions -/

/-- A source without devices. -/
def emptySource (covered : Option Bool) : (r : SyncRequest) → r.Reply
  | .validate _ | .openEntityPass _ _ _ | .upsertVertex _ | .upsertRelation _ => true
  | .selectedEntity _ => some .device
  | .coversFullSource _ _ => covered
  | .vertexExists _ => some true
  | .passPage _ _ | .collectEntityPage _ _ _ _ => none
  | .collectDevicePage _ _ _ => some ⟨[], 0, 0, true⟩
  | .schedule => .launch
  | .startVertex _ | .startRelation _ => ()
  | .deleteOrphanVerticesNotSeen _ _ _ => true

/-- A call that is answered by a source without devices. -/
def emptyMove (covered : Option Bool) (disturbances : List Disturbance) : Move syncService :=
  ⟨disturbances, 3000, .none, false, emptySource covered⟩

/-- The run `r` of the source `s`, claimed. -/
def claimedWorld : World syncService :=
  ⟨(Store.withoutRuns (oneSource "s") .empty).applyAll
    [.enqueue (queuedRun "r" "s") 1000, .claimNext none 2000], none, false, []⟩

/-- The claimed run is executed. -/
def executeClaimedRun (script : List (Move syncService)) :
    Outcome (Option SyncError) Unit × World syncService × List (Move syncService) :=
  (executeClaimed ⟨1, 1⟩ (Store.claimed 2000 (queuedRun "r" "s")) ⟨"s", "lab", "cmdb", "ref", true⟩
    2000).run handler script claimedWorld

/-- A source with one device. -/
def deviceSource (turn : PoolTurn) : (r : SyncRequest) → r.Reply
  | .validate _ | .openEntityPass _ _ _ | .upsertVertex _ | .upsertRelation _ => true
  | .selectedEntity _ => some .device
  | .coversFullSource _ _ | .vertexExists _ => some true
  | .passPage _ _ | .collectEntityPage _ _ _ _ => none
  | .collectDevicePage _ _ _ => some ⟨[⟨7, "SN-7", "node", 0, 0, "compute", []⟩], 1, 1, true⟩
  | .schedule => turn
  | .startVertex _ | .startRelation _ => ()
  | .deleteOrphanVerticesNotSeen _ _ _ => true

/-- The write of the device is launched, and returns. -/
def deviceScript : List (Move syncService) :=
  List.replicate 14 ⟨[], 3000, .none, false, deviceSource .launch⟩ ++
    List.replicate 29 ⟨[], 3000, .none, false, deviceSource (.finish 0)⟩

/-- The claimed run collects the device. -/
def executeDeviceRun : Outcome (Option SyncError) Unit × World syncService × List (Move syncService) :=
  (executeClaimed ⟨1, 3⟩ (Store.claimed 2000 (queuedRun "r" "s")) ⟨"s", "lab", "cmdb", "ref", true⟩
    2000).run handler deviceScript claimedWorld

/-- The second `CoversFullSource` fails in a context that has just ended. -/
def uncoveredScript : List (Move syncService) :=
  List.replicate 29 (emptyMove (some true) []) ++ emptyMove none [.contextEnds .canceled] ::
    List.replicate 4 (emptyMove none [])

/-- `executeClaimed` has returned, and its run is still published. -/
theorem executeClaimed_unfinished :
    claimedWorld.Holds "r" .running ∧
      (executeClaimedRun uncoveredScript).1 ≠ .pending ∧
      SyncLawful "r" (executeClaimedRun uncoveredScript).2.1 ∧
      TransitionReached (executeClaimedRun uncoveredScript).2.1 ∧
      ¬(executeClaimedRun uncoveredScript).2.1.Ended "r" := by
  decide +kernel

/-- The source replies until the end. -/
theorem executeClaimed_terminal_covered :
    (executeClaimedRun (List.replicate 34 (emptyMove (some true) []))).2.1.Ended "r" ↔
      ¬CanceledInPublishing
        (executeClaimedRun (List.replicate 34 (emptyMove (some true) []))).2.1 := by
  have running : claimedWorld.Holds "r" .running := by decide +kernel
  have ended : (executeClaimedRun (List.replicate 34 (emptyMove (some true) []))).1 ≠ .pending ∧
      SyncLawful "r" (executeClaimedRun (List.replicate 34 (emptyMove (some true) []))).2.1 ∧
      TransitionReached (executeClaimedRun (List.replicate 34 (emptyMove (some true) []))).2.1 := by
    decide +kernel
  unfold executeClaimedRun at ended ⊢
  exact executeClaimed_terminal ⟨1, 1⟩ (Store.claimed 2000 (queuedRun "r" "s"))
    ⟨"s", "lab", "cmdb", "ref", true⟩ 2000 (List.replicate 34 (emptyMove (some true) []))
    claimedWorld rfl nofun running ended.1 ended.2.1 ended.2.2

end UnifiedInfraTopology
