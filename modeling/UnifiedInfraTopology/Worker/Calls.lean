import UnifiedInfraTopology.Worker.Execute

/-!
# The calls of the parts of `executeClaimed`

Reading, checking and writing a page are work on the source and the graph: these parts neither touch
the control store, nor ask for the coverage of the source, nor clean up (`PageWork`).  Everything else
in `executeClaimed` neither reads a page to collect, nor looks up an owner, nor writes (`OffPage`).

The ways to leave ask for the time, the context and a cancellation, and move the run (`Routine`).
Before the run is published nothing is cleaned up or completed (`preparing_prepare`); from then on the
coverage is asked for, and the run is concluded (`closing_publish`).
-/

namespace UnifiedInfraTopology

open Lib

/-- The call reads pages, looks up owners, writes records, or asks for the context. -/
def Call.pageWork : Call syncService → Bool
  | .contextErr | .contextCause => true
  | .service r =>
      match r with
      | .validate _ | .selectedEntity _ | .coversFullSource _ _ => false
      | .deleteOrphanVerticesNotSeen _ _ _ => false
      | _ => true
  | _ => false

/-- The program issues such calls only. -/
abbrev PageWork {ε α : Type} (p : SyncProg ε α) : Prop := p.Only fun c => c.pageWork = true

section

variable {ε : Type} (w : SyncWorker) (sourceId : String) (entity : EntityType) (snapshotAt : Time)

theorem pageWork_perform {α : Type} {c : Call syncService} {k : c.Answer → SyncProg ε α}
    (work : c.pageWork = true) (next : ∀ answer, PageWork (k answer)) :
    PageWork ((Prog.perform c).bind k) := ⟨work, next⟩

theorem pageWork_readPage (pass : Pass) (source : Source) (offset : Int) :
    PageWork (readPage pass source entity offset : SyncProg ε (Option EntityPage)) := by
  unfold readPage collectEntityPage
  split_ifs
  · exact ⟨rfl, fun _ => trivial⟩
  · exact ⟨rfl, fun _ => trivial⟩
  · exact pageWork_perform rfl fun _ => trivial

theorem pageWork_openSecondPass (source : Source) :
    PageWork (openSecondPass source entity : SyncProg ε Bool) := by
  unfold openSecondPass
  split_ifs
  · exact ⟨rfl, fun _ => trivial⟩
  · trivial

theorem pageWork_validateInterfaceOwners (owners : InterfaceOwners) (records : List EntityRecord) :
    PageWork (validateInterfaceOwners sourceId owners records :
      SyncProg ε (Option InterfaceOwners)) := by
  cases records with
  | nil => trivial
  | cons first records =>
      unfold validateInterfaceOwners
      dsimp only
      split_ifs
      · trivial
      · trivial
      · trivial
      · trivial
      · refine pageWork_perform rfl fun found => ?_
        split_ifs <;> trivial

theorem pageWork_finishWrite (pool : Pool) (index : Nat) (record : EntityRecord)
    (stage : WriteStage) :
    PageWork (finishWrite sourceId entity snapshotAt pool index record stage : SyncProg ε Pool) := by
  cases stage with
  | vertex =>
      refine pageWork_perform rfl fun written => ?_
      split_ifs
      · trivial
      · exact pageWork_perform rfl fun _ => trivial
      · trivial
  | relation => exact pageWork_perform rfl fun _ => trivial

theorem pageWork_takeTurn (pool : Pool) (turn : PoolTurn) :
    PageWork (takeTurn w sourceId entity snapshotAt pool turn : SyncProg ε Pool) := by
  cases turn with
  | launch =>
      simp only [takeTurn, launchWrite]
      split
      · trivial
      · split_ifs
        · exact pageWork_perform rfl fun _ => trivial
        · trivial
  | cut =>
      refine pageWork_perform rfl fun done => ?_
      split_ifs <;> trivial
  | finish index =>
      simp only [takeTurn]
      split
      · trivial
      · exact pageWork_finishWrite sourceId entity snapshotAt _ _ _ _

theorem pageWork_poolTurn (pool : Pool) :
    PageWork (poolTurn w sourceId entity snapshotAt pool : SyncProg ε (Pool ⊕ Bool)) := by
  unfold poolTurn
  split_ifs
  · trivial
  · exact pageWork_perform rfl fun turn =>
      Prog.only_bind (pageWork_takeTurn w sourceId entity snapshotAt pool turn) fun _ => trivial

theorem pageWork_writeEntityPage (records : List EntityRecord) :
    PageWork (writeEntityPage w sourceId entity snapshotAt records :
      SyncProg ε (Except WriteError Unit)) := by
  refine Prog.only_bind (Prog.only_loop (pageWork_poolTurn w sourceId entity snapshotAt) _ _)
    fun failed => ?_
  refine Prog.only_bind ⟨rfl, fun _ => trivial⟩ fun lost => ?_
  by_cases gone : lost = true
  · rw [if_pos gone]
    trivial
  · rw [if_neg gone]
    refine pageWork_perform rfl fun done => ?_
    split_ifs <;> trivial

end

/-! ## Around the pages -/

/-- The call asks for the time, the context or a cancellation, or moves the run before its success. -/
def Call.routine : Call syncService → Bool
  | .control (.transitionRun _ _ target _ _) => target ≠ .succeeded
  | .control _ | .service _ => false
  | _ => true

/-- The call cleans up, or completes a run. -/
def Call.concludes : Call syncService → Bool
  | .control (.transitionRun _ _ target _ _) => target = .succeeded
  | .control (.completeCheckpointAndRun _ _ _ _ _) => true
  | .service (.deleteOrphanVerticesNotSeen _ _ _) => true
  | _ => false

/-- The call neither reads a page to collect, nor looks up an owner, nor writes a record. -/
def Call.offPage : Call syncService → Bool
  | .service r =>
      match r with
      | .passPage pass _ | .collectDevicePage pass _ _ | .collectEntityPage pass _ _ _ =>
          pass = .second
      | .vertexExists _ | .schedule => false
      | .startVertex _ | .upsertVertex _ | .startRelation _ | .upsertRelation _ => false
      | _ => true
  | _ => true

/-- The call is off the page, and does not conclude the run. -/
def Call.aside (c : Call syncService) : Bool := c.offPage && !c.concludes

/-- The call is one of the publication of this checkpoint. -/
def Call.Closing (sourceId resource : String) : Call syncService → Prop
  | .control (.completeCheckpointAndRun id name _ _ _) => id = sourceId ∧ name = resource
  | .service (.coversFullSource _ _) | .service (.deleteOrphanVerticesNotSeen _ _ _) => True
  | c => c.routine = true

/-- The program issues such calls only. -/
abbrev Routine {ε α : Type} (p : SyncProg ε α) : Prop := p.Only fun c => c.routine = true

abbrev OffPage {ε α : Type} (p : SyncProg ε α) : Prop := p.Only fun c => c.offPage = true

abbrev Aside {ε α : Type} (p : SyncProg ε α) : Prop := p.Only fun c => c.aside = true

abbrev Closing {ε α : Type} (sourceId resource : String) (p : SyncProg ε α) : Prop :=
  p.Only (Call.Closing sourceId resource)

/-- The program does not conclude a run. -/
abbrev Preparing {ε α : Type} (p : SyncProg ε α) : Prop := p.Only fun c => c.concludes = false

section

variable {ε α : Type} {p : SyncProg ε α}

theorem aside_of_routine (routine : Routine p) : Aside p := by
  refine Prog.only_mono routine fun c held => ?_
  cases c with
  | control op =>
      cases op with
      | transitionRun => simpa [Call.aside, Call.offPage, Call.concludes, Call.routine] using held
      | _ => cases held
  | service r => cases held
  | _ => rfl

theorem closing_of_routine {sourceId resource : String} (routine : Routine p) :
    Closing sourceId resource p := by
  refine Prog.only_mono routine fun c held => ?_
  cases c with
  | control op => cases op <;> first | exact held | cases held
  | service r => cases held
  | _ => rfl

theorem offPage_of_closing {sourceId resource : String} (closing : Closing sourceId resource p) :
    OffPage p := by
  refine Prog.only_mono closing fun c held => ?_
  cases c with
  | service r => cases r <;> first | rfl | cases held
  | _ => rfl

theorem offPage_of_aside (aside : Aside p) : OffPage p :=
  Prog.only_mono aside fun _ held => (Bool.and_eq_true_iff.mp held).1

theorem preparing_of_aside (aside : Aside p) : Preparing p :=
  Prog.only_mono aside fun _ held => Bool.not_eq_true' _ ▸ (Bool.and_eq_true_iff.mp held).2

theorem preparing_of_pageWork (work : PageWork p) : Preparing p := by
  refine Prog.only_mono work fun c held => ?_
  cases c with
  | control op => cases held
  | service r => cases r <;> first | rfl | cases held
  | _ => rfl

end

/-! ### Leaving -/

section

variable {ε α : Type}

theorem routine_perform {c : Call syncService} {k : c.Answer → SyncProg ε α}
    (routine : c.routine = true) (next : ∀ answer, Routine (k answer)) :
    Routine ((Prog.perform c).bind k) := ⟨routine, next⟩

theorem routine_exitWith {p : SyncProg ε ε} (routine : Routine p) :
    Routine (Prog.exitWith p : SyncProg ε α) := Prog.only_bind routine fun _ => trivial

theorem routine_leaseContextError : Routine (leaseContextError : SyncProg ε Bool) :=
  routine_perform rfl fun _ => trivial

theorem routine_cancellationRequested (runId : String) :
    Routine (cancellationRequested runId : SyncProg ε (Except CheckError Bool)) := by
  refine Prog.only_bind routine_leaseContextError fun lost => ?_
  split_ifs
  · trivial
  · refine routine_perform rfl fun done => ?_
    split_ifs
    · trivial
    · exact routine_perform rfl fun _ => trivial

theorem routine_failRun (runId : String) (origin : SyncRunStatus) (now : Time) (code : String) :
    Routine (failRun runId origin now code : SyncProg ε (Option SyncError)) :=
  routine_perform rfl fun _ => trivial

theorem routine_cancelRun (runId : String) (origin : SyncRunStatus) (now : Time) :
    Routine (cancelRun runId origin now : SyncProg ε (Option SyncError)) :=
  routine_perform rfl fun _ => trivial

theorem routine_failOrCancel (runId : String) (origin : SyncRunStatus) (code : String) :
    Routine (failOrCancel runId origin code : SyncProg ε (Option SyncError)) := by
  refine Prog.only_bind routine_leaseContextError fun lost => ?_
  split_ifs
  · trivial
  · refine routine_perform rfl fun now => routine_perform rfl fun done => ?_
    split_ifs
    · exact routine_cancelRun _ _ _
    · refine routine_perform rfl fun requested => ?_
      split_ifs
      · exact routine_cancelRun _ _ _
      · exact routine_failRun _ _ _ _

end

section

variable {α : Type} (startedAt : Time) (runId : String) (status : SyncRunStatus) (code : String)

theorem routine_orFail (answer : Option α) : Routine (orFail runId status code answer) := by
  cases answer with
  | some a => trivial
  | none => exact routine_exitWith (routine_failOrCancel _ _ _)

theorem routine_leaveFailed :
    Routine (leaveFailed runId status code : SyncProg (Option SyncError) α) :=
  routine_perform rfl fun _ => routine_exitWith (routine_failRun _ _ _ _)

theorem routine_leaveCanceled :
    Routine (leaveCanceled runId status : SyncProg (Option SyncError) α) :=
  routine_perform rfl fun _ => routine_exitWith (routine_cancelRun _ _ _)

theorem routine_leaveIfCanceled : Routine (leaveIfCanceled runId status startedAt) := by
  refine Prog.only_bind (routine_cancellationRequested _) fun canceled => ?_
  match canceled with
  | .error .leaseLost => exact routine_exitWith trivial
  | .error .unavailable => exact routine_exitWith (routine_failRun _ _ _ _)
  | .ok true => exact routine_exitWith (routine_cancelRun _ _ _)
  | .ok false => trivial

theorem routine_leaveIfLost : Routine leaveIfLost := by
  refine Prog.only_bind routine_leaseContextError fun lost => ?_
  split_ifs <;> trivial

theorem routine_moveRun {target : SyncRunStatus} (unfinished : target ≠ .succeeded) :
    Routine (moveRun runId status target) :=
  routine_perform rfl fun _ => routine_perform (decide_eq_true unfinished) fun _ =>
    routine_orFail _ _ _ _

end

/-! ### Stages -/

section

variable {α : Type} (w : SyncWorker) (run : SyncRun) (source : Source) (startedAt : Time)
  (selection : Selection)

theorem aside_perform {c : Call syncService} {k : c.Answer → SyncProg (Option SyncError) α}
    (aside : c.aside = true) (next : ∀ answer, Aside (k answer)) :
    Aside ((Prog.perform c).bind k) := ⟨aside, next⟩

theorem aside_orFail {runId code : String} {status : SyncRunStatus} (answer : Option α) :
    Aside (orFail runId status code answer) := aside_of_routine (routine_orFail _ _ _ _)

theorem aside_leaveIfCanceled (runId : String) (status : SyncRunStatus) :
    Aside (leaveIfCanceled runId status startedAt) :=
  aside_of_routine (routine_leaveIfCanceled _ _ _)

theorem aside_selectEntity : Aside (selectEntity run source startedAt) := by
  refine Prog.only_bind (aside_leaveIfCanceled _ _ _) fun _ => ?_
  split_ifs
  · exact aside_of_routine (routine_exitWith (routine_failRun _ _ _ _))
  · refine aside_perform rfl fun valid => Prog.only_bind (aside_orFail _) fun _ => ?_
    refine aside_perform rfl fun selected => Prog.only_bind (aside_orFail _) fun entity => ?_
    refine Prog.only_bind (aside_orFail _) fun resource => ?_
    exact aside_perform rfl fun covered => Prog.only_bind (aside_orFail _) fun fullSource => trivial

theorem aside_beginCollection : Aside (beginCollection run source startedAt selection) := by
  refine aside_perform rfl fun now => aside_perform rfl fun begun => ?_
  refine Prog.only_bind (aside_orFail _) fun checkpoint => ?_
  split_ifs
  · exact aside_perform rfl fun opened => Prog.only_bind (aside_orFail _) fun _ => trivial
  · trivial

theorem aside_storeCursor (snapshotAt : Time) (cursor : DeviceSyncCursor) (page : EntityPage)
    (last : Int64) :
    Aside (storeCursor run source startedAt selection snapshotAt cursor page last) := by
  unfold storeCursor
  dsimp only
  split_ifs
  · trivial
  · refine Prog.only_bind (aside_leaveIfCanceled _ _ _) fun _ => ?_
    refine aside_perform rfl fun now => aside_perform rfl fun stored => ?_
    exact Prog.only_bind (aside_orFail _) fun _ => trivial

theorem aside_rereadPage (entity : EntityType) (total : Int) (expected : List UInt8)
    (state : DeviceSyncCursor × List UInt8) :
    Aside (rereadPage run source entity total expected state) := by
  refine Prog.only_bind (aside_of_routine (routine_cancellationRequested _)) fun canceled => ?_
  match canceled with
  | .error .leaseLost => trivial
  | .error .unavailable => trivial
  | .ok true => trivial
  | .ok false =>
      refine Prog.only_bind ?_ fun read => ?_
      · unfold readPage collectEntityPage
        split_ifs
        · exact ⟨rfl, fun _ => trivial⟩
        · exact ⟨rfl, fun _ => trivial⟩
        · exact ⟨rfl, fun _ => trivial⟩
      · cases read with
        | none => exact Prog.only_bind (aside_of_routine routine_leaseContextError) fun _ => trivial
        | some page =>
            dsimp only [compareEntityPage]
            split
            · trivial
            · split
              · trivial
              · split_ifs <;> trivial

theorem aside_validateCollected (state : Collected) :
    Aside (validateCollected w run source selection state) := by
  refine Prog.only_bind (Prog.only_reify (Prog.only_bind ?_ fun opened => ?_)) fun checked => ?_
  · unfold openSecondPass
    split_ifs
    · exact ⟨rfl, fun _ => trivial⟩
    · trivial
  · split_ifs
    · exact Prog.only_loop (aside_rereadPage run source _ _ _) _ _
    · exact Prog.only_bind (aside_of_routine routine_leaseContextError) fun _ => trivial
  · match checked with
    | .ok () => trivial
    | .error .leaseLost => trivial
    | .error .canceled => exact aside_of_routine (routine_leaveCanceled _ _)
    | .error .other => exact aside_of_routine (routine_exitWith (routine_failOrCancel _ _ _))

/-! ### Before the publication -/

theorem preparing_collectPage (snapshotAt : Time) (state : Collected) :
    Preparing (collectPage w run source startedAt selection snapshotAt state) := by
  refine Prog.only_bind (preparing_of_aside (aside_leaveIfCanceled _ _ _)) fun _ => ?_
  refine Prog.only_bind (preparing_of_pageWork (pageWork_readPage _ _ _ _)) fun read => ?_
  refine Prog.only_bind (preparing_of_aside (aside_orFail _)) fun page => ?_
  refine Prog.only_bind ?_ fun accepted => Prog.only_bind ?_ fun owners => ?_
  · unfold acceptPage
    split
    · trivial
    · exact preparing_of_aside (aside_of_routine (routine_leaveFailed _ _ _))
  · unfold checkOwners
    split_ifs
    · exact Prog.only_bind (preparing_of_pageWork (pageWork_validateInterfaceOwners _ _ _))
        fun _ => preparing_of_aside (aside_orFail _)
    · trivial
  · refine Prog.only_bind ?_ fun _ =>
      Prog.only_bind (preparing_of_aside (aside_storeCursor _ _ _ _ _ _ _ _)) fun _ => trivial
    refine Prog.only_bind (preparing_of_pageWork (pageWork_writeEntityPage _ _ _ _ _))
      fun written => ?_
    match written with
    | .ok () => trivial
    | .error .leaseLost => trivial
    | .error .canceled => exact preparing_of_aside (aside_of_routine (routine_leaveCanceled _ _))
    | .error .graphWrite => exact preparing_of_aside (aside_of_routine (routine_leaveFailed _ _ _))

/-- **Nothing is concluded before the run is published.** -/
theorem preparing_prepare : Preparing (prepare w run source startedAt) := by
  have moves : ∀ origin target, target ≠ .succeeded → Preparing (moveRun run.id origin target) :=
    fun _ _ unfinished => preparing_of_aside (aside_of_routine (routine_moveRun _ _ unfinished))
  refine Prog.only_bind (preparing_of_aside (aside_selectEntity _ _ _)) fun selection => ?_
  refine Prog.only_bind (preparing_of_aside (aside_beginCollection _ _ _ _)) fun cursor => ?_
  refine Prog.only_bind (Prog.only_loop
    (fun state => preparing_collectPage w run source startedAt selection _ state) _ _) fun state => ?_
  refine Prog.only_bind (preparing_of_aside (aside_leaveIfCanceled _ _ _)) fun _ => ?_
  refine Prog.only_bind (moves _ _ nofun) fun _ => ?_
  refine Prog.only_bind (preparing_of_aside (aside_validateCollected _ _ _ _ _)) fun _ => ?_
  refine Prog.only_bind (preparing_of_aside (aside_leaveIfCanceled _ _ _)) fun _ => ?_
  exact Prog.only_bind (moves _ _ nofun) fun _ => trivial

/-! ### The publication -/

theorem closing_perform {sourceId resource : String} {c : Call syncService}
    {k : c.Answer → SyncProg (Option SyncError) α} (closing : c.Closing sourceId resource)
    (next : ∀ answer, Closing sourceId resource (k answer)) :
    Closing sourceId resource ((Prog.perform c).bind k) := ⟨closing, next⟩

theorem closing_completeRun :
    Closing source.id selection.resource (completeRun run source selection) := by
  refine closing_perform rfl fun now => closing_perform ⟨rfl, rfl⟩ fun completed => ?_
  cases completed with
  | some => trivial
  | none => exact closing_of_routine (routine_leaveFailed _ _ _)

theorem closing_publish (snapshotAt : Time) :
    Closing source.id selection.resource (publish run source selection snapshotAt) := by
  have lost : Closing source.id selection.resource leaveIfLost :=
    closing_of_routine routine_leaveIfLost
  refine Prog.only_bind lost fun _ => Prog.only_bind ?_ fun _ => Prog.only_bind lost fun _ =>
    closing_completeRun run source selection
  refine closing_perform trivial fun covered =>
    Prog.only_bind (closing_of_routine (routine_orFail _ _ _ _)) fun full => ?_
  split_ifs
  · refine closing_perform trivial fun cleaned => ?_
    split_ifs
    · trivial
    · exact Prog.only_bind lost fun _ => closing_of_routine (routine_leaveFailed _ _ _)
  · trivial

end

end UnifiedInfraTopology
