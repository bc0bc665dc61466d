import UnifiedInfraTopology.Lib.History
import UnifiedInfraTopology.Worker.Calls
import UnifiedInfraTopology.Worker.Terminal

/-!
# Lease fencing of `executeClaimed`

The store compares the lease of a run with a time that the caller passes.  Most calls of
`executeClaimed` pass the time at which they are issued: the clock is read for the argument.  Three
kinds of exits pass an earlier time: a cancellation check that found the run canceled or failed, and a
source of another kind, pass the start of the run, and `failOrCancel` passes a time that it read before
its own checks.

`Fenced` is the property of one call, `InTime` the condition on those exits, and
`executeClaimed_fenced` says that executions whose exits meet the condition are fenced throughout.
-/

namespace UnifiedInfraTopology

open Lib

variable {V : Service}

/-! ## Issue times -/

/-- The time that a call read from the clock. -/
def clockReading : (c : Call V) → c.Answer → Option Time
  | .now, t => some t
  | _, _ => none

/-- The answer of the last call of a log, if that call read the clock. -/
def lastClock (log : List (Event V)) : Option Time :=
  ((log.filter Event.isCall).getLast?).bind (Event.observed clockReading)

/-- When a call is issued: an argument that the clock was read for is the present time. -/
def issuedAt (past : List (Event V)) (time : Time) : Time :=
  ((lastClock past).getD time).truncateMicro

/-- A control-store call that changes the store is issued before the stored lease of the run ends. -/
def Fenced (runId : String) (past : List (Event V)) : Event V → Prop
  | .call (.control _) time _ _ before after => before ≠ after →
      ∀ r ∈ before.runs.find? runId, ∀ lease ∈ r.leaseExpiresAt, issuedAt past time < lease
  | _ => True

/-- Where a transition passes a time that the clock was not read for, the lease does not end between
that time and the call. -/
def InTime (runId : String) (past : List (Event V)) : Event V → Prop
  | .call (.control (.transitionRun _ _ _ now _)) time _ _ before _ => lastClock past = none →
      ∀ r ∈ before.runs.find? runId, ∀ lease ∈ r.leaseExpiresAt,
        now.truncateMicro < lease → time.truncateMicro < lease
  | _ => True

instance (runId : String) (past : List (Event V)) : (e : Event V) → Decidable (Fenced runId past e)
  | .call (.control _) .. => by
      dsimp only [Fenced]
      infer_instance
  | .call .now .. | .call .contextErr .. | .call .contextCause .. | .call .parentErr ..
  | .call (.runCancellationRequested _) .. | .call (.service _) ..
  | .foreign .. | .contextEnded _ | .parentEnded => isTrue trivial

instance (runId : String) (past : List (Event V)) : (e : Event V) → Decidable (InTime runId past e)
  | .call (.control (.transitionRun ..)) .. => by
      dsimp only [InTime]
      infer_instance
  | .call (.control (.enqueue ..)) .. | .call (.control (.cancel ..)) ..
  | .call (.control (.claimNext ..)) .. | .call (.control (.renewRunLease ..)) ..
  | .call (.control (.beginCheckpoint ..)) .. | .call (.control (.advanceCheckpoint ..)) ..
  | .call (.control (.completeCheckpointAndRun ..)) ..
  | .call .now .. | .call .contextErr .. | .call .contextCause .. | .call .parentErr ..
  | .call (.runCancellationRequested _) .. | .call (.service _) ..
  | .foreign .. | .contextEnded _ | .parentEnded => isTrue trivial

/-- What a call passes: the present time, or, for a transition only, a time the clock was not read
for. -/
def PassesTime (runId : String) : Call V → World V → Prop
  | .control (.transitionRun id _ _ now _), w =>
      id = runId ∧ ∀ t, lastClock w.log = some t → now = t.truncateMicro
  | .control op, w => op.owns runId = true ∧
      ∃ t, lastClock w.log = some t ∧ op.leaseTime = some t.truncateMicro
  | _, _ => True

theorem lastClock_background {log before : List (Event V)}
    (background : ∀ e ∈ before, e.isCall = false) : lastClock (log ++ before) = lastClock log := by
  have silent : before.filter Event.isCall = [] :=
    List.filter_eq_nil_iff.mpr fun e member => by simp [background e member]
  rw [lastClock, List.filter_append, silent, List.append_nil, lastClock]

/-- After a call that was answered. -/
theorem lastClock_handler {c : Call V} {m : Move V} {w : World V} {answer : c.Answer}
    (answered : (handler c m w).1 = some answer) :
    lastClock (handler c m w).2.log = clockReading c answer := by
  rw [log_handler, lastClock, List.filter_append, answered]
  simp [Event.isCall, Event.observed]

/-! ## One call -/

/-- An operation of a worker that changes the store finds the lease current at the time it is given. -/
theorem leaseCurrent_of_apply {runId : String} {op : Op} {t : Time} {s : Store}
    (owned : op.owns runId = true) (timed : op.leaseTime = some t) (changed : s.apply op ≠ s) :
    ∃ r, s.runs.find? runId = some r ∧ r.leaseCurrent t.truncateMicro = true := by
  cases outcome : s.execute op with
  | error e => exact (changed (Store.apply_of_error outcome)).elim
  | ok s' =>
      cases op with
      | transitionRun id origin target now code =>
          obtain rfl : id = runId := by simpa [Op.owns] using owned
          cases timed
          obtain ⟨run, ok⟩ := Store.ok_of_map outcome
          obtain ⟨r, found, -, -, -, current, -⟩ := Store.transitionRun_ok ok
          exact ⟨r, found, current⟩
      | beginCheckpoint sourceId resource id startedAt leaseAt =>
          obtain rfl : id = runId := by simpa [Op.owns] using owned
          cases timed
          obtain ⟨checkpoint, ok⟩ := Store.ok_of_map outcome
          obtain ⟨-, ⟨r, locked⟩, -⟩ := Store.beginCheckpoint_ok ok
          obtain ⟨found, -, -, -, current⟩ := Store.lockRun_eq_some locked
          exact ⟨r, found, current⟩
      | advanceCheckpoint sourceId resource id cursor updatedAt =>
          obtain rfl : id = runId := by simpa [Op.owns] using owned
          cases timed
          obtain ⟨checkpoint, ok⟩ := Store.ok_of_map outcome
          obtain ⟨-, ⟨r, locked⟩, -⟩ := Store.advanceCheckpoint_ok ok
          obtain ⟨found, -, -, -, current⟩ := Store.lockRun_eq_some locked
          exact ⟨r, found, current⟩
      | completeCheckpointAndRun sourceId resource id status completedAt =>
          obtain rfl : id = runId := by simpa [Op.owns] using owned
          cases timed
          obtain ⟨run, ok⟩ := Store.ok_of_map outcome
          obtain ⟨-, ⟨r, locked⟩, -⟩ := Store.completeCheckpointAndRun_ok ok
          obtain ⟨found, -, -, -, current⟩ := Store.lockRun_eq_some locked
          exact ⟨r, found, current⟩
      | _ => cases owned

theorem SyncRun.before_lease {r : SyncRun} {t lease : Time} (current : r.leaseCurrent t = true)
    (ends : lease ∈ r.leaseExpiresAt) : t < lease := by
  rw [SyncRun.leaseCurrent, Option.mem_def.mp ends] at current
  simpa using current

/-- The history so far is fenced, as far as its exits are in time. -/
def FencedSoFar (runId : String) (w : World V) : Prop :=
  Throughout (fun past e => InTime runId past e → Fenced runId past e) [] w.log

theorem fencedSoFar_handler {runId : String} {c : Call V} {m : Move V} {w : World V}
    (passes : PassesTime runId c w) (fenced : FencedSoFar runId w) :
    FencedSoFar runId (handler c m w).2 := by
  obtain ⟨before, grown, background⟩ := log_disturbed w m.disturbances
  have clock : lastClock (w.disturbed m.disturbances).log = lastClock w.log := by
    rw [grown]
    exact lastClock_background background
  rw [FencedSoFar, log_handler, throughout_concat, List.nil_append]
  constructor
  · rw [grown]
    refine throughout_append.mpr ⟨fenced, throughout_of_forall fun e member past _ => ?_⟩
    cases e with
    | call => cases background _ member
    | _ => trivial
  · intro inTime
    cases c with
    | control op =>
        intro changed r found lease ends
        rw [store_handler] at changed
        rcases respond_control (w.disturbed m.disturbances) m op with same | applied
        · exact (changed same.symm).elim
        · rw [applied] at changed
          have held : ∀ t, op.owns runId = true → op.leaseTime = some t → t.truncateMicro < lease := by
            intro t owned timed
            obtain ⟨r', found', current⟩ := leaseCurrent_of_apply owned timed changed.symm
            cases found.symm.trans found'
            exact SyncRun.before_lease current ends
          rw [issuedAt, clock]
          cases reading : lastClock w.log with
          | some t =>
              have here : op.owns runId = true ∧ op.leaseTime = some t.truncateMicro := by
                cases op with
                | transitionRun id origin target now code =>
                    obtain ⟨rfl, fresh⟩ := passes
                    exact ⟨by simp [Op.owns], congrArg some (fresh t reading)⟩
                | _ =>
                    obtain ⟨owned, t', same, timed⟩ := passes
                    cases reading.symm.trans same
                    exact ⟨owned, timed⟩
              simpa using held _ here.1 here.2
          | none =>
              cases op with
              | transitionRun id origin target now code =>
                  obtain ⟨rfl, -⟩ := passes
                  exact inTime (clock.trans reading) r found lease ends
                    (held now (by simp [Op.owns]) rfl)
              | _ =>
                  obtain ⟨-, t, same, -⟩ := passes
                  cases reading.symm.trans same
    | _ => trivial

/-! ## The parts of `executeClaimed` -/

/-- From every state, the calls of the program pass times as they should. -/
abbrev Prompt (runId : String) {ε α : Type} (p : SyncProg ε α) : Prop :=
  ∀ w, p.Issues handler (PassesTime runId) w

/-- The transitions of runs. -/
def Op.isTransition : Op → Bool
  | .transitionRun _ _ _ _ _ => true
  | _ => false

/-- Where the time of a call comes from: the clock, read for it or, for a transition, before; or the
start of the run. -/
def PassesReading (runId : String) (startedAt : Time) : Call V → World V → Prop
  | .control op, w => op.owns runId = true ∧
      ((∃ t, lastClock w.log = some t ∧ op.leaseTime = some t.truncateMicro) ∨
        op.isTransition = true ∧ lastClock w.log = none ∧ ∃ now, op.leaseTime = some now ∧
          (now = startedAt ∨ ∃ t ∈ w.observed clockReading, now = t.truncateMicro))
  | _, _ => True

theorem PassesReading.passesTime {runId : String} {startedAt : Time} {c : Call V} {w : World V}
    (passes : PassesReading runId startedAt c w) : PassesTime runId c w := by
  cases c with
  | control op =>
      obtain ⟨owned, source⟩ := passes
      cases op with
      | transitionRun id origin target now code =>
          obtain rfl : id = runId := by simpa [Op.owns] using owned
          refine ⟨rfl, fun t reading => ?_⟩
          rcases source with ⟨t', reading', timed⟩ | ⟨-, unread, -⟩
          · cases reading.symm.trans reading'
            exact Option.some.inj timed
          · cases unread.symm.trans reading
      | _ =>
          rcases source with ⟨t, reading, timed⟩ | ⟨transition, -⟩
          · exact ⟨owned, t, reading, timed⟩
          · cases transition
  | _ => trivial

/-- From every state, the times of the calls come from where they should. -/
abbrev Dated (runId : String) (startedAt : Time) {ε α : Type} (p : SyncProg ε α) : Prop :=
  ∀ w, p.Issues handler (PassesReading runId startedAt) w

section

variable {runId : String} {startedAt : Time} {ε α β γ : Type} {w : World syncService}

theorem dated_bind {p : SyncProg ε α} {f : α → SyncProg ε β} (first : Dated runId startedAt p)
    (second : ∀ a, Dated runId startedAt (f a)) : Dated runId startedAt (p.bind f) :=
  fun w => Prog.issues_bind_always (first w) second

theorem dated_loop {body : γ → SyncProg ε (γ ⊕ β)} (each : ∀ g, Dated runId startedAt (body g)) (n : Nat)
    (g : γ) : Dated runId startedAt (Prog.loop body n g) :=
  fun _ => Prog.issues_loop (fun _ _ => True) (fun g w' _ => each g w')
    (fun _ _ _ => Prog.contract_of_forall (fun _ _ _ _ => trivial) fun _ _ => trivial) n g trivial

theorem dated_pageWork {p : SyncProg ε α} (work : PageWork p) : Dated runId startedAt p := by
  refine fun w => Prog.issues_of_only work fun c w' here => ?_
  cases c with
  | control op => cases here
  | _ => trivial

theorem dated_send {r : SyncRequest} {k : r.Reply → SyncProg ε α}
    (next : ∀ reply, Dated runId startedAt (k reply)) : Dated runId startedAt ((send r).bind k) :=
  fun _ => ⟨trivial, fun _ reply _ => next reply _⟩

/-- A call that is given the time for which the clock is read. -/
theorem dated_timed (op : Time → Op) {k : (now : Time) → Option (op now).Reply → SyncProg ε α}
    (owned : ∀ now, (op now).owns runId = true) (timed : ∀ now, (op now).leaseTime = some now)
    (next : ∀ now reply, Dated runId startedAt (k now reply)) :
    Dated runId startedAt (currentTime.bind fun now => (controlOp (op now)).bind (k now)) := by
  refine fun w => ⟨trivial, fun m t answered => ⟨?_, fun _ reply _ => next _ reply _⟩⟩
  exact ⟨owned _, .inl ⟨t, lastClock_handler answered, timed _⟩⟩

/-! ### Exits -/

/-- The time was read from the clock, or is the start of the run. -/
def KnownTime (startedAt : Time) (w : World V) (now : Time) : Prop :=
  now = startedAt ∨ ∃ t ∈ w.observed clockReading, now = t.truncateMicro

/-- A known time stays known. -/
theorem KnownTime.handler {c : Call V} {m : Move V} {w : World V} {answer : c.Answer} {now : Time}
    (known : KnownTime startedAt w now) (answered : (handler c m w).1 = some answer) :
    KnownTime startedAt (handler c m w).2 now := by
  rcases known with rfl | ⟨t, reading, rfl⟩
  · exact .inl rfl
  · refine .inr ⟨t, ?_, rfl⟩
    rw [observed_handler answered]
    exact List.mem_append_left _ reading

/-- A transition whose time the clock was not read for. -/
theorem issues_transition {origin target : SyncRunStatus} {now : Time} {code : String}
    {k : Option Unit → SyncProg ε α} (unread : lastClock w.log = none)
    (known : KnownTime startedAt w now) (next : ∀ reply, Dated runId startedAt (k reply)) :
    ((controlOp (.transitionRun runId origin target now code)).bind k).Issues handler
      (PassesReading runId startedAt) w :=
  ⟨⟨by simp [Op.owns], .inr ⟨rfl, unread, now, rfl, known⟩⟩, fun _ reply _ => next reply _⟩

theorem issues_failRun {origin : SyncRunStatus} {now : Time} {code : String}
    (unread : lastClock w.log = none) (known : KnownTime startedAt w now) :
    (failRun runId origin now code : SyncProg ε _).Issues handler (PassesReading runId startedAt) w :=
  issues_transition unread known fun _ _ => trivial

theorem issues_cancelRun {origin : SyncRunStatus} {now : Time} (unread : lastClock w.log = none)
    (known : KnownTime startedAt w now) :
    (cancelRun runId origin now : SyncProg ε _).Issues handler (PassesReading runId startedAt) w :=
  issues_transition unread known fun _ _ => trivial

theorem dated_leaveFailed (status : SyncRunStatus) (code : String) :
    Dated runId startedAt (leaveFailed runId status code : SyncProg (Option SyncError) α) :=
  dated_timed (fun now => .transitionRun runId status .failed now code)
    (fun _ => by simp [Op.owns]) (fun _ => rfl) fun _ _ _ => trivial

theorem dated_leaveCanceled (status : SyncRunStatus) :
    Dated runId startedAt (leaveCanceled runId status : SyncProg (Option SyncError) α) :=
  dated_timed (fun now => .transitionRun runId status .canceled now "")
    (fun _ => by simp [Op.owns]) (fun _ => rfl) fun _ _ _ => trivial

/-- After the check for a cancellation the clock was not read last. -/
theorem ensures_cancellationRequested :
    Prog.Ensures handler (cancellationRequested runId : SyncProg ε _)
      (fun _ w' => lastClock w'.log = none) w := by
  refine Prog.contract_bind (Prog.contract_perform fun m cause _ answered => ?_)
  have unread := lastClock_handler answered
  refine Prog.contract_ret ?_
  split_ifs
  · exact Prog.contract_ret unread
  · refine Prog.contract_perform fun m done _ answered => ?_
    have unread := lastClock_handler answered
    cases done with
    | true => exact Prog.contract_ret unread
    | false => exact Prog.contract_perform fun m requested _ answered =>
        Prog.contract_ret (lastClock_handler answered)

theorem dated_leaseContextError : Dated runId startedAt (leaseContextError : SyncProg ε Bool) :=
  dated_pageWork ⟨rfl, fun _ => trivial⟩

theorem dated_cancellationRequested : Dated runId startedAt (cancellationRequested runId : SyncProg ε _) := by
  refine dated_bind dated_leaseContextError fun lost => ?_
  split_ifs
  · exact fun _ => trivial
  · refine fun w => ⟨trivial, fun m done _ => ?_⟩
    cases done with
    | true => trivial
    | false => exact ⟨trivial, fun _ _ _ => trivial⟩

theorem dated_failOrCancel (status : SyncRunStatus) (code : String) :
    Dated runId startedAt (failOrCancel runId status code : SyncProg ε _) := by
  refine dated_bind dated_leaseContextError fun lost => ?_
  split_ifs
  · exact fun _ => trivial
  · refine fun w => Prog.issues_perform trivial fun m t answered => ?_
    have known : KnownTime startedAt (handler .now m w).2 (Time.truncateMicro t) := by
      refine .inr ⟨t, ?_, rfl⟩
      rw [observed_handler answered]
      exact List.mem_append_right _ (List.mem_singleton_self _)
    refine Prog.issues_perform trivial fun m done answered => ?_
    have known := known.handler answered
    have unread := lastClock_handler answered
    cases done with
    | true => exact issues_cancelRun unread known
    | false =>
        refine Prog.issues_perform trivial fun m requested answered => ?_
        have known := known.handler answered
        have unread := lastClock_handler answered
        split_ifs
        · exact issues_cancelRun unread known
        · exact issues_failRun unread known

theorem dated_orFail (status : SyncRunStatus) (code : String) (answer : Option α) :
    Dated runId startedAt (orFail runId status code answer) := by
  cases answer with
  | some a => exact fun _ => trivial
  | none => exact fun w => Prog.issues_exitWith (dated_failOrCancel status code w)

theorem dated_leaveIfCanceled (status : SyncRunStatus) :
    Dated runId startedAt (leaveIfCanceled runId status startedAt) := by
  refine fun w => Prog.issues_bind (dated_cancellationRequested w)
    (Prog.contract_mono ensures_cancellationRequested fun answer w' unread => ?_)
  match answer with
  | .error .leaseLost => trivial
  | .error .unavailable => exact Prog.issues_exitWith (issues_failRun unread (.inl rfl))
  | .ok true => exact Prog.issues_exitWith (issues_cancelRun unread (.inl rfl))
  | .ok false => trivial

theorem ensures_leaveIfCanceled {status : SyncRunStatus} {startedAt : Time} :
    Prog.Ensures handler (leaveIfCanceled runId status startedAt)
      (fun _ w' => lastClock w'.log = none) w := by
  refine Prog.contract_bind (Prog.contract_mono ensures_cancellationRequested
    fun answer w' unread => ?_)
  match answer with
  | .error e => exact Prog.ensures_exitWith _ _
  | .ok true => exact Prog.ensures_exitWith _ _
  | .ok false => exact Prog.contract_ret unread

theorem dated_leaveIfLost : Dated runId startedAt leaveIfLost := by
  refine dated_bind dated_leaseContextError fun lost => ?_
  split_ifs <;> exact fun _ => trivial

theorem dated_moveRun (origin target : SyncRunStatus) :
    Dated runId startedAt (moveRun runId origin target) :=
  dated_timed (fun now => .transitionRun runId origin target now "")
    (fun _ => by simp [Op.owns]) (fun _ => rfl) fun _ moved => dated_orFail origin _ moved

end

/-! ### Stages -/

section

variable (worker : SyncWorker) (run : SyncRun) (source : Source) (startedAt : Time)
  (selection : Selection)

theorem dated_selectEntity : Dated run.id startedAt (selectEntity run source startedAt) := by
  refine fun w => Prog.issues_bind (dated_leaveIfCanceled _ w)
    (Prog.contract_mono ensures_leaveIfCanceled fun _ w' unread => ?_)
  split_ifs
  · exact Prog.issues_exitWith (issues_failRun unread (.inl rfl))
  · refine dated_send (fun valid => ?_) w'
    refine dated_bind (dated_orFail _ _ _) fun _ => ?_
    refine dated_send fun selected => ?_
    refine dated_bind (dated_orFail _ _ _) fun entity => ?_
    refine dated_bind (dated_orFail _ _ _) fun resource => ?_
    refine dated_send fun covered => ?_
    exact dated_bind (dated_orFail _ _ _) fun fullSource => fun _ => trivial

theorem dated_beginCollection : Dated run.id startedAt (beginCollection run source startedAt selection) := by
  refine dated_timed
    (fun now => .beginCheckpoint source.id selection.resource run.id startedAt now)
    (fun _ => by simp [Op.owns]) (fun _ => rfl) fun now begun => ?_
  refine dated_bind (dated_orFail _ _ _) fun checkpoint => ?_
  split_ifs
  · refine dated_send fun opened => ?_
    exact dated_bind (dated_orFail _ _ _) fun _ => fun _ => trivial
  · exact fun _ => trivial

theorem dated_storeCursor (snapshotAt : Time) (cursor : DeviceSyncCursor) (page : EntityPage)
    (last : Int64) :
    Dated run.id startedAt (storeCursor run source startedAt selection snapshotAt cursor page last) := by
  unfold storeCursor
  dsimp only
  split_ifs
  · exact fun _ => trivial
  · refine dated_bind (dated_leaveIfCanceled _) fun _ => ?_
    exact dated_timed (fun now => .advanceCheckpoint source.id selection.resource run.id
        (collectedCursor run.id snapshotAt cursor page last) now)
      (fun _ => by simp [Op.owns]) (fun _ => rfl)
      fun now stored => dated_bind (dated_orFail _ _ _) fun _ => fun _ => trivial

theorem dated_collectPage (snapshotAt : Time) (state : Collected) :
    Dated run.id startedAt (collectPage worker run source startedAt selection snapshotAt state) := by
  refine dated_bind (dated_leaveIfCanceled _) fun _ => ?_
  refine dated_bind (dated_pageWork (pageWork_readPage _ _ _ _)) fun read => ?_
  refine dated_bind (dated_orFail _ _ _) fun page => ?_
  refine dated_bind ?_ fun accepted => ?_
  · unfold acceptPage
    split
    · exact fun _ => trivial
    · exact dated_leaveFailed _ _
  · refine dated_bind ?_ fun owners => ?_
    · unfold checkOwners
      split_ifs
      · exact dated_bind (dated_pageWork (pageWork_validateInterfaceOwners _ _ _))
          fun owners => dated_orFail _ _ _
      · exact fun _ => trivial
    · refine dated_bind ?_ fun _ => ?_
      · refine dated_bind (dated_pageWork (pageWork_writeEntityPage _ _ _ _ _)) fun written => ?_
        match written with
        | .ok () => exact fun _ => trivial
        | .error .leaseLost => exact fun _ => trivial
        | .error .canceled => exact dated_leaveCanceled _
        | .error .graphWrite => exact dated_leaveFailed _ _
      · exact dated_bind (dated_storeCursor run source startedAt selection _ _ _ _)
          fun cursor => fun _ => trivial

theorem dated_rereadPage (entity : EntityType) (total : Int) (expected : List UInt8)
    (state : DeviceSyncCursor × List UInt8) :
    Dated run.id startedAt (rereadPage run source entity total expected state) := by
  refine dated_bind dated_cancellationRequested fun answer => ?_
  match answer with
  | .error .leaseLost => exact fun _ => trivial
  | .error .unavailable => exact fun _ => trivial
  | .ok true => exact fun _ => trivial
  | .ok false =>
      refine dated_bind (dated_pageWork (pageWork_readPage _ _ _ _)) fun read => ?_
      cases read with
      | none => exact dated_bind dated_leaseContextError fun _ => fun _ => trivial
      | some page =>
          intro w
          dsimp only [compareEntityPage]
          split
          · trivial
          · split
            · trivial
            · split_ifs <;> trivial

theorem dated_validateCollected (state : Collected) :
    Dated run.id startedAt (validateCollected worker run source selection state) := by
  refine dated_bind (fun w => Prog.issues_reify ?_) fun checked => ?_
  · refine dated_bind (dated_pageWork (pageWork_openSecondPass _ _)) (fun opened => ?_) w
    split_ifs
    · exact dated_loop (dated_rereadPage run source startedAt _ _ _) _ _
    · exact dated_bind dated_leaseContextError fun _ => fun _ => trivial
  · match checked with
    | .ok () => exact fun _ => trivial
    | .error .leaseLost => exact fun _ => trivial
    | .error .canceled => exact dated_leaveCanceled _
    | .error .other => exact fun w => Prog.issues_exitWith (dated_failOrCancel _ _ w)

theorem dated_prepare : Dated run.id startedAt (prepare worker run source startedAt) := by
  refine dated_bind (dated_selectEntity run source startedAt) fun selection => ?_
  refine dated_bind (dated_beginCollection run source startedAt selection) fun cursor => ?_
  refine dated_bind (dated_loop (dated_collectPage worker run source startedAt selection _) _ _)
    fun state => ?_
  refine dated_bind (dated_leaveIfCanceled _) fun _ => ?_
  refine dated_bind (dated_moveRun _ _) fun _ => ?_
  refine dated_bind (dated_validateCollected worker run source startedAt selection state) fun _ => ?_
  refine dated_bind (dated_leaveIfCanceled _) fun _ => ?_
  exact dated_bind (dated_moveRun _ _) fun _ => fun _ => trivial

theorem dated_publish (snapshotAt : Time) :
    Dated run.id startedAt (publish run source selection snapshotAt) := by
  refine dated_bind dated_leaveIfLost fun _ => ?_
  refine dated_bind ?_ fun _ => dated_bind dated_leaveIfLost fun _ => ?_
  · refine dated_send fun covered => ?_
    refine dated_bind (dated_orFail _ _ _) fun currentFullSource => ?_
    split_ifs
    · refine dated_send fun cleaned => ?_
      split_ifs
      · exact fun _ => trivial
      · exact dated_bind dated_leaveIfLost fun _ => dated_leaveFailed _ _
    · exact fun _ => trivial
  · refine dated_timed
      (fun now => .completeCheckpointAndRun source.id selection.resource run.id .publishing now)
      (fun _ => by simp [Op.owns]) (fun _ => rfl) fun now completed => ?_
    cases completed with
    | some reply => exact fun _ => trivial
    | none => exact dated_leaveFailed _ _

theorem dated_executeClaimed : Dated run.id startedAt (executeClaimed worker run source startedAt) :=
  dated_bind (dated_prepare worker run source startedAt)
    fun prepared => dated_publish run source startedAt prepared.1 _

/-! ## The result -/

theorem prompt_executeClaimed : Prompt run.id (executeClaimed worker run source startedAt) :=
  fun w => Prog.issues_mono (dated_executeClaimed worker run source startedAt w)
    fun _ _ passes => passes.passesTime

/-- **Lease fencing.**  In an execution whose exits are in time, no change of the store by the worker
is issued at or past the stored end of the lease, whatever pauses lie between its steps. -/
theorem executeClaimed_fenced (script : List (Move syncService)) (start : World syncService)
    (fresh : start.log = [])
    (inTime : Throughout (InTime run.id) []
      ((executeClaimed worker run source startedAt).run handler script start).2.1.log) :
    Throughout (Fenced run.id) []
      ((executeClaimed worker run source startedAt).run handler script start).2.1.log := by
  have sofar : FencedSoFar run.id start := by
    rw [FencedSoFar, fresh]
    exact throughout_nil
  have kept := Prog.issues_run (H := handler) (J := PassesTime run.id) (K := FencedSoFar run.id)
    (fun _ _ _ passes fenced => fencedSoFar_handler passes fenced)
    (prompt_executeClaimed worker run source startedAt start) sofar script
  exact Throughout.mp kept inTime

end

/-! ## Executions -/

/-- A worker that sleeps until its lease has ended finds its context done. -/
def sleptScript : List (Move syncService) :=
  [⟨[.contextEnds .canceled], 2000 + inventoryRunLeaseDuration, .none, false,
      emptySource (some true)⟩,
    ⟨[], 2000 + inventoryRunLeaseDuration, .none, false, emptySource (some true)⟩,
    ⟨[], 2000 + inventoryRunLeaseDuration, .none, false, emptySource (some true)⟩]

/-- The run is canceled when its lease has ended. -/
theorem executeClaimed_unfenced :
    claimedWorld.log = [] ∧
      ¬Throughout (Fenced "r") [] (executeClaimedRun sleptScript).2.1.log := by
  decide +kernel

/-- A cancellation arrives before the first check. -/
def canceledScript (requestedAt : Time) : List (Move syncService) :=
  emptyMove (some true) [.operation (.cancel "r" requestedAt)] ::
    List.replicate 4 (emptyMove (some true) [])

/-- A run that stores a device, and one that is canceled with the time of its start. -/
theorem executeClaimed_fenced_device : Throughout (Fenced "r") [] executeDeviceRun.2.1.log ∧
    Throughout (Fenced "r") [] (executeClaimedRun (canceledScript 3000)).2.1.log := by
  have inTime : Throughout (InTime "r") [] executeDeviceRun.2.1.log ∧
      Throughout (InTime "r") [] (executeClaimedRun (canceledScript 3000)).2.1.log := by
    decide +kernel
  unfold executeDeviceRun executeClaimedRun at inTime ⊢
  exact ⟨executeClaimed_fenced ⟨1, 3⟩ (Store.claimed 2000 (queuedRun "r" "s"))
      ⟨"s", "lab", "cmdb", "ref", true⟩ 2000 deviceScript claimedWorld rfl inTime.1,
    executeClaimed_fenced ⟨1, 1⟩ (Store.claimed 2000 (queuedRun "r" "s"))
      ⟨"s", "lab", "cmdb", "ref", true⟩ 2000 (canceledScript 3000) claimedWorld rfl inTime.2⟩

end UnifiedInfraTopology
