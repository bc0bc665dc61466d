import UnifiedInfraTopology.Worker.Environment
import UnifiedInfraTopology.Repository.RunInvariants

/-!
# The stored status of a worker's run

What the calls of a worker and the disturbances between them do to the row of its run, in a lawful
log: control-store calls of the worker take full effect or none, its lease is current whenever it
uses it, and nobody else finishes the run.

* `World.Holds`: the row has a given status, and no cancellation request while it is published.
* `holds_disturbed`, `holds_call`, `holds_checkpoint`: what leaves the status alone.
* `transition_answer`: a `TransitionRun` call moves the row, and is refused only for a reason.
* `ended_of_transition`, `holds_of_transition`: what the last `TransitionRun` of a worker leaves.
-/

namespace UnifiedInfraTopology

open Lib

/-! ## Lawful logs -/

/-- The operation is one that only the worker of the run issues. -/
def Op.owns (runId : String) : Op → Bool
  | .transitionRun id _ _ _ _ | .beginCheckpoint _ _ id _ _ => id == runId
  | .advanceCheckpoint _ _ id _ _ | .completeCheckpointAndRun _ _ id _ _ => id == runId
  | _ => false

/-- The time at which the operation expires stale runs. -/
def Op.expiresAt : Op → Option Time
  | .enqueue _ now => some now.truncateMicro
  | .claimNext none startedAt => some startedAt.truncateMicro
  | _ => none

/-- The time at which the operation looks at the lease of its run. -/
def Op.leaseTime : Op → Option Time
  | .transitionRun _ _ _ now _ | .renewRunLease _ now => some now
  | .beginCheckpoint _ _ _ _ leaseAt => some leaseAt
  | .advanceCheckpoint _ _ _ _ updatedAt => some updatedAt
  | .completeCheckpointAndRun _ _ _ _ completedAt => some completedAt
  | _ => none

variable {V : Service}

/-- An operation of another client neither takes the run over nor expires it; a control-store call of
the worker takes full effect or none, and finds the lease current at a real time. -/
def Event.lawful (runId : String) : Event V → Prop
  | .foreign op before => op.owns runId = false ∧
      ∀ t ∈ op.expiresAt, ∀ r ∈ before.runs.find? runId, r.leaseStale t = false
  | .call (.control op) _ fault _ before _ => fault ≠ .lost ∧
      ∀ t ∈ op.leaseTime, t.isZero = false ∧
        ∀ r ∈ before.runs.find? runId, r.leaseCurrent t.truncateMicro = true
  | _ => True

instance (runId : String) (e : Event V) : Decidable (e.lawful runId) := by
  unfold Event.lawful
  split <;> infer_instance

def World.lawful (runId : String) (w : World V) : Prop := ∀ e ∈ w.log, e.lawful runId

instance (runId : String) (w : World V) : Decidable (w.lawful runId) :=
  inferInstanceAs (Decidable (∀ e ∈ w.log, e.lawful runId))

theorem shrinking_lawful (runId : String) :
    Prog.Shrinking (handler (V := V)) (World.lawful runId) := by
  intro c m w lawful e member
  obtain ⟨before, grown, -⟩ := log_disturbed w m.disturbances
  refine lawful e ?_
  rw [log_handler, grown]
  simp [member]

/-! ## The row -/

/-- The run is stored with this status; a published one has no cancellation request. -/
def Store.Holds (runId : String) (status : SyncRunStatus) (s : Store) : Prop :=
  ∃ r, s.runs.find? runId = some r ∧ r.status = status ∧ PublishedUncanceled r

/-- The run is stored with a terminal status. -/
def Store.Ended (runId : String) (s : Store) : Prop :=
  ∃ r, s.runs.find? runId = some r ∧ r.status.terminal = true

instance (runId : String) (status : SyncRunStatus) (s : Store) :
    Decidable (s.Holds runId status) :=
  decidable_of_iff ((s.runs.find? runId).any fun r => r.status == status &&
    (r.status != .publishing || r.cancelRequestedAt.isNone)) <| by
      simp [Store.Holds, PublishedUncanceled, Option.any_eq_true, imp_iff_not_or]

instance (runId : String) (s : Store) : Decidable (s.Ended runId) :=
  decidable_of_iff ((s.runs.find? runId).any (·.status.terminal)) <| by
    simp [Store.Ended, Option.any_eq_true]

abbrev World.Holds (runId : String) (status : SyncRunStatus) (w : World V) : Prop :=
  w.store.Holds runId status

abbrev World.Ended (runId : String) (w : World V) : Prop := w.store.Ended runId

theorem Store.Holds.not_ended {runId : String} {status : SyncRunStatus} {s : Store}
    (held : s.Holds runId status) (executing : status.executing = true) : ¬s.Ended runId := by
  rintro ⟨r, found, ended⟩
  obtain ⟨r', found', same, -⟩ := held
  cases found.symm.trans found'
  rw [same] at ended
  cases status <;> simp_all [SyncRunStatus.terminal, SyncRunStatus.executing]

variable {runId : String} {status : SyncRunStatus}

/-- An operation of another client in a lawful log leaves the status alone. -/
theorem holds_foreign {op : Op} {s : Store} (held : s.Holds runId status)
    (executing : status.executing = true) (lawful : (Event.foreign op s : Event V).lawful runId) :
    (s.apply op).Holds runId status := by
  obtain ⟨r, found, rfl, uncanceled⟩ := held
  obtain ⟨r', found', step⟩ : ∃ r', (s.apply op).runs.find? runId = some r' ∧ RunStep op r r' :=
    Store.find?_apply found
  obtain ⟨others, current⟩ := lawful
  have id := Table.key_of_find? found
  refine ⟨r', found', ?_, uncanceled.step step⟩
  cases step with
  | same => rfl
  | cancelQueued now queued => rw [queued] at executing; cases executing
  | cancelRequested now held fresh => rfl
  | claimed target startedAt queued uncanceled => rw [queued] at executing; cases executing
  | transitioned => simp [Op.owns, id] at others
  | renewed => rfl
  | advanced => simp [Op.owns, id] at others
  | completed => simp [Op.owns, id] at others
  | @expiredCanceled _ _ now _ stale _ expires =>
      have fresh : r.leaseStale now = false := by
        rcases expires with ⟨request, t, rfl, rfl⟩ | ⟨t, rfl, rfl⟩ <;> exact current _ rfl r found
      rw [fresh] at stale
      cases stale
  | @expiredFailed _ _ now _ stale _ expires =>
      have fresh : r.leaseStale now = false := by
        rcases expires with ⟨request, t, rfl, rfl⟩ | ⟨t, rfl, rfl⟩ <;> exact current _ rfl r found
      rw [fresh] at stale
      cases stale

theorem holds_disturbed {w : World V} {disturbances : List Disturbance}
    (held : w.Holds runId status) (executing : status.executing = true)
    (lawful : (w.disturbed disturbances).lawful runId) :
    (w.disturbed disturbances).Holds runId status := by
  induction disturbances generalizing w with
  | nil => exact held
  | cons d disturbances ih =>
      -- The event of this disturbance is in the log that the later ones leave.
      have logged : ∀ e ∈ (w.disturb d).log, e.lawful runId := by
        intro e member
        obtain ⟨before, grown, -⟩ := log_disturbed (w.disturb d) disturbances
        refine lawful e ?_
        change e ∈ ((w.disturb d).disturbed disturbances).log
        rw [grown]
        exact List.mem_append_left _ member
      refine ih (w := w.disturb d) ?_ lawful
      cases d with
      | operation op => exact holds_foreign held executing (logged _ (by simp [World.disturb]))
      | contextEnds cause => exact held
      | parentEnds => exact held

/-! ## Calls that leave the status alone -/

/-- The call is not one that moves a run to another status. -/
def Call.keepsStatus : Call V → Bool
  | .control (.beginCheckpoint _ _ _ _ _) | .control (.advanceCheckpoint _ _ _ _ _) => true
  | .control _ => false
  | _ => true

/-- A control-store call leaves the store as it was, or has the effect of its operation. -/
theorem respond_control (w : World V) (m : Move V) (op : Op) :
    (w.respond m (.control op)).2 = w.store ∨
      (w.respond m (.control op)).2 = w.store.apply op := by
  cases fault : m.fault with
  | none =>
      cases outcome : w.store.attempt op with
      | error e => exact Or.inl (by simp only [World.respond, fault, outcome])
      | ok result =>
          refine Or.inr ?_
          simp only [World.respond, fault, outcome]
          exact (Store.apply_of_attempt outcome).symm
  | refused => exact Or.inl (by simp only [World.respond, fault])
  | lost => exact Or.inr (by simp only [World.respond, fault])

/-- A checkpoint operation keeps the status of every run. -/
theorem holds_checkpoint {op : Op} {s : Store} (held : s.Holds runId status)
    (keeps : (Call.control op : Call V).keepsStatus = true) :
    (s.apply op).Holds runId status := by
  obtain ⟨r, found, rfl, uncanceled⟩ := held
  obtain ⟨r', found', step⟩ : ∃ r', (s.apply op).runs.find? runId = some r' ∧ RunStep op r r' :=
    Store.find?_apply found
  refine ⟨r', found', ?_, uncanceled.step step⟩
  cases step with
  | same => rfl
  | advanced => rfl
  | expiredCanceled _ _ _ expires =>
      rcases expires with ⟨request, t, rfl, -⟩ | ⟨t, rfl, -⟩ <;> cases keeps
  | expiredFailed _ _ _ expires =>
      rcases expires with ⟨request, t, rfl, -⟩ | ⟨t, rfl, -⟩ <;> cases keeps
  | _ => cases keeps

theorem lawful_disturbed {c : Call V} {m : Move V} {w : World V}
    (lawful : (handler c m w).2.lawful runId) : (w.disturbed m.disturbances).lawful runId :=
  fun e member => lawful e (by rw [log_handler]; exact List.mem_append_left _ member)

theorem holds_call {c : Call V} {m : Move V} {w : World V} (keeps : c.keepsStatus = true)
    (held : w.Holds runId status) (executing : status.executing = true)
    (lawful : (handler c m w).2.lawful runId) : (handler c m w).2.Holds runId status := by
  have before := holds_disturbed held executing (lawful_disturbed lawful)
  cases c with
  | control op =>
      change ((w.disturbed m.disturbances).respond m (.control op)).2.Holds runId status
      rcases respond_control (w.disturbed m.disturbances) m op with same | applied
      · rw [same]
        exact before
      · rw [applied]
        exact holds_checkpoint before keeps
  | _ => exact before

/-! ## Calls that move the run -/

/-- A transition that the table allows is refused only where the run is not in its origin, its
lease is not current, or a cancellation was requested before it is published. -/
theorem transitionRun_accepted {origin target : SyncRunStatus} {now : Time} {code : String}
    {s : Store} {r : SyncRun} (found : s.runs.find? runId = some r) (here : r.status = origin)
    (named : runId ≠ "") (real : now.isZero = false)
    (allowed : syncRunTransitionAllowed origin target = true)
    (coded : target = .failed → syncRunErrorCodePattern code = true)
    (current : r.leaseCurrent now.truncateMicro = true)
    (uncanceled : target = .publishing → r.cancelRequestedAt = none) :
    ∃ result, s.transitionRun runId origin target now code = .ok result := by
  have one : s.runs.matched (fun r =>
      decide (r.id = runId) && Store.transitionable origin target now.truncateMicro r) = 1 := by
    refine Table.matched_key_eq_one.mpr ⟨r, found, ?_⟩
    simp only [Store.transitionable, here, current, beq_self_eq_true, Bool.and_self, Bool.true_and,
      Bool.or_eq_true, bne_iff_ne, Option.isNone_iff_eq_none]
    by_cases publishing : target = .publishing
    · exact Or.inr (uncanceled publishing)
    · exact Or.inl publishing
  unfold Store.transitionRun
  rw [if_neg (by simp [named, real, allowed]), if_neg (by simpa using coded)]
  simp only [one, ne_eq, not_true_eq_false, ↓reduceIte, Table.find?_update, found, Option.map_some]
  exact ⟨_, rfl⟩

/-- The row that an accepted transition leaves. -/
theorem holds_transitioned {origin target : SyncRunStatus} {now : Time} {code : String}
    {run : SyncRun} {s s' : Store}
    (ok : s.transitionRun runId origin target now code = .ok (run, s')) :
    syncRunTransitionAllowed origin target = true ∧ s'.Holds runId target := by
  obtain ⟨r, found, here, allowed, -, current, uncanceled, -, rfl⟩ := Store.transitionRun_ok ok
  refine ⟨allowed, Store.transitioned target now.truncateMicro
    (if target = .failed then code else "") r, ?_, rfl, uncanceled⟩
  have guarded : Store.transitionable origin target now.truncateMicro r = true := by
    simp only [Store.transitionable, here, current, beq_self_eq_true, Bool.and_self, Bool.true_and,
      Bool.or_eq_true, bne_iff_ne, Option.isNone_iff_eq_none]
    by_cases publishing : target = .publishing
    · exact Or.inr (uncanceled publishing)
    · exact Or.inl publishing
  simp [Table.find?_update, found, Table.key_of_find? found, guarded]

section Transition

variable {origin target : SyncRunStatus} {now : Time} {code : String} {m : Move V} {w : World V}

/-- A `TransitionRun` call moves the run, or leaves it; without a fault it leaves it only where the
transition is not allowed, or is refused to a run with a cancellation request. -/
theorem transition_answer {answer : Option Unit}
    (held : w.Holds runId origin) (executing : origin.executing = true)
    (lawful : (handler (.control (.transitionRun runId origin target now code)) m w).2.lawful runId)
    (answered : (handler (.control (.transitionRun runId origin target now code)) m w).1 =
      some answer) :
    (answer = some () → syncRunTransitionAllowed origin target = true ∧
      (handler (.control (.transitionRun runId origin target now code)) m w).2.Holds runId
        target) ∧
    (answer = none →
      (handler (.control (.transitionRun runId origin target now code)) m w).2.Holds runId origin ∧
      (runId ≠ "" → m.fault = .none → target ≠ .publishing →
        (target = .failed → syncRunErrorCodePattern code = true) →
        syncRunTransitionAllowed origin target = false)) := by
  have before := holds_disturbed held executing (lawful_disturbed lawful)
  have event := lawful _ (List.mem_append_right _ (List.mem_singleton_self _))
  have respond_eq := respond_of_handler answered
  simp only [World.Holds, store_handler]
  generalize w.disturbed m.disturbances = w' at before event respond_eq
  obtain ⟨full, lease⟩ := event
  obtain ⟨real, current⟩ := lease now rfl
  cases fault : m.fault with
  | lost => exact (full fault).elim
  | refused =>
      simp only [World.respond, fault] at respond_eq ⊢
      subst respond_eq
      refine ⟨fun returned => ?_, fun _ => ⟨before, fun _ intact => ?_⟩⟩
      · cases returned
      · cases intact
  | none =>
      cases outcome : w'.store.attempt (.transitionRun runId origin target now code) with
      | error e =>
          simp only [World.respond, fault, outcome] at respond_eq ⊢
          subst respond_eq
          refine ⟨by rintro ⟨⟩, fun _ => ⟨before, fun named _ unpublished coded => ?_⟩⟩
          obtain ⟨r, found, here, -⟩ := before
          rw [Bool.eq_false_iff]
          intro allowed
          obtain ⟨result, ok⟩ := transitionRun_accepted found here named real allowed coded
            (current r found) fun publishing => absurd publishing unpublished
          simp [Store.attempt, Store.execute, ok, Except.map] at outcome
      | ok result =>
          obtain ⟨reply, store⟩ := result
          simp only [World.respond, fault, outcome] at respond_eq ⊢
          subst respond_eq
          refine ⟨fun _ => ?_, by rintro ⟨⟩⟩
          have executed := Store.execute_eq_attempt (.transitionRun runId origin target now code)
            w'.store
          rw [outcome] at executed
          obtain ⟨run, ok⟩ := Store.ok_of_map executed
          exact holds_transitioned ok

end Transition

/-- A `CompleteCheckpointAndRun` call ends the run, or leaves it. -/
theorem complete_answer {sourceId resource : String} {expected : SyncRunStatus} {now : Time}
    {m : Move V} {w : World V} {answer : Option Unit} (held : w.Holds runId .publishing)
    (lawful : (handler (.control (.completeCheckpointAndRun sourceId resource runId expected now)) m
      w).2.lawful runId)
    (answered : (handler (.control (.completeCheckpointAndRun sourceId resource runId expected now)) m
      w).1 = some answer) :
    (answer = some () →
      (handler (.control (.completeCheckpointAndRun sourceId resource runId expected now)) m
        w).2.Ended runId) ∧
    (answer = none →
      (handler (.control (.completeCheckpointAndRun sourceId resource runId expected now)) m
        w).2.Holds runId .publishing) := by
  have before := holds_disturbed held rfl (lawful_disturbed lawful)
  have event := lawful _ (List.mem_append_right _ (List.mem_singleton_self _))
  have respond_eq := respond_of_handler answered
  simp only [World.Holds, World.Ended, store_handler]
  generalize w.disturbed m.disturbances = w' at before event respond_eq
  cases fault : m.fault with
  | lost => exact (event.1 fault).elim
  | refused =>
      simp only [World.respond, fault] at respond_eq ⊢
      subst respond_eq
      exact ⟨nofun, fun _ => before⟩
  | none =>
      cases outcome : w'.store.attempt
        (.completeCheckpointAndRun sourceId resource runId expected now) with
      | error e =>
          simp only [World.respond, fault, outcome] at respond_eq ⊢
          subst respond_eq
          exact ⟨nofun, fun _ => before⟩
      | ok result =>
          obtain ⟨reply, store⟩ := result
          simp only [World.respond, fault, outcome] at respond_eq ⊢
          subst respond_eq
          refine ⟨fun _ => ?_, nofun⟩
          have executed := Store.execute_eq_attempt
            (.completeCheckpointAndRun sourceId resource runId expected now) w'.store
          rw [outcome] at executed
          obtain ⟨run, ok⟩ := Store.ok_of_map executed
          obtain ⟨rfl, ⟨r, locked⟩, -, -, -, -, -, -, -, rfl⟩ := Store.completeCheckpointAndRun_ok ok
          obtain ⟨found, rfl, here, -, -⟩ := Store.lockRun_eq_some locked
          refine ⟨Store.succeeded now.truncateMicro r, ?_, rfl⟩
          simp [Table.find?_update, found, Table.key_of_find? found, here]

/-- A published run has no cancellation request to be asked about. -/
theorem not_requested_of_publishing {m : Move V} {w : World V} {answer : Option Bool}
    (held : w.Holds runId .publishing)
    (lawful : (handler (.runCancellationRequested runId) m w).2.lawful runId)
    (answered : (handler (.runCancellationRequested runId) m w).1 = some answer) :
    answer ≠ some true := by
  obtain ⟨r, found, here, uncanceled⟩ := holds_disturbed held rfl (lawful_disturbed lawful)
  have respond_eq := respond_of_handler answered
  rintro rfl
  simp only [World.respond, Store.runCancellationRequested, found, here, uncanceled here] at respond_eq
  by_cases reached : m.fault = .none
  · exact Bool.noConfusion (Option.some.inj ((if_pos reached).symm.trans respond_eq))
  · exact absurd ((if_neg reached).symm.trans respond_eq) nofun

/-! ## Finishing -/

/-- The fault of a `TransitionRun` call. -/
def Event.transitionFault : Event V → Option Fault
  | .call (.control (.transitionRun _ _ _ _ _)) _ fault _ _ _ => some fault
  | _ => none

/-- What happened to the last `TransitionRun` call. -/
def lastTransition (log : List (Event V)) : Option Fault :=
  (log.filterMap Event.transitionFault).getLast?

/-- The last `TransitionRun` call reached the store, and its answer came back. -/
def TransitionReached (w : World V) : Prop :=
  ∀ fault ∈ lastTransition w.log, fault = .none

instance (w : World V) : Decidable (TransitionReached w) :=
  inferInstanceAs (Decidable (∀ fault ∈ lastTransition w.log, fault = .none))

section Finish

variable {origin target : SyncRunStatus} {now : Time} {code : String} {m : Move V} {w : World V}
  {answer : Option Unit}

theorem lastTransition_handler (m : Move V) :
    lastTransition (handler (.control (.transitionRun runId origin target now code)) m w).2.log =
      some m.fault := by
  simp [lastTransition, log_handler, Event.transitionFault]

/-- A last `TransitionRun` that the table allows ends the run, if the store could be reached. -/
theorem ended_of_transition (held : w.Holds runId origin) (executing : origin.executing = true)
    (named : runId ≠ "") (allowed : syncRunTransitionAllowed origin target = true)
    (ended : target.terminal = true)
    (coded : target = .failed → syncRunErrorCodePattern code = true)
    (lawful : (handler (.control (.transitionRun runId origin target now code)) m w).2.lawful runId)
    (answered : (handler (.control (.transitionRun runId origin target now code)) m w).1 =
      some answer)
    (reached : TransitionReached
      (handler (.control (.transitionRun runId origin target now code)) m w).2) :
    (handler (.control (.transitionRun runId origin target now code)) m w).2.Ended runId := by
  have reached := reached _ (lastTransition_handler m)
  obtain ⟨accepted, refused⟩ := transition_answer held executing lawful answered
  cases answer with
  | some reply =>
      obtain ⟨-, r, found, here, -⟩ := accepted rfl
      exact ⟨r, found, by rw [here]; exact ended⟩
  | none =>
      have unpublished : target ≠ .publishing := by
        rintro rfl
        cases ended
      have := (refused rfl).2 named reached unpublished coded
      rw [allowed] at this
      cases this

/-- A `TransitionRun` that the table does not allow leaves the run where it is. -/
theorem holds_of_transition (held : w.Holds runId origin) (executing : origin.executing = true)
    (illegal : syncRunTransitionAllowed origin target = false)
    (lawful : (handler (.control (.transitionRun runId origin target now code)) m w).2.lawful runId)
    (answered : (handler (.control (.transitionRun runId origin target now code)) m w).1 =
      some answer) :
    (handler (.control (.transitionRun runId origin target now code)) m w).2.Holds runId origin := by
  obtain ⟨accepted, refused⟩ := transition_answer held executing lawful answered
  cases answer with
  | some reply =>
      have := (accepted rfl).1
      rw [illegal] at this
      cases this
  | none => exact (refused rfl).1

end Finish

end UnifiedInfraTopology
