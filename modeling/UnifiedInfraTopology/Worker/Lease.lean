import UnifiedInfraTopology.Lib.History
import UnifiedInfraTopology.Worker.Leaving

/-!
# `SyncWorker.executeWithLease`

The heartbeat renews the lease of the run while `executeClaimed` works on it.  When a renewal fails it
leaves the error in a channel, ends the context with the cause of a lost lease, and returns.
`executeWithLease` stops the heartbeat only after `executeClaimed` has returned, and the error in the
channel replaces an error of `executeClaimed`.

Steps of the heartbeat come between the calls of `executeClaimed` (`leaseHandler`) and after it
(`closing`).  `run_world`: for `executeClaimed` alone this is an environment like any other.

* `executeWithLease_reports`: where no renewal fails once the run has ended, unless the worker has
  completed or canceled it, no own move to failed comes after a failed renewal, and no answer of an
  ending operation is lost (`Orderly`), the returned error is the right one (`Reported`);
* `executeWithLease_masked`: a tick between the own move to failed and the stop hides the own error.
-/

namespace UnifiedInfraTopology

open Lib

/-! ## The heartbeat -/

inductive Heartbeat where
  /-- In the `select`. -/
  | waiting
  /-- A renewal has failed. -/
  | failed
  /-- The goroutine has returned; whether it left an error in `heartbeatErr`. -/
  | stopped (failed : Bool)
deriving DecidableEq

inductive LeaseEvent where
  /-- `RenewRunLease`, and the store before it. -/
  | renewal (before : Store) (failed : Bool)
  | call (event : Event syncService)

structure LeaseWorld where
  world : World syncService
  heartbeat : Heartbeat
  history : List LeaseEvent

/-- A step that is not a call of `executeClaimed`. -/
inductive LeaseStep where
  /-- Another client commits an operation. -/
  | operation (op : Op)
  | parentEnds
  /-- The ticker fires, and the lease is renewed. -/
  | tick (now : Time) (fault : Fault)
  /-- `heartbeatErr <- err; cancel(errSyncLeaseLost)`. -/
  | report
  /-- The heartbeat finds the context done. -/
  | quit

namespace LeaseWorld

variable (runId : String) (s : LeaseWorld)

/-- A tick: the renewal takes effect unless it is refused, and fails unless it is answered. -/
def tick (now : Time) (fault : Fault) : LeaseWorld :=
  let op := Op.renewRunLease runId now.truncateMicro
  let failed := decide (fault ≠ .none) || !s.world.store.accepts op
  { world := if fault = .refused then s.world else s.world.disturb (.operation op)
    heartbeat := if failed then .failed else .waiting
    history := s.history ++ [.renewal s.world.store failed] }

/-- A step; the heartbeat takes only those that its place in the loop allows. -/
def step : LeaseStep → LeaseWorld
  | .operation op => { s with world := s.world.disturb (.operation op) }
  | .parentEnds => { s with world := s.world.disturb .parentEnds }
  | .tick now fault => if s.heartbeat = .waiting then s.tick runId now fault else s
  | .report =>
      if s.heartbeat = .failed then
        { s with world := s.world.disturb (.contextEnds .leaseLost), heartbeat := .stopped true }
      else s
  | .quit =>
      if s.heartbeat = .waiting ∧ s.world.cause.isSome then { s with heartbeat := .stopped false }
      else s

def stepped (steps : List LeaseStep) : LeaseWorld := steps.foldl (step runId) s

end LeaseWorld

/-- Steps of the others, and a call of `executeClaimed`. -/
structure LeaseMove where
  steps : List LeaseStep
  now : Time
  fault : Fault
  hangs : Bool
  reply : (request : SyncRequest) → request.Reply

def leaseHandler (runId : String) :
    Handler (Call syncService) Call.Answer LeaseMove LeaseWorld := fun c m s =>
  let s := s.stepped runId m.steps
  let after := handler c (⟨[], m.now, m.fault, m.hangs, m.reply⟩ : Move syncService) s.world
  (after.1, { s with
    world := after.2
    history := s.history ++ [.call (.call c m.now m.fault after.1 s.world.store after.2.store)] })

/-- After `executeClaimed`: `cancel(nil)`, wait for the heartbeat, and look into the channel. -/
def finishLease (runId : String) (closing : List LeaseStep) (e : Option SyncError) (s : LeaseWorld) :
    Option (Option SyncError) × LeaseWorld :=
  let s := { s with world := s.world.disturb (.contextEnds .canceled) }.stepped runId closing
  match s.heartbeat with
  | .stopped failed => (some (if e ≠ none ∧ failed then some .leaseLost else e), s)
  | _ => (none, s)

/-- `executeWithLease`: the returned error, once it has returned. -/
def executeWithLease (worker : SyncWorker) (run : SyncRun) (source : Source) (startedAt : Time)
    (script : List LeaseMove) (closing : List LeaseStep) (world : World syncService) :
    Option (Option SyncError) × LeaseWorld :=
  let ran := (executeClaimed worker run source startedAt).run (leaseHandler run.id) script
    ⟨world, .waiting, []⟩
  match returnedError ran.1 with
  | some e => finishLease run.id closing e ran.2.1
  | none => (none, ran.2.1)

/-! ## What is reported -/

/-- The error that goes with an operation of `executeClaimed` that took effect and ended the run. -/
def Event.moved (runId : String) : Event syncService → Option (Option SyncError)
  | .call (.control op) _ fault _ before _ =>
      if fault ≠ .refused ∧ before.accepts op = true then op.conclusion runId else none
  | _ => none

/-- The operation has reported success. -/
def Event.confirmed : Event syncService → Bool
  | .call (.control _) _ _ (some reply) _ _ => reply.isSome
  | _ => false

namespace LeaseEvent

/-- The renewal has failed. -/
def failedRenewal : LeaseEvent → Bool
  | renewal _ failed => failed
  | call _ => false

def moved (runId : String) : LeaseEvent → Option (Option SyncError)
  | renewal _ _ => none
  | call e => e.moved runId

/-- The renewal has failed although the run had not ended. -/
def leaseLost (runId : String) : LeaseEvent → Prop
  | renewal before failed => failed = true ∧ ¬before.Ended runId
  | call _ => False

instance (runId : String) (e : LeaseEvent) : Decidable (e.leaseLost runId) := by
  unfold leaseLost
  split <;> infer_instance

end LeaseEvent

/-- The returned error is a lost lease only if a renewal has failed while the run had not ended; and it
is the one that goes with the operation that ended the run. -/
structure Reported (runId : String) (history : List LeaseEvent) (e : Option SyncError) : Prop where
  lost : e = some .leaseLost → ∃ event ∈ history, event.leaseLost runId
  moved : ∀ event ∈ history, ∀ own, event.moved runId = some own → e = own

/-- No renewal fails once the run has ended, unless an own operation has completed or canceled it; an
own operation that ends the run is answered, and a move to failed does not come after a failed
renewal. -/
def Orderly (runId : String) (past : List LeaseEvent) : LeaseEvent → Prop
  | .renewal before failed => failed = true → before.Ended runId →
      ∃ event ∈ past, event.moved runId = some none
  | .call e =>
      match e.moved runId with
      | none => True
      | some own =>
          e.confirmed = true ∧ (own ≠ none → ∀ event ∈ past, event.failedRenewal = false)

instance (runId : String) (past : List LeaseEvent) (e : LeaseEvent) :
    Decidable (Orderly runId past e) := by
  unfold Orderly
  split
  · infer_instance
  · split <;> infer_instance

/-! ## The environment of `executeClaimed` -/

section World

variable {runId : String}

theorem stepped_world (steps : List LeaseStep) (s : LeaseWorld) :
    ∃ disturbances, (s.stepped runId steps).world = s.world.disturbed disturbances := by
  induction steps generalizing s with
  | nil => exact ⟨[], rfl⟩
  | cons step steps ih =>
      obtain ⟨later, rest⟩ := ih (s.step runId step)
      have here : ∃ first, (s.step runId step).world = s.world.disturbed first := by
        cases step with
        | operation op => exact ⟨[.operation op], rfl⟩
        | parentEnds => exact ⟨[.parentEnds], rfl⟩
        | tick now fault =>
            by_cases waiting : s.heartbeat = .waiting
            · rw [LeaseWorld.step, if_pos waiting]
              by_cases refused : fault = .refused
              · exact ⟨[], if_pos refused⟩
              · exact ⟨[.operation (.renewRunLease runId now.truncateMicro)], if_neg refused⟩
            · rw [LeaseWorld.step, if_neg waiting]
              exact ⟨[], rfl⟩
        | report =>
            dsimp only [LeaseWorld.step]
            split_ifs
            · exact ⟨[.contextEnds .leaseLost], rfl⟩
            · exact ⟨[], rfl⟩
        | quit =>
            dsimp only [LeaseWorld.step]
            split_ifs <;> exact ⟨[], rfl⟩
      obtain ⟨first, stepped⟩ := here
      refine ⟨first ++ later, ?_⟩
      rw [World.disturbed, List.foldl_append]
      exact rest.trans (congrArg (World.disturbed · later) stepped)

theorem leaseHandler_world (c : Call syncService) (m : LeaseMove) (s : LeaseWorld) :
    ∃ m', handler c m' s.world = ((leaseHandler runId c m s).1, (leaseHandler runId c m s).2.world) := by
  obtain ⟨disturbances, same⟩ := @stepped_world runId m.steps s
  refine ⟨⟨disturbances, m.now, m.fault, m.hangs, m.reply⟩, ?_⟩
  unfold leaseHandler
  dsimp only
  rw [same]
  rfl

/-- **The heartbeat is part of the environment.** -/
theorem run_world {ε α : Type} (p : SyncProg ε α) (script : List LeaseMove) (s : LeaseWorld) :
    ∃ script', (p.run handler script' s.world).1 = (p.run (leaseHandler runId) script s).1 ∧
      (p.run handler script' s.world).2.1 = (p.run (leaseHandler runId) script s).2.1.world := by
  induction p generalizing script s with
  | ret a => exact ⟨[], rfl, rfl⟩
  | raise e => exact ⟨[], rfl, rfl⟩
  | spin => exact ⟨[], rfl, rfl⟩
  | call c k ih =>
      cases script with
      | nil => exact ⟨[], rfl, rfl⟩
      | cons m script =>
          obtain ⟨m', same⟩ := @leaseHandler_world runId c m s
          rcases answer : leaseHandler runId c m s with ⟨_ | r, s'⟩
          · rw [answer] at same
            refine ⟨[m'], ?_⟩
            simp only [Prog.run, answer, same, and_self]
          · rw [answer] at same
            obtain ⟨script', outcome, world⟩ := ih r script s'
            refine ⟨m' :: script', ?_⟩
            simp only [Prog.run, answer, same]
            exact ⟨outcome, world⟩

end World

/-! ## What the history tells -/

/-- The history has an own move to failed. -/
def Failed (runId : String) (history : List LeaseEvent) : Prop :=
  ∃ event ∈ history, ∃ e, event.moved runId = some (some e)

/-- A renewal after an own move to failed finds the run ended. -/
def FindsEnded (runId : String) (past : List LeaseEvent) : LeaseEvent → Prop
  | .renewal before _ => Failed runId past → before.Ended runId
  | .call _ => True

/-- What an operation that reported success concludes. -/
def LeaseEvent.concluded (runId : String) : LeaseEvent → Option (Option SyncError)
  | .renewal _ _ => none
  | .call e => e.observed (observeConclusion runId)

/-- What holds between any two steps. -/
structure Tracked (runId : String) (s : LeaseWorld) : Prop where
  /-- The lease is lost, or about to be, only after a renewal has failed. -/
  blamed : s.world.cause = some .leaseLost ∨ s.heartbeat = .failed ∨ s.heartbeat = .stopped true →
    ∃ event ∈ s.history, event.failedRenewal = true
  logged : s.world.observed (observeConclusion runId) = s.history.filterMap (·.concluded runId)
  ended : Failed runId s.history → s.world.store.Ended runId
  found : Throughout (FindsEnded runId) [] s.history

section Tracking

variable {runId : String}

theorem ended_apply {s : Store} (ended : s.Ended runId) (op : Op) : (s.apply op).Ended runId := by
  obtain ⟨r, found, terminal⟩ := ended
  obtain ⟨r', found', step⟩ : ∃ r', (s.apply op).runs.find? runId = some r' ∧ RunStep op r r' :=
    Store.find?_apply found
  cases step.eq_of_terminal terminal
  exact ⟨r, found', terminal⟩

/-- An own move to failed ends the run. -/
theorem ended_of_moved {c : Call syncService} {m : Move syncService} {w : World syncService}
    {time : Time} {answer : Option c.Answer} {after : Store} {e : SyncError}
    (moved : (Event.call c time m.fault answer w.store after).moved runId = some (some e)) :
    (w.respond m c).2.Ended runId := by
  cases c with
  | control op =>
      dsimp only [Event.moved] at moved
      split at moved
      · rename_i effect
        obtain ⟨reached, accepted⟩ := effect
        obtain ⟨s', ok⟩ : ∃ s', w.store.execute op = .ok s' := by
          rw [Store.accepts] at accepted
          cases result : w.store.execute op with
          | ok s' => exact ⟨s', rfl⟩
          | error e =>
              rw [result] at accepted
              cases accepted
        have applied : (w.respond m (.control op)).2 = s' := by
          cases fault : m.fault with
          | none =>
              cases outcome : w.store.attempt op with
              | error e =>
                  rw [Store.execute_eq_attempt, outcome] at ok
                  cases ok
              | ok result =>
                  rw [Store.execute_eq_attempt, outcome] at ok
                  simp only [World.respond, fault, outcome]
                  exact Except.ok.inj ok
          | refused => exact (reached fault).elim
          | lost =>
              simp only [World.respond, fault]
              exact Store.apply_of_ok ok
        rw [applied]
        cases op with
        | transitionRun id origin target now code =>
            dsimp only [Op.conclusion] at moved
            split at moved
            · cases moved
            · rename_i same
              rw [not_not] at same
              subst same
              obtain ⟨run, transitioned⟩ := Store.ok_of_map ok
              obtain ⟨-, r, found, status, -⟩ := holds_transitioned transitioned
              refine ⟨r, found, ?_⟩
              rw [status]
              cases target <;> first | rfl | cases moved
        | completeCheckpointAndRun sourceId resource id status now =>
            dsimp only [Op.conclusion] at moved
            split at moved <;> cases moved
        | _ => cases moved
      · cases moved
  | _ => cases moved

theorem Failed.concat {history : List LeaseEvent} {event : LeaseEvent}
    (silent : ∀ e, event.moved runId ≠ some (some e)) (failed : Failed runId (history ++ [event])) :
    Failed runId history := by
  obtain ⟨event', member, e, moved⟩ := failed
  rcases List.mem_append.mp member with earlier | here
  · exact ⟨event', earlier, e, moved⟩
  · cases List.mem_singleton.mp here
    exact (silent e moved).elim

/-- What a step of the world changes besides the heartbeat and the history. -/
theorem Tracked.disturb {s : LeaseWorld} (tracked : Tracked runId s) (d : Disturbance)
    (kept : (s.world.disturb d).cause = some .leaseLost → s.world.cause = some .leaseLost) :
    Tracked runId { s with world := s.world.disturb d } := by
  refine ⟨fun lost => tracked.blamed ?_, ?_, fun failed => ?_, tracked.found⟩
  · exact lost.imp_left kept
  · exact (observed_disturbed s.world [d]).trans tracked.logged
  · have ended := tracked.ended failed
    cases d with
    | operation op => exact ended_apply ended op
    | contextEnds cause => exact ended
    | parentEnds => exact ended

theorem kept_of_other {w : World syncService} {cause : Cause} (other : cause ≠ .leaseLost)
    (lost : some (w.cause.getD cause) = some .leaseLost) : w.cause = some .leaseLost := by
  cases here : w.cause with
  | some known =>
      rw [here] at lost
      exact lost
  | none =>
      rw [here] at lost
      exact (other (Option.some.inj lost)).elim

theorem Tracked.tick {s : LeaseWorld} (tracked : Tracked runId s) (now : Time) (fault : Fault) :
    Tracked runId (s.tick runId now fault) := by
  obtain ⟨blamed, logged, ended, found⟩ := tracked
  constructor
  · intro lost
    have failed : s.world.cause = some .leaseLost ∨
        (decide (fault ≠ .none) || !s.world.store.accepts (.renewRunLease runId now.truncateMicro)) =
          true := by
      rcases lost with lost | lost | lost
      · refine Or.inl ?_
        dsimp only [LeaseWorld.tick] at lost
        split at lost <;> exact lost
      · refine Or.inr ?_
        dsimp only [LeaseWorld.tick] at lost
        split at lost
        · assumption
        · cases lost
      · dsimp only [LeaseWorld.tick] at lost
        split at lost <;> cases lost
    rcases failed with lost | failed
    · obtain ⟨event, member, failed⟩ := blamed (.inl lost)
      exact ⟨event, List.mem_append_left _ member, failed⟩
    · exact ⟨_, List.mem_append_right _ (List.mem_singleton_self _), failed⟩
  · have same : (s.tick runId now fault).world.observed (observeConclusion runId) =
        s.world.observed (observeConclusion runId) := by
      dsimp only [LeaseWorld.tick]
      split
      · rfl
      · exact observed_disturbed s.world [.operation (.renewRunLease runId now.truncateMicro)]
    rw [same, logged]
    simp [LeaseWorld.tick, LeaseEvent.concluded]
  · intro failed
    have held := ended (Failed.concat (fun e same => by cases same) failed)
    dsimp only [LeaseWorld.tick]
    split
    · exact held
    · exact ended_apply held _
  · refine throughout_concat.mpr ⟨found, fun failed => ended ?_⟩
    rwa [List.nil_append] at failed

theorem Tracked.step {s : LeaseWorld} (tracked : Tracked runId s) (step : LeaseStep) :
    Tracked runId (s.step runId step) := by
  cases step with
  | operation op => exact tracked.disturb (.operation op) id
  | parentEnds => exact tracked.disturb .parentEnds (kept_of_other nofun)
  | tick now fault =>
      dsimp only [LeaseWorld.step]
      split
      · exact tracked.tick now fault
      · exact tracked
  | report =>
      dsimp only [LeaseWorld.step]
      split
      · rename_i failed
        obtain ⟨blamed, logged, ended, found⟩ := tracked
        exact ⟨fun _ => blamed (.inr (.inl failed)),
          (observed_disturbed s.world [.contextEnds .leaseLost]).trans logged, ended, found⟩
      · exact tracked
  | quit =>
      dsimp only [LeaseWorld.step]
      split
      · refine ⟨fun lost => tracked.blamed ?_, tracked.logged, tracked.ended, tracked.found⟩
        rcases lost with lost | lost | lost
        · exact .inl lost
        · cases lost
        · cases lost
      · exact tracked

theorem Tracked.stepped {s : LeaseWorld} (tracked : Tracked runId s) (steps : List LeaseStep) :
    Tracked runId (s.stepped runId steps) := by
  induction steps generalizing s with
  | nil => exact tracked
  | cons step steps ih => exact ih (tracked.step step)

theorem Tracked.call {s : LeaseWorld} (tracked : Tracked runId s) (c : Call syncService)
    (m : LeaseMove) : Tracked runId (leaseHandler runId c m s).2 := by
  have before := tracked.stepped m.steps
  generalize stepped : s.stepped runId m.steps = s' at before
  obtain ⟨blamed, logged, ended, found⟩ := before
  unfold leaseHandler
  dsimp only
  rw [stepped]
  constructor
  · intro lost
    obtain ⟨event, member, failed⟩ := blamed lost
    exact ⟨event, List.mem_append_left _ member, failed⟩
  · dsimp only
    rw [World.observed, filterMap_handler fun e background => Event.observed_of_background background,
      List.filterMap_append]
    refine congrArg₂ (· ++ ·) logged ?_
    rw [List.filterMap_cons]
    rfl
  · intro failed
    obtain ⟨event, member, e, moved⟩ := failed
    rcases List.mem_append.mp member with earlier | here
    · have held := ended ⟨event, earlier, e, moved⟩
      cases c with
      | control op =>
          change (s'.world.respond (⟨[], m.now, m.fault, m.hangs, m.reply⟩ : Move syncService)
            (.control op)).2.Ended runId
          rcases respond_control s'.world _ op with same | applied
          · rw [same]
            exact held
          · rw [applied]
            exact ended_apply held op
      | _ => exact held
    · cases List.mem_singleton.mp here
      exact ended_of_moved (m := (⟨[], m.now, m.fault, m.hangs, m.reply⟩ : Move syncService)) moved
  · exact throughout_concat.mpr ⟨found, trivial⟩

theorem tracked_start {w : World syncService} (fresh : w.log = []) (held : w.cause ≠ some .leaseLost) :
    Tracked runId ⟨w, .waiting, []⟩ := by
  refine ⟨fun lost => ?_, ?_, fun failed => ?_, throughout_nil⟩
  · rcases lost with lost | lost | lost
    · exact (held lost).elim
    · cases lost
    · cases lost
  · rw [World.observed, fresh]
    rfl
  · obtain ⟨event, member, -⟩ := failed
    cases member

theorem tracked_run {ε α : Type} (p : SyncProg ε α) (script : List LeaseMove) {s : LeaseWorld}
    (tracked : Tracked runId s) : Tracked runId (p.run (leaseHandler runId) script s).2.1 :=
  Prog.wp_run (Prog.shrinking_true _)
    (Prog.wp_invariant (fun c m _ tracked => tracked.call c m) p tracked) script trivial

end Tracking

/-! ## The result -/

section Result

variable {runId : String} {history : List LeaseEvent} {e own : Option SyncError} {event : LeaseEvent}

/-- An own operation that ended the run, and reported success, concludes. -/
theorem concluded_of_orderly {past : List LeaseEvent} (orderly : Orderly runId past event)
    (moved : event.moved runId = some own) : event.concluded runId = some own := by
  cases event with
  | renewal before failed => cases moved
  | call event =>
      dsimp only [LeaseEvent.moved] at moved
      dsimp only [Orderly] at orderly
      rw [moved] at orderly
      obtain ⟨confirmed, -⟩ := orderly
      cases event with
      | call c now fault answer before after =>
          cases c with
          | control op =>
              dsimp only [Event.moved] at moved
              split at moved
              · match answer with
                | none => cases confirmed
                | some none => cases confirmed
                | some (some reply) => exact moved
              · cases moved
          | _ => cases moved
      | _ => cases moved

/-- Where an own move to failed is all that ends the run, there is no failed renewal, before or after
it. -/
theorem no_failure_of_orderly (orderly : Throughout (Orderly runId) [] history)
    (found : Throughout (FindsEnded runId) [] history) (member : event ∈ history) {error : SyncError}
    (moved : event.moved runId = some (some error))
    (single : ∀ event ∈ history, ∀ own, event.moved runId = some own → own = some error) :
    ∀ other ∈ history, other.failedRenewal = false := by
  intro other inside
  by_contra failure
  rw [Bool.not_eq_false] at failure
  obtain ⟨past, later, shape⟩ := List.append_of_mem inside
  have ordered := orderly past other later shape
  have finds := found past other later shape
  rw [List.nil_append] at ordered finds
  cases other with
  | call other => cases failure
  | renewal before failed =>
      rw [shape, List.mem_append, List.mem_cons] at member
      rcases member with earlier | rfl | after
      · -- The run was neither completed nor canceled.
        obtain ⟨event', inside', other⟩ := ordered failure (finds ⟨event, earlier, error, moved⟩)
        cases single event' (by rw [shape]; exact List.mem_append_left _ inside') none other
      · cases moved
      · obtain ⟨between, rest, shape'⟩ := List.append_of_mem after
        have here := orderly (past ++ .renewal before failed :: between) event rest
          (by rw [shape, shape', List.append_assoc, List.cons_append])
        rw [List.nil_append] at here
        cases event with
        | renewal before' failed' => cases moved
        | call event =>
            dsimp only [LeaseEvent.moved] at moved
            dsimp only [Orderly] at here
            rw [moved] at here
            have silent := here.2 nofun (.renewal before failed) (by simp)
            cases silent.symm.trans failure

end Result

/-- Where `executeWithLease` has returned, `executeClaimed` has, and the heartbeat. -/
theorem finished_of_returned {worker : SyncWorker} {run : SyncRun} {source : Source} {startedAt : Time}
    {script : List LeaseMove} {closing : List LeaseStep} {world : World syncService}
    {e : Option SyncError}
    (returned : (executeWithLease worker run source startedAt script closing world).1 = some e) :
    ∃ own s failed, returnedError ((executeClaimed worker run source startedAt).run
        (leaseHandler run.id) script ⟨world, .waiting, []⟩).1 = some own ∧
      ((executeClaimed worker run source startedAt).run (leaseHandler run.id) script
        ⟨world, .waiting, []⟩).2.1 = s ∧
      (executeWithLease worker run source startedAt script closing world).2 =
        { s with world := s.world.disturb (.contextEnds .canceled) }.stepped run.id closing ∧
      (executeWithLease worker run source startedAt script closing world).2.heartbeat =
        .stopped failed ∧
      e = if own ≠ none ∧ failed then some .leaseLost else own := by
  unfold executeWithLease at returned ⊢
  dsimp only at returned ⊢
  split at returned
  · rename_i own ended
    unfold finishLease at returned
    dsimp only at returned
    split at returned
    · rename_i failed stopped
      refine ⟨own, _, failed, ended, rfl, ?_⟩
      unfold finishLease
      dsimp only
      rw [stopped]
      exact ⟨rfl, stopped, (Option.some.inj returned).symm⟩
    · cases returned
  · cases returned

/-- **The error of `executeWithLease`.**  In every run whose steps are orderly, whatever the ticks and
the results of the renewals, a lost lease is returned only if a renewal has failed while the run had
not ended; a run that `executeClaimed` moved to failed is returned with its own error, and one that it
completed or canceled with nil. -/
theorem executeWithLease_reports (worker : SyncWorker) (run : SyncRun) (source : Source)
    (startedAt : Time) (script : List LeaseMove) (closing : List LeaseStep) (world : World syncService)
    (fresh : world.log = []) (held : world.cause ≠ some .leaseLost) (e : Option SyncError)
    (returned : (executeWithLease worker run source startedAt script closing world).1 = some e)
    (orderly : Throughout (Orderly run.id) []
      (executeWithLease worker run source startedAt script closing world).2.history) :
    Reported run.id (executeWithLease worker run source startedAt script closing world).2.history e := by
  obtain ⟨own, s, failed, ended, ran, final, stopped, result⟩ := finished_of_returned returned
  have tracked : Tracked run.id s := ran ▸ tracked_run _ script (tracked_start fresh held)
  have closed : Tracked run.id
      (executeWithLease worker run source startedAt script closing world).2 := by
    rw [final]
    exact (tracked.disturb (.contextEnds .canceled) (kept_of_other nofun)).stepped closing
  -- How `executeClaimed` left, and what is left of it in the end.
  obtain ⟨script', outcome, same⟩ := @run_world run.id _ _
    (executeClaimed worker run source startedAt) script ⟨world, .waiting, []⟩
  rw [ran] at same
  have leaves := executeClaimed_leaves worker run source startedAt script' fresh
    (by rw [outcome]; exact ended)
  rw [same] at leaves
  obtain ⟨disturbances, later⟩ := @stepped_world run.id closing
    { s with world := s.world.disturb (.contextEnds .canceled) }
  rw [← final] at later
  have concluded : (executeWithLease worker run source startedAt script closing world).2.history.filterMap
      (·.concluded run.id) = s.world.observed (observeConclusion run.id) := by
    rw [← closed.logged, later, observed_disturbed]
    exact observed_disturbed s.world [.contextEnds .canceled]
  generalize (executeWithLease worker run source startedAt script closing world).2 = s' at *
  have single : ∀ event ∈ s'.history, ∀ v, event.moved run.id = some v → v = own := by
    intro event member v moved
    obtain ⟨past, after, shape⟩ := List.append_of_mem member
    have listed : v ∈ s'.history.filterMap (·.concluded run.id) :=
      List.mem_filterMap.mpr ⟨event, member, concluded_of_orderly (orderly past event after shape) moved⟩
    rw [concluded] at listed
    rcases leaves.concluded with none_ | one
    · rw [none_] at listed
      cases listed
    · rw [one] at listed
      exact List.mem_singleton.mp listed
  have reports : ∀ event ∈ s'.history, ∀ v, event.moved run.id = some v → e = v := by
    intro event member v moved
    cases single event member v moved
    rw [result]
    refine if_neg ?_
    rintro ⟨error, failed⟩
    cases own with
    | none => exact error rfl
    | some error =>
        obtain ⟨other, inside, failure⟩ := closed.blamed (.inr (.inr (by rw [stopped, failed])))
        have silent := no_failure_of_orderly orderly closed.found member moved single other inside
        cases silent.symm.trans failure
  refine ⟨?_, reports⟩
  rintro rfl
  have blamed : ∃ event ∈ s'.history, event.failedRenewal = true := by
    refine closed.blamed ?_
    by_cases reported : own ≠ none ∧ failed = true
    · exact .inr (.inr (by rw [stopped, reported.2]))
    · rw [if_neg reported] at result
      refine .inl ?_
      rw [later]
      exact cause_disturbed (cause_disturbed (leaves.lost result.symm) [.contextEnds .canceled])
        disturbances
  obtain ⟨event, member, failure⟩ := blamed
  obtain ⟨past, after, shape⟩ := List.append_of_mem member
  have here := orderly past event after shape
  cases event with
  | renewal before failed =>
      refine ⟨_, member, failure, fun ended => ?_⟩
      -- A run that the worker completed or canceled is returned with nil.
      obtain ⟨event', inside, moved⟩ := here failure ended
      cases reports event' (by rw [shape]; exact List.mem_append_left _ inside) none moved
  | call event => cases failure

/-! ## Two runs -/

/-- A call without steps before it, answered by a source without devices. -/
def quietLeaseMove (steps : List LeaseStep) : LeaseMove :=
  ⟨steps, 3000, .none, false, emptySource (some true)⟩

/-- The claimed run, of a source that is not a CMDB, is executed. -/
def executeForeignRun (closing : List LeaseStep) : Option (Option SyncError) × LeaseWorld :=
  executeWithLease ⟨1, 1⟩ (Store.claimed 2000 (queuedRun "r" "s")) ⟨"s", "lab", "file", "ref", true⟩
    2000 (quietLeaseMove [.tick 3000 .none] :: List.replicate 3 (quietLeaseMove [])) closing claimedWorld

/-- The lease is renewed once, and the heartbeat stops in time. -/
theorem executeWithLease_reports_foreign :
    Reported "r" (executeForeignRun [.quit]).2.history (some (.failed "source_validation_failed")) := by
  have orderly : Throughout (Orderly "r") [] (executeForeignRun [.quit]).2.history := by decide +kernel
  have returned : (executeForeignRun [.quit]).1 = some (some (.failed "source_validation_failed")) := by
    decide +kernel
  unfold executeForeignRun at orderly returned ⊢
  exact executeWithLease_reports ⟨1, 1⟩ (Store.claimed 2000 (queuedRun "r" "s"))
    ⟨"s", "lab", "file", "ref", true⟩ 2000
    (quietLeaseMove [.tick 3000 .none] :: List.replicate 3 (quietLeaseMove [])) [.quit] claimedWorld rfl
    (by decide) (some (.failed "source_validation_failed")) returned orderly

/-- The ticker fires between the own move to failed and the stop: the renewal finds the run ended, no
renewal has failed before, and the returned error is a lost lease. -/
theorem executeWithLease_masked :
    (executeForeignRun [.tick 3500 .none, .report]).1 = some (some .leaseLost) ∧
      (∃ event ∈ (executeForeignRun [.tick 3500 .none, .report]).2.history,
        event.moved "r" = some (some (.failed "source_validation_failed"))) ∧
      ¬Reported "r" (executeForeignRun [.tick 3500 .none, .report]).2.history (some .leaseLost) := by
  have run : ((executeForeignRun [.tick 3500 .none, .report]).1 = some (some .leaseLost) ∧
      ∃ event ∈ (executeForeignRun [.tick 3500 .none, .report]).2.history,
        event.moved "r" = some (some (.failed "source_validation_failed"))) ∧
      ∀ event ∈ (executeForeignRun [.tick 3500 .none, .report]).2.history, ¬event.leaseLost "r" := by
    decide +kernel
  refine ⟨run.1.1, run.1.2, fun reported => ?_⟩
  obtain ⟨event, member, lost⟩ := reported.lost rfl
  exact run.2 event member lost

end UnifiedInfraTopology
