import UnifiedInfraTopology.Lib.Contract
import UnifiedInfraTopology.Repository.Control

/-!
# The environment of a worker

A worker function is a program over `Call`: the clock, its context, the control store, and the
services of one worker (`Service`: requests and their replies).  Before each call other clients may
commit operations and contexts may end (`Disturbance`); the call itself may succeed, be refused
before it has an effect, or have its effect and report an error (`Fault`), and it may never return.
A service replies whatever the move says.

`World` keeps the control store, the state of the context and a log of everything that happened.
`World.observed` projects the log to the answers a proof is about.
-/

namespace UnifiedInfraTopology

open Lib

/-- The requests of a worker to its other collaborators, and their replies. -/
structure Service where
  Request : Type
  Reply : Request → Type

/-- Why the context of a worker ended. -/
inductive Cause where
  | canceled
  | leaseLost
deriving DecidableEq

/-- What happens to a call of the control store on its way. -/
inductive Fault where
  | none
  | refused
  | lost
deriving DecidableEq

/-- What a worker reads from the result of an operation: the checkpoint that was begun. -/
abbrev Op.Reply : Op → Type
  | .beginCheckpoint _ _ _ _ _ => DeviceSyncCheckpoint
  | _ => Unit

namespace Store

/-- An operation with its result. -/
def attempt : (op : Op) → Store → Except InventoryError (op.Reply × Store)
  | .beginCheckpoint sourceId resource runId startedAt leaseAt, s =>
      s.beginCheckpoint sourceId resource runId startedAt leaseAt
  | .enqueue request now, s => (s.execute (.enqueue request now)).map (Prod.mk ())
  | .cancel runId now, s => (s.execute (.cancel runId now)).map (Prod.mk ())
  | .claimNext target startedAt, s => (s.execute (.claimNext target startedAt)).map (Prod.mk ())
  | .transitionRun runId origin target now code, s =>
      (s.execute (.transitionRun runId origin target now code)).map (Prod.mk ())
  | .renewRunLease runId now, s => (s.execute (.renewRunLease runId now)).map (Prod.mk ())
  | .advanceCheckpoint sourceId resource runId cursor updatedAt, s =>
      (s.execute (.advanceCheckpoint sourceId resource runId cursor updatedAt)).map (Prod.mk ())
  | .completeCheckpointAndRun sourceId resource runId status completedAt, s =>
      (s.execute (.completeCheckpointAndRun sourceId resource runId status completedAt)).map
        (Prod.mk ())

theorem execute_eq_attempt (op : Op) (s : Store) :
    s.execute op = (s.attempt op).map Prod.snd := by
  cases op with
  | beginCheckpoint => rfl
  | _ => simp only [attempt]; cases s.execute _ <;> rfl

theorem apply_of_attempt {op : Op} {s s' : Store} {reply : op.Reply}
    (ok : s.attempt op = .ok (reply, s')) : s.apply op = s' :=
  apply_of_ok (by rw [execute_eq_attempt, ok]; rfl)

end Store

/-! ## Calls -/

section

variable (V : Service)

inductive Call where
  /-- `time.Now()`. -/
  | now
  /-- `ctx.Err() != nil` for the context of the worker. -/
  | contextErr
  /-- `context.Cause(ctx)`. -/
  | contextCause
  /-- `ctx.Err() != nil` for the context that the worker's was derived from. -/
  | parentErr
  /-- `RunCancellationRequested`. -/
  | runCancellationRequested (runId : String)
  | control (op : Op)
  | service (request : V.Request)

variable {V}

abbrev Call.Answer : Call V → Type
  | now => Time
  | contextErr => Bool
  | contextCause => Option Cause
  | parentErr => Bool
  | runCancellationRequested _ => Option Bool
  | control op => Option op.Reply
  | service request => V.Reply request

end

/-! ## Programs of one call -/

section

variable {V : Service} {ε : Type}

abbrev timeNow : Prog (Call V) Call.Answer ε Time := Prog.perform (Call.now : Call V)

abbrev contextErr : Prog (Call V) Call.Answer ε Bool := Prog.perform (Call.contextErr : Call V)

abbrev contextCause : Prog (Call V) Call.Answer ε (Option Cause) := Prog.perform (Call.contextCause : Call V)

abbrev parentErr : Prog (Call V) Call.Answer ε Bool := Prog.perform (Call.parentErr : Call V)

/-- The answer of `RunCancellationRequested`; `none` is an error. -/
abbrev askCancellation (runId : String) : Prog (Call V) Call.Answer ε (Option Bool) :=
  Prog.perform (Call.runCancellationRequested runId : Call V)

/-- An operation on the control store; `none` is an error. -/
abbrev controlOp (op : Op) : Prog (Call V) Call.Answer ε (Option op.Reply) :=
  Prog.perform (Call.control op : Call V)

abbrev request (r : V.Request) : Prog (Call V) Call.Answer ε (V.Reply r) :=
  Prog.perform (Call.service r : Call V)

end

/-! ## Worlds -/

variable (V : Service)

inductive Event where
  /-- An operation of another client, and the store before it. -/
  | foreign (op : Op) (before : Store)
  /-- The context of the worker ends. -/
  | contextEnded (cause : Cause)
  /-- The context that the worker's was derived from ends. -/
  | parentEnded
  /-- A call of the worker, with its answer unless it is still in progress. -/
  | call (c : Call V) (time : Time) (fault : Fault) (answer : Option c.Answer)
      (before after : Store)

structure World where
  store : Store
  cause : Option Cause
  parentDone : Bool
  log : List (Event V)

/-- What happens between two calls. -/
inductive Disturbance where
  | operation (op : Op)
  | contextEnds (cause : Cause)
  | parentEnds

structure Move where
  disturbances : List Disturbance
  now : Time
  fault : Fault
  hangs : Bool
  reply : (request : V.Request) → V.Reply request

variable {V}

namespace World

def disturb (w : World V) : Disturbance → World V
  | .operation op => { w with store := w.store.apply op, log := w.log ++ [.foreign op w.store] }
  | .contextEnds cause =>
      { w with cause := some (w.cause.getD cause), log := w.log ++ [.contextEnded cause] }
  | .parentEnds =>
      { w with
        parentDone := true, cause := some (w.cause.getD .canceled), log := w.log ++ [.parentEnded] }

def disturbed (w : World V) (disturbances : List Disturbance) : World V :=
  disturbances.foldl disturb w

/-- The answer to a call and the store after it. -/
def respond (w : World V) (m : Move V) : (c : Call V) → c.Answer × Store
  | .now => (m.now, w.store)
  | .contextErr => (w.cause.isSome, w.store)
  | .contextCause => (w.cause, w.store)
  | .parentErr => (w.parentDone, w.store)
  | .runCancellationRequested runId =>
      (if m.fault = .none then (w.store.runCancellationRequested runId).toOption else none, w.store)
  | .control op =>
      match m.fault with
      | .none =>
          match w.store.attempt op with
          | .error _ => (none, w.store)
          | .ok (reply, store) => (some reply, store)
      | .refused => (none, w.store)
      | .lost => (none, w.store.apply op)
  | .service request => (m.reply request, w.store)

end World

def handler : Handler (Call V) Call.Answer (Move V) (World V) := fun c m w =>
  let w := w.disturbed m.disturbances
  let answer := if m.hangs then none else some (w.respond m c).1
  (answer, { w with
    store := (w.respond m c).2
    log := w.log ++ [.call c m.now m.fault answer w.store (w.respond m c).2] })

theorem store_handler (c : Call V) (m : Move V) (w : World V) :
    (handler c m w).2.store = ((w.disturbed m.disturbances).respond m c).2 := rfl

/-- The log grows by the disturbances and the call. -/
theorem log_handler (c : Call V) (m : Move V) (w : World V) :
    (handler c m w).2.log = (w.disturbed m.disturbances).log ++
      [.call c m.now m.fault (handler c m w).1 (w.disturbed m.disturbances).store
        (handler c m w).2.store] := rfl

theorem respond_of_handler {c : Call V} {m : Move V} {w : World V} {answer : c.Answer}
    (answered : (handler c m w).1 = some answer) :
    ((w.disturbed m.disturbances).respond m c).1 = answer := by
  unfold handler at answered
  split at answered
  · cases answered
  · exact Option.some.inj answered

/-! ## Observations -/

section Observations

variable {O : Type}

/-- What a projection of calls and answers makes of an event. -/
def Event.observed (observe : (c : Call V) → c.Answer → Option O) : Event V → Option O
  | .call c _ _ (some answer) _ _ => observe c answer
  | _ => none

/-- The event is a call of the worker. -/
def Event.isCall : Event V → Bool
  | .call _ _ _ _ _ _ => true
  | _ => false

/-- The answered calls of a log, as a projection sees them. -/
def World.observed (observe : (c : Call V) → c.Answer → Option O) (w : World V) : List O :=
  w.log.filterMap (Event.observed observe)

variable {observe : (c : Call V) → c.Answer → Option O}

/-- The disturbances of a move are logged, and not observed. -/
theorem log_disturbed (w : World V) (disturbances : List Disturbance) :
    ∃ before, (w.disturbed disturbances).log = w.log ++ before ∧
      ∀ e ∈ before, e.isCall = false := by
  unfold World.disturbed
  induction disturbances generalizing w with
  | nil => exact ⟨[], by simp, by simp⟩
  | cons d disturbances ih =>
      obtain ⟨before, grown, background⟩ := ih (w.disturb d)
      have here : ∃ e, (w.disturb d).log = w.log ++ [e] ∧ e.isCall = false := by
        cases d <;> exact ⟨_, rfl, rfl⟩
      obtain ⟨e, logged, silent⟩ := here
      refine ⟨e :: before, by rw [List.foldl_cons, grown, logged]; simp, ?_⟩
      simpa [silent] using background

theorem Event.observed_of_background {e : Event V} (background : e.isCall = false) :
    e.observed observe = none := by
  cases e with
  | call => cases background
  | _ => rfl

theorem observed_disturbed (w : World V) (disturbances : List Disturbance) :
    (w.disturbed disturbances).observed observe = w.observed observe := by
  obtain ⟨before, grown, background⟩ := log_disturbed w disturbances
  have silent : before.filterMap (Event.observed observe) = [] :=
    List.filterMap_eq_nil_iff.mpr fun e member => Event.observed_of_background (background e member)
  rw [World.observed, grown, List.filterMap_append, silent, List.append_nil]
  rfl

/-- What a call adds to a projection of the log that does not see the disturbances. -/
theorem filterMap_handler {f : Event V → Option O} (silent : ∀ e : Event V, e.isCall = false → f e = none)
    (c : Call V) (m : Move V) (w : World V) :
    (handler c m w).2.log.filterMap f = w.log.filterMap f ++ (f (.call c m.now m.fault
      (handler c m w).1 (w.disturbed m.disturbances).store (handler c m w).2.store)).toList := by
  obtain ⟨before, grown, background⟩ := log_disturbed w m.disturbances
  have unseen : before.filterMap f = [] :=
    List.filterMap_eq_nil_iff.mpr fun e member => silent e (background e member)
  rw [log_handler, grown, List.filterMap_append, List.filterMap_append, unseen, List.append_nil]
  refine congrArg (w.log.filterMap f ++ ·) ?_
  rw [List.filterMap_cons]
  cases f _ <;> rfl

/-- An answered call is observed. -/
theorem observed_handler {c : Call V} {m : Move V} {w : World V} {answer : c.Answer}
    (answered : (handler c m w).1 = some answer) :
    (handler c m w).2.observed observe = w.observed observe ++ (observe c answer).toList := by
  have same : (handler c m w).2.observed observe = (w.disturbed m.disturbances).observed observe ++
      (Event.observed observe (.call c m.now m.fault (handler c m w).1 (w.disturbed m.disturbances).store
        ((w.disturbed m.disturbances).respond m c).2)).toList := by
    simp [World.observed, handler, List.filterMap_append, List.filterMap_cons]
    cases Event.observed observe _ <;> rfl
  rw [same, observed_disturbed, answered]
  rfl

/-- A call that the projection does not see leaves the observations alone. -/
theorem observed_silent {c : Call V} {m : Move V} {w : World V}
    (silent : ∀ answer, observe c answer = none) :
    (handler c m w).2.observed observe = w.observed observe := by
  have unseen : Event.observed observe (.call c m.now m.fault (handler c m w).1
      (w.disturbed m.disturbances).store (handler c m w).2.store) = none := by
    cases (handler c m w).1 with
    | none => rfl
    | some answer => exact silent answer
  rw [World.observed, log_handler, List.filterMap_append, List.filterMap_cons_none unseen,
    List.filterMap_nil, List.append_nil]
  exact observed_disturbed w m.disturbances

end Observations

end UnifiedInfraTopology
