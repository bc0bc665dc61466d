import UnifiedInfraTopology.Worker.Calls
import UnifiedInfraTopology.Worker.RunStatus
import UnifiedInfraTopology.Worker.Progress

/-!
# What an execution has achieved

The landmarks of an execution are the answered calls that its outcome depends on: which pages were
read, which writes returned, which cursors were stored, how far the run was moved.

`Trail` says what has happened so far: the landmarks in their order, and a property of the cursor that
the run has stored.  Programs without landmarks keep it (`trail_idle`), and each call with a landmark
has a lemma of its own.
-/

namespace UnifiedInfraTopology

open Lib

/-! ## Landmarks -/

inductive Landmark where
  /-- `CoversFullSource` was answered. -/
  | covered (entity : EntityType) (answer : Option Bool)
  /-- `BeginCheckpoint` has succeeded. -/
  | begun (checkpoint : DeviceSyncCheckpoint)
  /-- A page was read. -/
  | page (pass : Pass) (page : EntityPage)
  /-- `UpsertVertex` was called. -/
  | launched (vertex : TopologyVertex)
  /-- `UpsertVertex` has returned. -/
  | vertex (vertex : TopologyVertex) (written : Bool)
  /-- `UpsertRelation` has returned. -/
  | relation (relation : Relation) (written : Bool)
  /-- `AdvanceCheckpoint` has succeeded. -/
  | advanced (cursor : DeviceSyncCursor)
  /-- `TransitionRun` has succeeded. -/
  | moved (target : SyncRunStatus)
deriving DecidableEq

/-- The landmark of an answered call. -/
def landmark : (c : Call syncService) → c.Answer → Option Landmark
  | .control (.beginCheckpoint _ _ _ _ _), some checkpoint => some (.begun checkpoint)
  | .control (.advanceCheckpoint _ _ _ cursor _), some () => some (.advanced cursor)
  | .control (.transitionRun _ _ target _ _), some () => some (.moved target)
  | .service (.coversFullSource _ entity), answer => some (.covered entity answer)
  | .service (.passPage pass _), some page => some (.page pass page)
  | .service (.collectEntityPage pass _ _ _), some page => some (.page pass page)
  | .service (.collectDevicePage pass _ _), some page =>
      some (.page pass (entityPageOfDevices page))
  | .service (.startVertex v), () => some (.launched v)
  | .service (.upsertVertex v), written => some (.vertex v written)
  | .service (.upsertRelation r), written => some (.relation r written)
  | _, _ => none

abbrev World.landmarks (w : World syncService) : List Landmark := w.observed landmark

namespace Landmark

/-- The page of a pass. -/
def page? (pass : Pass) : Landmark → Option EntityPage
  | page p read => if p = pass then some read else none
  | _ => none

/-- The vertex that was written. -/
def vertex? : Landmark → Option TopologyVertex
  | vertex v true => some v
  | _ => none

/-- The relation that was written. -/
def relation? : Landmark → Option Relation
  | relation r true => some r
  | _ => none

/-- The cursor that was stored. -/
def cursor? : Landmark → Option DeviceSyncCursor
  | begun checkpoint => some checkpoint.cursor
  | advanced cursor => some cursor
  | _ => none

/-- The checkpoint that was begun. -/
def begun? : Landmark → Option DeviceSyncCheckpoint
  | begun checkpoint => some checkpoint
  | _ => none

end Landmark

/-- The call has no landmark, and is not an operation on a checkpoint. -/
def Call.idle : Call syncService → Bool
  | .control _ => false
  | .service r =>
      match r with
      | .validate _ | .selectedEntity _ | .openEntityPass _ _ _ | .vertexExists _ => true
      | .schedule | .startRelation _ | .deleteOrphanVerticesNotSeen _ _ _ => true
      | _ => false
  | _ => true

theorem landmark_idle {c : Call syncService} (idle : c.idle = true) (answer : c.Answer) :
    landmark c answer = none := by
  cases c with
  | control op => cases idle
  | service r => cases r <;> first | rfl | cases idle
  | _ => rfl

/-! ## The stored cursor -/

/-- No other client acts for the run. -/
def Alone {V : Service} (runId : String) (w : World V) : Prop :=
  ∀ op before, Event.foreign op before ∈ w.log → op.owns runId = false

/-- The event is not an operation of another client for the run. -/
def Event.unowned {V : Service} (runId : String) : Event V → Bool
  | .foreign op _ => !op.owns runId
  | _ => true

theorem alone_iff {V : Service} {runId : String} {w : World V} :
    Alone runId w ↔ ∀ e ∈ w.log, e.unowned runId = true := by
  constructor
  · intro alone e member
    cases e with
    | foreign op before => simp [Event.unowned, alone op before member]
    | _ => rfl
  · intro each op before member
    simpa [Event.unowned] using each _ member

instance {V : Service} (runId : String) (w : World V) : Decidable (Alone runId w) :=
  decidable_of_iff _ alone_iff.symm

theorem alone_disturbed {V : Service} {runId : String} {w : World V}
    {disturbances : List Disturbance} (alone : Alone runId (w.disturbed disturbances)) :
    Alone runId w := by
  intro op before member
  obtain ⟨more, grown, -⟩ := log_disturbed w disturbances
  exact alone op before (by rw [grown]; exact List.mem_append_left _ member)

theorem alone_handler {V : Service} {runId : String} {c : Call V} {m : Move V} {w : World V}
    (alone : Alone runId (handler c m w).2) : Alone runId (w.disturbed m.disturbances) := by
  intro op before member
  exact alone op before (by rw [log_handler]; exact List.mem_append_left _ member)

/-- The checkpoints of the run have cursors with this property. -/
structure CursorKept {V : Service} (runId : String) (P : String × String → DeviceSyncCursor → Prop)
    (w : World V) : Prop where
  checkpoints : CheckpointsOk w.store
  cursor : Alone runId w → ∀ key checkpoint, w.store.checkpoint? key = some checkpoint →
    checkpoint.cursor.runId = runId → P key checkpoint.cursor

/-- The operations of others on checkpoints leave the cursor of the run alone. -/
theorem CheckpointMove.foreign {s : Store} {op : Op} {key : String × String} {runId : String}
    {stored next : Option DeviceSyncCheckpoint} (move : CheckpointMove s op key stored next)
    (foreign : op.owns runId = false) :
    ∀ checkpoint, next = some checkpoint → checkpoint.cursor.runId = runId →
      ∃ previous, stored = some previous ∧ previous.cursor = checkpoint.cursor := by
  intro checkpoint now own
  cases move with
  | same => exact ⟨checkpoint, now, rfl⟩
  | begun =>
      cases now
      simp [Op.owns, Store.freshCursor] at foreign own
      exact (foreign own).elim
  | resumed _ _ named =>
      cases now
      simp [Op.owns] at foreign
      exact (foreign (named.symm.trans own)).elim
  | advanced _ _ _ named =>
      cases now
      simp [Op.owns, DeviceSyncCursor.truncated] at foreign own
      exact (foreign (named.symm.trans own)).elim
  | completed _ _ named =>
      cases now
      simp [Op.owns] at foreign
      exact (foreign (named.symm.trans own)).elim

/-- The operation may store another cursor. -/
def Op.storesCursor : Op → Bool
  | .beginCheckpoint _ _ _ _ _ | .advanceCheckpoint _ _ _ _ _ => true
  | _ => false

/-- The other operations leave every cursor alone. -/
theorem CheckpointMove.quiet {s : Store} {op : Op} {key : String × String}
    {stored next : Option DeviceSyncCheckpoint} (move : CheckpointMove s op key stored next)
    (keeps : op.storesCursor = false) :
    ∀ checkpoint, next = some checkpoint →
      ∃ previous, stored = some previous ∧ previous.cursor = checkpoint.cursor := by
  intro checkpoint now
  cases move with
  | same => exact ⟨checkpoint, now, rfl⟩
  | completed =>
      cases now
      exact ⟨_, rfl, rfl⟩
  | _ => cases keeps

section CursorKept

variable {V : Service} {runId : String} {P : String × String → DeviceSyncCursor → Prop}
  {w : World V}

theorem cursorKept_disturbed (kept : CursorKept runId P w) (disturbances : List Disturbance) :
    CursorKept runId P (w.disturbed disturbances) := by
  induction disturbances generalizing w with
  | nil => exact kept
  | cons d disturbances ih =>
      refine ih (w := w.disturb d) ?_
      cases d with
      | operation op =>
          refine ⟨kept.checkpoints.apply op, fun alone key checkpoint stored own => ?_⟩
          have foreign : op.owns runId = false :=
            alone op w.store (List.mem_append_right _ (List.mem_singleton_self _))
          have before : Alone runId w := fun op' before member =>
            alone op' before (List.mem_append_left _ member)
          obtain ⟨previous, held, same⟩ :=
            (checkpointMove_apply kept.checkpoints op key).foreign foreign checkpoint stored own
          rw [← same] at own ⊢
          exact kept.cursor before key previous held own
      | contextEnds cause =>
          refine ⟨kept.checkpoints, fun alone => kept.cursor fun op before member => ?_⟩
          exact alone op before (List.mem_append_left _ member)
      | parentEnds =>
          refine ⟨kept.checkpoints, fun alone => kept.cursor fun op before member => ?_⟩
          exact alone op before (List.mem_append_left _ member)

/-- A call that stores no cursor. -/
theorem cursorKept_handler {c : Call V} {m : Move V}
    (keeps : ∀ op, c = .control op → op.storesCursor = false) (kept : CursorKept runId P w) :
    CursorKept runId P (handler c m w).2 := by
  have before := cursorKept_disturbed kept m.disturbances
  have move : CheckpointsOk (handler c m w).2.store ∧ ∀ key checkpoint,
      (handler c m w).2.store.checkpoint? key = some checkpoint →
        ∃ previous, (w.disturbed m.disturbances).store.checkpoint? key = some previous ∧
          previous.cursor = checkpoint.cursor := by
    cases c with
    | control op =>
        rw [store_handler]
        rcases respond_control (w.disturbed m.disturbances) m op with same | applied
        · rw [same]
          exact ⟨before.checkpoints, fun _ checkpoint stored => ⟨checkpoint, stored, rfl⟩⟩
        · rw [applied]
          exact ⟨before.checkpoints.apply op, fun key =>
            (checkpointMove_apply before.checkpoints op key).quiet (keeps op rfl)⟩
    | _ => exact ⟨before.checkpoints, fun _ checkpoint stored => ⟨checkpoint, stored, rfl⟩⟩
  refine ⟨move.1, fun alone key checkpoint stored own => ?_⟩
  obtain ⟨previous, held, same⟩ := move.2 key checkpoint stored
  rw [← same] at own ⊢
  exact before.cursor (alone_handler alone) key previous held own

/-- A call that was answered with a success had the effect of its operation. -/
theorem attempt_of_answer {op : Op} {m : Move V} {reply : op.Reply}
    (answered : (handler (.control op) m w).1 = some (some reply)) :
    (w.disturbed m.disturbances).store.attempt op =
      .ok (reply, (handler (.control op) m w).2.store) := by
  have respond_eq := respond_of_handler answered
  rw [store_handler]
  generalize w.disturbed m.disturbances = w' at respond_eq ⊢
  cases fault : m.fault with
  | none =>
      cases outcome : w'.store.attempt op with
      | error e =>
          simp only [World.respond, fault, outcome] at respond_eq
          cases respond_eq
      | ok result =>
          simp only [World.respond, fault, outcome] at respond_eq ⊢
          cases respond_eq
          rfl
  | refused =>
      simp only [World.respond, fault] at respond_eq
      cases respond_eq
  | lost =>
      simp only [World.respond, fault] at respond_eq
      cases respond_eq

end CursorKept

/-! ## The trail -/

/-- What has happened so far: the landmarks and, in a store that was sound at the start, the cursors
that the run has stored. -/
structure Trail (runId : String) (sound : Prop) (P : String × String → DeviceSyncCursor → Prop)
    (trace : List Landmark) (w : World syncService) : Prop where
  landmarks : w.landmarks = trace
  kept : sound → CursorKept runId P w

section Trail

variable {runId : String} {sound : Prop} {P : String × String → DeviceSyncCursor → Prop}
  {trace : List Landmark} {w : World syncService} {ε α : Type}

/-- A call that was answered, and stores no cursor. -/
theorem Trail.call {c : Call syncService} {m : Move syncService} {answer : c.Answer}
    (trail : Trail runId sound P trace w) (keeps : ∀ op, c = .control op → op.storesCursor = false)
    (answered : (handler c m w).1 = some answer) :
    Trail runId sound P (trace ++ (landmark c answer).toList) (handler c m w).2 :=
  ⟨by rw [World.landmarks, observed_handler answered, ← trail.landmarks],
    fun here => cursorKept_handler keeps (trail.kept here)⟩

theorem Call.idle_control {c : Call syncService} (idle : c.idle = true) :
    ∀ op, c = .control op → op.storesCursor = false := by
  rintro op rfl
  cases idle

theorem Trail.idle {c : Call syncService} {m : Move syncService}
    (trail : Trail runId sound P trace w) (idle : c.idle = true) :
    Trail runId sound P trace (handler c m w).2 :=
  ⟨(observed_silent (landmark_idle idle)).trans trail.landmarks,
    fun here => cursorKept_handler (Call.idle_control idle) (trail.kept here)⟩

/-- Programs without landmarks keep the trail. -/
theorem trail_idle {p : SyncProg ε α} (calls : p.Only fun c => c.idle = true)
    (trail : Trail runId sound P trace w) :
    Prog.Ensures handler p (fun _ w' => Trail runId sound P trace w') w :=
  Prog.ensures_of_only calls (fun _ _ _ idle here => here.idle idle) trail

/-- The cursors of a run that was started at this time. -/
def Started (startedAt : Time) (_ : String × String) (cursor : DeviceSyncCursor) : Prop :=
  cursor.snapshotAt = startedAt.truncateMicro

/-- The cursor of the checkpoint with this key. -/
def StoredAs (startedAt : Time) (sourceId resource : String) (stored : DeviceSyncCursor)
    (key : String × String) (cursor : DeviceSyncCursor) : Prop :=
  key = (sourceId, resource) → cursor = stored ∧ Started startedAt key cursor

/-- A checkpoint that was begun is the stored one. -/
theorem Trail.begun {sourceId resource : String} {startedAt leaseAt : Time} {m : Move syncService}
    {checkpoint : DeviceSyncCheckpoint} (trail : Trail runId sound (Started startedAt) trace w)
    (answered : (handler (.control (.beginCheckpoint sourceId resource runId startedAt leaseAt)) m
      w).1 = some (some checkpoint)) :
    Trail runId sound (StoredAs startedAt sourceId resource checkpoint.cursor)
      (trace ++ [.begun checkpoint])
      (handler (.control (.beginCheckpoint sourceId resource runId startedAt leaseAt)) m w).2 := by
  refine ⟨?_, fun here => ?_⟩
  · rw [World.landmarks, observed_handler answered, ← trail.landmarks]
    rfl
  have attempted := attempt_of_answer answered
  have before := cursorKept_disturbed (trail.kept here) m.disturbances
  have applied := Store.apply_of_attempt attempted
  refine ⟨applied ▸ before.checkpoints.apply _, fun alone key stored found own same => ?_⟩
  subst same
  obtain ⟨row, placed, decoded, -⟩ := row_of_begin attempted
  cases (Store.checkpoint?_of_decode placed decoded).symm.trans found
  refine ⟨rfl, ?_⟩
  have move := checkpointMove_apply before.checkpoints
    (.beginCheckpoint sourceId resource runId startedAt leaseAt) (sourceId, resource)
  rw [applied, found] at move
  have earlier := before.cursor (alone_handler alone) (sourceId, resource)
  generalize (w.disturbed m.disturbances).store.checkpoint? (sourceId, resource) = previous
    at move earlier
  cases move with
  | same => exact earlier _ rfl own
  | begun => rfl
  | @resumed _ _ _ _ _ previous _ _ named => exact earlier previous rfl named

/-- A cursor that was stored. -/
theorem Trail.advanced {sourceId resource : String} {startedAt updatedAt : Time}
    {m : Move syncService} {cursor next : DeviceSyncCursor} (truncated : next.truncated = next)
    (trail : Trail runId sound (StoredAs startedAt sourceId resource cursor) trace w)
    (answered : (handler (.control (.advanceCheckpoint sourceId resource runId next updatedAt)) m
      w).1 = some (some ())) :
    Trail runId sound (StoredAs startedAt sourceId resource next) (trace ++ [.advanced next])
      (handler (.control (.advanceCheckpoint sourceId resource runId next updatedAt)) m w).2 := by
  refine ⟨?_, fun here => ?_⟩
  · rw [World.landmarks, observed_handler answered, ← trail.landmarks]
    rfl
  have attempted := attempt_of_answer answered
  have before := cursorKept_disturbed (trail.kept here) m.disturbances
  have applied := Store.apply_of_attempt attempted
  refine ⟨applied ▸ before.checkpoints.apply _, fun alone key stored found own same => ?_⟩
  subst same
  have move := checkpointMove_apply before.checkpoints
    (.advanceCheckpoint sourceId resource runId next updatedAt) (sourceId, resource)
  have accepted : (w.disturbed m.disturbances).store.accepts
      (.advanceCheckpoint sourceId resource runId next updatedAt) = true := by
    simp [Store.accepts, Store.execute_eq_attempt, attempted, Except.map, Except.toOption]
  rw [applied, found] at move
  have earlier := before.cursor (alone_handler alone) (sourceId, resource)
  generalize (w.disturbed m.disturbances).store.checkpoint? (sourceId, resource) = previous
    at move earlier
  cases move with
  | same stored idle => exact (idle accepted rfl).elim
  | advanced _ _ owned _ ahead =>
      refine ⟨truncated, ?_⟩
      exact ahead.snapshotAt.trans (earlier _ rfl owned rfl).2

/-- What a worker reads from a checkpoint that was begun. -/
theorem cursor_of_begin {s s' : Store} {sourceId resource : String} {startedAt leaseAt : Time}
    {checkpoint : DeviceSyncCheckpoint}
    (begun : s.beginCheckpoint sourceId resource runId startedAt leaseAt = .ok (checkpoint, s')) :
    checkpoint.cursor.runId = runId ∧ checkpoint.cursor.truncated = checkpoint.cursor ∧
      0 ≤ checkpoint.cursor.nextOffset ∧ 0 ≤ checkpoint.cursor.total := by
  obtain ⟨row, -, decoded, -, own, -⟩ := row_of_begin begun
  refine ⟨own, truncated_of_decode decoded, ?_⟩
  have valid := (checks_of_decode decoded).1
  unfold validateInventoryResourceCursor at valid
  split_ifs at valid with others bad
  · obtain ⟨-, -, offset, -, -, -, total⟩ := validateDeviceSyncCursor_ok valid
    exact ⟨offset, total⟩
  · simp only [not_or, not_lt] at bad
    exact ⟨bad.2.2.2.1, bad.2.2.2.2.1⟩

end Trail

end UnifiedInfraTopology
