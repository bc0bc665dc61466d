import UnifiedInfraTopology.Repository.Control

/-!
# Invariants of runs

What holds of the run table after any sequence of control-store operations, in any order and with
any arguments and times, from an empty run table.

* `oneActive_applyAll`: at most one run of a source is active.
* `cancel_final`: a publishing run has no cancellation request, and a run whose cancellation was
  accepted is never published.
* `wellFormed_applyAll`: lease, end, error code and start agree with the status, and a finished run
  stays as it is.

Each is a property of rows that `RunStep` keeps; none looks at an operation again.
-/

namespace UnifiedInfraTopology

open Lib

/-- A control store that has no run yet. -/
def Store.withoutRuns (sources : Table Source Source.id) (checkpoints : Checkpoints) : Store :=
  ⟨sources, .empty, checkpoints⟩

/-! ## One active run for each source -/

/-- No operation makes a run active again. -/
theorem RunStep.active {op : Op} {r r' : SyncRun} (step : RunStep op r r')
    (active : r'.status.active = true) : r.status.active = true := by
  cases step with
  | same => exact active
  | cancelQueued now queued => rw [queued]; rfl
  | cancelRequested now held fresh => exact active
  | claimed target startedAt queued uncanceled => rw [queued]; rfl
  | transitioned allowed coded current uncanceled =>
      exact SyncRunStatus.active_of_executing (executing_of_transition allowed)
  | renewed executing current => exact active
  | advanced running uncanceled current => exact active
  | completed publishing uncanceled current => rw [publishing]; rfl
  | expiredCanceled executing stale requested expires =>
      exact SyncRunStatus.active_of_executing executing
  | expiredFailed executing stale unrequested expires =>
      exact SyncRunStatus.active_of_executing executing

/-- Two active runs of one source are the same run. -/
def OneActive (rows : List SyncRun) : Prop :=
  ∀ r ∈ rows, ∀ r' ∈ rows, r.sourceId = r'.sourceId →
    r.status.active = true → r'.status.active = true → r = r'

theorem OneActive.rowsStep {op : Op} {before after : List SyncRun} (one : OneActive before)
    (step : RowsStep op before after) : OneActive after := by
  obtain ⟨f, rfl, steps⟩ := step
  intro r member r' member' source active active'
  obtain ⟨a, inside, rfl⟩ := List.mem_map.mp member
  obtain ⟨b, inside', rfl⟩ := List.mem_map.mp member'
  have first := steps a inside
  have second := steps b inside'
  rw [first.sourceId_eq, second.sourceId_eq] at source
  rw [one a inside b inside' source (first.active active) (second.active active')]

theorem OneActive.apply {op : Op} {s : Store} (one : OneActive s.runs.rows) :
    OneActive (s.apply op).runs.rows := by
  rcases Store.rows_apply op s with step | ⟨request, now, rows, -, step, grown, -, idle⟩
  · exact one.rowsStep step
  · have kept := one.rowsStep step
    rw [grown]
    intro r member r' member' source active active'
    rw [List.mem_append, List.mem_singleton] at member member'
    rcases member with old | rfl
    · rcases member' with old' | rfl
      · exact kept r old r' old' source active active'
      · have := idle r old source
        rw [this] at active
        cases active
    · rcases member' with old' | rfl
      · have := idle r' old' source.symm
        rw [this] at active'
        cases active'
      · rfl

/-- **At most one active run for each source**, in every state reached from an empty run table. -/
theorem oneActive_applyAll (sources : Table Source Source.id) (checkpoints : Checkpoints)
    (ops : List Op) (sourceId : String) :
    (((Store.withoutRuns sources checkpoints).applyAll ops).runs.rows.filter fun r =>
      decide (r.sourceId = sourceId) && r.status.active).length ≤ 1 := by
  have one : OneActive ((Store.withoutRuns sources checkpoints).applyAll ops).runs.rows := by
    refine Store.applyAll_invariant (I := fun s => OneActive s.runs.rows) ?_ fun op _ s => .apply
    intro r member
    cases member
  generalize ((Store.withoutRuns sources checkpoints).applyAll ops).runs = runs at one
  have distinct : (runs.rows.filter fun r => decide (r.sourceId = sourceId) && r.status.active).Nodup :=
    (List.Nodup.of_map _ runs.nodup).filter _
  rcases shape : runs.rows.filter (fun r => decide (r.sourceId = sourceId) && r.status.active) with
    _ | ⟨r, _ | ⟨r', rest⟩⟩
  · simp [shape]
  · simp [shape]
  · have inside : ∀ x ∈ r :: r' :: rest, x ∈ runs.rows ∧ x.sourceId = sourceId ∧
        x.status.active = true := by
      intro x member
      rw [← shape, List.mem_filter] at member
      simpa using member
    obtain ⟨here, source, active⟩ := inside r (by simp)
    obtain ⟨here', source', active'⟩ := inside r' (by simp)
    have same := one r here r' here' (source.trans source'.symm) active active'
    rw [shape, same] at distinct
    exact absurd distinct (by simp)

/-! ## Cancellation -/

/-- A run that is being published has no cancellation request. -/
def PublishedUncanceled (r : SyncRun) : Prop := r.status = .publishing → r.cancelRequestedAt = none

theorem PublishedUncanceled.step {op : Op} {r r' : SyncRun} (step : RunStep op r r')
    (before : PublishedUncanceled r) : PublishedUncanceled r' := by
  cases step with
  | same => exact before
  | cancelRequested now held fresh =>
      intro publishing
      exact absurd publishing (by rcases held with h | h <;> simp [Store.requested, h])
  | transitioned allowed coded current uncanceled => exact uncanceled
  | renewed executing current => exact before
  | advanced running uncanceled current => exact before
  | _ => nofun

/-- A run that can no longer be published: its cancellation was requested, or it ended otherwise. -/
def Doomed (r : SyncRun) : Prop :=
  r.status = .canceled ∨ r.status = .failed ∨
    (r.status = .running ∨ r.status = .validating) ∧ r.cancelRequestedAt.isSome = true

theorem Doomed.not_queued {r : SyncRun} (doomed : Doomed r) : r.status ≠ .queued := by
  rintro queued
  simp [Doomed, queued] at doomed

theorem Doomed.not_publishing {r : SyncRun} (doomed : Doomed r) : r.status ≠ .publishing := by
  rintro publishing
  simp [Doomed, publishing] at doomed

theorem Doomed.step {op : Op} {r r' : SyncRun} (step : RunStep op r r') (doomed : Doomed r) :
    Doomed r' := by
  cases step with
  | same => exact doomed
  | cancelQueued now queued => exact absurd queued doomed.not_queued
  | cancelRequested now held fresh => exact Or.inr (Or.inr ⟨held, rfl⟩)
  | claimed target startedAt queued uncanceled => exact absurd queued doomed.not_queued
  | transitioned allowed coded current uncanceled =>
      rcases doomed with canceled | failed | ⟨held, requested⟩
      · rw [canceled] at allowed
        cases allowed
      · rw [failed] at allowed
        cases allowed
      · rcases target_of_transition allowed with rfl | rfl | ended
        · exact Or.inr (Or.inr ⟨Or.inr rfl, requested⟩)
        · rw [uncanceled rfl] at requested
          cases requested
        · rcases SyncRunStatus.terminal_iff.mp ended with rfl | rfl | rfl
          · have := source_of_succeeded allowed
            rcases held with h | h <;> rw [h] at this <;> cases this
          · exact Or.inr (Or.inl rfl)
          · exact Or.inl rfl
  | renewed executing current => exact doomed
  | advanced running uncanceled current => exact doomed
  | completed publishing uncanceled current => exact absurd publishing doomed.not_publishing
  | expiredCanceled executing stale requested expires => exact Or.inl rfl
  | expiredFailed executing stale unrequested expires => exact Or.inr (Or.inl rfl)

/-- A `Cancel` that returns without error dooms its run. -/
theorem doomed_of_cancel {runId : String} {now : Time} {result : SyncRun × Bool} {s s' : Store}
    (ok : s.cancel runId now = .ok (result, s')) :
    ∃ r, s'.runs.find? runId = some r ∧ Doomed r := by
  unfold Store.cancel at ok
  split at ok
  · cases ok
  · rename_i run found
    have id := Table.key_of_find? found
    have request : ∀ held : run.status = .running ∨ run.status = .validating,
        (if run.cancelRequestedAt.isNone then
          Except.ok ((Store.requested now.truncateMicro run, true), { s with
            runs := s.runs.update (fun r => decide (r.id = runId))
              (Store.requested now.truncateMicro) (Store.id_requested _) })
        else .ok ((run, false), s) : Except InventoryError _) = .ok (result, s') →
        ∃ r, s'.runs.find? runId = some r ∧ Doomed r := by
      intro held ok
      split at ok
      · cases ok
        refine ⟨Store.requested now.truncateMicro run, ?_, Or.inr (Or.inr ⟨held, rfl⟩)⟩
        simp [Table.find?_update, found, id]
      · rename_i before
        cases ok
        exact ⟨run, found, Or.inr (Or.inr ⟨held, by simpa [Option.isSome_iff_ne_none] using before⟩)⟩
    dsimp only at ok
    split at ok
    · rename_i canceled
      cases ok
      exact ⟨run, found, Or.inl canceled⟩
    · cases ok
      refine ⟨Store.canceled now.truncateMicro run, ?_, Or.inl rfl⟩
      simp [Table.find?_update, found, id]
    · rename_i running
      exact request (Or.inl running) ok
    · rename_i validating
      exact request (Or.inr validating) ok
    · cases ok
    · cases ok

/-- **Cancellation is final.**  In every state reached by enqueueing queued runs, a publishing run
has no cancellation request; and after a `Cancel` without error the run is never publishing or
succeeded, so that it can only end canceled or failed. -/
theorem cancel_final (sources : Table Source Source.id) (checkpoints : Checkpoints) (ops : List Op)
    (queued : ∀ request now, Op.enqueue request now ∈ ops → request.status = .queued) :
    (∀ r ∈ ((Store.withoutRuns sources checkpoints).applyAll ops).runs.rows,
      r.status = .publishing → r.cancelRequestedAt = none) ∧
    ∀ runId now result s',
      ((Store.withoutRuns sources checkpoints).applyAll ops).cancel runId now = .ok (result, s') →
      ∀ more, ∃ r, (s'.applyAll more).runs.find? runId = some r ∧
        r.status ≠ .publishing ∧ r.status ≠ .succeeded ∧
        (r.status.terminal = true → r.status = .canceled ∨ r.status = .failed) := by
  constructor
  · refine Store.rows_invariant (P := PublishedUncanceled) (fun r member => by cases member) ?_
      fun _ _ _ => .step
    intro request now listed publishing
    rw [queued request now listed] at publishing
    cases publishing
  · intro runId now result s' ok more
    obtain ⟨r, found, doomed⟩ := doomed_of_cancel ok
    obtain ⟨r', stored, doomed⟩ := Store.run_invariant found doomed (fun _ _ _ => Doomed.step) more
    refine ⟨r', stored, ?_⟩
    rcases doomed with h | h | ⟨h | h, -⟩ <;> simp [h, SyncRunStatus.terminal]

/-- A run as a client requests it. -/
def queuedRun (id sourceId : String) : SyncRun :=
  ⟨id, sourceId, .queued, "full", "hash", "key", "user", none, 1000, none, none, "", none⟩

/-- The source with a given id. -/
def oneSource (id : String) : Table Source Source.id :=
  ⟨[⟨id, "lab", "cmdb", "ref", true⟩], by simp⟩

/-- A cancellation that reaches a claimed run first keeps it from being published. -/
theorem cancel_final_claimed :
    ∃ r, ((Store.withoutRuns (oneSource "s") .empty).applyAll
        [.enqueue (queuedRun "r" "s") 1000, .claimNext none 2000, .cancel "r" 3000,
          .transitionRun "r" .running .validating 4000 "",
          .transitionRun "r" .validating .publishing 5000 ""]).runs.find? "r" = some r ∧
      r.status ≠ .publishing ∧ r.status ≠ .succeeded ∧
      (r.status.terminal = true → r.status = .canceled ∨ r.status = .failed) := by
  refine (cancel_final (oneSource "s") .empty
    [.enqueue (queuedRun "r" "s") 1000, .claimNext none 2000] ?_).2 "r" 3000
    (Store.requested 3000 (Store.claimed 2000 (queuedRun "r" "s")), true) _ rfl
    [.transitionRun "r" .running .validating 4000 "",
      .transitionRun "r" .validating .publishing 5000 ""]
  intro request now listed
  simp only [List.mem_cons, Op.enqueue.injEq, reduceCtorEq, List.not_mem_nil, or_false] at listed
  rw [listed.1]
  rfl

/-! ## The columns of a run -/

/-- The columns of a run agree with its status. -/
structure WellFormed (r : SyncRun) : Prop where
  lease : r.leaseExpiresAt.isSome = true ↔ r.status.executing = true
  finished : r.finishedAt.isSome = true ↔ r.status.terminal = true
  error : r.errorCode ≠ "" ↔ r.status = .failed
  started : r.status.executing = true ∨ r.status = .succeeded → r.startedAt.isSome = true

/-- A run as the service builds it for `Enqueue`. -/
structure FreshRequest (r : SyncRun) : Prop where
  queued : r.status = .queued
  notStarted : r.startedAt = none
  notFinished : r.finishedAt = none
  noLease : r.leaseExpiresAt = none
  notCanceled : r.cancelRequestedAt = none
  noError : r.errorCode = ""

theorem FreshRequest.wellFormed {r : SyncRun} (fresh : FreshRequest r) : WellFormed r := by
  constructor <;> simp [fresh.queued, fresh.notFinished, fresh.noLease, fresh.noError,
    SyncRunStatus.executing, SyncRunStatus.terminal]

theorem WellFormed.step {op : Op} {r r' : SyncRun} (step : RunStep op r r')
    (before : WellFormed r) : WellFormed r' := by
  obtain ⟨lease, finished, error, started⟩ := before
  cases step with
  | same => exact ⟨lease, finished, error, started⟩
  | cancelQueued now queued =>
      rw [queued] at lease error
      constructor <;> simp_all [Store.canceled, Store.requested, SyncRunStatus.executing,
        SyncRunStatus.terminal]
  | cancelRequested now held fresh => exact ⟨lease, finished, error, started⟩
  | claimed target startedAt queued uncanceled =>
      rw [queued] at finished
      constructor <;> simp_all [Store.claimed, SyncRunStatus.executing, SyncRunStatus.terminal]
  | @transitioned _ target now code allowed coded current uncanceled =>
      have began := started (Or.inl (executing_of_transition allowed))
      have failure : target = .failed → code ≠ "" :=
        fun failed => ne_empty_of_errorCodePattern (coded failed)
      rcases target_of_transition allowed with rfl | rfl | ended
      · constructor <;> simp_all [Store.transitioned, SyncRunStatus.executing,
          SyncRunStatus.terminal]
      · constructor <;> simp_all [Store.transitioned, SyncRunStatus.executing,
          SyncRunStatus.terminal]
      · rcases SyncRunStatus.terminal_iff.mp ended with rfl | rfl | rfl
        all_goals
          constructor <;> simp_all [Store.transitioned, SyncRunStatus.executing,
            SyncRunStatus.terminal]
  | renewed executing current => exact ⟨by simp [Store.extended, executing], finished, error, started⟩
  | advanced running uncanceled current =>
      exact ⟨by simp [Store.extended, running, SyncRunStatus.executing], finished, error, started⟩
  | completed publishing uncanceled current =>
      have began := started (Or.inl (by rw [publishing]; rfl))
      constructor <;> simp_all [Store.succeeded, SyncRunStatus.executing, SyncRunStatus.terminal]
  | expiredCanceled executing stale requested expires =>
      constructor <;> simp [SyncRun.expireCanceled, SyncRunStatus.executing, SyncRunStatus.terminal]
  | expiredFailed executing stale unrequested expires =>
      constructor <;> simp [SyncRun.expireFailed, syncErrorLeaseExpired, SyncRunStatus.executing,
        SyncRunStatus.terminal]

/-- No operation touches a finished run. -/
theorem RunStep.eq_of_terminal {op : Op} {r r' : SyncRun} (step : RunStep op r r')
    (ended : r.status.terminal = true) : r' = r := by
  have idle : r.status.active = false := by
    cases active : r.status.active with
    | false => rfl
    | true =>
        rw [SyncRunStatus.not_terminal_of_active active] at ended
        cases ended
  have still : r.status.executing = false := by
    cases executing : r.status.executing with
    | false => rfl
    | true =>
        rw [SyncRunStatus.active_of_executing executing] at idle
        cases idle
  cases step with
  | same => rfl
  | cancelQueued now queued => rw [queued] at idle; cases idle
  | cancelRequested now held fresh => rcases held with h | h <;> rw [h] at idle <;> cases idle
  | claimed target startedAt queued uncanceled => rw [queued] at idle; cases idle
  | transitioned allowed coded current uncanceled =>
      rw [executing_of_transition allowed] at still
      cases still
  | renewed executing current => rw [executing] at still; cases still
  | advanced running uncanceled current => rw [running] at idle; cases idle
  | completed publishing uncanceled current => rw [publishing] at idle; cases idle
  | expiredCanceled executing stale requested expires => rw [executing] at still; cases still
  | expiredFailed executing stale unrequested expires => rw [executing] at still; cases still

/-- **The columns of every run agree with its status**, in every state reached by enqueueing fresh
runs, and a run that has ended keeps its status, end and error code. -/
theorem wellFormed_applyAll (sources : Table Source Source.id) (checkpoints : Checkpoints)
    (ops : List Op)
    (fresh : ∀ request now, Op.enqueue request now ∈ ops → FreshRequest request) :
    ∀ r ∈ ((Store.withoutRuns sources checkpoints).applyAll ops).runs.rows,
      WellFormed r ∧
      (r.status.terminal = true → ∀ more, ∃ r',
        (((Store.withoutRuns sources checkpoints).applyAll ops).applyAll more).runs.find? r.id =
          some r' ∧
        r'.status = r.status ∧ r'.finishedAt = r.finishedAt ∧ r'.errorCode = r.errorCode) := by
  have wellFormed := Store.rows_invariant (P := WellFormed) (s := Store.withoutRuns sources checkpoints)
    (fun r member => by cases member)
    (fun request now listed => (fresh request now listed).wellFormed) fun _ _ _ => WellFormed.step
  intro r member
  refine ⟨wellFormed r member, fun ended more => ?_⟩
  obtain ⟨r', found, rfl⟩ := Store.run_invariant (P := fun r' => r' = r) (Table.find?_of_mem member)
    rfl (fun op before after step same => by
      subst same
      exact step.eq_of_terminal ended) more
  exact ⟨r', found, rfl, rfl, rfl⟩

/-- A run that failed stays failed when a later operation tries to cancel it. -/
theorem wellFormed_applyAll_failed :
    let s := (Store.withoutRuns (oneSource "s") .empty).applyAll
      [.enqueue (queuedRun "r" "s") 1000, .claimNext none 2000,
        .transitionRun "r" .running .failed 3000 "checkpoint_failed"]
    ∀ r ∈ s.runs.rows, WellFormed r ∧
      (r.status.terminal = true → ∀ more, ∃ r', (s.applyAll more).runs.find? r.id = some r' ∧
        r'.status = r.status ∧ r'.finishedAt = r.finishedAt ∧ r'.errorCode = r.errorCode) := by
  refine wellFormed_applyAll (oneSource "s") .empty
    [.enqueue (queuedRun "r" "s") 1000, .claimNext none 2000,
      .transitionRun "r" .running .failed 3000 "checkpoint_failed"] ?_
  intro request now listed
  simp only [List.mem_cons, Op.enqueue.injEq, reduceCtorEq, List.not_mem_nil, or_false] at listed
  rw [listed.1]
  exact ⟨rfl, rfl, rfl, rfl, rfl, rfl⟩

end UnifiedInfraTopology
