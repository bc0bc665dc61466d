import UnifiedInfraTopology.Repository.RunInvariants

/-!
# Enqueueing is idempotent

`Enqueue` is one transaction of several statements, any of which may fail, and the failure undoes
what the earlier ones did.  `enqueueBody` follows it statement by statement and keeps the store as
the statements leave it; `transaction` rolls back.  `enqueueTx_cases` says that without failures this
is `Store.enqueue`.

The calls of all clients come in any order, `ClientCall`: any operation of the control store, and a
source enabled or disabled.  `Keyed` is their invariant: a source has at most one run for an
idempotency key, and its row stays.
-/

namespace UnifiedInfraTopology

open Lib

/-! ## Transactions -/

/-- The statements of `Enqueue`, in their order. -/
inductive EnqueueStatement where
  | lockSource
  | expireCanceled
  | expireFailed
  | findExisting
  | findActive
  | create
  | commit
deriving DecidableEq

/-- `Transaction`: the result of a body, and the store; a body that fails is rolled back. -/
def transaction {α : Type} (body : Store → Except InventoryError α × Store) (commits : Bool)
    (s : Store) : Except InventoryError α × Store :=
  match body s with
  | (.error e, _) => (.error e, s)
  | (.ok a, written) => if commits then (.ok a, written) else (.error .database, s)

namespace Store

/-- The run that a request replays. -/
def replayed (request r : SyncRun) : Bool :=
  r.sourceId == request.sourceId && r.idempotencyKey == request.idempotencyKey

/-- The body of `Enqueue`: the store holds what the statements have written so far. -/
def enqueueBody (fails : EnqueueStatement → Bool) (request : SyncRun) (now : Time) (s : Store) :
    Except InventoryError SyncRun × Store :=
  if fails .lockSource then (.error .database, s)
  else
    match s.sources.find? request.sourceId with
    | none => (.error .source, s)
    | some source =>
        let now := now.truncateMicro
        if fails .expireCanceled then (.error .database, s)
        else
          let canceled : Runs := s.runs.update
            (fun r => r.stale now request.sourceId && r.cancelRequestedAt.isSome)
            (fun r => r.expireCanceled now) (SyncRun.id_expireCanceled now)
          if fails .expireFailed then (.error .database, { s with runs := canceled })
          else
            let runs : Runs := canceled.update
              (fun r => r.stale now request.sourceId && r.cancelRequestedAt.isNone)
              (fun r => r.expireFailed now) (SyncRun.id_expireFailed now)
            let s := { s with runs }
            if fails .findExisting then (.error .database, s)
            else
              match runs.rows.find? (replayed request) with
              | some existing =>
                  if existing.requestHash ≠ request.requestHash then (.error .idempotency, s)
                  else (.ok existing, s)
              | none =>
                  if ¬source.enabled then (.error .source, s)
                  else if fails .findActive then (.error .database, s)
                  else if runs.rows.any fun r => r.sourceId == request.sourceId && r.status.active then
                    (.error .conflict, s)
                  else if fails .create then (.error .database, s)
                  else
                    match runs.insert request with
                    | none => (.error .database, s)
                    | some runs => (.ok request, { s with runs })

/-- `Enqueue` with statements that may fail. -/
def enqueueTx (fails : EnqueueStatement → Bool) (request : SyncRun) (now : Time) (s : Store) :
    Except InventoryError SyncRun × Store :=
  transaction (enqueueBody fails request now) (!fails .commit) s

/-- The result of an operation and the store after it; an error leaves the store alone. -/
def settled {α : Type} (s : Store) : Except InventoryError (α × Store) →
    Except InventoryError α × Store
  | .ok (a, s') => (.ok a, s')
  | .error e => (.error e, s)

/-- A failed transaction leaves the store as it was. -/
theorem transaction_error {α : Type} {body : Store → Except InventoryError α × Store}
    {commits : Bool} {s s' : Store} {e : InventoryError}
    (failed : transaction body commits s = (.error e, s')) : s' = s := by
  unfold transaction at failed
  split at failed
  · exact (congrArg Prod.snd failed).symm
  · split at failed
    · cases congrArg Prod.fst failed
    · exact (congrArg Prod.snd failed).symm

/-- `Enqueue` is the operation of the control store, unless one of its statements fails. -/
theorem enqueueTx_cases (fails : EnqueueStatement → Bool) (request : SyncRun) (now : Time)
    (s : Store) :
    enqueueTx fails request now s = s.settled (s.enqueue request now) ∨
      (∃ statement, fails statement = true) ∧
        enqueueTx fails request now s = (.error .database, s) := by
  have failing : ∀ {statement}, fails statement = true → ∃ statement, fails statement = true :=
    fun failed => ⟨_, failed⟩
  unfold enqueueTx transaction enqueueBody enqueue
  cases locked : fails .lockSource
  case true => exact Or.inr ⟨failing locked, rfl⟩
  cases s.sources.find? request.sourceId with
  | none => exact Or.inl rfl
  | some source =>
    cases first : fails .expireCanceled
    case true => exact Or.inr ⟨failing first, rfl⟩
    cases second : fails .expireFailed
    case true => exact Or.inr ⟨failing second, rfl⟩
    cases third : fails .findExisting
    case true => exact Or.inr ⟨failing third, rfl⟩
    simp only [Bool.false_eq_true, ↓reduceIte]
    rw [← expireStaleSyncRuns]
    generalize expireStaleSyncRuns now.truncateMicro request.sourceId s.runs = runs
    rw [show (fun r : SyncRun => r.sourceId == request.sourceId &&
      r.idempotencyKey == request.idempotencyKey) = replayed request from rfl]
    cases runs.rows.find? (replayed request) with
    | some existing =>
        by_cases same : existing.requestHash = request.requestHash
        · cases last : fails .commit
          case true => exact Or.inr ⟨failing last, by simp [same]⟩
          exact Or.inl (by simp [same, settled])
        · exact Or.inl (by simp [same, settled])
    | none =>
        cases source.enabled
        case false => exact Or.inl rfl
        cases fourth : fails .findActive
        case true => exact Or.inr ⟨failing fourth, rfl⟩
        cases runs.rows.any fun r => r.sourceId == request.sourceId && r.status.active
        case true => exact Or.inl rfl
        cases fifth : fails .create
        case true => exact Or.inr ⟨failing fifth, rfl⟩
        cases runs.insert request with
        | none => exact Or.inl rfl
        | some runs =>
            cases last : fails .commit
            case true => exact Or.inr ⟨failing last, rfl⟩
            exact Or.inl rfl

end Store

/-! ## One run for a key -/

theorem RunStep.idempotencyKey_eq {op : Op} {r r' : SyncRun} (step : RunStep op r r') :
    r'.idempotencyKey = r.idempotencyKey := by
  cases step <;> rfl

theorem RunStep.requestHash_eq {op : Op} {r r' : SyncRun} (step : RunStep op r r') :
    r'.requestHash = r.requestHash := by
  cases step <;> rfl

namespace Store

/-- What a successful `Enqueue` did: it replayed a stored run, or added the requested one, whose key
no stored run of the source has. -/
theorem enqueue_ok {request run : SyncRun} {now : Time} {s s' : Store}
    (ok : s.enqueue request now = .ok (run, s')) :
    (s.sources.find? request.sourceId).isSome = true ∧ s'.sources = s.sources ∧
      ∃ runs : Runs, RowsStep (.enqueue request now) s.runs.rows runs.rows ∧
        (s'.runs = runs ∧ run ∈ runs.rows ∧ replayed request run = true ∧
            run.requestHash = request.requestHash ∨
          run = request ∧ s'.runs.rows = runs.rows ++ [request] ∧
            ∀ r ∈ runs.rows, replayed request r = false) := by
  unfold enqueue at ok
  split at ok
  · cases ok
  · rename_i source found
    have step : RowsStep (.enqueue request now) s.runs.rows
        (expireStaleSyncRuns now.truncateMicro request.sourceId s.runs).rows :=
      rowsStep_expired request.sourceId s.runs (Or.inl ⟨request, now, rfl, rfl⟩)
    refine ⟨by rw [found]; rfl, ?_⟩
    dsimp only at ok
    split at ok
    · rename_i existing first
      split at ok
      · cases ok
      · rename_i same
        cases ok
        have member := List.mem_of_find?_eq_some first
        have mine := List.find?_some first
        exact ⟨rfl, _, step, Or.inl ⟨rfl, member, mine, not_not.mp same⟩⟩
    · rename_i unknown
      split at ok
      · cases ok
      · split at ok
        · cases ok
        · split at ok
          · cases ok
          · rename_i runs inserted
            cases ok
            refine ⟨rfl, _, step, Or.inr ⟨rfl, Table.rows_of_insert inserted, ?_⟩⟩
            exact fun r member => by simpa [replayed] using List.find?_eq_none.mp unknown r member

/-- `Enabled` of a source set by an administrator. -/
def setEnabled (sourceId : String) (enabled : Bool) (s : Store) : Store :=
  { s with
    sources := s.sources.update (fun source => decide (source.id = sourceId))
      (fun source => { source with enabled }) fun _ => rfl }

end Store

/-- A call of any client. -/
inductive ClientCall where
  | enqueue (fails : EnqueueStatement → Bool) (request : SyncRun) (now : Time)
  | control (op : Op)
  | setEnabled (sourceId : String) (enabled : Bool)

namespace Store

/-- The store after a call. -/
def perform (s : Store) : ClientCall → Store
  | .enqueue fails request now => (enqueueTx fails request now s).2
  | .control op => s.apply op
  | .setEnabled sourceId enabled => s.setEnabled sourceId enabled

/-- The store after the calls of all clients, in the order of their transactions. -/
def performAll (calls : List ClientCall) (s : Store) : Store := calls.foldl perform s

end Store

/-- A source has at most one run for a key, and the sources of runs are stored. -/
structure Keyed (s : Store) : Prop where
  unique : ∀ r ∈ s.runs.rows, ∀ r' ∈ s.runs.rows, Store.replayed r r' = true → r = r'
  placed : ∀ r ∈ s.runs.rows, (s.sources.find? r.sourceId).isSome = true

/-- The run is stored, under its id, with this source, key and hash. -/
def Store.Replays (s : Store) (run : SyncRun) : Prop :=
  ∃ r, s.runs.find? run.id = some r ∧ Store.replayed run r = true ∧ r.requestHash = run.requestHash

section

variable {s s' : Store} {op : Op}

theorem replayed_iff {request r : SyncRun} : Store.replayed request r = true ↔
    r.sourceId = request.sourceId ∧ r.idempotencyKey = request.idempotencyKey := by
  simp [Store.replayed]

theorem RunStep.replayed {op : Op} {r r' request : SyncRun} (step : RunStep op r r') :
    Store.replayed request r' = Store.replayed request r := by
  simp only [Store.replayed, step.sourceId_eq, step.idempotencyKey_eq]

/-- Rows that only move keep their keys. -/
theorem Keyed.rowsStep (keyed : Keyed s) (step : RowsStep op s.runs.rows s'.runs.rows)
    (sources : s'.sources = s.sources) : Keyed s' := by
  obtain ⟨f, rows, moved⟩ := step
  constructor
  · intro r member r' member' same
    rw [rows] at member member'
    obtain ⟨before, inside, rfl⟩ := List.mem_map.mp member
    obtain ⟨before', inside', rfl⟩ := List.mem_map.mp member'
    rw [replayed_iff] at same
    have origin : Store.replayed before before' = true := by
      rw [replayed_iff, ← (moved before inside).sourceId_eq, ← (moved before' inside').sourceId_eq,
        ← (moved before inside).idempotencyKey_eq, ← (moved before' inside').idempotencyKey_eq]
      exact same
    rw [keyed.unique before inside before' inside' origin]
  · intro r member
    rw [rows] at member
    obtain ⟨before, inside, rfl⟩ := List.mem_map.mp member
    rw [sources, (moved before inside).sourceId_eq]
    exact keyed.placed before inside

theorem Keyed.enqueue {request run : SyncRun} {now : Time} (keyed : Keyed s)
    (ok : s.enqueue request now = .ok (run, s')) : Keyed s' := by
  obtain ⟨present, sources, runs, step, ⟨rfl, -⟩ | ⟨-, grown, fresh⟩⟩ := Store.enqueue_ok ok
  · exact keyed.rowsStep step sources
  · have before : Keyed { s with runs } := keyed.rowsStep step rfl
    constructor
    · intro r member r' member' same
      rw [grown, List.mem_append, List.mem_singleton] at member member'
      rcases member with old | rfl
      · rcases member' with old' | rfl
        · exact before.unique r old r' old' same
        · rw [replayed_iff] at same
          have mine := fresh r old
          rw [← Bool.not_eq_true, replayed_iff] at mine
          exact (mine ⟨same.1.symm, same.2.symm⟩).elim
      · rcases member' with old' | rfl
        · rw [fresh r' old'] at same
          cases same
        · rfl
    · intro r member
      rw [grown, List.mem_append, List.mem_singleton] at member
      rw [sources]
      rcases member with old | rfl
      · exact before.placed r old
      · exact present

theorem Keyed.apply (keyed : Keyed s) (op : Op) : Keyed (s.apply op) := by
  rcases Store.rows_apply op s with step | ⟨request, now, -, rfl, -⟩
  · exact keyed.rowsStep step (Store.sources_apply op s)
  · cases outcome : s.enqueue request now with
    | error e =>
        have failed : s.execute (.enqueue request now) = .error e := by
          simp [Store.execute, outcome, Except.map]
        rw [Store.apply_of_error failed]
        exact keyed
    | ok p =>
        have done : s.execute (.enqueue request now) = .ok p.2 := by
          simp [Store.execute, outcome, Except.map]
        rw [Store.apply_of_ok done]
        exact keyed.enqueue outcome

/-- An `Enqueue` leaves the store as the operation does, or as it was. -/
theorem store_enqueueTx (fails : EnqueueStatement → Bool) (request : SyncRun) (now : Time)
    (s : Store) :
    (Store.enqueueTx fails request now s).2 = s.apply (.enqueue request now) ∨
      (Store.enqueueTx fails request now s).2 = s := by
  rcases Store.enqueueTx_cases fails request now s with atomic | ⟨-, failed⟩
  · rw [atomic]
    cases outcome : s.enqueue request now with
    | error e => exact Or.inr rfl
    | ok p =>
        have done : s.execute (.enqueue request now) = .ok p.2 := by
          simp [Store.execute, outcome, Except.map]
        exact Or.inl (Store.apply_of_ok done).symm
  · rw [failed]
    exact Or.inr rfl

theorem find?_setEnabled (sourceId other : String) (enabled : Bool) (s : Store) :
    ((s.setEnabled sourceId enabled).sources.find? other).isSome =
      (s.sources.find? other).isSome := by
  rw [Store.setEnabled, Table.find?_update, Option.isSome_map]

theorem Keyed.perform (keyed : Keyed s) (call : ClientCall) : Keyed (s.perform call) := by
  cases call with
  | enqueue fails request now =>
      rcases store_enqueueTx fails request now s with moved | same
      · exact (congrArg Keyed moved).mpr (keyed.apply _)
      · exact (congrArg Keyed same).mpr keyed
  | control op => exact keyed.apply op
  | setEnabled sourceId enabled =>
      exact ⟨keyed.unique, fun r member =>
        (find?_setEnabled sourceId r.sourceId enabled s).trans (keyed.placed r member)⟩

theorem Keyed.performAll (keyed : Keyed s) (calls : List ClientCall) :
    Keyed (s.performAll calls) := by
  induction calls generalizing s with
  | nil => exact keyed
  | cons call calls ih => exact ih (keyed.perform call)

/-! ## Replays -/

variable {run : SyncRun}

theorem Store.Replays.apply (held : s.Replays run) (op : Op) : (s.apply op).Replays run := by
  obtain ⟨r, found, same, hash⟩ := held
  obtain ⟨r', stored, step⟩ : ∃ r', (s.apply op).runs.find? run.id = some r' ∧ RunStep op r r' :=
    Store.find?_apply found
  exact ⟨r', stored, step.replayed.trans same, step.requestHash_eq.trans hash⟩

theorem Store.Replays.perform (held : s.Replays run) (call : ClientCall) : (s.perform call).Replays run := by
  cases call with
  | enqueue fails request now =>
      rcases store_enqueueTx fails request now s with moved | same
      · exact (congrArg (Store.Replays · run) moved).mpr (held.apply _)
      · exact (congrArg (Store.Replays · run) same).mpr held
  | control op => exact held.apply op
  | setEnabled sourceId enabled => exact held

theorem Store.Replays.performAll (held : s.Replays run) (calls : List ClientCall) :
    (s.performAll calls).Replays run := by
  induction calls generalizing s with
  | nil => exact held
  | cons call calls ih => exact ih (held.perform call)

theorem holds_of_mem (member : run ∈ s.runs.rows) : s.Replays run :=
  ⟨run, Table.find?_of_mem member, replayed_iff.mpr ⟨rfl, rfl⟩, rfl⟩

/-- A request with the key of a stored run finds that run, whatever has expired meanwhile. -/
theorem enqueue_of_holds {request : SyncRun} (keyed : Keyed s) (held : s.Replays run)
    (same : Store.replayed run request = true) (now : Time) :
    ∃ existing runs, existing.id = run.id ∧ s.enqueue request now =
      if run.requestHash ≠ request.requestHash then .error .idempotency
      else .ok (existing, { s with runs }) := by
  obtain ⟨r, found, mine, hash⟩ := held
  have member := Table.mem_of_find? found
  rw [replayed_iff] at same mine
  obtain ⟨source, stored⟩ : ∃ source, s.sources.find? request.sourceId = some source := by
    rw [← Option.isSome_iff_exists, same.1, ← mine.1]
    exact keyed.placed r member
  have step : RowsStep (.enqueue request now) s.runs.rows
      (expireStaleSyncRuns now.truncateMicro request.sourceId s.runs).rows :=
    rowsStep_expired request.sourceId s.runs (Or.inl ⟨request, now, rfl, rfl⟩)
  generalize expired : expireStaleSyncRuns now.truncateMicro request.sourceId s.runs = runs at step
  obtain ⟨f, rows, moved⟩ := step
  have replays : ∀ before ∈ s.runs.rows, Store.replayed request (f before) = true → before = r := by
    intro before inside here
    rw [(moved before inside).replayed, replayed_iff] at here
    exact (keyed.unique r member before inside (replayed_iff.mpr
      ⟨here.1.trans (same.1.trans mine.1.symm), here.2.trans (same.2.trans mine.2.symm)⟩)).symm
  cases first : runs.rows.find? (Store.replayed request) with
  | none =>
      have absent := List.find?_eq_none.mp first (f r) (by rw [rows]; exact List.mem_map_of_mem member)
      rw [(moved r member).replayed, replayed_iff] at absent
      exact (absent ⟨mine.1.trans same.1.symm, mine.2.trans same.2.symm⟩).elim
  | some existing =>
      have inside := List.mem_of_find?_eq_some first
      rw [rows] at inside
      obtain ⟨before, here, rfl⟩ := List.mem_map.mp inside
      obtain rfl := replays before here (List.find?_some first)
      refine ⟨f before, runs, (moved before member).id_eq.trans (Table.key_of_find? found), ?_⟩
      unfold Store.enqueue
      simp only [stored, expired]
      rw [show (fun r : SyncRun => r.sourceId == request.sourceId &&
        r.idempotencyKey == request.idempotencyKey) = Store.replayed request from rfl, first]
      simp only [(moved before member).requestHash_eq, hash]

/-- What every later call with the key of a stored run gets. -/
theorem enqueueTx_of_holds {request : SyncRun} (keyed : Keyed s) (held : s.Replays run)
    (same : Store.replayed run request = true) (fails : EnqueueStatement → Bool) (now : Time) :
    (∀ run', (Store.enqueueTx fails request now s).1 = .ok run' → run'.id = run.id) ∧
      ((∀ statement, fails statement = false) →
        if request.requestHash = run.requestHash then
          ∃ run', (Store.enqueueTx fails request now s).1 = .ok run'
        else (Store.enqueueTx fails request now s).1 = .error .idempotency) := by
  obtain ⟨existing, runs, id, replay⟩ := enqueue_of_holds keyed held same now
  rcases Store.enqueueTx_cases fails request now s with atomic | ⟨⟨statement, broken⟩, failed⟩
  · rw [atomic, replay]
    by_cases hash : run.requestHash = request.requestHash
    · simp only [hash, ne_eq, not_true_eq_false, ↓reduceIte, Store.settled]
      refine ⟨fun run' ok => ?_, fun _ => ⟨existing, rfl⟩⟩
      cases ok
      exact id
    · simp only [hash, Ne.symm hash, ne_eq, not_false_eq_true, ↓reduceIte, Store.settled]
      refine ⟨fun run' ok => ?_, fun _ => trivial⟩
      cases ok
  · rw [failed]
    refine ⟨fun run' ok => ?_, fun works => ?_⟩
    · cases ok
    · rw [works statement] at broken
      cases broken

end

/-- **Enqueueing is idempotent.**  After any calls of any clients:

* a source has at most one run for a key;
* a successful `Enqueue` returns a stored run of the source with the key;
* once a run is stored, every later successful call with its key returns it, whatever has happened to
  the run and to the source; a call whose statements all succeed does so if its hash is that of the
  run, and gets the idempotency error otherwise;
* an `Enqueue` that returns an error leaves everything as it was. -/
theorem enqueue_idempotent (sources : Table Source Source.id) (checkpoints : Checkpoints)
    (calls : List ClientCall) :
    let s := (Store.withoutRuns sources checkpoints).performAll calls
    (∀ r ∈ s.runs.rows, ∀ r' ∈ s.runs.rows, r.sourceId = r'.sourceId →
      r.idempotencyKey = r'.idempotencyKey → r = r') ∧
    (∀ fails request now run s', s.enqueueTx fails request now = (.ok run, s') →
      run ∈ s'.runs.rows ∧ run.sourceId = request.sourceId ∧
        run.idempotencyKey = request.idempotencyKey) ∧
    (∀ run ∈ s.runs.rows, ∀ more fails request now, request.sourceId = run.sourceId →
      request.idempotencyKey = run.idempotencyKey →
      let result := ((s.performAll more).enqueueTx fails request now).1
      (∀ run', result = .ok run' → run'.id = run.id) ∧
        ((∀ statement, fails statement = false) →
          if request.requestHash = run.requestHash then ∃ run', result = .ok run'
          else result = .error .idempotency)) ∧
    ∀ fails request now e s', s.enqueueTx fails request now = (.error e, s') → s' = s := by
  intro s
  have keyed : Keyed s := by
    refine Keyed.performAll ⟨?_, ?_⟩ calls
    · intro r member
      cases member
    · intro r member
      cases member
  refine ⟨?_, ?_, ?_, fun fails request now e s' failed => Store.transaction_error failed⟩
  · intro r member r' member' source key
    exact keyed.unique r member r' member' (replayed_iff.mpr ⟨source.symm, key.symm⟩)
  · intro fails request now run s' ok
    rcases Store.enqueueTx_cases fails request now s with atomic | ⟨-, failed⟩
    · rw [atomic] at ok
      cases outcome : s.enqueue request now with
      | error e =>
          rw [outcome] at ok
          cases congrArg Prod.fst ok
      | ok p =>
          obtain ⟨run', after⟩ := p
          rw [outcome] at ok
          cases ok
          obtain ⟨-, -, runs, -, ⟨rfl, member, mine, -⟩ | ⟨rfl, grown, -⟩⟩ := Store.enqueue_ok outcome
          · exact ⟨member, replayed_iff.mp mine⟩
          · rw [grown]
            exact ⟨by simp, rfl, rfl⟩
    · rw [failed] at ok
      cases congrArg Prod.fst ok
  · intro run member more fails request now source key
    exact enqueueTx_of_holds (keyed.performAll more) ((holds_of_mem member).performAll more)
      (replayed_iff.mpr ⟨source, key⟩) fails now

end UnifiedInfraTopology
