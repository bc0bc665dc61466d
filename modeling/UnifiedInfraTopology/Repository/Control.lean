import UnifiedInfraTopology.Repository.Checkpoints

/-!
# Sequences of control-store operations

`Op` is one operation of any client or worker with its arguments, `Store.apply` its effect: an
operation that returns an error has none.  A sequence of operations is a list of `Op`, in the order
in which the transactions commit.

`RunStep op r r'` lists what an operation can do to one row of the run table, guards included.  The
main lemma is `Store.rows_apply`: an operation moves every row by a `RunStep`, and only an `Enqueue`
that finds no active run of the source adds one.  Every invariant of runs follows from it alone.
-/

namespace UnifiedInfraTopology

open Lib

inductive Op where
  | enqueue (request : SyncRun) (now : Time)
  | cancel (runId : String) (now : Time)
  | claimNext (target : Option String) (startedAt : Time)
  | transitionRun (runId : String) (origin target : SyncRunStatus) (now : Time) (errorCode : String)
  | renewRunLease (runId : String) (now : Time)
  | beginCheckpoint (sourceId resource runId : String) (startedAt leaseAt : Time)
  | advanceCheckpoint (sourceId resource runId : String) (cursor : DeviceSyncCursor)
      (updatedAt : Time)
  | completeCheckpointAndRun (sourceId resource runId : String) (expectedStatus : SyncRunStatus)
      (completedAt : Time)
deriving DecidableEq

namespace Store

/-- An operation: its effect on success, or its error. -/
def execute (op : Op) (s : Store) : Except InventoryError Store :=
  match op with
  | .enqueue request now => (s.enqueue request now).map (·.2)
  | .cancel runId now => (s.cancel runId now).map (·.2)
  | .claimNext target startedAt => (s.claimNext target startedAt).map (·.2)
  | .transitionRun runId origin target now errorCode =>
      (s.transitionRun runId origin target now errorCode).map (·.2)
  | .renewRunLease runId now => (s.renewRunLease runId now).map (·.2)
  | .beginCheckpoint sourceId resource runId startedAt leaseAt =>
      (s.beginCheckpoint sourceId resource runId startedAt leaseAt).map (·.2)
  | .advanceCheckpoint sourceId resource runId cursor updatedAt =>
      (s.advanceCheckpoint sourceId resource runId cursor updatedAt).map (·.2)
  | .completeCheckpointAndRun sourceId resource runId expectedStatus completedAt =>
      (s.completeCheckpointAndRun sourceId resource runId expectedStatus completedAt).map (·.2)

/-- The store after an operation. -/
def apply (op : Op) (s : Store) : Store := (s.execute op).toOption.getD s

/-- The operation succeeds. -/
def accepts (op : Op) (s : Store) : Bool := (s.execute op).toOption.isSome

/-- The store after a sequence of operations. -/
def applyAll (ops : List Op) (s : Store) : Store := ops.foldl (fun s op => s.apply op) s

theorem ok_of_map {α : Type} {x : Except InventoryError (α × Store)} {s' : Store}
    (ok : x.map (·.2) = .ok s') : ∃ a, x = .ok (a, s') := by
  rcases x with e | ⟨a, _⟩
  · cases ok
  · cases ok
    exact ⟨a, rfl⟩

theorem apply_of_ok {op : Op} {s s' : Store} (ok : s.execute op = .ok s') : s.apply op = s' := by
  simp [apply, ok, Except.toOption]

theorem apply_of_error {op : Op} {s : Store} {e : InventoryError}
    (failed : s.execute op = .error e) : s.apply op = s := by
  simp [apply, failed, Except.toOption]

@[simp] theorem applyAll_nil (s : Store) : s.applyAll [] = s := rfl

@[simp] theorem applyAll_cons (op : Op) (ops : List Op) (s : Store) :
    s.applyAll (op :: ops) = (s.apply op).applyAll ops := rfl

theorem applyAll_append (ops more : List Op) (s : Store) :
    s.applyAll (ops ++ more) = (s.applyAll ops).applyAll more := List.foldl_append ..

end Store

open Store in
/-- What an operation can do to one run. -/
inductive RunStep : Op → SyncRun → SyncRun → Prop where
  | same (op : Op) (r : SyncRun) : RunStep op r r
  | cancelQueued {r : SyncRun} (now : Time) (queued : r.status = .queued) :
      RunStep (.cancel r.id now) r (canceled now.truncateMicro r)
  | cancelRequested {r : SyncRun} (now : Time)
      (held : r.status = .running ∨ r.status = .validating) (fresh : r.cancelRequestedAt = none) :
      RunStep (.cancel r.id now) r (requested now.truncateMicro r)
  | claimed {r : SyncRun} (target : Option String) (startedAt : Time) (queued : r.status = .queued)
      (uncanceled : r.cancelRequestedAt = none) :
      RunStep (.claimNext target startedAt) r (claimed startedAt.truncateMicro r)
  | transitioned {r : SyncRun} {target : SyncRunStatus} {now : Time} {code : String}
      (allowed : syncRunTransitionAllowed r.status target = true)
      (coded : target = .failed → syncRunErrorCodePattern code = true)
      (current : r.leaseCurrent now.truncateMicro = true)
      (uncanceled : target = .publishing → r.cancelRequestedAt = none) :
      RunStep (.transitionRun r.id r.status target now code) r
        (transitioned target now.truncateMicro (if target = .failed then code else "") r)
  | renewed {r : SyncRun} {now : Time} (executing : r.status.executing = true)
      (current : r.leaseCurrent now.truncateMicro = true) :
      RunStep (.renewRunLease r.id now) r (extended now.truncateMicro r)
  | advanced {r : SyncRun} {resource : String} {cursor : DeviceSyncCursor} {updatedAt : Time}
      (running : r.status = .running) (uncanceled : r.cancelRequestedAt = none)
      (current : r.leaseCurrent updatedAt.truncateMicro = true) :
      RunStep (.advanceCheckpoint r.sourceId resource r.id cursor updatedAt) r
        (extended updatedAt.truncateMicro r)
  | completed {r : SyncRun} {resource : String} {completedAt : Time}
      (publishing : r.status = .publishing) (uncanceled : r.cancelRequestedAt = none)
      (current : r.leaseCurrent completedAt.truncateMicro = true) :
      RunStep (.completeCheckpointAndRun r.sourceId resource r.id .publishing completedAt) r
        (succeeded completedAt.truncateMicro r)
  | expiredCanceled {r : SyncRun} {op : Op} {now : Time} (executing : r.status.executing = true)
      (stale : r.leaseStale now = true) (requested : r.cancelRequestedAt.isSome = true)
      (expires : (∃ request t, op = .enqueue request t ∧ now = t.truncateMicro) ∨
        ∃ t, op = .claimNext none t ∧ now = t.truncateMicro) :
      RunStep op r (r.expireCanceled now)
  | expiredFailed {r : SyncRun} {op : Op} {now : Time} (executing : r.status.executing = true)
      (stale : r.leaseStale now = true) (unrequested : r.cancelRequestedAt = none)
      (expires : (∃ request t, op = .enqueue request t ∧ now = t.truncateMicro) ∨
        ∃ t, op = .claimNext none t ∧ now = t.truncateMicro) :
      RunStep op r (r.expireFailed now)

/-- An operation keeps the id, the source and the creation data of a run. -/
theorem RunStep.id_eq {op : Op} {r r' : SyncRun} (step : RunStep op r r') : r'.id = r.id := by
  cases step <;> rfl

theorem RunStep.sourceId_eq {op : Op} {r r' : SyncRun} (step : RunStep op r r') :
    r'.sourceId = r.sourceId := by
  cases step <;> rfl

theorem RunStep.createdAt_eq {op : Op} {r r' : SyncRun} (step : RunStep op r r') :
    r'.createdAt = r.createdAt := by
  cases step <;> rfl

/-! ## Row by row -/

/-- The rows after an operation are the rows before it, each moved by a `RunStep`. -/
def RowsStep (op : Op) (before after : List SyncRun) : Prop :=
  ∃ f : SyncRun → SyncRun, after = before.map f ∧ ∀ r ∈ before, RunStep op r (f r)

theorem RowsStep.refl (op : Op) (rows : List SyncRun) : RowsStep op rows rows :=
  ⟨id, by simp, fun r _ => .same op r⟩

theorem rowsStep_map {op : Op} {rows : List SyncRun} {p : SyncRun → Bool} {f : SyncRun → SyncRun}
    (step : ∀ r ∈ rows, p r = true → RunStep op r (f r)) :
    RowsStep op rows (rows.map fun r => if p r then f r else r) := by
  refine ⟨fun r => if p r then f r else r, rfl, fun r member => ?_⟩
  dsimp only
  split
  · rename_i here
    exact step r member here
  · exact .same op r

/-- Two runs of one table with one id are the same row. -/
theorem eq_of_find? {runs : Runs} {runId : String} {r r' : SyncRun}
    (found : runs.find? runId = some r) (member : r' ∈ runs.rows) (same : r'.id = runId) :
    r' = r :=
  Table.eq_of_mem member (Table.mem_of_find? found) (same.trans (Table.key_of_find? found).symm)

theorem runStep_expired {op : Op} {now : Time} {sourceId : String} (r : SyncRun)
    (expires : (∃ request t, op = .enqueue request t ∧ now = t.truncateMicro) ∨
      ∃ t, op = .claimNext none t ∧ now = t.truncateMicro) :
    RunStep op r (r.expired now sourceId) := by
  unfold SyncRun.expired
  split
  · rename_i stale
    simp only [SyncRun.stale, Bool.and_eq_true] at stale
    split
    · rename_i requested
      exact .expiredCanceled stale.1.1 stale.1.2 requested expires
    · rename_i unrequested
      exact .expiredFailed stale.1.1 stale.1.2 (by simpa using unrequested) expires
  · exact .same op r

theorem rowsStep_expired {op : Op} {now : Time} (sourceId : String) (runs : Runs)
    (expires : (∃ request t, op = .enqueue request t ∧ now = t.truncateMicro) ∨
      ∃ t, op = .claimNext none t ∧ now = t.truncateMicro) :
    RowsStep op runs.rows (expireStaleSyncRuns now sourceId runs).rows :=
  ⟨fun r => r.expired now sourceId, rows_expireStaleSyncRuns now sourceId runs,
    fun r _ => runStep_expired r expires⟩

namespace Store

/-! ## Operation by operation -/

/-- An `Enqueue` expires stale runs, and adds the requested run or replays a stored one. -/
theorem enqueue_rows {request run : SyncRun} {now : Time} {s s' : Store}
    (ok : s.enqueue request now = .ok (run, s')) :
    ∃ runs : Runs, RowsStep (.enqueue request now) s.runs.rows runs.rows ∧
      (s'.runs = runs ∧ run ∈ runs.rows ∨
        run = request ∧ s'.runs.rows = runs.rows ++ [request] ∧
          (∀ r ∈ runs.rows, r.id ≠ request.id) ∧
          ∀ r ∈ runs.rows, r.sourceId = request.sourceId → r.status.active = false) := by
  unfold enqueue at ok
  split at ok
  · cases ok
  · refine ⟨_, rowsStep_expired request.sourceId s.runs (Or.inl ⟨request, now, rfl, rfl⟩), ?_⟩
    dsimp only at ok
    split at ok
    · rename_i existing found
      split at ok
      · cases ok
      · cases ok
        exact Or.inl ⟨rfl, List.mem_of_find?_eq_some found⟩
    · split at ok
      · cases ok
      · split at ok
        · cases ok
        · rename_i idle
          split at ok
          · cases ok
          · rename_i runs inserted
            cases ok
            refine Or.inr ⟨rfl, Table.rows_of_insert inserted, ?_, fun r member same => ?_⟩
            · exact Table.find?_eq_none_iff.mp (Table.fresh_of_insert inserted)
            · simp only [List.any_eq_true, Bool.and_eq_true, beq_iff_eq, not_exists, not_and,
                Bool.not_eq_true] at idle
              exact idle r member same

theorem cancel_rows {runId : String} {now : Time} {run : SyncRun} {accepted : Bool} {s s' : Store}
    (ok : s.cancel runId now = .ok ((run, accepted), s')) :
    RowsStep (.cancel runId now) s.runs.rows s'.runs.rows := by
  unfold cancel at ok
  split at ok
  · cases ok
  · rename_i stored found
    have id := Table.key_of_find? found
    dsimp only at ok
    split at ok
    · cases ok
      exact .refl _ _
    · rename_i queued
      cases ok
      refine rowsStep_map fun r member here => ?_
      cases eq_of_find? found member (by simpa using here)
      exact id ▸ .cancelQueued now queued
    · rename_i running
      split at ok
      · rename_i fresh
        cases ok
        refine rowsStep_map fun r member here => ?_
        cases eq_of_find? found member (by simpa using here)
        exact id ▸ .cancelRequested now (Or.inl running) (by simpa using fresh)
      · cases ok
        exact .refl _ _
    · rename_i validating
      split at ok
      · rename_i fresh
        cases ok
        refine rowsStep_map fun r member here => ?_
        cases eq_of_find? found member (by simpa using here)
        exact id ▸ .cancelRequested now (Or.inr validating) (by simpa using fresh)
      · cases ok
        exact .refl _ _
    · cases ok
    · cases ok

theorem claim_rows {target : Option String} {startedAt : Time} {runId : String}
    {claim : SyncRun × Source} {s s' : Store}
    (general : runId = "" → target = none) (ok : s.claim startedAt runId = .ok (claim, s')) :
    RowsStep (.claimNext target startedAt) s.runs.rows s'.runs.rows := by
  unfold Store.claim at ok
  split at ok
  · cases ok
  · dsimp only at ok
    -- One step per row: an expired row was executing, so it is not the queued one.
    have expired : ∃ f : SyncRun → SyncRun,
        (if runId = "" then expireStaleSyncRuns startedAt.truncateMicro "" s.runs
          else s.runs).rows = s.runs.rows.map f ∧
        ∀ r, RunStep (.claimNext target startedAt) r (f r) ∧
          (claimable (f r) = true → f r = r) := by
      split
      · rename_i all
        refine ⟨_, rows_expireStaleSyncRuns _ _ _, fun r => ⟨?_, fun queued => ?_⟩⟩
        · exact runStep_expired r (Or.inr ⟨startedAt, by rw [general all], rfl⟩)
        · unfold SyncRun.expired at queued ⊢
          split at queued
          · split at queued <;> cases queued
          · rename_i fresh
            simp [fresh]
      · exact ⟨id, by simp, fun r => ⟨.same _ r, fun _ => rfl⟩⟩
    generalize (if runId = "" then expireStaleSyncRuns startedAt.truncateMicro "" s.runs
      else s.runs) = runs at ok expired
    obtain ⟨f, rows, steps⟩ := expired
    split at ok
    · cases ok
    · rename_i run selected
      split at ok
      · cases ok
      · split at ok
        · cases ok
        · cases ok
          refine ⟨fun r => if decide ((f r).id = run.id) && claimable (f r) then
            claimed startedAt.truncateMicro (f r) else f r, ?_, fun r _ => ?_⟩
          · simp only [Table.update, rows, List.map_map]
            rfl
          · obtain ⟨step, kept⟩ := steps r
            dsimp only
            split
            · rename_i taken
              simp only [Bool.and_eq_true] at taken
              have untouched := kept taken.2
              rw [untouched] at taken ⊢
              simp only [claimable, Bool.and_eq_true, beq_iff_eq, Option.isNone_iff_eq_none]
                at taken
              exact .claimed target startedAt taken.2.1 taken.2.2
            · exact step

theorem claimNext_rows {target : Option String} {startedAt : Time} {claim : SyncRun × Source}
    {s s' : Store} (ok : s.claimNext target startedAt = .ok (claim, s')) :
    RowsStep (.claimNext target startedAt) s.runs.rows s'.runs.rows := by
  unfold claimNext at ok
  split at ok
  · exact claim_rows (fun _ => rfl) ok
  · rename_i runId
    split at ok
    · cases ok
    · rename_i named
      exact claim_rows (fun empty => absurd empty named) ok

/-- The row a keyed update touches, if it touches one. -/
theorem find_of_matched {runs : Runs} {runId : String} {c : SyncRun → Bool}
    (one : ¬runs.matched (fun r => decide (r.id = runId) && c r) ≠ 1) :
    ∃ r, runs.find? runId = some r ∧ c r = true :=
  Table.matched_key_eq_one.mp (not_not.mp one)

/-- Everything a successful `TransitionRun` checked, and the row it leaves. -/
theorem transitionRun_ok {runId : String} {origin target : SyncRunStatus} {now : Time}
    {code : String} {run : SyncRun} {s s' : Store}
    (ok : s.transitionRun runId origin target now code = .ok (run, s')) :
    ∃ r, s.runs.find? runId = some r ∧ r.status = origin ∧
      syncRunTransitionAllowed origin target = true ∧
      (target = .failed → syncRunErrorCodePattern code = true) ∧
      r.leaseCurrent now.truncateMicro = true ∧
      (target = .publishing → r.cancelRequestedAt = none) ∧
      run = transitioned target now.truncateMicro (if target = .failed then code else "") r ∧
      s' = { s with
        runs := s.runs.update
          (fun r => decide (r.id = runId) && transitionable origin target now.truncateMicro r)
          (transitioned target now.truncateMicro (if target = .failed then code else ""))
          (id_transitioned _ _ _) } := by
  unfold transitionRun at ok
  split at ok
  · cases ok
  · rename_i legal
    split at ok
    · cases ok
    · rename_i coded
      dsimp only at ok
      split at ok
      · cases ok
      · rename_i one
        obtain ⟨r, found, guarded⟩ := find_of_matched one
        split at ok
        · cases ok
        · rename_i after stored
          cases ok
          rw [Table.find?_update, found, Option.map_some, Table.key_of_find? found] at stored
          simp only [guarded, decide_true, Bool.and_self, ↓reduceIte, Option.some.injEq] at stored
          simp only [transitionable, Bool.and_eq_true, Bool.or_eq_true, beq_iff_eq, bne_iff_ne,
            Option.isNone_iff_eq_none] at guarded
          obtain ⟨⟨origin_eq, current⟩, open_⟩ := guarded
          refine ⟨r, found, origin_eq, ?_, ?_, current, ?_, stored.symm, rfl⟩
          · simp only [not_or, not_not] at legal
            exact legal.2.2
          · intro failed
            simpa [failed] using coded
          · intro publishing
            exact open_.resolve_left (absurd publishing)

theorem transitionRun_rows {runId : String} {origin target : SyncRunStatus} {now : Time}
    {code : String} {run : SyncRun} {s s' : Store}
    (ok : s.transitionRun runId origin target now code = .ok (run, s')) :
    RowsStep (.transitionRun runId origin target now code) s.runs.rows s'.runs.rows := by
  obtain ⟨stored, found, rfl, allowed, coded, current, uncanceled, -, rfl⟩ :=
    transitionRun_ok ok
  refine rowsStep_map fun r member here => ?_
  simp only [Bool.and_eq_true, decide_eq_true_eq] at here
  cases eq_of_find? found member here.1
  rw [← Table.key_of_find? found]
  exact .transitioned allowed coded current uncanceled

theorem renewRunLease_rows {runId : String} {now : Time} {s s' : Store}
    (ok : s.renewRunLease runId now = .ok ((), s')) :
    RowsStep (.renewRunLease runId now) s.runs.rows s'.runs.rows := by
  unfold renewRunLease at ok
  split at ok
  · cases ok
  · dsimp only at ok
    split at ok
    · cases ok
    · cases ok
      refine rowsStep_map fun r member here => ?_
      simp only [Bool.and_eq_true, decide_eq_true_eq] at here
      obtain ⟨rfl, executing, current⟩ := here
      exact .renewed executing current

/-- Everything a successful `BeginCheckpoint` checked, and what it leaves. -/
theorem beginCheckpoint_ok {sourceId resource runId : String} {startedAt leaseAt : Time}
    {checkpoint : DeviceSyncCheckpoint} {s s' : Store}
    (ok : s.beginCheckpoint sourceId resource runId startedAt leaseAt = .ok (checkpoint, s')) :
    (sourceId ≠ "" ∧ resource ≠ "" ∧ runId ≠ "") ∧
    (∃ r, s.lockRun sourceId runId .running leaseAt.truncateMicro = some r) ∧
    ∃ stored checkpoints, begunRow sourceId resource runId startedAt.truncateMicro s.checkpoints =
        .ok (stored, checkpoints) ∧
      decodeDeviceSyncCheckpoint stored = .ok checkpoint ∧ s' = { s with checkpoints } := by
  unfold beginCheckpoint at ok
  split at ok
  · cases ok
  · rename_i named
    simp only [not_or] at named
    refine ⟨⟨named.1, named.2.1, named.2.2.1⟩, ?_⟩
    dsimp only at ok
    split at ok
    · cases ok
    · rename_i r locked
      refine ⟨⟨r, locked⟩, ?_⟩
      split at ok
      · cases ok
      · rename_i stored checkpoints begun
        split at ok
        · cases ok
        · rename_i decoded
          cases ok
          exact ⟨stored, checkpoints, begun, decoded, rfl⟩

/-- `BeginCheckpoint` reads the run table and leaves it alone. -/
theorem frame_beginCheckpoint {sourceId resource runId : String} {startedAt leaseAt : Time}
    {checkpoint : DeviceSyncCheckpoint} {s s' : Store}
    (ok : s.beginCheckpoint sourceId resource runId startedAt leaseAt = .ok (checkpoint, s')) :
    s' = { s with checkpoints := s'.checkpoints } := by
  obtain ⟨-, -, stored, checkpoints, -, -, rfl⟩ := beginCheckpoint_ok ok
  rfl

theorem beginCheckpoint_runs {sourceId resource runId : String} {startedAt leaseAt : Time}
    {checkpoint : DeviceSyncCheckpoint} {s s' : Store}
    (ok : s.beginCheckpoint sourceId resource runId startedAt leaseAt = .ok (checkpoint, s')) :
    s'.runs = s.runs := by
  rw [frame_beginCheckpoint ok]

/-- Everything a successful `AdvanceCheckpoint` checked, and what it leaves. -/
theorem advanceCheckpoint_ok {sourceId resource runId : String} {cursor : DeviceSyncCursor}
    {updatedAt : Time} {checkpoint : DeviceSyncCheckpoint} {s s' : Store}
    (ok : s.advanceCheckpoint sourceId resource runId cursor updatedAt = .ok (checkpoint, s')) :
    cursor.runId = runId ∧
    (∃ r, s.lockRun sourceId runId .running updatedAt.truncateMicro = some r) ∧
    ∃ stored previous text, s.checkpoints.find? (sourceId, resource) = some stored ∧
      decodeDeviceSyncCheckpoint stored = .ok previous ∧
      regresses resource runId stored.complete previous.cursor cursor.truncated = false ∧
      marshalCursor cursor.truncated = some text ∧
      decodeDeviceSyncCheckpoint (rewritten text updatedAt.truncateMicro stored) =
        .ok checkpoint ∧
      s' = { s with
        runs := s.runs.update (fun r => decide (r.id = runId) && advancing sourceId r)
          (extended updatedAt.truncateMicro) (id_extended _)
        checkpoints := s.checkpoints.update (fun c => decide (c.key = (sourceId, resource)))
          (rewritten text updatedAt.truncateMicro) (key_rewritten _ _) } := by
  unfold advanceCheckpoint at ok
  split at ok
  · cases ok
  · rename_i named
    simp only [not_or, not_not] at named
    refine ⟨named.2.2.2.2, ?_⟩
    dsimp only at ok
    split at ok
    · cases ok
    · split at ok
      · cases ok
      · split at ok
        · cases ok
        · rename_i r locked
          refine ⟨⟨r, locked⟩, ?_⟩
          split at ok
          · cases ok
          · rename_i stored found
            split at ok
            · cases ok
            · rename_i previous read
              split at ok
              · cases ok
              · rename_i forward
                split at ok
                · cases ok
                · rename_i text written
                  split at ok
                  · cases ok
                  · split at ok
                    · cases ok
                    · rename_i decoded
                      cases ok
                      exact ⟨stored, previous, text, found, read, by simpa using forward, written,
                        decoded, rfl⟩

theorem advanceCheckpoint_rows {sourceId resource runId : String} {cursor : DeviceSyncCursor}
    {updatedAt : Time} {checkpoint : DeviceSyncCheckpoint} {s s' : Store}
    (ok : s.advanceCheckpoint sourceId resource runId cursor updatedAt = .ok (checkpoint, s')) :
    RowsStep (.advanceCheckpoint sourceId resource runId cursor updatedAt) s.runs.rows
      s'.runs.rows := by
  obtain ⟨-, ⟨locked, lock⟩, -, -, -, -, -, -, -, -, rfl⟩ := advanceCheckpoint_ok ok
  obtain ⟨found, rfl, running, uncanceled, current⟩ := lockRun_eq_some lock
  refine rowsStep_map fun r member here => ?_
  simp only [Bool.and_eq_true, decide_eq_true_eq] at here
  cases eq_of_find? found member here.1
  rw [← Table.key_of_find? found]
  exact .advanced running uncanceled current

/-- Everything a successful `CompleteCheckpointAndRun` checked, and what it leaves. -/
theorem completeCheckpointAndRun_ok {sourceId resource runId : String} {status : SyncRunStatus}
    {completedAt : Time} {run : SyncRun} {s s' : Store}
    (ok : s.completeCheckpointAndRun sourceId resource runId status completedAt = .ok (run, s')) :
    status = .publishing ∧
    (∃ r, s.lockRun sourceId runId .publishing completedAt.truncateMicro = some r) ∧
    ∃ stored checkpoint, s.checkpoints.find? (sourceId, resource) = some stored ∧
      decodeDeviceSyncCheckpoint stored = .ok checkpoint ∧ stored.complete = false ∧
      checkpoint.cursor.runId = runId ∧
      checkpoint.cursor.nextOffset = checkpoint.cursor.total ∧
      s' = { s with
        runs := s.runs.update
          (fun r => decide (r.id = runId) && (r.sourceId == sourceId && r.status == status))
          (succeeded completedAt.truncateMicro) (id_succeeded _)
        checkpoints := s.checkpoints.update (fun c => decide (c.key = (sourceId, resource)))
          (completed completedAt.truncateMicro) (key_completed _) } := by
  unfold completeCheckpointAndRun at ok
  split at ok
  · cases ok
  · rename_i named
    simp only [not_or, not_not] at named
    obtain ⟨-, -, -, rfl, -⟩ := named
    refine ⟨rfl, ?_⟩
    dsimp only at ok
    split at ok
    · cases ok
    · rename_i r locked
      refine ⟨⟨r, locked⟩, ?_⟩
      split at ok
      · cases ok
      · rename_i stored found
        split at ok
        · cases ok
        · rename_i checkpoint decoded
          split at ok
          · cases ok
          · rename_i whole
            simp only [not_or, not_not, Bool.not_eq_true] at whole
            split at ok
            · cases ok
            · split at ok
              · cases ok
              · split at ok
                · cases ok
                · cases ok
                  exact ⟨stored, checkpoint, found, decoded, whole.1, whole.2.1, whole.2.2,
                    rfl⟩

theorem completeCheckpointAndRun_rows {sourceId resource runId : String} {status : SyncRunStatus}
    {completedAt : Time} {run : SyncRun} {s s' : Store}
    (ok : s.completeCheckpointAndRun sourceId resource runId status completedAt = .ok (run, s')) :
    RowsStep (.completeCheckpointAndRun sourceId resource runId status completedAt) s.runs.rows
      s'.runs.rows := by
  obtain ⟨rfl, ⟨locked, lock⟩, -, -, -, -, -, -, -, rfl⟩ :=
    completeCheckpointAndRun_ok ok
  obtain ⟨found, rfl, publishing, uncanceled, current⟩ := lockRun_eq_some lock
  refine rowsStep_map fun r member here => ?_
  simp only [Bool.and_eq_true, decide_eq_true_eq] at here
  cases eq_of_find? found member here.1
  rw [← Table.key_of_find? found]
  exact .completed publishing uncanceled current

/-! Operations on runs write nothing else. -/

theorem frame_enqueue {request run : SyncRun} {now : Time} {s s' : Store}
    (ok : s.enqueue request now = .ok (run, s')) : s' = { s with runs := s'.runs } := by
  unfold enqueue at ok
  split at ok
  · cases ok
  · dsimp only at ok
    split at ok
    · split at ok
      · cases ok
      · cases ok
        rfl
    · split_ifs at ok
      split at ok
      · cases ok
      · cases ok
        rfl

theorem frame_cancel {runId : String} {now : Time} {result : SyncRun × Bool} {s s' : Store}
    (ok : s.cancel runId now = .ok (result, s')) : s' = { s with runs := s'.runs } := by
  unfold cancel at ok
  split at ok
  · cases ok
  · dsimp only at ok
    split at ok
    · cases ok
      rfl
    · cases ok
      rfl
    · split_ifs at ok <;> cases ok <;> rfl
    · split_ifs at ok <;> cases ok <;> rfl
    · cases ok
    · cases ok

theorem frame_claimNext {target : Option String} {startedAt : Time}
    {claim : SyncRun × Source} {s s' : Store} (ok : s.claimNext target startedAt = .ok (claim, s')) :
    s' = { s with runs := s'.runs } := by
  have claimed : ∀ runId, s.claim startedAt runId = .ok (claim, s') →
      s' = { s with runs := s'.runs } := by
    intro runId ok
    unfold Store.claim at ok
    split_ifs at ok
    all_goals
      dsimp only at ok
      split at ok
      · cases ok
      · split at ok
        · cases ok
        · split_ifs at ok
          cases ok
          rfl
  unfold claimNext at ok
  split at ok
  · exact claimed _ ok
  · split_ifs at ok
    exact claimed _ ok

theorem frame_renewRunLease {runId : String} {now : Time} {s s' : Store}
    (ok : s.renewRunLease runId now = .ok ((), s')) : s' = { s with runs := s'.runs } := by
  unfold renewRunLease at ok
  split_ifs at ok
  dsimp only at ok
  split_ifs at ok
  cases ok
  rfl

/-! ## One operation -/

/-- **What one operation does to the run table.**  Every row moves by a `RunStep`; an `Enqueue` may
add its run, and then no other run of the source is active. -/
theorem rows_apply (op : Op) (s : Store) :
    RowsStep op s.runs.rows (s.apply op).runs.rows ∨
      ∃ request now rows, op = .enqueue request now ∧ RowsStep op s.runs.rows rows ∧
        (s.apply op).runs.rows = rows ++ [request] ∧ (∀ r ∈ rows, r.id ≠ request.id) ∧
        ∀ r ∈ rows, r.sourceId = request.sourceId → r.status.active = false := by
  cases outcome : s.execute op with
  | error e =>
      rw [apply_of_error outcome]
      exact Or.inl (.refl op _)
  | ok s' =>
      rw [apply_of_ok outcome]
      cases op with
      | enqueue request now =>
          obtain ⟨run, ok⟩ := ok_of_map outcome
          obtain ⟨runs, step, ⟨rfl, -⟩ | ⟨-, rows, fresh, idle⟩⟩ := enqueue_rows ok
          · exact Or.inl step
          · exact Or.inr ⟨request, now, runs.rows, rfl, step, rows, fresh, idle⟩
      | cancel runId now =>
          obtain ⟨⟨run, accepted⟩, ok⟩ := ok_of_map outcome
          exact Or.inl (cancel_rows ok)
      | claimNext target startedAt =>
          obtain ⟨claim, ok⟩ := ok_of_map outcome
          exact Or.inl (claimNext_rows ok)
      | transitionRun runId origin target now errorCode =>
          obtain ⟨run, ok⟩ := ok_of_map outcome
          exact Or.inl (transitionRun_rows ok)
      | renewRunLease runId now =>
          obtain ⟨⟨⟩, ok⟩ := ok_of_map outcome
          exact Or.inl (renewRunLease_rows ok)
      | beginCheckpoint sourceId resource runId startedAt leaseAt =>
          obtain ⟨checkpoint, ok⟩ := ok_of_map outcome
          rw [beginCheckpoint_runs ok]
          exact Or.inl (.refl _ _)
      | advanceCheckpoint sourceId resource runId cursor updatedAt =>
          obtain ⟨checkpoint, ok⟩ := ok_of_map outcome
          exact Or.inl (advanceCheckpoint_rows ok)
      | completeCheckpointAndRun sourceId resource runId expectedStatus completedAt =>
          obtain ⟨run, ok⟩ := ok_of_map outcome
          exact Or.inl (completeCheckpointAndRun_rows ok)

/-- No operation writes the sources. -/
theorem sources_apply (op : Op) (s : Store) : (s.apply op).sources = s.sources := by
  cases outcome : s.execute op with
  | error e => rw [apply_of_error outcome]
  | ok s' =>
      rw [apply_of_ok outcome]
      cases op with
      | enqueue request now =>
          obtain ⟨run, ok⟩ := ok_of_map outcome
          rw [frame_enqueue ok]
      | cancel runId now =>
          obtain ⟨result, ok⟩ := ok_of_map outcome
          rw [frame_cancel ok]
      | claimNext target startedAt =>
          obtain ⟨claim, ok⟩ := ok_of_map outcome
          rw [frame_claimNext ok]
      | transitionRun runId origin target now errorCode =>
          obtain ⟨run, ok⟩ := ok_of_map outcome
          obtain ⟨-, -, -, -, -, -, -, -, rfl⟩ := transitionRun_ok ok
          rfl
      | renewRunLease runId now =>
          obtain ⟨⟨⟩, ok⟩ := ok_of_map outcome
          rw [frame_renewRunLease ok]
      | beginCheckpoint sourceId resource runId startedAt leaseAt =>
          obtain ⟨checkpoint, ok⟩ := ok_of_map outcome
          rw [frame_beginCheckpoint ok]
      | advanceCheckpoint sourceId resource runId cursor updatedAt =>
          obtain ⟨checkpoint, ok⟩ := ok_of_map outcome
          obtain ⟨-, -, -, -, -, -, -, -, -, -, rfl⟩ := advanceCheckpoint_ok ok
          rfl
      | completeCheckpointAndRun sourceId resource runId expectedStatus completedAt =>
          obtain ⟨run, ok⟩ := ok_of_map outcome
          obtain ⟨-, -, -, -, -, -, -, -, -, rfl⟩ := completeCheckpointAndRun_ok ok
          rfl

/-- A stored run is still stored after an operation, moved by a `RunStep`. -/
theorem find?_apply {op : Op} {s : Store} {runId : String} {r : SyncRun}
    (found : s.runs.find? runId = some r) :
    ∃ r', (s.apply op).runs.find? runId = some r' ∧ RunStep op r r' := by
  have member := Table.mem_of_find? found
  have id := Table.key_of_find? found
  have moved : ∃ r' ∈ (s.apply op).runs.rows, RunStep op r r' := by
    rcases rows_apply op s with ⟨f, rows, step⟩ | ⟨request, now, after, -, ⟨f, rows, step⟩, grown, -⟩
    · exact ⟨f r, by rw [rows]; exact List.mem_map_of_mem member, step r member⟩
    · refine ⟨f r, ?_, step r member⟩
      rw [grown, rows]
      exact List.mem_append_left _ (List.mem_map_of_mem member)
  obtain ⟨r', inside, step⟩ := moved
  refine ⟨r', ?_, step⟩
  rw [Table.find?_eq_some_iff]
  exact ⟨inside, step.id_eq.trans id⟩

/-- A run stored after an operation was stored before it, or is the one just enqueued. -/
theorem mem_apply {op : Op} {s : Store} {r' : SyncRun} (member : r' ∈ (s.apply op).runs.rows) :
    (∃ r ∈ s.runs.rows, RunStep op r r') ∨ ∃ now, op = .enqueue r' now := by
  rcases rows_apply op s with ⟨f, rows, step⟩ | ⟨request, now, after, rfl, ⟨f, rows, step⟩, grown, -⟩
  · rw [rows] at member
    obtain ⟨r, inside, rfl⟩ := List.mem_map.mp member
    exact Or.inl ⟨r, inside, step r inside⟩
  · rw [grown, List.mem_append, List.mem_singleton] at member
    rcases member with old | rfl
    · rw [rows] at old
      obtain ⟨r, inside, rfl⟩ := List.mem_map.mp old
      exact Or.inl ⟨r, inside, step r inside⟩
    · exact Or.inr ⟨now, rfl⟩

/-! ## Whole sequences -/

/-- An invariant that the operations of a sequence keep holds after the sequence. -/
theorem applyAll_invariant {I : Store → Prop} {ops : List Op} {s : Store} (start : I s)
    (step : ∀ op ∈ ops, ∀ s, I s → I (s.apply op)) : I (s.applyAll ops) := by
  induction ops generalizing s with
  | nil => exact start
  | cons op ops ih =>
      rw [applyAll_cons]
      refine ih (step op (by simp) s start) fun op' member => ?_
      exact step op' (List.mem_cons_of_mem _ member)

/-- A property of rows that every `RunStep` keeps, and every enqueued run has, is an invariant. -/
theorem rows_invariant {P : SyncRun → Prop} {ops : List Op} {s : Store}
    (start : ∀ r ∈ s.runs.rows, P r)
    (enqueued : ∀ request now, Op.enqueue request now ∈ ops → P request)
    (step : ∀ op r r', RunStep op r r' → P r → P r') :
    ∀ r ∈ (s.applyAll ops).runs.rows, P r := by
  refine applyAll_invariant (I := fun s => ∀ r ∈ s.runs.rows, P r) start ?_
  intro op listed s held r member
  rcases mem_apply member with ⟨before, inside, moved⟩ | ⟨now, rfl⟩
  · exact step op before r moved (held before inside)
  · exact enqueued r now listed

/-- A property of one run that every `RunStep` keeps holds of it ever after. -/
theorem run_invariant {P : SyncRun → Prop} {runId : String} {r : SyncRun} {s : Store}
    (found : s.runs.find? runId = some r) (here : P r)
    (step : ∀ op r r', RunStep op r r' → P r → P r') (ops : List Op) :
    ∃ r', (s.applyAll ops).runs.find? runId = some r' ∧ P r' := by
  refine applyAll_invariant (I := fun s => ∃ r', s.runs.find? runId = some r' ∧ P r')
    ⟨r, found, here⟩ ?_
  rintro op - s ⟨before, stored, held⟩
  obtain ⟨after, moved, run⟩ := find?_apply stored
  exact ⟨after, moved, step op before after run held⟩

end Store

end UnifiedInfraTopology
