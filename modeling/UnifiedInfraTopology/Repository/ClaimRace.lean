import UnifiedInfraTopology.Repository.Statements

/-!
# Racing claims

Any number of `ClaimNext` and `Cancel` calls of any processes, their statements interleaved in any
order, each statement possibly failing and each call possibly stopping after any statement.

`RunThread` is the assertion of one call at each of its stages: which versions its transaction has
written, and what a claim that has returned leaves in the table.  Together with `Moves`, by which
every version is a `RunStep` of the committed row under its lock, it is the invariant of a race.
-/

namespace UnifiedInfraTopology

open Lib

section

variable {ι : Type} [DecidableEq ι] (calls : ι → RunCall)

/-- The versions of the call `i` are steps of its operation. -/
abbrev RunMoves (runs : LockedTable ι SyncRun SyncRun.id) : Prop :=
  LockedTable.Moves (fun i => RunStep (calls i).op) runs

/-- A claim at `startedAt` holds the run: it runs under the lease of the claim, or a claim of any run
has found that lease expired. -/
def Claimed (startedAt : Time) (r : SyncRun) : Prop :=
  r.startedAt = some startedAt ∧
    (r.status = .running ∧ r.leaseExpiresAt = some (startedAt + inventoryRunLeaseDuration) ∨
      r.status.terminal = true ∧ ∃ i now, calls i = .claimNext none now ∧
        startedAt + inventoryRunLeaseDuration ≤ now.truncateMicro)

variable {calls}

omit [DecidableEq ι] in
theorem Claimed.not_queued {startedAt : Time} {r : SyncRun} (held : Claimed calls startedAt r) :
    r.status ≠ .queued := by
  intro queued
  rcases held.2 with ⟨running, -⟩ | ⟨ended, -⟩
  · rw [queued] at running
    cases running
  · rw [queued] at ended
    cases ended

omit [DecidableEq ι] in
/-- The other calls of a race leave a claimed run claimed. -/
theorem Claimed.step {startedAt : Time} {r r' : SyncRun} {i : ι} (held : Claimed calls startedAt r)
    (step : RunStep (calls i).op r r') : Claimed calls startedAt r' := by
  have still : r.status.executing = true → r.status.terminal = false := fun executing =>
    SyncRunStatus.not_terminal_of_active (SyncRunStatus.active_of_executing executing)
  have expires : ∀ {now}, r.status.executing = true → r.leaseStale now = true →
      ((∃ request t, (calls i).op = .enqueue request t ∧ now = t.truncateMicro) ∨
        ∃ t, (calls i).op = .claimNext none t ∧ now = t.truncateMicro) →
      ∃ i now, calls i = .claimNext none now ∧
        startedAt + inventoryRunLeaseDuration ≤ now.truncateMicro := by
    intro now executing stale expired
    rcases held.2 with ⟨-, lease⟩ | ⟨ended, -⟩
    · rw [SyncRun.leaseStale, lease] at stale
      rcases expired with ⟨request, t, op, -⟩ | ⟨t, op, rfl⟩
      · cases shape : calls i <;> rw [shape] at op <;> cases op
      · cases shape : calls i with
        | claimNext target at_ =>
            rw [shape] at op
            cases op
            exact ⟨i, t, shape, by simpa using stale⟩
        | cancel runId at_ =>
            rw [shape] at op
            cases op
    · rw [still executing] at ended
      cases ended
  generalize op_eq : (calls i).op = op at step expires
  cases step with
  | same => exact held
  | cancelQueued now queued => exact absurd queued held.not_queued
  | cancelRequested now here fresh => exact held
  | claimed target at_ queued uncanceled => exact absurd queued held.not_queued
  | expiredCanceled executing stale requested expired =>
      exact ⟨held.1, Or.inr ⟨rfl, expires executing stale expired⟩⟩
  | expiredFailed executing stale unrequested expired =>
      exact ⟨held.1, Or.inr ⟨rfl, expires executing stale expired⟩⟩
  | _ => cases shape : calls i <;> rw [shape] at op_eq <;> cases op_eq

/-! ## Stages -/

/-- The transaction has written nothing that is still open. -/
def Free (i : ι) (runs : LockedTable ι SyncRun SyncRun.id) : Prop :=
  ∀ k r, runs.written k ≠ some (i, r)

/-- The transaction has written ends of runs only. -/
def EndedOnly (i : ι) (runs : LockedTable ι SyncRun SyncRun.id) : Prop :=
  ∀ k r, runs.written k = some (i, r) → r.status.terminal = true

variable (calls) in
/-- Where a call can be. -/
inductive RunThread (i : ι) (runs : LockedTable ι SyncRun SyncRun.id) : RunProg ι → Prop where
  | raised (e : InventoryError) (free : Free i runs) : RunThread i runs (.raise e)
  | aborting {p : RunProg ι} (e : InventoryError) (here : p = abort i e) : RunThread i runs p
  | expire {p : RunProg ι} {startedAt : Time} (call : calls i = .claimNext none startedAt)
      (here : p = claimExpire i startedAt.truncateMicro "") (free : Free i runs) : RunThread i runs p
  | expireFailed {p : RunProg ι} {startedAt : Time} (call : calls i = .claimNext none startedAt)
      (here : p = claimExpireFailed i startedAt.truncateMicro "") (ended : EndedOnly i runs) :
      RunThread i runs p
  | select {p : RunProg ι} {target : Option String} {startedAt : Time} (runId : String)
      (call : calls i = .claimNext target startedAt)
      (here : p = claimSelect i startedAt.truncateMicro runId) (ended : EndedOnly i runs) :
      RunThread i runs p
  | source {p : RunProg ι} {target : Option String} {startedAt : Time} (run : SyncRun)
      (call : calls i = .claimNext target startedAt)
      (here : p = claimSource i startedAt.truncateMicro run) (ended : EndedOnly i runs) :
      RunThread i runs p
  | update {p : RunProg ι} {target : Option String} {startedAt : Time} (run : SyncRun)
      (source : Source) (call : calls i = .claimNext target startedAt)
      (here : p = claimUpdate i startedAt.truncateMicro run source) (ended : EndedOnly i runs) :
      RunThread i runs p
  | committing {p : RunProg ι} {target : Option String} {startedAt : Time} (run : SyncRun)
      (source : Source) (call : calls i = .claimNext target startedAt)
      (here : p = finish i (.claimed (Store.claimed startedAt.truncateMicro run) source)) (r : SyncRun)
      (stored : runs.committed.find? run.id = some r) (claimable : Store.claimable r = true)
      (written : runs.written run.id = some (i, Store.claimed startedAt.truncateMicro r)) :
      RunThread i runs p
  | claimed {target : Option String} {startedAt : Time} (run : SyncRun) (source : Source)
      (call : calls i = .claimNext target startedAt) (free : Free i runs) (r : SyncRun)
      (stored : runs.committed.find? run.id = some r)
      (held : Claimed calls startedAt.truncateMicro r) :
      RunThread i runs (.ret (.claimed (Store.claimed startedAt.truncateMicro run) source))
  | lock {p : RunProg ι} {runId : String} {now : Time} (call : calls i = .cancel runId now)
      (here : p = cancelTx i runId now) (free : Free i runs) : RunThread i runs p
  | canceling {p : RunProg ι} {runId : String} {now : Time} (u : RunUpdate) (run : SyncRun)
      (call : calls i = .cancel runId now) (here : p = cancelUpdate i u run)
      (stored : runs.committed.find? runId = some run) (written : runs.written runId = some (i, run))
      (addressed : ∀ r, u.applies r = true → r.id = runId)
      (step : RunStep (.cancel runId now) run (u.change run)) : RunThread i runs p
  | finishing {p : RunProg ι} (run : SyncRun) (accepted : Bool)
      (here : p = finish i (.canceled run accepted)) : RunThread i runs p
  | canceled (run : SyncRun) (accepted : Bool) (free : Free i runs) :
      RunThread i runs (.ret (.canceled run accepted))

/-! ## Steps of other calls -/

/-- The transaction of a statement. -/
def RunStatement.tx : RunStatement ι → ι
  | .update tx _ | .lockRun tx _ | .selectClaimable tx _ | .selectSource tx _ | .commit tx
  | .rollback tx => tx

theorem update_cases (tx : ι) (u : RunUpdate) (fails : Bool) (d : RunDb ι) :
    runHandler (.update tx u) fails d = (some (.error .database), d) ∨
      ∃ n runs, d.runs.write tx u.applies u.change u.id_change = some (n, runs) ∧
        runHandler (.update tx u) fails d = (some (.ok n), { d with runs }) := by
  cases fails with
  | true => exact Or.inl rfl
  | false =>
      cases written : d.runs.write tx u.applies u.change u.id_change with
      | none => exact Or.inl (by simp [runHandler, written])
      | some p => exact Or.inr ⟨p.1, p.2, rfl, by simp [runHandler, written]⟩

theorem lockRun_cases (tx : ι) (runId : String) (fails : Bool) (d : RunDb ι) :
    runHandler (.lockRun tx runId) fails d = (some (.error .database), d) ∨
      ∃ n runs, d.runs.write tx (fun r => decide (r.id = runId)) id (fun _ => rfl) = some (n, runs) ∧
        runHandler (.lockRun tx runId) fails d =
          (some (.ok ((d.runs.view tx).find? runId)), { d with runs }) := by
  cases fails with
  | true => exact Or.inl rfl
  | false =>
      cases written : d.runs.write tx (fun r => decide (r.id = runId)) id (fun _ => rfl) with
      | none => exact Or.inl (by simp [runHandler, written])
      | some p => exact Or.inr ⟨p.1, p.2, rfl, by simp [runHandler, written]⟩

theorem apart_runHandler {c : RunStatement ι} {i : ι} (other : c.tx ≠ i) (fails : Bool)
    (d : RunDb ι) : LockedTable.Apart i d.runs (runHandler c fails d).2.runs := by
  cases c with
  | update tx u =>
      rcases update_cases tx u fails d with same | ⟨n, runs, written, here⟩
      · rw [same]
        exact .refl i _
      · rw [here]
        exact LockedTable.apart_write other written
  | lockRun tx runId =>
      rcases lockRun_cases tx runId fails d with same | ⟨n, runs, written, here⟩
      · rw [same]
        exact .refl i _
      · rw [here]
        exact LockedTable.apart_write other written
  | selectClaimable tx runId => exact .refl i _
  | selectSource tx sourceId => exact .refl i _
  | commit tx =>
      cases fails with
      | true => exact LockedTable.apart_rollback other
      | false => exact LockedTable.apart_commit other
  | rollback tx => exact LockedTable.apart_rollback other

/-- Only a commit changes the committed rows. -/
theorem committed_runHandler (c : RunStatement ι) (fails : Bool) (d : RunDb ι) :
    (runHandler c fails d).2.runs.committed = d.runs.committed ∨
      ∃ tx, c = .commit tx ∧ fails = false := by
  cases c with
  | update tx u =>
      rcases update_cases tx u fails d with same | ⟨n, runs, written, here⟩
      · exact Or.inl (by rw [same])
      · rw [here]
        exact Or.inl (LockedTable.written_write (k := "") written).1
  | lockRun tx runId =>
      rcases lockRun_cases tx runId fails d with same | ⟨n, runs, written, here⟩
      · exact Or.inl (by rw [same])
      · rw [here]
        exact Or.inl (LockedTable.written_write (k := "") written).1
  | commit tx =>
      cases fails with
      | true => exact Or.inl rfl
      | false => exact Or.inr ⟨tx, rfl, rfl⟩
  | _ => exact Or.inl rfl

/-- A statement of a call moves a committed row at most by a step of the call. -/
theorem stored_runHandler {c : RunStatement ι} {d : RunDb ι} (moves : RunMoves calls d.runs)
    (fails : Bool) {k : String} {r : SyncRun} (stored : d.runs.committed.find? k = some r) :
    ∃ r', (runHandler c fails d).2.runs.committed.find? k = some r' ∧
      (r' = r ∨ RunStep (calls c.tx).op r r') := by
  rcases committed_runHandler c fails d with same | ⟨tx, rfl, rfl⟩
  · exact ⟨r, by rw [same]; exact stored, Or.inl rfl⟩
  · exact moves.committed stored

theorem Claimed.runHandler {c : RunStatement ι} {d : RunDb ι} (moves : RunMoves calls d.runs)
    (fails : Bool) {k : String} {startedAt : Time} {r : SyncRun}
    (stored : d.runs.committed.find? k = some r) (held : Claimed calls startedAt r) :
    ∃ r', (runHandler c fails d).2.runs.committed.find? k = some r' ∧
      Claimed calls startedAt r' := by
  obtain ⟨r', stored', same | step⟩ := stored_runHandler (c := c) moves fails stored
  · exact ⟨r', stored', same ▸ held⟩
  · exact ⟨r', stored', held.step step⟩

omit [DecidableEq ι] in
/-- A call sends the statements of its own transaction. -/
theorem RunThread.tx {i : ι} {runs : LockedTable ι SyncRun SyncRun.id} {c : RunStatement ι}
    {k : c.Answer → RunProg ι} (thread : RunThread calls i runs (.call c k)) : c.tx = i := by
  cases thread with
  | aborting e here | expire call here | expireFailed call here | select runId call here
  | source run call here | update run source call here | committing run source call here
  | lock call here | canceling u run call here | finishing run accepted here =>
      cases here
      rfl

/-- The statements of other transactions leave a call where it is. -/
theorem tolerates_runThread : Prog.Tolerates runHandler (fun d : RunDb ι => RunMoves calls d.runs)
    (fun i p d => RunThread calls i d.runs p) := by
  intro i j different c k fails d moves mine p theirs
  have tx := mine.tx
  have apart := apart_runHandler (i := j) (tx ▸ different : c.tx ≠ j) fails d
  have free : Free j d.runs → Free j (runHandler c fails d).2.runs :=
    fun free k r written => free k r ((apart.written k r).mp written)
  have ended : EndedOnly j d.runs → EndedOnly j (runHandler c fails d).2.runs :=
    fun ended k r written => ended k r ((apart.written k r).mp written)
  cases theirs with
  | raised e clean => exact .raised e (free clean)
  | aborting e here => exact .aborting e here
  | expire call here clean => exact .expire call here (free clean)
  | expireFailed call here ends => exact .expireFailed call here (ended ends)
  | select runId call here ends => exact .select runId call here (ended ends)
  | source run call here ends => exact .source run call here (ended ends)
  | update run source call here ends => exact .update run source call here (ended ends)
  | committing run source call here r stored claimable written =>
      exact .committing run source call here r ((apart.committed _ _ written).trans stored) claimable
        ((apart.written _ _).mpr written)
  | claimed run source call clean r stored held =>
      obtain ⟨r', stored', held'⟩ := Claimed.runHandler (c := c) moves fails stored held
      exact .claimed run source call (free clean) r' stored' held'
  | lock call here clean => exact .lock call here (free clean)
  | canceling u run call here stored written addressed step =>
      exact .canceling u run call here ((apart.committed _ _ written).trans stored)
        ((apart.written _ _).mpr written) addressed step
  | finishing run accepted here => exact .finishing run accepted here
  | canceled run accepted clean => exact .canceled run accepted (free clean)

/-! ## Own steps -/

omit [DecidableEq ι] in
theorem Free.endedOnly {i : ι} {runs : LockedTable ι SyncRun SyncRun.id} (free : Free i runs) :
    EndedOnly i runs :=
  fun k r written => (free k r written).elim

/-- A transaction that has only ended runs sees the committed row of a run that it sees alive. -/
theorem EndedOnly.version_of_alive {i : ι} {runs : LockedTable ι SyncRun SyncRun.id} {r : SyncRun}
    (ended : EndedOnly i runs) (alive : (runs.version i r).status.terminal = false) :
    runs.version i r = r := by
  by_cases own : ∃ r', runs.written r.id = some (i, r')
  · obtain ⟨r', written⟩ := own
    rw [LockedTable.version_of_written written, ended _ _ written] at alive
    cases alive
  · exact LockedTable.version_of_apart (not_exists.mp own)

theorem EndedOnly.write {i : ι} {runs runs' : LockedTable ι SyncRun SyncRun.id} {p : SyncRun → Bool}
    {f : SyncRun → SyncRun} {keeps : ∀ r, (f r).id = r.id} {n : Nat} (ended : EndedOnly i runs)
    (done : runs.write i p f keeps = some (n, runs'))
    (ends : ∀ r, (f r).status.terminal = true) : EndedOnly i runs' := by
  intro k r written
  rcases LockedTable.written_cases done written with ⟨-, v, -, -, rfl⟩ | before
  · exact ends v
  · exact ended k r before

theorem free_rollback (i : ι) (runs : LockedTable ι SyncRun SyncRun.id) :
    Free i (runs.rollback i) :=
  fun _ _ written => (LockedTable.written_rollback.mp written).2 rfl

theorem free_commit (i : ι) (runs : LockedTable ι SyncRun SyncRun.id) : Free i (runs.commit i) :=
  fun _ _ written => (LockedTable.written_commit.mp written).2 rfl

variable (calls) in
/-- The statement is answered, and the call goes on to a stage that the state allows. -/
def Continues (i : ι) (c : RunStatement ι) (k : c.Answer → RunProg ι) (fails : Bool)
    (d : RunDb ι) : Prop :=
  ∃ a, (runHandler c fails d).1 = some a ∧ RunMoves calls (runHandler c fails d).2.runs ∧
    RunThread calls i (runHandler c fails d).2.runs (k a)

variable {i : ι} {d : RunDb ι}

/-- An update of a call, on rows that it may move. -/
theorem continues_update {u : RunUpdate} {k : Except InventoryError Nat → RunProg ι}
    (moves : RunMoves calls d.runs) (fails : Bool)
    (step : ∀ key r, d.runs.committed.find? key = some r → u.applies (d.runs.version i r) = true →
      RunStep (calls i).op r (u.change (d.runs.version i r)))
    (failed : RunThread calls i d.runs (k (.error .database)))
    (done : ∀ n runs, d.runs.write i u.applies u.change u.id_change = some (n, runs) →
      RunThread calls i runs (k (.ok n))) :
    Continues calls i (.update i u) k fails d := by
  rcases update_cases i u fails d with same | ⟨n, runs, written, here⟩
  · refine ⟨.error .database, by rw [same], ?_, ?_⟩
    · rw [same]
      exact moves
    · rw [same]
      exact failed
  · refine ⟨.ok n, by rw [here], ?_, ?_⟩
    · rw [here]
      exact moves.write written step
    · rw [here]
      exact done n runs written

/-- A select changes nothing. -/
theorem continues_select {c : RunStatement ι} {k : c.Answer → RunProg ι} {fails : Bool}
    (moves : RunMoves calls d.runs) (reads : (runHandler c fails d).2 = d)
    (answers : (runHandler c fails d).1.isSome = true)
    (next : ∀ a, RunThread calls i d.runs (k a)) : Continues calls i c k fails d := by
  obtain ⟨a, answer⟩ := Option.isSome_iff_exists.mp answers
  refine ⟨a, answer, ?_, ?_⟩
  · rw [reads]
    exact moves
  · rw [reads]
    exact next a

/-- An update that ends stale runs, before the claim has written anything else. -/
theorem continues_expire {u : RunUpdate} {k : Except InventoryError Nat → RunProg ι}
    (moves : RunMoves calls d.runs) (ended : EndedOnly i d.runs) (fails : Bool)
    (expires : ∀ r, u.applies r = true → r.status.executing = true ∧
      RunStep (calls i).op r (u.change r))
    (ends : ∀ r, (u.change r).status.terminal = true)
    (failed : ∃ e, k (.error .database) = abort i e)
    (done : ∀ n runs, EndedOnly i runs → RunThread calls i runs (k (.ok n))) :
    Continues calls i (.update i u) k fails d := by
  refine continues_update moves fails ?_ ?_ ?_
  · intro key r stored applies
    obtain ⟨executing, step⟩ := expires _ applies
    have alive : (d.runs.version i r).status.terminal = false :=
      SyncRunStatus.not_terminal_of_active (SyncRunStatus.active_of_executing executing)
    rw [ended.version_of_alive alive] at step ⊢
    exact step
  · obtain ⟨e, here⟩ := failed
    exact .aborting e here
  · intro n runs written
    exact done n runs (ended.write written ends)

theorem continues_claimUpdate {target : Option String} {startedAt : Time} {run : SyncRun}
    {source : Source} {c : RunStatement ι} {k : c.Answer → RunProg ι}
    (call : calls i = .claimNext target startedAt)
    (here : Prog.call c k = claimUpdate i startedAt.truncateMicro run source)
    (ended : EndedOnly i d.runs) (moves : RunMoves calls d.runs) (fails : Bool) :
    Continues calls i c k fails d := by
  cases here
  have seen : ∀ r, Store.claimable (d.runs.version i r) = true → d.runs.version i r = r := by
    intro r claimable
    refine ended.version_of_alive ?_
    simp only [Store.claimable, Bool.and_eq_true, beq_iff_eq] at claimable
    rw [claimable.1]
    rfl
  refine continues_update moves fails ?_ (.aborting .database rfl) ?_
  · intro key r stored applies
    simp only [RunUpdate.applies, Bool.and_eq_true, decide_eq_true_eq] at applies
    have claimable := applies.2
    have same := seen r claimable
    rw [same] at claimable ⊢
    rw [call]
    simp only [Store.claimable, Bool.and_eq_true, beq_iff_eq, Option.isNone_iff_eq_none] at claimable
    exact .claimed target startedAt claimable.1 claimable.2
  · intro n runs written
    obtain ⟨same, count, chosen, -⟩ := LockedTable.written_write (k := run.id) written
    dsimp only
    split
    · exact .aborting .noRun rfl
    · rename_i one
      rw [count, Decidable.not_not] at one
      obtain ⟨v, found, claimable⟩ := Table.matched_key_eq_one.mp one
      have picked : (RunUpdate.claim run.id startedAt.truncateMicro).applies v = true := by
        simp only [RunUpdate.applies, Bool.and_eq_true, decide_eq_true_eq]
        exact ⟨Table.key_of_find? found, claimable⟩
      have mine := (chosen v found picked).1
      rw [LockedTable.find?_view, Option.map_eq_some_iff] at found
      obtain ⟨r, stored, rfl⟩ := found
      have unwritten := seen r claimable
      rw [unwritten] at claimable mine
      exact .committing run source call rfl r (same ▸ stored) claimable mine

theorem continues_lock {runId : String} {now : Time} {c : RunStatement ι}
    {k : c.Answer → RunProg ι} (call : calls i = .cancel runId now)
    (here : Prog.call c k = cancelTx i runId now) (free : Free i d.runs)
    (moves : RunMoves calls d.runs) (fails : Bool) : Continues calls i c k fails d := by
  cases here
  have seen : ∀ r, d.runs.version i r = r := fun r =>
    LockedTable.version_of_apart fun r' => free _ r'
  rcases lockRun_cases i runId fails d with same | ⟨n, runs, written, here⟩
  · refine ⟨.error .database, by rw [same], ?_, ?_⟩
    · rw [same]
      exact moves
    · rw [same]
      exact .aborting .database rfl
  · refine ⟨_, by rw [here], ?_, ?_⟩
    · rw [here]
      refine moves.write written ?_
      intro key r stored applies
      rw [seen]
      exact .same _ r
    · rw [here]
      cases found : (d.runs.view i).find? runId with
      | none => exact .aborting .notFound rfl
      | some run =>
          have id : run.id = runId := Table.key_of_find? found
          obtain ⟨same, -, chosen, -⟩ := LockedTable.written_write (k := runId) written
          have mine := (chosen run found (by simpa using id)).1
          have stored : runs.committed.find? runId = some run := by
            rw [LockedTable.find?_view, Option.map_eq_some_iff] at found
            obtain ⟨r, stored, rfl⟩ := found
            rw [same, seen r]
            exact stored
          have canceling : ∀ u, (∀ r, u.applies r = true → r.id = runId) →
              RunStep (.cancel runId now) run (u.change run) →
              RunThread calls i runs (cancelUpdate i u run) :=
            fun u addressed step => .canceling u run call rfl stored mine addressed step
          have request : run.status = .running ∨ run.status = .validating →
              RunThread calls i runs (if run.cancelRequestedAt.isNone
                then cancelUpdate i (.request runId now.truncateMicro) run
                else finish i (.canceled run false)) := by
            intro held
            split
            · rename_i fresh
              refine canceling _ (fun r applies => by simpa [RunUpdate.applies] using applies) ?_
              rw [← id]
              exact .cancelRequested now held (Option.isNone_iff_eq_none.mp fresh)
            · exact .finishing run false rfl
          dsimp only [cancelLocked]
          split
          · exact .finishing run false rfl
          · rename_i queued
            refine canceling _ (fun r applies => by simpa [RunUpdate.applies] using applies) ?_
            rw [← id]
            exact .cancelQueued now queued
          · rename_i running
            exact request (Or.inl running)
          · rename_i validating
            exact request (Or.inr validating)
          · exact .aborting .conflict rfl

theorem continues_finish {result : RunResult} {c : RunStatement ι} {k : c.Answer → RunProg ι}
    (here : Prog.call c k = finish i result) (moves : RunMoves calls d.runs) (fails : Bool)
    (published : RunThread calls i (d.runs.commit i) (.ret result)) :
    Continues calls i c k fails d := by
  cases here
  cases fails with
  | true => exact ⟨.error .database, rfl, moves.rollback i, .raised _ (free_rollback i d.runs)⟩
  | false => exact ⟨.ok (), rfl, moves.commit i, published⟩

/-- The own statements of a call lead to its next stage. -/
theorem establishes_runThread : Prog.Establishes runHandler (fun d : RunDb ι => RunMoves calls d.runs)
    (fun i p d => RunThread calls i d.runs p) := by
  intro i c k fails d moves thread
  have next : Continues calls i c k fails d := by
    cases thread with
    | aborting e here =>
        cases here
        exact ⟨(), rfl, moves.rollback i, .raised e (free_rollback i d.runs)⟩
    | @expire _ startedAt call here free =>
        cases here
        refine continues_expire moves free.endedOnly fails ?_ (fun _ => rfl) ⟨_, rfl⟩
          fun n runs ended => .expireFailed call rfl ended
        intro r applies
        simp only [RunUpdate.applies, SyncRun.stale, Bool.and_eq_true] at applies
        obtain ⟨⟨⟨executing, stale⟩, -⟩, requested⟩ := applies
        exact ⟨executing, call ▸ .expiredCanceled executing stale requested
          (Or.inr ⟨startedAt, rfl, rfl⟩)⟩
    | @expireFailed _ startedAt call here ended =>
        cases here
        refine continues_expire moves ended fails ?_ (fun _ => rfl) ⟨_, rfl⟩
          fun n runs ended => .select "" call rfl ended
        intro r applies
        simp only [RunUpdate.applies, SyncRun.stale, Bool.and_eq_true,
          Option.isNone_iff_eq_none] at applies
        obtain ⟨⟨⟨executing, stale⟩, -⟩, unrequested⟩ := applies
        exact ⟨executing, call ▸ .expiredFailed executing stale unrequested
          (Or.inr ⟨startedAt, rfl, rfl⟩)⟩
    | select runId call here ended =>
        cases here
        refine continues_select moves rfl rfl ?_
        rintro (e | _ | run)
        · exact .aborting e rfl
        · exact .aborting .noRun rfl
        · exact .source run call rfl ended
    | source run call here ended =>
        cases here
        refine continues_select moves rfl rfl ?_
        rintro (e | _ | source)
        · exact .aborting e rfl
        · exact .aborting .source rfl
        · exact .update run source call rfl ended
    | update run source call here ended => exact continues_claimUpdate call here ended moves fails
    | @committing _ target startedAt run source call here r stored claimable written =>
        have published := LockedTable.find?_commit_written written stored
        exact continues_finish here moves fails (.claimed run source call (free_commit i d.runs) _
          published ⟨rfl, Or.inl ⟨rfl, rfl⟩⟩)
    | lock call here free => exact continues_lock call here free moves fails
    | canceling u run call here stored written addressed step =>
        cases here
        refine continues_update moves fails ?_ (.aborting .database rfl)
          fun n runs written => .finishing _ true rfl
        intro key r found applies
        have id := addressed _ applies
        rw [d.runs.key_version] at id
        have same : key = r.id := (Table.key_of_find? found).symm
        rw [same, id, stored] at found
        cases found
        rw [LockedTable.version_of_written (id ▸ written), call]
        exact step
    | finishing run accepted here =>
        exact continues_finish here moves fails (.canceled run accepted (free_commit i d.runs))
  obtain ⟨a, answer, kept, thread'⟩ := next
  refine ⟨kept, fun blocked => ?_, fun a' answered => ?_⟩
  · rw [answer] at blocked
    cases blocked
  · rw [answer] at answered
    cases answered
    exact thread'

omit [DecidableEq ι] in
/-- Where a call starts. -/
theorem runThread_program (i : ι) (runs : Runs) :
    RunThread calls i (LockedTable.ofTable runs) ((calls i).program i) := by
  have free : Free i (LockedTable.ofTable runs : LockedTable ι SyncRun SyncRun.id) :=
    fun k r written => by cases written
  cases call : calls i with
  | claimNext target startedAt =>
      have refused : ∀ e, RunThread calls i (LockedTable.ofTable runs) (.raise e) :=
        fun e => .raised e free
      cases target with
      | none =>
          simp only [RunCall.program, claimTx]
          split
          · exact refused _
          · exact .expire call rfl free
      | some runId =>
          simp only [RunCall.program, claimTx]
          split
          · exact refused _
          · split
            · exact refused _
            · exact .select runId call rfl free.endedOnly
  | cancel runId now => exact .lock call rfl free

/-! ## Races -/

/-- What every step of a race keeps. -/
def Racing (calls : ι → RunCall) (ps : ι → RunProg ι) (d : RunDb ι) : Prop :=
  RunMoves calls d.runs ∧ ∀ i, RunThread calls i d.runs (ps i)

theorem Racing.step {ps : ι → RunProg ι} (racing : Racing calls ps d) (i : ι) (fails : Bool) :
    Racing calls (Function.update ps i (Prog.stepOnce runHandler (ps i) fails d).1)
      (Prog.stepOnce runHandler (ps i) fails d).2 :=
  Prog.assertions_step (G := fun d : RunDb ι => RunMoves calls d.runs)
    (T := fun i p d => RunThread calls i d.runs p) establishes_runThread tolerates_runThread i fails
    racing.1 racing.2

omit [DecidableEq ι] in
/-- A call ends without error by a commit. -/
theorem RunThread.finish_of_ret {runs : LockedTable ι SyncRun SyncRun.id} {c : RunStatement ι}
    {k : c.Answer → RunProg ι} {a : c.Answer} {result : RunResult}
    (thread : RunThread calls i runs (.call c k)) (ret : k a = .ret result) :
    Prog.call c k = finish i result := by
  cases thread with
  | aborting e here =>
      cases here
      cases ret
  | expire call here | expireFailed call here =>
      cases here
      rcases a with e | n <;> cases ret
  | select runId call here | source run call here =>
      cases here
      rcases a with e | _ | _ <;> cases ret
  | update run source call here =>
      cases here
      rcases a with e | n
      · cases ret
      · dsimp only at ret
        split at ret <;> cases ret
  | committing run source call here | finishing run accepted here =>
      cases here
      rcases a with e | _
      · cases ret
      · cases ret
        rfl
  | lock call here =>
      cases here
      rcases a with e | _ | run
      · cases ret
      · cases ret
      · dsimp only [cancelLocked] at ret
        split at ret
        · cases ret
        · cases ret
        · split at ret <;> cases ret
        · split at ret <;> cases ret
        · cases ret
  | canceling u run call here =>
      cases here
      rcases a with e | n <;> cases ret

omit [DecidableEq ι] in
/-- What a claim that has returned still holds. -/
theorem RunThread.held {runs : LockedTable ι SyncRun SyncRun.id} {run : SyncRun} {source : Source}
    (thread : RunThread calls i runs (.ret (.claimed run source))) :
    ∃ r startedAt, runs.committed.find? run.id = some r ∧ run.startedAt = some startedAt ∧
      Claimed calls startedAt r := by
  cases thread with
  | claimed run source call free r stored held => exact ⟨r, _, stored, rfl, held⟩
  | aborting e here | expire call here | expireFailed call here | select runId call here
  | source run call here | update run source call here | committing run source call here
  | lock call here | canceling u run call here | finishing run accepted here => cases here

omit [DecidableEq ι] in
theorem finish_injective {result result' : RunResult}
    (same : finish i result = finish i result') : result = result' := by
  injection same with _ continuations
  have answered := congrFun continuations (Except.ok ())
  injection answered

/-- The step with which a claim returns: the committed run was still unclaimed, and is held now. -/
theorem committed_of_return {p : RunProg ι} {fails : Bool} {run : SyncRun} {source : Source}
    (thread : RunThread calls i d.runs p) (unfinished : ¬p.Finished)
    (returns : (Prog.stepOnce runHandler p fails d).1 = .ret (.claimed run source)) :
    (∃ r, d.runs.committed.find? run.id = some r ∧ Store.claimable r = true) ∧
      ∃ r, (Prog.stepOnce runHandler p fails d).2.runs.committed.find? run.id = some r ∧
        r.status = .running ∧ r.startedAt = run.startedAt ∧
          r.leaseExpiresAt = run.leaseExpiresAt := by
  cases p with
  | call c k =>
      obtain ⟨a, answer, ret⟩ := Prog.answered_of_stepOnce returns nofun
      have last := thread.finish_of_ret ret
      cases last
      cases fails with
      | true =>
          cases answer
          cases ret
      | false =>
          cases thread with
          | committing run source call here r stored claimable written =>
              cases finish_injective here
              exact ⟨⟨r, stored, claimable⟩, _, LockedTable.find?_commit_written written stored,
                rfl, rfl, rfl⟩
          | finishing run accepted here => cases finish_injective here
          | _ => cases ‹_ = _›
  | _ => exact (unfinished trivial).elim

/-- A row keeps its cancellation request. -/
theorem RunStep.stays_requested {op : Op} {r r' : SyncRun} (step : RunStep op r r')
    (requested : r.cancelRequestedAt.isSome = true) : r'.cancelRequestedAt.isSome = true := by
  cases step with
  | cancelQueued | cancelRequested => rfl
  | completed publishing uncanceled =>
      rw [uncanceled] at requested
      cases requested
  | _ => exact requested

/-- A statement of a race keeps the cancellation request of a committed row. -/
theorem requested_stepOnce {ps : ι → RunProg ι} (racing : Racing calls ps d) (i : ι) (fails : Bool)
    {k : String} (requested : ∃ r, d.runs.committed.find? k = some r ∧
      r.cancelRequestedAt.isSome = true) :
    ∃ r, (Prog.stepOnce runHandler (ps i) fails d).2.runs.committed.find? k = some r ∧
      r.cancelRequestedAt.isSome = true := by
  obtain ⟨r, stored, requested⟩ := requested
  cases ps i with
  | call c k' =>
      rw [Prog.snd_stepOnce_call]
      obtain ⟨r', stored', same | step⟩ := stored_runHandler (c := c) racing.1 fails stored
      · exact ⟨r', stored', same ▸ requested⟩
      · exact ⟨r', stored', step.stays_requested requested⟩
  | _ => exact ⟨r, stored, requested⟩

/-- A step that changes the committed rows ends its call without error. -/
theorem finished_of_committed {p : RunProg ι} {fails : Bool} (thread : RunThread calls i d.runs p)
    (changed : (Prog.stepOnce runHandler p fails d).2.runs.committed ≠ d.runs.committed) :
    ∃ result, (Prog.stepOnce runHandler p fails d).1 = .ret result := by
  cases p with
  | call c k =>
      rw [Prog.snd_stepOnce_call] at changed
      rcases committed_runHandler c fails d with same | ⟨tx, rfl, rfl⟩
      · exact (changed same).elim
      · cases thread with
        | committing run source call here | finishing run accepted here =>
            cases here
            exact ⟨_, rfl⟩
        | _ => cases ‹_ = _›
  | _ => exact (changed rfl).elim

variable (calls) in
/-- The calls and the database after a schedule, from a table that no transaction is writing. -/
def race (sources : Table Source Source.id) (runs : Runs) (schedule : List (ι × Bool)) :
    (ι → RunProg ι) × RunDb ι :=
  Prog.interleave runHandler schedule (fun i => (calls i).program i)
    ⟨sources, LockedTable.ofTable runs⟩

theorem racing_race (sources : Table Source Source.id) (runs : Runs)
    (schedule : List (ι × Bool)) :
    Racing calls (race calls sources runs schedule).1 (race calls sources runs schedule).2 :=
  Prog.interleave_steps (I := Racing calls) (fun _ _ i fails racing => racing.step i fails) schedule
    ⟨LockedTable.moves_ofTable runs, fun i => runThread_program i runs⟩

omit [DecidableEq ι] in
/-- No call returns before it has sent a statement. -/
theorem program_ne_ret (i : ι) (call : RunCall) (result : RunResult) :
    call.program i ≠ .ret result := by
  intro ret
  cases call with
  | claimNext target startedAt =>
      cases target with
      | none =>
          simp only [RunCall.program, claimTx] at ret
          split at ret <;> cases ret
      | some runId =>
          simp only [RunCall.program, claimTx] at ret
          split at ret
          · cases ret
          · split at ret <;> cases ret
  | cancel runId now => cases ret

/-- No two claims have returned one run. -/
def Exclusive (ps : ι → RunProg ι) : Prop :=
  ∀ i j run run' source source', ps i = .ret (.claimed run source) →
    ps j = .ret (.claimed run' source') → run.id = run'.id → i = j

/-- A claim that returns now finds its run unclaimed, so that no other claim holds it. -/
theorem alone_of_return {ps : ι → RunProg ι} {fails : Bool} {j : ι} {run run' : SyncRun}
    {source source' : Source} (racing : Racing calls ps d) (unfinished : ¬(ps i).Finished)
    (returns : (Prog.stepOnce runHandler (ps i) fails d).1 = .ret (.claimed run source))
    (returned : ps j = .ret (.claimed run' source')) : run.id ≠ run'.id := by
  intro same
  obtain ⟨⟨r, stored, claimable⟩, -⟩ := committed_of_return (racing.2 i) unfinished returns
  have thread := racing.2 j
  rw [returned] at thread
  obtain ⟨r', startedAt, stored', -, held⟩ := thread.held
  rw [same] at stored
  rw [Option.some.inj (stored.symm.trans stored')] at claimable
  simp only [Store.claimable, Bool.and_eq_true, beq_iff_eq] at claimable
  exact held.not_queued claimable.1

theorem Exclusive.step {ps : ι → RunProg ι} (racing : Racing calls ps d) (exclusive : Exclusive ps)
    (i : ι) (fails : Bool) :
    Exclusive (Function.update ps i (Prog.stepOnce runHandler (ps i) fails d).1) := by
  by_cases finished : (ps i).Finished
  · rwa [Prog.stepOnce_finished finished, Function.update_eq_self]
  · intro a b run run' source source' first second same
    rcases eq_or_ne a i with rfl | apart
    · rcases eq_or_ne b a with rfl | apart'
      · rfl
      · rw [Function.update_self] at first
        rw [Function.update_of_ne apart'] at second
        exact (alone_of_return racing finished first second same).elim
    · rw [Function.update_of_ne apart] at first
      rcases eq_or_ne b i with rfl | apart'
      · rw [Function.update_self] at second
        exact (alone_of_return racing finished second first same.symm).elim
      · rw [Function.update_of_ne apart'] at second
        exact exclusive a b run run' source source' first second same

theorem exclusive_race (sources : Table Source Source.id) (runs : Runs)
    (schedule : List (ι × Bool)) : Exclusive (race calls sources runs schedule).1 := by
  have start : Exclusive fun i => (calls i).program i :=
    fun i _ _ _ _ _ returned => (program_ne_ret i _ _ returned).elim
  exact (Prog.interleave_steps (I := fun ps d => Racing calls ps d ∧ Exclusive ps)
    (fun _ _ i fails held => ⟨held.1.step i fails, held.2.step held.1 i fails⟩) schedule
    ⟨⟨LockedTable.moves_ofTable runs, fun i => runThread_program i runs⟩, start⟩).2

/-- A run with a cancellation request is not returned by a claim that is still under way. -/
theorem unclaimed_of_requested {ps : ι → RunProg ι} {k : String} (racing : Racing calls ps d)
    (requested : ∃ r, d.runs.committed.find? k = some r ∧ r.cancelRequestedAt.isSome = true)
    (unfinished : ¬(ps i).Finished) (schedule : List (ι × Bool)) {run : SyncRun} {source : Source}
    (returned : (Prog.interleave runHandler schedule ps d).1 i = .ret (.claimed run source)) :
    run.id ≠ k := by
  refine (Prog.interleave_steps (I := fun ps d => Racing calls ps d ∧
    (∃ r, d.runs.committed.find? k = some r ∧ r.cancelRequestedAt.isSome = true) ∧
    ∀ run source, ps i = .ret (.claimed run source) → run.id ≠ k) ?_ schedule
    ⟨racing, requested, ?_⟩).2.2 run source returned
  · rintro ps d j fails ⟨racing, requested, unclaimed⟩
    refine ⟨racing.step j fails, requested_stepOnce racing j fails requested, ?_⟩
    intro run source returned
    rcases eq_or_ne i j with rfl | apart
    · rw [Function.update_self] at returned
      by_cases finished : (ps i).Finished
      · rw [Prog.stepOnce_finished finished] at returned
        exact unclaimed run source returned
      · rintro rfl
        obtain ⟨⟨r, stored, claimable⟩, -⟩ :=
          committed_of_return (racing.2 i) finished returned
        obtain ⟨r', stored', requested⟩ := requested
        rw [Option.some.inj (stored.symm.trans stored')] at claimable
        simp only [Store.claimable, Bool.and_eq_true, Option.isNone_iff_eq_none] at claimable
        rw [claimable.2] at requested
        cases requested
    · rw [Function.update_of_ne apart] at returned
      exact unclaimed run source returned
  · intro run source returned
    rw [returned] at unfinished
    exact (unfinished trivial).elim

omit [DecidableEq ι] in
theorem RunThread.free_of_raise {runs : LockedTable ι SyncRun SyncRun.id} {e : InventoryError}
    (thread : RunThread calls i runs (.raise e)) : Free i runs := by
  cases thread with
  | raised e free => exact free
  | aborting e here | expire call here | expireFailed call here | select runId call here
  | source run call here | update run source call here | committing run source call here
  | lock call here | canceling u run call here | finishing run accepted here => cases here

/-- No statement of a call that goes on to return an error changes a committed row. -/
theorem committed_of_raise {ps : ι → RunProg ι} {fails : Bool} {later : List (ι × Bool)}
    {e : InventoryError} (racing : Racing calls ps d)
    (raised : (Prog.interleave runHandler ((i, fails) :: later) ps d).1 i = .raise e) :
    (Prog.stepOnce runHandler (ps i) fails d).2.runs.committed = d.runs.committed := by
  by_contra changed
  obtain ⟨result, ret⟩ := finished_of_committed (racing.2 i) changed
  rw [Prog.interleave, Prog.interleave_finished later, Function.update_self, ret] at raised
  · cases raised
  · rw [Function.update_self, ret]
    trivial

/-- **Racing claims**, over every schedule of the statements of any calls, from any run table.

No run is returned by two claims; when a claim returns, its run is stored as running with the start
and the lease returned, and later it still is unless a claim of any run found that lease expired; a
claim that is under way does not return a run whose cancellation was requested; and no statement of a
call that returns an error changes a committed row, nor does the call leave a lock. -/
theorem claim_race (calls : ι → RunCall) (sources : Table Source Source.id) (runs : Runs) :
    (∀ schedule, Exclusive (race calls sources runs schedule).1) ∧
    (∀ schedule i fails run source, ¬((race calls sources runs schedule).1 i).Finished →
      (race calls sources runs (schedule ++ [(i, fails)])).1 i = .ret (.claimed run source) →
      ∃ r, (race calls sources runs (schedule ++ [(i, fails)])).2.runs.committed.find? run.id =
        some r ∧ r.status = .running ∧ r.startedAt = run.startedAt ∧
          r.leaseExpiresAt = run.leaseExpiresAt) ∧
    (∀ schedule i run source,
      (race calls sources runs schedule).1 i = .ret (.claimed run source) →
      ∃ r startedAt, (race calls sources runs schedule).2.runs.committed.find? run.id = some r ∧
        run.startedAt = some startedAt ∧ Claimed calls startedAt r) ∧
    (∀ schedule later i k r,
      (race calls sources runs schedule).2.runs.committed.find? k = some r →
      r.cancelRequestedAt.isSome = true → ¬((race calls sources runs schedule).1 i).Finished →
      ∀ run source, (race calls sources runs (schedule ++ later)).1 i = .ret (.claimed run source) →
        run.id ≠ k) ∧
    (∀ schedule later i fails e,
      (race calls sources runs (schedule ++ (i, fails) :: later)).1 i = .raise e →
      (race calls sources runs (schedule ++ [(i, fails)])).2.runs.committed =
        (race calls sources runs schedule).2.runs.committed ∧
      Free i (race calls sources runs (schedule ++ (i, fails) :: later)).2.runs) := by
  have racing : ∀ schedule, Racing calls (race calls sources runs schedule).1
      (race calls sources runs schedule).2 := racing_race sources runs
  have split : ∀ schedule later, race calls sources runs (schedule ++ later) =
      Prog.interleave runHandler later (race calls sources runs schedule).1
        (race calls sources runs schedule).2 :=
    fun schedule later => Prog.interleave_append schedule later _ _
  refine ⟨fun schedule => exclusive_race sources runs schedule, ?_, ?_, ?_, ?_⟩
  · intro schedule i fails run source unfinished returned
    rw [split] at returned ⊢
    simp only [Prog.interleave, Function.update_self] at returned ⊢
    exact (committed_of_return ((racing schedule).2 i) unfinished returned).2
  · intro schedule i run source returned
    have thread := (racing schedule).2 i
    rw [returned] at thread
    exact thread.held
  · intro schedule later i k r stored requested unfinished run source returned
    rw [split] at returned
    exact unclaimed_of_requested (racing schedule) ⟨r, stored, requested⟩ unfinished later returned
  · intro schedule later i fails e raised
    constructor
    · rw [split] at raised ⊢
      exact committed_of_raise (racing schedule) raised
    · have thread := (racing (schedule ++ (i, fails) :: later)).2 i
      rw [raised] at thread
      exact thread.free_of_raise

end

end UnifiedInfraTopology
