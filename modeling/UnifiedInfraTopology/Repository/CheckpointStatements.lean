import UnifiedInfraTopology.Repository.Idempotency

/-!
# Checkpoint operations, statement by statement

`BeginCheckpoint`, `AdvanceCheckpoint` and `CompleteCheckpointAndRun` are transactions of several
statements, any of which may fail.  The bodies here keep the store as the statements leave it: a
checkpoint may be written and the run that goes with it not, and `transaction` rolls back.

* `executeTx_cases`: such a call is the operation of the control store, or reports an error and leaves
  the store as it was.
* `executeTx_error`: so an error leaves it alone, whichever statement it comes from.
-/

namespace UnifiedInfraTopology

open Lib

/-- The statements of the three operations, in their order. -/
inductive CheckpointStatement where
  | lockRun
  | lockCheckpoint
  | writeCheckpoint
  | writeRun
  | readRun
  | commit
deriving DecidableEq

namespace Store

variable (fails : CheckpointStatement → Bool)

/-- The run that is locked; a failed statement is reported as a run that is not there. -/
def lockRunTx (sourceId runId : String) (status : SyncRunStatus) (now : Time) (s : Store) :
    Option SyncRun :=
  if fails .lockRun then none else s.lockRun sourceId runId status now

/-! ## Bodies -/

/-- The body of `BeginCheckpoint`. -/
def beginCheckpointBody (sourceId resource runId : String) (startedAt leaseAt : Time) (s : Store) :
    Except InventoryError DeviceSyncCheckpoint × Store :=
  match s.lockRunTx fails sourceId runId .running leaseAt with
  | none => (.error .conflict, s)
  | some _ =>
      if fails .lockCheckpoint then (.error .database, s)
      else
        match begunRow sourceId resource runId startedAt s.checkpoints with
        | .error e => (.error e, s)
        | .ok (stored, checkpoints) =>
            if fails .writeCheckpoint then (.error .database, s)
            else (decodeDeviceSyncCheckpoint stored, { s with checkpoints })

/-- The body of `AdvanceCheckpoint`: the checkpoint is written before the lease. -/
def advanceCheckpointBody (sourceId resource runId : String) (cursor : DeviceSyncCursor)
    (updatedAt : Time) (s : Store) : Except InventoryError DeviceSyncCheckpoint × Store :=
  match s.lockRunTx fails sourceId runId .running updatedAt with
  | none => (.error .conflict, s)
  | some _ =>
      if fails .lockCheckpoint then (.error .database, s)
      else
        match s.checkpoints.find? (sourceId, resource) with
        | none => (.error .notFound, s)
        | some stored =>
            match decodeDeviceSyncCheckpoint stored with
            | .error e => (.error e, s)
            | .ok checkpoint =>
                if regresses resource runId stored.complete checkpoint.cursor cursor then
                  (.error .conflict, s)
                else
                  match marshalCursor cursor with
                  | none => (.error .encoding, s)
                  | some text =>
                      if fails .writeCheckpoint then (.error .database, s)
                      else
                        let checkpoints := s.checkpoints.update
                          (fun c => decide (c.key = (sourceId, resource)))
                          (rewritten text updatedAt) (key_rewritten text updatedAt)
                        let p : SyncRun → Bool := fun r =>
                          decide (r.id = runId) && advancing sourceId r
                        if fails .writeRun then (.error .database, { s with checkpoints })
                        else
                          let runs := s.runs.update p (extended updatedAt) (id_extended updatedAt)
                          if s.runs.changed p (extended updatedAt) ≠ 1 then
                            (.error .conflict, { s with checkpoints, runs })
                          else
                            (decodeDeviceSyncCheckpoint (rewritten text updatedAt stored),
                              { s with checkpoints, runs })

/-- The body of `CompleteCheckpointAndRun`: the checkpoint is completed before the run. -/
def completeCheckpointAndRunBody (sourceId resource runId : String) (expectedStatus : SyncRunStatus)
    (completedAt : Time) (s : Store) : Except InventoryError SyncRun × Store :=
  match s.lockRunTx fails sourceId runId expectedStatus completedAt with
  | none => (.error .conflict, s)
  | some _ =>
      if fails .lockCheckpoint then (.error .database, s)
      else
        match s.checkpoints.find? (sourceId, resource) with
        | none => (.error .notFound, s)
        | some stored =>
            match decodeDeviceSyncCheckpoint stored with
            | .error e => (.error e, s)
            | .ok checkpoint =>
                if stored.complete ∨ checkpoint.cursor.runId ≠ runId ∨
                    checkpoint.cursor.nextOffset ≠ checkpoint.cursor.total then
                  (.error .conflict, s)
                else if fails .writeCheckpoint then (.error .database, s)
                else
                  let q : SyncCheckpoint → Bool := fun c => decide (c.key = (sourceId, resource))
                  let p : SyncRun → Bool := fun r =>
                    decide (r.id = runId) && (r.sourceId == sourceId && r.status == expectedStatus)
                  let checkpoints :=
                    s.checkpoints.update q (completed completedAt) (key_completed completedAt)
                  if s.checkpoints.matched q ≠ 1 then (.error .notFound, { s with checkpoints })
                  else if fails .writeRun then (.error .database, { s with checkpoints })
                  else
                    let runs := s.runs.update p (succeeded completedAt) (id_succeeded completedAt)
                    if s.runs.matched p ≠ 1 then (.error .conflict, { s with checkpoints, runs })
                    else if fails .readRun then (.error .database, { s with checkpoints, runs })
                    else
                      match runs.find? runId with
                      | none => (.error .notFound, { s with checkpoints, runs })
                      | some run => (.ok run, { s with checkpoints, runs })

/-! ## Transactions -/

/-- `BeginCheckpoint` with statements that may fail. -/
def beginCheckpointTx (sourceId resource runId : String) (startedAt leaseAt : Time) (s : Store) :
    Except InventoryError DeviceSyncCheckpoint × Store :=
  if sourceId = "" ∨ resource = "" ∨ runId = "" ∨ startedAt.isZero ∨ leaseAt.isZero then
    (.error .conflict, s)
  else
    transaction (beginCheckpointBody fails sourceId resource runId startedAt.truncateMicro
      leaseAt.truncateMicro) (!fails .commit) s

/-- `AdvanceCheckpoint` with statements that may fail. -/
def advanceCheckpointTx (sourceId resource runId : String) (cursor : DeviceSyncCursor)
    (updatedAt : Time) (s : Store) : Except InventoryError DeviceSyncCheckpoint × Store :=
  if sourceId = "" ∨ resource = "" ∨ runId = "" ∨ updatedAt.isZero ∨ cursor.runId ≠ runId then
    (.error .conflict, s)
  else
    match validateInventoryResourceCursor resource cursor.truncated with
    | .error e => (.error e, s)
    | .ok () =>
        if cursor.truncated.lastPartition ≠ 0 ∧ resource ≠ "interfaces" then (.error .conflict, s)
        else
          transaction (advanceCheckpointBody fails sourceId resource runId cursor.truncated
            updatedAt.truncateMicro) (!fails .commit) s

/-- `CompleteCheckpointAndRun` with statements that may fail. -/
def completeCheckpointAndRunTx (sourceId resource runId : String) (expectedStatus : SyncRunStatus)
    (completedAt : Time) (s : Store) : Except InventoryError SyncRun × Store :=
  if sourceId = "" ∨ resource = "" ∨ runId = "" ∨ expectedStatus ≠ .publishing ∨
      completedAt.isZero then
    (.error .conflict, s)
  else
    transaction (completeCheckpointAndRunBody fails sourceId resource runId expectedStatus
      completedAt.truncateMicro) (!fails .commit) s

/-! ## Rollback -/

/-- How a body ends beside the operation: with the same result, or with an error because a statement
has failed. -/
inductive Follows {α : Type} (op : Except InventoryError (α × Store)) :
    Except InventoryError α × Store → Prop where
  | done {a : α} {written : Store} (ok : op = .ok (a, written)) : Follows op (.ok a, written)
  | refused {e : InventoryError} {written : Store} (same : op = .error e) :
      Follows op (.error e, written)
  | failed {e : InventoryError} {written : Store} (one : ∃ statement, fails statement = true) :
      Follows op (.error e, written)

variable {fails} {s : Store}

/-- What a body has written before an error is undone. -/
theorem transaction_follows {α : Type} {op : Except InventoryError (α × Store)}
    {body : Store → Except InventoryError α × Store} (follows : Follows fails op (body s)) :
    transaction body (!fails .commit) s = s.settled op ∨
      (∃ statement, fails statement = true) ∧ ∃ e, transaction body (!fails .commit) s = (.error e, s) := by
  unfold transaction
  generalize body s = ended at follows
  cases follows with
  | done ok =>
      subst ok
      cases last : fails .commit with
      | true => exact Or.inr ⟨⟨_, last⟩, _, rfl⟩
      | false => exact Or.inl rfl
  | refused same =>
      subst same
      exact Or.inl rfl
  | failed one => exact Or.inr ⟨one, _, rfl⟩

theorem follows_unless {α : Type} {op : Except InventoryError (α × Store)}
    {x : Except InventoryError α × Store} {statement : CheckpointStatement} {e : InventoryError}
    {written : Store} (next : Follows fails op x) :
    Follows fails op (if fails statement then (.error e, written) else x) := by
  cases here : fails statement with
  | true => exact .failed ⟨_, here⟩
  | false => exact next

theorem lockRunTx_cases (sourceId runId : String) (status : SyncRunStatus) (now : Time) :
    s.lockRunTx fails sourceId runId status now = s.lockRun sourceId runId status now ∨
      (∃ statement, fails statement = true) ∧ s.lockRunTx fails sourceId runId status now = none := by
  unfold lockRunTx
  cases here : fails .lockRun with
  | true => exact Or.inr ⟨⟨_, here⟩, rfl⟩
  | false => exact Or.inl rfl

theorem beginCheckpointTx_cases (sourceId resource runId : String) (startedAt leaseAt : Time) :
    s.beginCheckpointTx fails sourceId resource runId startedAt leaseAt =
        s.settled (s.beginCheckpoint sourceId resource runId startedAt leaseAt) ∨
      (∃ statement, fails statement = true) ∧ ∃ e,
        s.beginCheckpointTx fails sourceId resource runId startedAt leaseAt = (.error e, s) := by
  unfold beginCheckpointTx beginCheckpoint
  by_cases bad : sourceId = "" ∨ resource = "" ∨ runId = "" ∨ startedAt.isZero ∨ leaseAt.isZero
  · exact Or.inl (by simp only [bad, ↓reduceIte, settled])
  simp only [bad, ↓reduceIte]
  refine transaction_follows ?_
  unfold beginCheckpointBody
  rcases lockRunTx_cases sourceId runId .running leaseAt.truncateMicro with same | ⟨failed, none_⟩
  · rw [same]
    cases s.lockRun sourceId runId .running leaseAt.truncateMicro with
    | none => exact .refused rfl
    | some run =>
        refine follows_unless ?_
        cases begunRow sourceId resource runId startedAt.truncateMicro s.checkpoints with
        | error e => exact .refused rfl
        | ok begun =>
            obtain ⟨stored, checkpoints⟩ := begun
            refine follows_unless ?_
            dsimp only
            cases decodeDeviceSyncCheckpoint stored with
            | error e => exact .refused rfl
            | ok checkpoint => exact .done rfl
  · rw [none_]
    exact .failed failed

theorem advanceCheckpointTx_cases (sourceId resource runId : String) (cursor : DeviceSyncCursor)
    (updatedAt : Time) :
    s.advanceCheckpointTx fails sourceId resource runId cursor updatedAt =
        s.settled (s.advanceCheckpoint sourceId resource runId cursor updatedAt) ∨
      (∃ statement, fails statement = true) ∧ ∃ e,
        s.advanceCheckpointTx fails sourceId resource runId cursor updatedAt = (.error e, s) := by
  unfold advanceCheckpointTx advanceCheckpoint
  by_cases bad : sourceId = "" ∨ resource = "" ∨ runId = "" ∨ updatedAt.isZero ∨ cursor.runId ≠ runId
  · exact Or.inl (by simp only [bad, ↓reduceIte, settled])
  simp only [bad, ↓reduceIte]
  cases validateInventoryResourceCursor resource cursor.truncated with
  | error e => exact Or.inl rfl
  | ok valid =>
  by_cases partitioned : cursor.truncated.lastPartition ≠ 0 ∧ resource ≠ "interfaces"
  · exact Or.inl (by simp [partitioned, settled])
  simp only [partitioned, ↓reduceIte]
  refine transaction_follows ?_
  unfold advanceCheckpointBody
  rcases lockRunTx_cases sourceId runId .running updatedAt.truncateMicro with same | ⟨failed, none_⟩
  · rw [same]
    cases s.lockRun sourceId runId .running updatedAt.truncateMicro with
    | none => exact .refused rfl
    | some run =>
    refine follows_unless ?_
    cases s.checkpoints.find? (sourceId, resource) with
    | none => exact .refused rfl
    | some stored =>
    dsimp only
    cases decodeDeviceSyncCheckpoint stored with
    | error e => exact .refused rfl
    | ok checkpoint =>
    dsimp only
    by_cases back : regresses resource runId stored.complete checkpoint.cursor cursor.truncated = true
    · rw [if_pos back, if_pos back]
      exact .refused rfl
    rw [if_neg back, if_neg back]
    cases marshalCursor cursor.truncated with
    | none => exact .refused rfl
    | some text =>
    refine follows_unless (follows_unless ?_)
    dsimp only
    -- The checkpoint and the lease are written before the rows are counted.
    by_cases unchanged : s.runs.changed (fun r => decide (r.id = runId) && advancing sourceId r)
      (extended updatedAt.truncateMicro) ≠ 1
    · rw [if_pos unchanged, if_pos unchanged]
      exact .refused rfl
    rw [if_neg unchanged, if_neg unchanged]
    cases decodeDeviceSyncCheckpoint (rewritten text updatedAt.truncateMicro stored) with
    | error e => exact .refused rfl
    | ok checkpoint => exact .done rfl
  · rw [none_]
    exact .failed failed

theorem completeCheckpointAndRunTx_cases (sourceId resource runId : String)
    (expectedStatus : SyncRunStatus) (completedAt : Time) :
    s.completeCheckpointAndRunTx fails sourceId resource runId expectedStatus completedAt =
        s.settled (s.completeCheckpointAndRun sourceId resource runId expectedStatus completedAt) ∨
      (∃ statement, fails statement = true) ∧ ∃ e,
        s.completeCheckpointAndRunTx fails sourceId resource runId expectedStatus completedAt =
          (.error e, s) := by
  unfold completeCheckpointAndRunTx completeCheckpointAndRun
  by_cases bad : sourceId = "" ∨ resource = "" ∨ runId = "" ∨ expectedStatus ≠ .publishing ∨
    completedAt.isZero
  · exact Or.inl (by simp only [bad, ↓reduceIte, settled])
  simp only [bad, ↓reduceIte]
  refine transaction_follows ?_
  unfold completeCheckpointAndRunBody
  rcases lockRunTx_cases sourceId runId expectedStatus completedAt.truncateMicro with
    same | ⟨failed, none_⟩
  · rw [same]
    cases s.lockRun sourceId runId expectedStatus completedAt.truncateMicro with
    | none => exact .refused rfl
    | some run =>
    refine follows_unless ?_
    cases s.checkpoints.find? (sourceId, resource) with
    | none => exact .refused rfl
    | some stored =>
    dsimp only
    cases decodeDeviceSyncCheckpoint stored with
    | error e => exact .refused rfl
    | ok checkpoint =>
    dsimp only
    by_cases unfit : stored.complete ∨ checkpoint.cursor.runId ≠ runId ∨
      checkpoint.cursor.nextOffset ≠ checkpoint.cursor.total
    · rw [if_pos unfit, if_pos unfit]
      exact .refused rfl
    rw [if_neg unfit, if_neg unfit]
    refine follows_unless ?_
    by_cases missing : s.checkpoints.matched (fun c => decide (c.key = (sourceId, resource))) ≠ 1
    · rw [if_pos missing, if_pos missing]
      exact .refused rfl
    rw [if_neg missing, if_neg missing]
    refine follows_unless ?_
    by_cases gone : s.runs.matched (fun r =>
      decide (r.id = runId) && (r.sourceId == sourceId && r.status == expectedStatus)) ≠ 1
    · rw [if_pos gone, if_pos gone]
      exact .refused rfl
    rw [if_neg gone, if_neg gone]
    refine follows_unless ?_
    cases (s.runs.update (fun r =>
      decide (r.id = runId) && (r.sourceId == sourceId && r.status == expectedStatus))
        (succeeded completedAt.truncateMicro) (id_succeeded completedAt.truncateMicro)).find? runId with
    | none => exact .refused rfl
    | some run => exact .done rfl
  · rw [none_]
    exact .failed failed

/-! ## Calls -/

variable (fails) in
/-- An operation; the statements of one on checkpoints may fail. -/
def executeTx (op : Op) (s : Store) : Except InventoryError Unit × Store :=
  match op with
  | .beginCheckpoint sourceId resource runId startedAt leaseAt =>
      let ended := s.beginCheckpointTx fails sourceId resource runId startedAt leaseAt
      (ended.1.map fun _ => (), ended.2)
  | .advanceCheckpoint sourceId resource runId cursor updatedAt =>
      let ended := s.advanceCheckpointTx fails sourceId resource runId cursor updatedAt
      (ended.1.map fun _ => (), ended.2)
  | .completeCheckpointAndRun sourceId resource runId expectedStatus completedAt =>
      let ended := s.completeCheckpointAndRunTx fails sourceId resource runId expectedStatus completedAt
      (ended.1.map fun _ => (), ended.2)
  | op => ((s.execute op).map fun _ => (), s.apply op)

theorem called_cases {α : Type} {op : Except InventoryError (α × Store)}
    {ended : Except InventoryError α × Store} {failed : Prop}
    (either : ended = s.settled op ∨ failed ∧ ∃ e, ended = (.error e, s)) :
    (ended.1.map (fun _ => ()), ended.2) =
        ((op.map (·.2)).map (fun _ => ()), (op.map (·.2)).toOption.getD s) ∨
      failed ∧ ∃ e, (ended.1.map (fun _ => ()), ended.2) = (.error e, s) := by
  rcases either with rfl | ⟨failed, e, rfl⟩
  · refine Or.inl ?_
    cases op <;> rfl
  · exact Or.inr ⟨failed, e, rfl⟩

/-- **A call has the effect of its operation, or none.** -/
theorem executeTx_cases (op : Op) :
    s.executeTx fails op = ((s.execute op).map fun _ => (), s.apply op) ∨
      (∃ statement, fails statement = true) ∧ ∃ e, s.executeTx fails op = (.error e, s) := by
  cases op with
  | beginCheckpoint sourceId resource runId startedAt leaseAt =>
      exact called_cases (beginCheckpointTx_cases sourceId resource runId startedAt leaseAt)
  | advanceCheckpoint sourceId resource runId cursor updatedAt =>
      exact called_cases (advanceCheckpointTx_cases sourceId resource runId cursor updatedAt)
  | completeCheckpointAndRun sourceId resource runId expectedStatus completedAt =>
      exact called_cases
        (completeCheckpointAndRunTx_cases sourceId resource runId expectedStatus completedAt)
  | _ => exact Or.inl rfl

/-- A call that reports an error leaves the store alone. -/
theorem executeTx_error {op : Op} {e : InventoryError}
    (failed : (s.executeTx fails op).1 = .error e) : (s.executeTx fails op).2 = s := by
  rcases executeTx_cases op with same | ⟨-, e', same⟩
  · rw [same] at failed ⊢
    cases outcome : s.execute op with
    | error e => exact apply_of_error outcome
    | ok s' =>
        rw [outcome] at failed
        cases failed
  · rw [same]

end Store

end UnifiedInfraTopology
