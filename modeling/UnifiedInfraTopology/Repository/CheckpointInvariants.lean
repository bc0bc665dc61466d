import UnifiedInfraTopology.Repository.CheckpointStatements

/-!
# Invariants of checkpoints

What holds of the checkpoints after any sequence of control-store operations, from an empty store.

`CheckpointMove` lists what an operation can do to the checkpoint of a source and a resource, as its
readers see it (`Store.checkpoint?`), guards included.

* `checkpointMove_apply`: every operation moves every checkpoint by a `CheckpointMove`.
* `checkpoints_applyAll`: every stored checkpoint decodes, a complete one belongs to a run that
  succeeded, and while a checkpoint belongs to one run its cursor only moves forward.
-/

namespace UnifiedInfraTopology

open Lib

/-! ## Reading a checkpoint -/

/-- The checkpoint a row stands for. -/
def SyncCheckpoint.decoded? (row : SyncCheckpoint) : Option DeviceSyncCheckpoint :=
  (decodeDeviceSyncCheckpoint row).toOption

theorem SyncCheckpoint.decoded?_eq_some {row : SyncCheckpoint} {checkpoint : DeviceSyncCheckpoint} :
    row.decoded? = some checkpoint ↔ decodeDeviceSyncCheckpoint row = .ok checkpoint := by
  unfold decoded?
  cases decodeDeviceSyncCheckpoint row <;> simp [Except.toOption]

/-- The checkpoint of a source and a resource. -/
def Store.checkpoint? (s : Store) (key : String × String) : Option DeviceSyncCheckpoint :=
  (s.checkpoints.find? key).bind SyncCheckpoint.decoded?

/-- The run that works for the source is running, uncanceled and holds a current lease. -/
def Store.Writes (s : Store) (sourceId runId : String) (now : Time) : Prop :=
  ∃ r, s.runs.find? runId = some r ∧ r.sourceId = sourceId ∧ r.status = .running ∧
    r.cancelRequestedAt = none ∧ r.leaseCurrent now = true

theorem Store.writes_of_lockRun {s : Store} {sourceId runId : String} {now : Time} {r : SyncRun}
    (locked : s.lockRun sourceId runId .running now = some r) : s.Writes sourceId runId now :=
  ⟨r, Store.lockRun_eq_some locked⟩

/-- A cursor ahead of the previous one: more records, and for every resource but the uplinks a
greater partition or a greater instance in it; the snapshot stays, and the total once it is known. -/
structure Ahead (resource : String) (previous cursor : DeviceSyncCursor) : Prop where
  offset : previous.nextOffset < cursor.nextOffset
  position : resource ≠ "server_uplinks" → previous.lastPartition < cursor.lastPartition ∨
    previous.lastPartition = cursor.lastPartition ∧ previous.lastInstanceId < cursor.lastInstanceId
  snapshotAt : cursor.snapshotAt = previous.snapshotAt
  total : previous.total ≠ 0 → cursor.total = previous.total

/-- The checkpoint that an operation is about. -/
def Op.checkpointKey : Op → Option (String × String)
  | .beginCheckpoint sourceId resource _ _ _ | .advanceCheckpoint sourceId resource _ _ _ =>
      some (sourceId, resource)
  | .completeCheckpointAndRun sourceId resource _ _ _ => some (sourceId, resource)
  | _ => none

open Store in
/-- What an operation can do to the checkpoint with a key. -/
inductive CheckpointMove (s : Store) : Op → String × String →
    Option DeviceSyncCheckpoint → Option DeviceSyncCheckpoint → Prop where
  /-- The operation returns an error, or is not about this checkpoint. -/
  | same {op : Op} {key : String × String} (stored : Option DeviceSyncCheckpoint)
      (idle : s.accepts op = true → op.checkpointKey ≠ some key) :
      CheckpointMove s op key stored stored
  /-- A run begins afresh, on a checkpoint of no run or of another one. -/
  | begun {sourceId resource runId : String} {startedAt leaseAt : Time}
      {stored : Option DeviceSyncCheckpoint}
      (writes : s.Writes sourceId runId leaseAt.truncateMicro)
      (foreign : ∀ previous ∈ stored, previous.cursor.runId ≠ runId) :
      CheckpointMove s (.beginCheckpoint sourceId resource runId startedAt leaseAt)
        (sourceId, resource) stored
        (some ⟨sourceId, resource, freshCursor runId startedAt.truncateMicro, false, none,
          startedAt.truncateMicro⟩)
  /-- A run goes on from its own incomplete checkpoint. -/
  | resumed {sourceId resource runId : String} {startedAt leaseAt : Time}
      {previous : DeviceSyncCheckpoint} (writes : s.Writes sourceId runId leaseAt.truncateMicro)
      (incomplete : previous.complete = false) (own : previous.cursor.runId = runId) :
      CheckpointMove s (.beginCheckpoint sourceId resource runId startedAt leaseAt)
        (sourceId, resource) (some previous)
        (some { previous with
          complete := false, completedAt := none, updatedAt := startedAt.truncateMicro })
  | advanced {sourceId resource runId : String} {cursor : DeviceSyncCursor} {updatedAt : Time}
      {previous : DeviceSyncCheckpoint} (writes : s.Writes sourceId runId updatedAt.truncateMicro)
      (incomplete : previous.complete = false) (own : previous.cursor.runId = runId)
      (named : cursor.runId = runId)
      (ahead : Ahead resource previous.cursor cursor.truncated) :
      CheckpointMove s (.advanceCheckpoint sourceId resource runId cursor updatedAt)
        (sourceId, resource) (some previous)
        (some { previous with
          cursor := cursor.truncated, complete := false, completedAt := none,
          updatedAt := updatedAt.truncateMicro })
  | completed {sourceId resource runId : String} {completedAt : Time}
      {previous : DeviceSyncCheckpoint}
      (publishing : ∃ r, s.runs.find? runId = some r ∧ r.sourceId = sourceId ∧
        r.status = .publishing ∧ r.cancelRequestedAt = none ∧
        r.leaseCurrent completedAt.truncateMicro = true)
      (incomplete : previous.complete = false) (own : previous.cursor.runId = runId)
      (whole : previous.cursor.nextOffset = previous.cursor.total) :
      CheckpointMove s
        (.completeCheckpointAndRun sourceId resource runId .publishing completedAt)
        (sourceId, resource) (some previous)
        (some { previous with
          complete := true, completedAt := some completedAt.truncateMicro,
          updatedAt := completedAt.truncateMicro })

/-- A row whose text was replaced stands for the checkpoint with the cursor that was written. -/
theorem decode_rewritten {stored : SyncCheckpoint} {previous checkpoint : DeviceSyncCheckpoint}
    {cursor : DeviceSyncCursor} {text : String} {now : Time}
    (read : decodeDeviceSyncCheckpoint stored = .ok previous)
    (written : marshalCursor cursor = some text)
    (decoded : decodeDeviceSyncCheckpoint (Store.rewritten text now stored) = .ok checkpoint) :
    checkpoint = { previous with
      cursor := cursor.truncated, complete := false, completedAt := none, updatedAt := now } := by
  obtain ⟨-, -, rfl⟩ := decode_columns read
  exact decode_encoded written decoded

/-- The cursor of a checkpoint that was read has a snapshot at microseconds. -/
theorem truncated_of_decode {stored : SyncCheckpoint} {checkpoint : DeviceSyncCheckpoint}
    (read : decodeDeviceSyncCheckpoint stored = .ok checkpoint) :
    checkpoint.cursor.truncated = checkpoint.cursor := by
  obtain ⟨cursor, -, rfl⟩ := decode_columns read
  simp [DeviceSyncCursor.truncated]

/-- Completing a row keeps its cursor. -/
theorem decode_completed {stored : SyncCheckpoint} {checkpoint : DeviceSyncCheckpoint}
    (read : decodeDeviceSyncCheckpoint stored = .ok checkpoint) (completedAt : Time) :
    decodeDeviceSyncCheckpoint (Store.completed completedAt stored) = .ok { checkpoint with
      complete := true, completedAt := some completedAt, updatedAt := completedAt } := by
  rcases stored with ⟨sourceId, resource, cursor, complete, completed, updatedAt⟩
  unfold Store.completed
  unfold decodeDeviceSyncCheckpoint at read ⊢
  dsimp only at read ⊢
  split at read
  · cases read
  · split at read
    · cases read
    · split_ifs at read with placed
      cases read
      rw [if_neg placed]

theorem Store.checkpoint?_of_decode {s : Store} {key : String × String} {stored : SyncCheckpoint}
    {checkpoint : DeviceSyncCheckpoint} (found : s.checkpoints.find? key = some stored)
    (read : decodeDeviceSyncCheckpoint stored = .ok checkpoint) :
    s.checkpoint? key = some checkpoint := by
  rw [Store.checkpoint?, found]
  exact SyncCheckpoint.decoded?_eq_some.mpr read

/-! ## Single operations -/

namespace Store

/-- The two ways to begin: a new row, or the stored one with its text replaced. -/
theorem begunRow_ok {sourceId resource runId : String} {startedAt : Time}
    {checkpoints checkpoints' : Checkpoints} {row : SyncCheckpoint}
    (ok : begunRow sourceId resource runId startedAt checkpoints = .ok (row, checkpoints')) :
    checkpoints'.find? (sourceId, resource) = some row ∧
    (∀ key ≠ (sourceId, resource), checkpoints'.find? key = checkpoints.find? key) ∧
    ((checkpoints.find? (sourceId, resource) = none ∧ ∃ text,
        marshalCursor (freshCursor runId startedAt) = some text ∧
        row = ⟨sourceId, resource, text, false, none, startedAt⟩) ∨
      ∃ stored previous text, checkpoints.find? (sourceId, resource) = some stored ∧
        decodeDeviceSyncCheckpoint stored = .ok previous ∧
        marshalCursor (resumedCursor runId startedAt previous) = some text ∧
        row = rewritten text startedAt stored) := by
  unfold begunRow at ok
  split at ok
  · rename_i absent
    split at ok
    · cases ok
    · rename_i text written
      dsimp only at ok
      split at ok
      · cases ok
      · rename_i inserted
        cases ok
        have place := Table.find?_of_insert inserted
        refine ⟨by simp [place, SyncCheckpoint.key], fun key apart => ?_,
          Or.inl ⟨absent, text, written, rfl⟩⟩
        rw [place, if_neg]
        exact fun same => apart same.symm
  · rename_i stored found
    split at ok
    · cases ok
    · rename_i previous decoded
      split at ok
      · cases ok
      · rename_i text written
        cases ok
        have key_eq := Table.key_of_find? found
        refine ⟨by simp [Table.find?_update, found, key_eq], fun key apart => ?_,
          Or.inr ⟨stored, previous, text, found, decoded, written, rfl⟩⟩
        rw [Table.find?_update]
        cases other : checkpoints.find? key with
        | none => rfl
        | some row => simp [Table.key_of_find? other, apart]

/-- An `AdvanceCheckpoint` whose checks all pass succeeds, unless the lease of the run ends already at
the time that it would be extended to. -/
theorem advanceCheckpoint_accepted_iff {sourceId resource runId text : String}
    {cursor : DeviceSyncCursor} {updatedAt : Time} {r : SyncRun} {stored : SyncCheckpoint}
    {previous : DeviceSyncCheckpoint} {s : Store}
    (named : sourceId ≠ "" ∧ resource ≠ "" ∧ runId ≠ "") (real : updatedAt.isZero = false)
    (own : cursor.runId = runId) (truncated : cursor.truncated = cursor)
    (range : cursor.inRange = true)
    (valid : validateInventoryResourceCursor resource cursor = .ok ())
    (placed : cursor.lastPartition ≠ 0 → resource = "interfaces")
    (locked : s.lockRun sourceId runId .running updatedAt.truncateMicro = some r)
    (found : s.checkpoints.find? (sourceId, resource) = some stored)
    (read : decodeDeviceSyncCheckpoint stored = .ok previous)
    (forward : regresses resource runId stored.complete previous.cursor cursor = false)
    (written : marshalCursor cursor = some text) :
    (∃ result, s.advanceCheckpoint sourceId resource runId cursor updatedAt = .ok result) ↔
      r.leaseExpiresAt ≠ some (updatedAt.truncateMicro + inventoryRunLeaseDuration) := by
  obtain ⟨present, source, running, uncanceled, -⟩ := lockRun_eq_some locked
  have resource_eq : stored.resource = resource := congrArg Prod.snd (Table.key_of_find? found)
  have unplaced : ¬(cursor.lastPartition ≠ 0 ∧ resource ≠ "interfaces") :=
    fun both => both.2 (placed both.1)
  have one : s.runs.changed (fun r => decide (r.id = runId) && advancing sourceId r)
      (extended updatedAt.truncateMicro) = 1 ↔
      r.leaseExpiresAt ≠ some (updatedAt.truncateMicro + inventoryRunLeaseDuration) := by
    rw [Table.changed_key_eq_one, ← extended_ne_iff]
    constructor
    · rintro ⟨r', found', -, other⟩
      cases present.symm.trans found'
      exact other
    · exact fun other => ⟨r, present, by simp [advancing, source, running, uncanceled], other⟩
  have decoded := decode_of_marshal
    (show marshalCursor cursor = some (rewritten text updatedAt.truncateMicro stored).cursor from
      written) range truncated (resource_eq.symm ▸ valid) (resource_eq.symm ▸ placed)
  rw [← one]
  unfold advanceCheckpoint
  rw [if_neg (by simp [named, real, own])]
  simp only [truncated, valid, unplaced, ↓reduceIte, locked, found, read, forward, written, ne_eq,
    decoded, Bool.false_eq_true]
  split
  · rename_i other
    exact iff_of_false (by rintro ⟨-, ⟨⟩⟩) other
  · rename_i same
    exact iff_of_true ⟨_, rfl⟩ (not_not.mp same)

end Store

/-! ## One operation -/

/-- Every stored checkpoint decodes, and a complete one is whole and belongs to a run that
succeeded. -/
structure CheckpointsOk (s : Store) : Prop where
  decodes : ∀ key row, s.checkpoints.find? key = some row → ∃ checkpoint, row.decoded? = some checkpoint
  complete : ∀ key checkpoint, s.checkpoint? key = some checkpoint → checkpoint.complete = true →
    checkpoint.cursor.nextOffset = checkpoint.cursor.total ∧
      ∃ r, s.runs.find? checkpoint.cursor.runId = some r ∧ r.status = .succeeded

/-- The row with a key is left alone, or replaced by one that decodes, by a move of the operation. -/
def RowMoves (s s' : Store) (op : Op) (key : String × String) : Prop :=
  ((s.accepts op = true → op.checkpointKey ≠ some key) ∧
      s'.checkpoints.find? key = s.checkpoints.find? key) ∨
    ∃ row checkpoint, s'.checkpoints.find? key = some row ∧ row.decoded? = some checkpoint ∧
      CheckpointMove s op key (s.checkpoint? key) (some checkpoint)

section

variable {s s' : Store} {sourceId resource runId : String}

theorem rowMoves_begin (ok : CheckpointsOk s) {startedAt leaseAt : Time}
    {checkpoint : DeviceSyncCheckpoint} (key : String × String)
    (begun : s.beginCheckpoint sourceId resource runId startedAt leaseAt = .ok (checkpoint, s')) :
    RowMoves s s' (.beginCheckpoint sourceId resource runId startedAt leaseAt) key := by
  obtain ⟨-, ⟨r, locked⟩, row, checkpoints, ready, decoded, rfl⟩ := Store.beginCheckpoint_ok begun
  obtain ⟨placed, elsewhere, ways⟩ := Store.begunRow_ok ready
  have writes := Store.writes_of_lockRun locked
  rcases ne_or_eq key (sourceId, resource) with apart | rfl
  · exact Or.inl ⟨fun _ same => apart (Option.some.inj same).symm, elsewhere key apart⟩
  refine Or.inr ⟨row, checkpoint, placed, SyncCheckpoint.decoded?_eq_some.mpr decoded, ?_⟩
  have truncated : (Store.freshCursor runId startedAt.truncateMicro).truncated =
      Store.freshCursor runId startedAt.truncateMicro := by
    simp [Store.freshCursor, DeviceSyncCursor.truncated]
  rcases ways with ⟨absent, text, written, rfl⟩ | ⟨stored, previous, text, found, read, written, rfl⟩
  · rw [decode_encoded written decoded, truncated]
    refine .begun writes fun previous stored => ?_
    rw [Store.checkpoint?, absent] at stored
    cases stored
  · have here := Store.checkpoint?_of_decode found read
    rw [decode_rewritten read written decoded, here]
    by_cases own : previous.complete = false ∧ previous.cursor.runId = runId
    · -- The same run goes on: the cursor it reads back is the one that was stored.
      have resumed : Store.resumedCursor runId startedAt.truncateMicro previous =
          previous.cursor := by
        rw [Store.resumedCursor, if_neg (by simp [own]), ← own.2]
      rw [resumed, truncated_of_decode read]
      exact .resumed writes own.1 own.2
    · have fresh : Store.resumedCursor runId startedAt.truncateMicro previous =
          Store.freshCursor runId startedAt.truncateMicro := by
        rw [Store.resumedCursor, if_pos]
        by_cases complete : previous.complete = true
        · exact Or.inl complete
        · exact Or.inr fun same => own ⟨by simpa using complete, same⟩
      have foreign : previous.cursor.runId ≠ runId := by
        intro same
        -- A complete checkpoint belongs to a run that succeeded, not to one that is running.
        have complete : previous.complete = true := by
          by_contra incomplete
          exact own ⟨by simpa using incomplete, same⟩
        obtain ⟨-, r', found', succeeded⟩ := ok.complete _ previous here complete
        obtain ⟨r'', found'', -, running, -⟩ := writes
        rw [same, found''] at found'
        cases found'
        rw [running] at succeeded
        cases succeeded
      have key_eq := Table.key_of_find? found
      obtain ⟨cursor, -, columns⟩ := decode_columns read
      have sourceId_eq : previous.sourceId = sourceId := by
        rw [columns]
        exact congrArg Prod.fst key_eq
      have resource_eq : previous.resource = resource := by
        rw [columns]
        exact congrArg Prod.snd key_eq
      rw [fresh, truncated, sourceId_eq, resource_eq]
      refine .begun writes fun previous' stored' => ?_
      cases stored'
      exact foreign

/-- The row that a successful `BeginCheckpoint` leaves is the text of the cursor it returns. -/
theorem row_of_begin {startedAt leaseAt : Time} {checkpoint : DeviceSyncCheckpoint}
    (begun : s.beginCheckpoint sourceId resource runId startedAt leaseAt = .ok (checkpoint, s')) :
    ∃ row, s'.checkpoints.find? (sourceId, resource) = some row ∧
      decodeDeviceSyncCheckpoint row = .ok checkpoint ∧ row.complete = false ∧
      checkpoint.cursor.runId = runId ∧ marshalCursor checkpoint.cursor = some row.cursor := by
  obtain ⟨-, -, row, checkpoints, ready, decoded, rfl⟩ := Store.beginCheckpoint_ok begun
  obtain ⟨placed, -, ways⟩ := Store.begunRow_ok ready
  have fresh : (Store.freshCursor runId startedAt.truncateMicro).truncated =
      Store.freshCursor runId startedAt.truncateMicro := by
    simp [Store.freshCursor, DeviceSyncCursor.truncated]
  refine ⟨row, placed, decoded, ?_⟩
  rcases ways with ⟨-, text, written, rfl⟩ | ⟨stored, previous, text, -, read, written, rfl⟩
  · rw [decode_encoded written decoded, fresh]
    exact ⟨rfl, rfl, written⟩
  · have truncated : (Store.resumedCursor runId startedAt.truncateMicro previous).truncated =
        Store.resumedCursor runId startedAt.truncateMicro previous := by
      unfold Store.resumedCursor
      split_ifs
      · exact fresh
      · have kept := congrArg DeviceSyncCursor.snapshotAt (truncated_of_decode read)
        simp only [DeviceSyncCursor.truncated] at kept ⊢
        rw [kept]
    have own : (Store.resumedCursor runId startedAt.truncateMicro previous).runId = runId := by
      unfold Store.resumedCursor
      split_ifs <;> rfl
    rw [decode_rewritten read written decoded, truncated]
    exact ⟨rfl, own, written⟩

theorem ahead_of_regresses {complete : Bool} {previous cursor : DeviceSyncCursor}
    (forward : Store.regresses resource runId complete previous cursor = false) :
    complete = false ∧ previous.runId = runId ∧ Ahead resource previous cursor := by
  simp only [Store.regresses, Bool.or_eq_false_iff, bne_eq_false_iff_eq, decide_eq_false_iff_not,
    Bool.and_eq_false_iff, beq_eq_false_iff_ne, not_le] at forward
  obtain ⟨⟨⟨⟨⟨⟨incomplete, own⟩, snapshot⟩, offset⟩, partition⟩, position⟩, total⟩ := forward
  refine ⟨incomplete, own, offset, fun others => ?_, snapshot.symm, fun known => ?_⟩
  · rcases position with (uplinks | apart) | further
    · exact (others uplinks).elim
    · rw [Int64.not_lt] at partition
      exact Or.inl (Int64.lt_of_le_of_ne partition (Ne.symm apart))
    · rcases eq_or_ne previous.lastPartition cursor.lastPartition with same | apart
      · exact Or.inr ⟨same, Int64.not_le.mp further⟩
      · rw [Int64.not_lt] at partition
        exact Or.inl (Int64.lt_of_le_of_ne partition apart)
  · exact total.resolve_left known

theorem rowMoves_advance {cursor : DeviceSyncCursor} {updatedAt : Time}
    {checkpoint : DeviceSyncCheckpoint} (key : String × String)
    (advanced : s.advanceCheckpoint sourceId resource runId cursor updatedAt =
      .ok (checkpoint, s')) :
    RowMoves s s' (.advanceCheckpoint sourceId resource runId cursor updatedAt) key := by
  obtain ⟨named, ⟨r, locked⟩, stored, previous, text, found, read, forward, written, decoded, rfl⟩ :=
    Store.advanceCheckpoint_ok advanced
  have key_eq := Table.key_of_find? found
  rcases ne_or_eq key (sourceId, resource) with apart | rfl
  · refine Or.inl ⟨fun _ same => apart (Option.some.inj same).symm, ?_⟩
    rw [Table.find?_update]
    cases other : s.checkpoints.find? key with
    | none => rfl
    | some row => simp [Table.key_of_find? other, apart]
  · refine Or.inr ⟨Store.rewritten text updatedAt.truncateMicro stored, checkpoint, ?_,
      SyncCheckpoint.decoded?_eq_some.mpr decoded, ?_⟩
    · simp [Table.find?_update, found, key_eq]
    · obtain ⟨incomplete, own, ahead⟩ := ahead_of_regresses forward
      have truncated : cursor.truncated.truncated = cursor.truncated := by
        simp [DeviceSyncCursor.truncated]
      have column : previous.complete = stored.complete := by
        obtain ⟨-, -, rfl⟩ := decode_columns read
        rfl
      rw [decode_rewritten read written decoded, Store.checkpoint?_of_decode found read, truncated]
      exact .advanced (Store.writes_of_lockRun locked) (column.trans incomplete) own named ahead

theorem rowMoves_complete {status : SyncRunStatus} {completedAt : Time} {run : SyncRun}
    (key : String × String)
    (ended : s.completeCheckpointAndRun sourceId resource runId status completedAt =
      .ok (run, s')) :
    RowMoves s s' (.completeCheckpointAndRun sourceId resource runId status completedAt) key := by
  obtain ⟨rfl, ⟨r, locked⟩, stored, previous, found, read, incomplete, own, whole, rfl⟩ :=
    Store.completeCheckpointAndRun_ok ended
  have key_eq := Table.key_of_find? found
  rcases ne_or_eq key (sourceId, resource) with apart | rfl
  · refine Or.inl ⟨fun _ same => apart (Option.some.inj same).symm, ?_⟩
    rw [Table.find?_update]
    cases other : s.checkpoints.find? key with
    | none => rfl
    | some row => simp [Table.key_of_find? other, apart]
  · have column : previous.complete = stored.complete := by
      obtain ⟨-, -, rfl⟩ := decode_columns read
      rfl
    have decoded : decodeDeviceSyncCheckpoint (Store.completed completedAt.truncateMicro stored) =
        .ok { previous with
          complete := true, completedAt := some completedAt.truncateMicro,
          updatedAt := completedAt.truncateMicro } := decode_completed read completedAt.truncateMicro
    refine Or.inr ⟨Store.completed completedAt.truncateMicro stored, _, ?_,
      SyncCheckpoint.decoded?_eq_some.mpr decoded, ?_⟩
    · simp [Table.find?_update, found, key_eq]
    · rw [Store.checkpoint?_of_decode found read]
      exact .completed ⟨r, Store.lockRun_eq_some locked⟩ (column.trans incomplete) own whole

/-- **What one operation does to the checkpoints.** -/
theorem rowMoves_apply (ok : CheckpointsOk s) (op : Op) (key : String × String) :
    RowMoves s (s.apply op) op key := by
  have untouched : ∀ {s' : Store}, op.checkpointKey = none → s'.checkpoints = s.checkpoints →
      RowMoves s s' op key := by
    intro s' unkeyed same
    refine Or.inl ⟨fun _ keyed => ?_, by rw [same]⟩
    rw [unkeyed] at keyed
    cases keyed
  cases outcome : s.execute op with
  | error e =>
      rw [Store.apply_of_error outcome]
      refine Or.inl ⟨fun accepted => ?_, rfl⟩
      simp [Store.accepts, outcome, Except.toOption] at accepted
  | ok s' =>
      rw [Store.apply_of_ok outcome]
      cases op with
      | enqueue request now =>
          obtain ⟨run, done⟩ := Store.ok_of_map outcome
          exact untouched rfl (by rw [Store.frame_enqueue done])
      | cancel runId now =>
          obtain ⟨result, done⟩ := Store.ok_of_map outcome
          exact untouched rfl (by rw [Store.frame_cancel done])
      | claimNext target startedAt =>
          obtain ⟨claim, done⟩ := Store.ok_of_map outcome
          exact untouched rfl (by rw [Store.frame_claimNext done])
      | transitionRun runId origin target now errorCode =>
          obtain ⟨run, done⟩ := Store.ok_of_map outcome
          obtain ⟨-, -, -, -, -, -, -, -, rfl⟩ := Store.transitionRun_ok done
          exact untouched rfl rfl
      | renewRunLease runId now =>
          obtain ⟨⟨⟩, done⟩ := Store.ok_of_map outcome
          exact untouched rfl (by rw [Store.frame_renewRunLease done])
      | beginCheckpoint sourceId resource runId startedAt leaseAt =>
          obtain ⟨checkpoint, done⟩ := Store.ok_of_map outcome
          exact rowMoves_begin ok key done
      | advanceCheckpoint sourceId resource runId cursor updatedAt =>
          obtain ⟨checkpoint, done⟩ := Store.ok_of_map outcome
          exact rowMoves_advance key done
      | completeCheckpointAndRun sourceId resource runId status completedAt =>
          obtain ⟨run, done⟩ := Store.ok_of_map outcome
          exact rowMoves_complete key done

theorem checkpointMove_apply (ok : CheckpointsOk s) (op : Op) (key : String × String) :
    CheckpointMove s op key (s.checkpoint? key) ((s.apply op).checkpoint? key) := by
  rcases rowMoves_apply ok op key with ⟨idle, same⟩ | ⟨row, checkpoint, placed, decoded, move⟩
  · have unmoved : (s.apply op).checkpoint? key = s.checkpoint? key := by
      rw [Store.checkpoint?, same]
      rfl
    rw [unmoved]
    exact .same _ idle
  · have here : (s.apply op).checkpoint? key = some checkpoint := by
      rw [Store.checkpoint?, placed]
      exact decoded
    rwa [here]

/-! ## Invariants -/

/-- A run that has succeeded has succeeded for good. -/
theorem succeeded_apply {op : Op} {r : SyncRun} (found : s.runs.find? runId = some r)
    (succeeded : r.status = .succeeded) :
    ∃ r', (s.apply op).runs.find? runId = some r' ∧ r'.status = .succeeded := by
  obtain ⟨r', found', step⟩ : ∃ r', (s.apply op).runs.find? runId = some r' ∧ RunStep op r r' :=
    Store.find?_apply found
  refine ⟨r', found', ?_⟩
  rw [step.eq_of_terminal (by rw [succeeded]; rfl), succeeded]

theorem CheckpointsOk.apply (ok : CheckpointsOk s) (op : Op) : CheckpointsOk (s.apply op) := by
  constructor
  · intro key row found
    rcases rowMoves_apply ok op key with ⟨-, same⟩ | ⟨row', checkpoint, placed, decoded, -⟩
    · exact ok.decodes key row (same.symm.trans found)
    · cases placed.symm.trans found
      exact ⟨checkpoint, decoded⟩
  · intro key checkpoint here complete
    have move := checkpointMove_apply ok op key
    rw [here] at move
    generalize before : s.checkpoint? key = stored at move
    cases move with
    | same =>
        obtain ⟨whole, r, found, succeeded⟩ := ok.complete key checkpoint before complete
        exact ⟨whole, succeeded_apply found succeeded⟩
    | begun => cases complete
    | resumed => cases complete
    | advanced => cases complete
    | @completed sourceId resource runId completedAt previous _ incomplete own whole =>
        refine ⟨whole, ?_⟩
        -- The checkpoint changed, so the operation took effect, and it ended the run.
        cases outcome : s.execute (.completeCheckpointAndRun sourceId resource runId .publishing
          completedAt) with
        | error e =>
            rw [Store.apply_of_error outcome, before] at here
            have flag := congrArg DeviceSyncCheckpoint.complete (Option.some.inj here)
            rw [incomplete] at flag
            cases flag
        | ok s' =>
            obtain ⟨run, done⟩ := Store.ok_of_map outcome
            obtain ⟨-, ⟨r, locked⟩, -, -, -, -, -, -, -, rfl⟩ :=
              Store.completeCheckpointAndRun_ok done
            obtain ⟨found, sourceId_eq, publishing, -, -⟩ := Store.lockRun_eq_some locked
            rw [Store.apply_of_ok outcome]
            refine ⟨Store.succeeded completedAt.truncateMicro r, ?_, rfl⟩
            simp [Table.find?_update, own, found, Table.key_of_find? found, sourceId_eq, publishing]

/-- An empty store has no checkpoint to be wrong. -/
theorem checkpointsOk_empty (sources : Table Source Source.id) :
    CheckpointsOk (Store.withoutRuns sources .empty) :=
  { decodes := fun _ _ found => by cases found
    complete := fun _ _ found => by cases found }

theorem checkpointsOk_applyAll (sources : Table Source Source.id) (ops : List Op) :
    CheckpointsOk ((Store.withoutRuns sources .empty).applyAll ops) :=
  Store.applyAll_invariant (checkpointsOk_empty sources) fun op _ _ ok => ok.apply op

end

/-! ## While a checkpoint belongs to one run -/

/-- The checkpoint with the key belongs to the run. -/
def Store.HeldBy (s : Store) (key : String × String) (runId : String) : Prop :=
  ∃ checkpoint, s.checkpoint? key = some checkpoint ∧ checkpoint.cursor.runId = runId

/-- A later cursor of the same run. -/
structure LaterCursor (previous cursor : DeviceSyncCursor) : Prop where
  snapshotAt : cursor.snapshotAt = previous.snapshotAt
  total : previous.total ≠ 0 → cursor.total = previous.total
  offset : previous.nextOffset ≤ cursor.nextOffset

theorem LaterCursor.refl (cursor : DeviceSyncCursor) : LaterCursor cursor cursor :=
  ⟨rfl, fun _ => rfl, le_rfl⟩

theorem LaterCursor.trans {a b c : DeviceSyncCursor} (first : LaterCursor a b)
    (second : LaterCursor b c) : LaterCursor a c where
  snapshotAt := second.snapshotAt.trans first.snapshotAt
  total known := by
    have here := first.total known
    exact (second.total (by rwa [here])).trans here
  offset := first.offset.trans second.offset

theorem CheckpointMove.later {s : Store} {op : Op} {key : String × String}
    {previous next : DeviceSyncCheckpoint} (move : CheckpointMove s op key (some previous) (some next))
    (same : previous.cursor.runId = next.cursor.runId) :
    LaterCursor previous.cursor next.cursor := by
  cases move with
  | same => exact .refl _
  | begun writes foreign => exact (foreign previous rfl same).elim
  | resumed => exact .refl _
  | advanced writes incomplete own named ahead =>
      exact ⟨ahead.snapshotAt, ahead.total, ahead.offset.le⟩
  | completed => exact .refl _

theorem laterCursor_applyAll {key : String × String} {runId : String} {more : List Op} {s : Store}
    (ok : CheckpointsOk s) {previous next : DeviceSyncCheckpoint}
    (here : s.checkpoint? key = some previous)
    (throughout : ∀ front, front <+: more → (s.applyAll front).HeldBy key runId)
    (there : (s.applyAll more).checkpoint? key = some next) :
    LaterCursor previous.cursor next.cursor := by
  have own : previous.cursor.runId = runId := by
    obtain ⟨checkpoint, found, own⟩ := throughout [] List.nil_prefix
    cases here.symm.trans found
    exact own
  induction more generalizing s previous with
  | nil =>
      cases here.symm.trans there
      exact .refl _
  | cons op more ih =>
      obtain ⟨middle, found, kept⟩ :=
        throughout [op] (List.prefix_cons_inj op |>.mpr List.nil_prefix)
      have move := checkpointMove_apply ok op key
      change (s.apply op).checkpoint? key = some middle at found
      rw [here, found] at move
      have rest := ih (ok.apply op) found (fun front inside =>
        throughout (op :: front) (List.prefix_cons_inj op |>.mpr inside)) there kept
      exact (move.later (own.trans kept.symm)).trans rest

/-- **Checkpoints only move forward**, in every state reached from an empty store: they decode; a
complete one is whole and its run has succeeded; every operation moves a checkpoint by a
`CheckpointMove`, and not at all where it returns an error, whichever of its statements failed; while
a checkpoint belongs to one run its snapshot stays, its total stays once it is known, and its offset
does not go back. -/
theorem checkpoints_applyAll (sources : Table Source Source.id) (ops : List Op) :
    let s := (Store.withoutRuns sources .empty).applyAll ops
    (∀ row ∈ s.checkpoints.rows, ∃ checkpoint, row.decoded? = some checkpoint ∧
      (row.complete = true → checkpoint.cursor.nextOffset = checkpoint.cursor.total ∧
        ∃ r, s.runs.find? checkpoint.cursor.runId = some r ∧ r.status = .succeeded)) ∧
    (∀ op key, CheckpointMove s op key (s.checkpoint? key) ((s.apply op).checkpoint? key)) ∧
    (∀ op e, s.execute op = .error e → (s.apply op).checkpoints = s.checkpoints ∧
      (s.apply op).runs = s.runs) ∧
    (∀ fails op e, (s.executeTx fails op).1 = .error e →
      (s.executeTx fails op).2.checkpoints = s.checkpoints ∧ (s.executeTx fails op).2.runs = s.runs) ∧
    ∀ key runId more previous next, s.checkpoint? key = some previous →
      (∀ front, front <+: more → (s.applyAll front).HeldBy key runId) →
      (s.applyAll more).checkpoint? key = some next →
      LaterCursor previous.cursor next.cursor := by
  intro s
  have ok : CheckpointsOk s := checkpointsOk_applyAll sources ops
  refine ⟨fun row inside => ?_, checkpointMove_apply ok, fun op e failed => ?_,
    fun fails op e failed => ?_, fun key runId more previous next here throughout there =>
      laterCursor_applyAll ok here throughout there⟩
  · have found := Table.find?_of_mem inside
    obtain ⟨checkpoint, decoded⟩ := ok.decodes _ row found
    refine ⟨checkpoint, decoded, fun complete => ?_⟩
    have column : checkpoint.complete = row.complete := by
      obtain ⟨-, -, rfl⟩ := decode_columns (SyncCheckpoint.decoded?_eq_some.mp decoded)
      rfl
    have here : s.checkpoint? row.key = some checkpoint := by
      rw [Store.checkpoint?, found]
      exact decoded
    exact ok.complete _ checkpoint here (column.trans complete)
  · rw [Store.apply_of_error failed]
    exact ⟨rfl, rfl⟩
  · rw [Store.executeTx_error failed]
    exact ⟨rfl, rfl⟩

/-! ## The texts of checkpoints -/

/-- The text of the row is the text of a cursor at microseconds. -/
def SyncCheckpoint.Textual (row : SyncCheckpoint) : Prop :=
  ∃ cursor, unmarshalCursor row.cursor = some cursor ∧ cursor.truncated = cursor

def TextsOk (s : Store) : Prop := ∀ key row, s.checkpoints.find? key = some row → row.Textual

theorem SyncCheckpoint.Textual.cursor {row : SyncCheckpoint} {checkpoint : DeviceSyncCheckpoint}
    (textual : row.Textual) (read : decodeDeviceSyncCheckpoint row = .ok checkpoint) :
    unmarshalCursor row.cursor = some checkpoint.cursor := by
  obtain ⟨cursor, found, truncated⟩ := textual
  obtain ⟨cursor', found', rfl⟩ := decode_columns read
  cases found.symm.trans found'
  rw [found, truncated]

/-- A row that decodes, with the text of a cursor at microseconds. -/
theorem textual_of_marshal {row : SyncCheckpoint} {cursor : DeviceSyncCursor}
    {checkpoint : DeviceSyncCheckpoint} (written : marshalCursor cursor = some row.cursor)
    (truncated : cursor.truncated = cursor) (read : decodeDeviceSyncCheckpoint row = .ok checkpoint) :
    row.Textual := by
  obtain ⟨cursor', found, -⟩ := decode_columns read
  refine ⟨cursor', found, ?_⟩
  rw [unmarshal_marshal written] at found
  split at found
  · cases found
    exact truncated
  · cases found

section

variable {s s' : Store} {sourceId resource runId : String}

theorem TextsOk.begin (texts : TextsOk s) {startedAt leaseAt : Time} {checkpoint : DeviceSyncCheckpoint}
    (begun : s.beginCheckpoint sourceId resource runId startedAt leaseAt = .ok (checkpoint, s')) :
    TextsOk s' := by
  obtain ⟨row, placed, decoded, -, -, written⟩ := row_of_begin begun
  obtain ⟨-, -, row', checkpoints, ready, -, rfl⟩ := Store.beginCheckpoint_ok begun
  obtain ⟨-, elsewhere, -⟩ := Store.begunRow_ok ready
  intro key stored found
  rcases ne_or_eq key (sourceId, resource) with apart | rfl
  · exact texts key stored ((elsewhere key apart).symm.trans found)
  · cases placed.symm.trans found
    exact textual_of_marshal written (truncated_of_decode decoded) decoded

theorem TextsOk.advance (texts : TextsOk s) {cursor : DeviceSyncCursor} {updatedAt : Time}
    {checkpoint : DeviceSyncCheckpoint}
    (advanced : s.advanceCheckpoint sourceId resource runId cursor updatedAt = .ok (checkpoint, s')) :
    TextsOk s' := by
  obtain ⟨-, -, stored, previous, text, found, -, -, written, decoded, rfl⟩ :=
    Store.advanceCheckpoint_ok advanced
  intro key row here
  rw [Table.find?_update] at here
  cases before : s.checkpoints.find? key with
  | none =>
      rw [before] at here
      cases here
  | some old =>
      rw [before, Option.map_some] at here
      split_ifs at here with same
      · cases here
        have own : key = (sourceId, resource) :=
          (Table.key_of_find? before).symm.trans (of_decide_eq_true same)
        rw [own] at before
        cases found.symm.trans before
        refine textual_of_marshal written ?_ decoded
        simp [DeviceSyncCursor.truncated]
      · cases here
        exact texts key _ before

theorem TextsOk.complete (texts : TextsOk s) {status : SyncRunStatus} {completedAt : Time} {run : SyncRun}
    (ended : s.completeCheckpointAndRun sourceId resource runId status completedAt = .ok (run, s')) :
    TextsOk s' := by
  obtain ⟨-, -, stored, previous, -, -, -, -, -, rfl⟩ := Store.completeCheckpointAndRun_ok ended
  intro key row here
  rw [Table.find?_update] at here
  cases before : s.checkpoints.find? key with
  | none =>
      rw [before] at here
      cases here
  | some old =>
      rw [before, Option.map_some] at here
      obtain ⟨cursor, read, truncated⟩ := texts key old before
      split_ifs at here <;> cases here <;> exact ⟨cursor, read, truncated⟩

/-- Every operation keeps the texts. -/
theorem TextsOk.apply (texts : TextsOk s) (op : Op) : TextsOk (s.apply op) := by
  have untouched : ∀ {s' : Store}, s'.checkpoints = s.checkpoints → TextsOk s' := by
    intro s' same key row found
    rw [same] at found
    exact texts key row found
  cases outcome : s.execute op with
  | error e => rwa [Store.apply_of_error outcome]
  | ok s' =>
      rw [Store.apply_of_ok outcome]
      cases op with
      | enqueue request now =>
          obtain ⟨run, done⟩ := Store.ok_of_map outcome
          exact untouched (by rw [Store.frame_enqueue done])
      | cancel runId now =>
          obtain ⟨result, done⟩ := Store.ok_of_map outcome
          exact untouched (by rw [Store.frame_cancel done])
      | claimNext target startedAt =>
          obtain ⟨claim, done⟩ := Store.ok_of_map outcome
          exact untouched (by rw [Store.frame_claimNext done])
      | transitionRun runId origin target now errorCode =>
          obtain ⟨run, done⟩ := Store.ok_of_map outcome
          obtain ⟨-, -, -, -, -, -, -, -, rfl⟩ := Store.transitionRun_ok done
          exact untouched rfl
      | renewRunLease runId now =>
          obtain ⟨⟨⟩, done⟩ := Store.ok_of_map outcome
          exact untouched (by rw [Store.frame_renewRunLease done])
      | beginCheckpoint sourceId resource runId startedAt leaseAt =>
          obtain ⟨checkpoint, done⟩ := Store.ok_of_map outcome
          exact texts.begin done
      | advanceCheckpoint sourceId resource runId cursor updatedAt =>
          obtain ⟨checkpoint, done⟩ := Store.ok_of_map outcome
          exact texts.advance done
      | completeCheckpointAndRun sourceId resource runId status completedAt =>
          obtain ⟨run, done⟩ := Store.ok_of_map outcome
          exact texts.complete done

end

/-- In every reachable store, a row that decodes has the text of its cursor. -/
theorem textsOk_applyAll (sources : Table Source Source.id) (ops : List Op) :
    TextsOk ((Store.withoutRuns sources .empty).applyAll ops) :=
  Store.applyAll_invariant (I := TextsOk) (fun _ _ found => by cases found) fun op _ _ ok => ok.apply op

end UnifiedInfraTopology
