import UnifiedInfraTopology.Worker.Execute
import UnifiedInfraTopology.Repository.CheckpointInvariants

/-!
# The worker and the store agree on progress

`validateEntityPage` of the worker and `AdvanceCheckpoint` of the store check the order of records
with different formulas.  Whatever page the worker accepts after a stored cursor, the store accepts
the cursor that the worker makes of it.

* `collectedCursor_valid`: the cursor passes the content checks.
* `ReachedCursor`: the cursors a worker gets to, in stores that other clients change meanwhile.
* `advanceCheckpoint_accepts_iff`: while the run is running, uncanceled and holds a current lease,
  `AdvanceCheckpoint` refuses such a cursor exactly where the lease ends already at the time that it
  would be extended to.  The worker has then been renewed in the same microsecond.
-/

namespace UnifiedInfraTopology

open Lib

/-! ## Content checks -/

section

variable {entity : EntityType} {resource code runId : String} {cursor : DeviceSyncCursor}
  {page : EntityPage} {last : Int64}

/-- What the checks of a stored cursor say. -/
theorem validateDeviceSyncCursor_ok (valid : validateDeviceSyncCursor cursor = .ok ()) :
    cursor.version = deviceSyncCursorVersion ∧ cursor.runId ≠ "" ∧ 0 ≤ cursor.nextOffset ∧
      0 ≤ cursor.lastInstanceId ∧ 0 ≤ cursor.lastPartition ∧ cursor.snapshotAt.isZero = false ∧
      0 ≤ cursor.total := by
  unfold validateDeviceSyncCursor at valid
  split_ifs at valid with bad
  simp only [not_or, not_not, not_lt, Bool.not_eq_true] at bad
  obtain ⟨version, named, offset, instance_, partition, real, total, -⟩ := bad
  exact ⟨version, named, offset, Int64.not_lt.mp instance_, Int64.not_lt.mp partition, real, total⟩

/-- The entities of the worker use resources of devices, not the uplinks. -/
theorem syncResource_resource (known : syncResource entity = some (resource, code)) :
    resource ≠ "" ∧ resource ≠ "server_uplinks" ∧
      (resource = "interfaces" ↔ entity = .interface) := by
  cases entity <;> cases known <;> simp

/-- An accepted page climbs, and its last instance is positive. -/
theorem validateEntityPage_climbs (accepted : validateEntityPage cursor page entity = some last)
    (filled : page.records ≠ []) (signed : 0 ≤ cursor.lastInstanceId) :
    0 < last ∧ position entity cursor.lastInstanceId cursor.lastPartition <
      position entity last (page.partition?.getD 0) := by
  obtain ⟨-, -, -, -, -, records⟩ := validateEntityPage_some accepted
  have climbed := (validateRecords_ascending records).lt (by simpa using filled)
  rw [if_neg filled] at climbed
  exact ⟨(validateRecords_last records signed).2 filled, climbed⟩

theorem collectedCursor_filled {snapshotAt : Time} (filled : page.records ≠ []) :
    collectedCursor runId snapshotAt cursor page last = {
      version := deviceSyncCursorVersion, runId, nextOffset := page.nextOffset
      lastInstanceId := last, lastPartition := page.partition?.getD 0, snapshotAt
      total := page.total } := by
  unfold collectedCursor
  split
  · rename_i empty
    exact (filled empty).elim
  · rename_i shape
    simp [EntityPage.partition?, shape]

/-- The partition of a page: positive for interfaces, zero otherwise. -/
theorem partition_of_page (accepted : validateEntityPage cursor page entity = some last)
    (filled : page.records ≠ []) :
    if entity = .interface then 0 < page.partition?.getD 0 else page.partition?.getD 0 = 0 := by
  obtain ⟨-, -, -, -, -, records⟩ := validateEntityPage_some accepted
  obtain ⟨r, rest, shape⟩ := List.exists_cons_of_ne_nil filled
  have placed := validateRecords_partitioned records r (by rw [shape]; exact List.mem_cons_self)
  unfold Partitioned at placed
  simpa [EntityPage.partition?, shape] using placed

/-- **The cursor of an accepted page passes the content checks** of the store: it is valid for its
resource, and ahead of the stored one. -/
theorem collectedCursor_valid (known : syncResource entity = some (resource, code))
    (valid : validateDeviceSyncCursor cursor = .ok ())
    (placed : cursor.lastPartition ≠ 0 → resource = "interfaces") (own : cursor.runId = runId)
    (accepted : validateEntityPage cursor page entity = some last) (filled : page.records ≠ []) :
    validateDeviceSyncCursor (collectedCursor runId cursor.snapshotAt cursor page last) = .ok () ∧
      (page.partition?.getD 0 ≠ 0 → resource = "interfaces") ∧
      Store.regresses resource runId false cursor
        (collectedCursor runId cursor.snapshotAt cursor page last) = false := by
  obtain ⟨version, named, offset, signed, partition, real, total⟩ := validateDeviceSyncCursor_ok valid
  obtain ⟨sized, counted, bounded, constant, -, -⟩ := validateEntityPage_some accepted
  obtain ⟨positive, climbed⟩ := validateEntityPage_climbs accepted filled signed
  obtain ⟨-, others, ports⟩ := syncResource_resource known
  have some_ : 0 < (page.records.length : Int) := by
    exact_mod_cast List.length_pos_iff.mpr filled
  have here := partition_of_page accepted filled
  have unsigned : 0 ≤ page.partition?.getD 0 := by
    split_ifs at here
    · exact Int64.le_of_lt here
    · rw [here]
      decide
  rw [collectedCursor_filled filled]
  refine ⟨?_, fun nonzero => ?_, ?_⟩
  · unfold validateDeviceSyncCursor
    rw [if_neg]
    simp only [not_or, not_and, not_not, not_lt, ne_eq, Bool.not_eq_true]
    have nonzero : last ≠ 0 := fun zero => by
      rw [zero] at positive
      exact absurd positive (by decide)
    refine ⟨trivial, own ▸ named, by omega, Int64.not_lt.mpr (Int64.le_of_lt positive),
      Int64.not_lt.mpr unsigned, real, sized, fun zero => by omega, fun _ => nonzero,
      fun _ => bounded⟩
  · by_cases chosen : entity = .interface
    · exact ports.mpr chosen
    · rw [if_neg chosen] at here
      exact (nonzero here).elim
  · -- The partition does not go back, and in one partition the instance grows.
    have later : cursor.lastPartition < page.partition?.getD 0 ∨
        cursor.lastPartition = page.partition?.getD 0 ∧ cursor.lastInstanceId < last := by
      unfold position at climbed
      by_cases chosen : entity = .interface
      · rw [if_pos chosen, if_pos chosen, Prod.Lex.toLex_lt_toLex] at climbed
        rcases climbed with further | ⟨same, further⟩
        · exact Or.inl (Int64.lt_iff_toInt_lt.mpr further)
        · exact Or.inr ⟨Int64.toInt_inj.mp same, Int64.lt_iff_toInt_lt.mpr further⟩
      · rw [if_neg chosen, if_neg chosen, Prod.Lex.toLex_lt_toLex] at climbed
        rw [if_neg chosen] at here
        have unplaced : cursor.lastPartition = 0 := by
          by_contra nonzero
          exact chosen (ports.mp (placed nonzero))
        rcases climbed with further | ⟨-, further⟩
        · exact (lt_irrefl _ further).elim
        · exact Or.inr ⟨unplaced.trans here.symm, Int64.lt_iff_toInt_lt.mpr further⟩
    have known_total : cursor.total = 0 ∨ page.total = cursor.total := by
      rcases eq_or_lt_of_le total with zero | positive
      · exact Or.inl zero.symm
      · exact Or.inr (constant positive)
    simp only [Store.regresses, Bool.or_eq_false_iff, bne_eq_false_iff_eq, decide_eq_false_iff_not,
      Bool.and_eq_false_iff, beq_eq_false_iff_ne]
    refine ⟨⟨⟨⟨⟨⟨trivial, own⟩, trivial⟩, by omega⟩, ?_⟩, ?_⟩, known_total⟩
    · rcases later with further | ⟨same, -⟩
      · exact fun back => Int64.lt_irrefl (Int64.lt_trans further back)
      · rw [same]
        exact Int64.lt_irrefl
    · rcases later with further | ⟨-, further⟩
      · exact Or.inl (Or.inr (Int64.ne_of_lt further).symm)
      · exact Or.inr (Int64.not_le.mpr further)

end

/-! ## The cursors of a worker -/

/-- The run that the operation writes a checkpoint for. -/
def Op.checkpointRun : Op → Option String
  | .beginCheckpoint _ _ runId _ _ | .advanceCheckpoint _ _ runId _ _ => some runId
  | .completeCheckpointAndRun _ _ runId _ _ => some runId
  | _ => none

/-- A worker begins the checkpoint of its run in a store reached from an empty one, and stores the
cursor of every page it has accepted and written.  Other operations, also of other clients and on the
run itself, happen in between. -/
inductive ReachedCursor (entity : EntityType) (sourceId resource runId : String) :
    Store → DeviceSyncCursor → Prop where
  | begun {sources : Table Source Source.id} {ops : List Op} {startedAt leaseAt : Time}
      {checkpoint : DeviceSyncCheckpoint} {s : Store}
      (ok : ((Store.withoutRuns sources .empty).applyAll ops).beginCheckpoint sourceId resource runId
        startedAt leaseAt = .ok (checkpoint, s)) :
      ReachedCursor entity sourceId resource runId s checkpoint.cursor
  | stored {s s' : Store} {cursor : DeviceSyncCursor} {page : EntityPage} {last : Int64}
      {updatedAt : Time} {checkpoint : DeviceSyncCheckpoint}
      (before : ReachedCursor entity sourceId resource runId s cursor)
      (accepted : validateEntityPage cursor page entity = some last) (filled : page.records ≠ [])
      (ok : s.advanceCheckpoint sourceId resource runId
        (collectedCursor runId cursor.snapshotAt cursor page last) updatedAt = .ok (checkpoint, s')) :
      ReachedCursor entity sourceId resource runId s'
        (collectedCursor runId cursor.snapshotAt cursor page last)
  | other {s : Store} {cursor : DeviceSyncCursor} {op : Op}
      (before : ReachedCursor entity sourceId resource runId s cursor)
      (foreign : op.checkpointRun ≠ some runId) :
      ReachedCursor entity sourceId resource runId (s.apply op) cursor

/-- The checkpoint is stored with this cursor, incomplete. -/
def Store.Keeps (s : Store) (key : String × String) (cursor : DeviceSyncCursor) : Prop :=
  ∃ row checkpoint, s.checkpoints.find? key = some row ∧
    decodeDeviceSyncCheckpoint row = .ok checkpoint ∧ row.complete = false ∧
    checkpoint.cursor = cursor

/-- While the run is active, its checkpoint is the one the worker goes on from. -/
structure Linked (sourceId resource runId : String) (s : Store) (cursor : DeviceSyncCursor) :
    Prop where
  checkpoints : CheckpointsOk s
  active : OneActive s.runs.rows
  named : sourceId ≠ "" ∧ resource ≠ "" ∧ runId ≠ ""
  run : ∃ r, s.runs.find? runId = some r ∧ r.sourceId = sourceId ∧
    (r.status.active = true → s.Keeps (sourceId, resource) cursor)
  own : cursor.runId = runId
  truncated : cursor.truncated = cursor
  printable : (marshalCursor cursor).isSome = true

section

variable {entity : EntityType} {sourceId resource runId code : String} {s s' : Store}
  {cursor : DeviceSyncCursor}

theorem oneActive_of_empty (sources : Table Source Source.id) (ops : List Op) :
    OneActive ((Store.withoutRuns sources .empty).applyAll ops).runs.rows := by
  refine Store.applyAll_invariant (I := fun s => OneActive s.runs.rows) ?_ fun op _ s => .apply
  intro r inside
  cases inside

theorem linked_begun {sources : Table Source Source.id} {ops : List Op} {startedAt leaseAt : Time}
    {checkpoint : DeviceSyncCheckpoint}
    (ok : ((Store.withoutRuns sources .empty).applyAll ops).beginCheckpoint sourceId resource runId
      startedAt leaseAt = .ok (checkpoint, s)) :
    Linked sourceId resource runId s checkpoint.cursor := by
  obtain ⟨row, placed, decoded, incomplete, own, written⟩ := row_of_begin ok
  obtain ⟨named, ⟨r, locked⟩, -⟩ := Store.beginCheckpoint_ok ok
  obtain ⟨found, source, -, -, -⟩ := Store.lockRun_eq_some locked
  have applied : ((Store.withoutRuns sources .empty).applyAll ops).apply
      (.beginCheckpoint sourceId resource runId startedAt leaseAt) = s :=
    Store.apply_of_ok (by simp [Store.execute, ok, Except.map])
  refine ⟨?_, ?_, named, ⟨r, ?_, source, fun _ => ?_⟩, own, truncated_of_decode decoded, ?_⟩
  · rw [← applied]
    exact (checkpointsOk_applyAll sources ops).apply _
  · rw [← applied]
    exact (oneActive_of_empty sources ops).apply
  · rw [Store.beginCheckpoint_runs ok]
    exact found
  · exact ⟨row, checkpoint, placed, decoded, incomplete, rfl⟩
  · rw [written]
    rfl

theorem linked_stored {page : EntityPage} {last : Int64} {updatedAt : Time}
    {checkpoint : DeviceSyncCheckpoint} (before : Linked sourceId resource runId s cursor)
    (ok : s.advanceCheckpoint sourceId resource runId
      (collectedCursor runId cursor.snapshotAt cursor page last) updatedAt = .ok (checkpoint, s')) :
    Linked sourceId resource runId s' (collectedCursor runId cursor.snapshotAt cursor page last) := by
  have applied : s.apply (.advanceCheckpoint sourceId resource runId
      (collectedCursor runId cursor.snapshotAt cursor page last) updatedAt) = s' :=
    Store.apply_of_ok (by simp [Store.execute, ok, Except.map])
  have truncated : (collectedCursor runId cursor.snapshotAt cursor page last).truncated =
      collectedCursor runId cursor.snapshotAt cursor page last := by
    unfold collectedCursor
    split
    · exact before.truncated
    · have kept := congrArg DeviceSyncCursor.snapshotAt before.truncated
      simp only [DeviceSyncCursor.truncated] at kept ⊢
      rw [kept]
  have checkpoints := before.checkpoints.apply (.advanceCheckpoint sourceId resource runId
    (collectedCursor runId cursor.snapshotAt cursor page last) updatedAt)
  have active : OneActive (s.apply (.advanceCheckpoint sourceId resource runId
      (collectedCursor runId cursor.snapshotAt cursor page last) updatedAt)).runs.rows :=
    before.active.apply
  rw [applied] at checkpoints active
  obtain ⟨own, ⟨r, locked⟩, stored, previous, text, found, read, -, written, decoded, rfl⟩ :=
    Store.advanceCheckpoint_ok ok
  obtain ⟨present, source, running, uncanceled, -⟩ := Store.lockRun_eq_some locked
  rw [truncated] at written
  refine ⟨checkpoints, active, before.named, ⟨Store.extended updatedAt.truncateMicro r, ?_, source,
    fun _ => ⟨Store.rewritten text updatedAt.truncateMicro stored, checkpoint, ?_, decoded, rfl, ?_⟩⟩,
    own, truncated, ?_⟩
  · simp [Table.find?_update, present, Table.key_of_find? present, Store.advancing, source, running,
      uncanceled]
  · simp [Table.find?_update, found, Table.key_of_find? found]
  · rw [decode_rewritten read written decoded, truncated]
  · rw [written]
    rfl

/-- The operations of others leave the checkpoint of an active run alone. -/
theorem linked_other {op : Op} (before : Linked sourceId resource runId s cursor)
    (foreign : op.checkpointRun ≠ some runId) :
    Linked sourceId resource runId (s.apply op) cursor := by
  obtain ⟨r, found, source, keeps⟩ := before.run
  obtain ⟨r', found', step⟩ : ∃ r', (s.apply op).runs.find? runId = some r' ∧ RunStep op r r' :=
    Store.find?_apply found
  refine ⟨before.checkpoints.apply op, before.active.apply, before.named,
    ⟨r', found', step.sourceId_eq.trans source, fun active' => ?_⟩, before.own, before.truncated,
    before.printable⟩
  have active := step.active active'
  obtain ⟨row, checkpoint, placed, decoded, incomplete, rfl⟩ := keeps active
  have column : checkpoint.complete = false := by
    obtain ⟨-, -, rfl⟩ := decode_columns decoded
    exact incomplete
  rcases rowMoves_apply before.checkpoints op (sourceId, resource) with
    ⟨-, same⟩ | ⟨row', checkpoint', placed', decoded', move⟩
  · exact ⟨row, checkpoint, same.trans placed, decoded, incomplete, rfl⟩
  · have same_run : ∀ {runId'}, checkpoint.cursor.runId = runId' →
        op.checkpointRun = some runId' → False := by
      intro runId' owned issued
      rw [before.own] at owned
      exact foreign (owned ▸ issued)
    have unmoved : checkpoint' = checkpoint := by
      rw [Store.checkpoint?_of_decode placed decoded] at move
      generalize next_eq : some checkpoint' = next at move
      cases move with
      | same => exact Option.some.inj next_eq
      | begun writes _ =>
          obtain ⟨w, stored, here, running, -, -⟩ := writes
          have one := before.active r (Table.mem_of_find? found) w (Table.mem_of_find? stored)
            (source.trans here.symm) active (by rw [running]; rfl)
          have id := (Table.key_of_find? found).symm.trans
            ((congrArg SyncRun.id one).trans (Table.key_of_find? stored))
          exact (foreign (by rw [id]; rfl)).elim
      | resumed _ _ own => exact (same_run own rfl).elim
      | advanced _ _ own => exact (same_run own rfl).elim
      | completed _ _ own => exact (same_run own rfl).elim
    subst unmoved
    have read := SyncCheckpoint.decoded?_eq_some.mp decoded'
    have column' : row'.complete = false := by
      rw [← column]
      obtain ⟨written, -, columns⟩ := decode_columns read
      exact (congrArg DeviceSyncCheckpoint.complete columns).symm
    exact ⟨row', checkpoint', placed', read, column', rfl⟩

theorem linked_of_reached (reached : ReachedCursor entity sourceId resource runId s cursor) :
    Linked sourceId resource runId s cursor := by
  induction reached with
  | begun ok => exact linked_begun ok
  | stored before accepted filled ok ih => exact linked_stored ih ok
  | other before foreign ih => exact linked_other ih foreign

/-- **When the store accepts a page the worker has written.**  After any history, the cursor of a
non-empty page that the worker accepts passes the content checks of `AdvanceCheckpoint`; while the run
is running, uncanceled and holds a current lease, it is stored if and only if the extension changes the
lease.  The total of a page is a 64-bit integer. -/
theorem advanceCheckpoint_accepts_iff (known : syncResource entity = some (resource, code))
    (reached : ReachedCursor entity sourceId resource runId s cursor) {page : EntityPage}
    {last : Int64} (accepted : validateEntityPage cursor page entity = some last)
    (filled : page.records ≠ []) (word : int64Range page.total = true) {now : Time}
    (real : now.isZero = false) {r : SyncRun} (found : s.runs.find? runId = some r)
    (running : r.status = .running) (uncanceled : r.cancelRequestedAt = none)
    (current : r.leaseCurrent now.truncateMicro = true) :
    (∃ result, s.advanceCheckpoint sourceId resource runId
      (collectedCursor runId cursor.snapshotAt cursor page last) now = .ok result) ↔
      r.leaseExpiresAt ≠ some (now.truncateMicro + inventoryRunLeaseDuration) := by
  have linked := linked_of_reached reached
  obtain ⟨r', found', source, keeps⟩ := linked.run
  cases found.symm.trans found'
  obtain ⟨row, checkpoint, placed, decoded, incomplete, rfl⟩ := keeps (by rw [running]; rfl)
  obtain ⟨-, uplinks, -⟩ := syncResource_resource known
  have resource_eq : row.resource = resource := congrArg Prod.snd (Table.key_of_find? placed)
  obtain ⟨valid, partitioned⟩ := checks_of_decode decoded
  rw [resource_eq, validateInventoryResourceCursor, if_pos uplinks] at valid
  rw [resource_eq] at partitioned
  obtain ⟨next_valid, next_placed, forward⟩ :=
    collectedCursor_valid known valid partitioned linked.own accepted filled
  obtain ⟨-, -, offset, -⟩ := validateDeviceSyncCursor_ok valid
  obtain ⟨sized, counted, bounded, -⟩ := validateEntityPage_some accepted
  have shape : collectedCursor runId checkpoint.cursor.snapshotAt checkpoint.cursor page last = {
      version := deviceSyncCursorVersion, runId, nextOffset := page.nextOffset
      lastInstanceId := last, lastPartition := page.partition?.getD 0
      snapshotAt := checkpoint.cursor.snapshotAt, total := page.total } :=
    collectedCursor_filled filled
  have locked : s.lockRun sourceId runId .running now.truncateMicro = some r := by
    simp [Store.lockRun, found, Option.filter, source, running, uncanceled, current]
  have truncated : (collectedCursor runId checkpoint.cursor.snapshotAt checkpoint.cursor page
      last).truncated = collectedCursor runId checkpoint.cursor.snapshotAt checkpoint.cursor page
      last := by
    have kept := congrArg DeviceSyncCursor.snapshotAt linked.truncated
    simp only [DeviceSyncCursor.truncated] at kept
    rw [shape]
    simp only [DeviceSyncCursor.truncated, kept]
  have range : (collectedCursor runId checkpoint.cursor.snapshotAt checkpoint.cursor page
      last).inRange = true := by
    rw [shape]
    simp only [DeviceSyncCursor.inRange, deviceSyncCursorVersion, int64Range, Bool.and_eq_true,
      decide_eq_true_eq] at word ⊢
    exact ⟨⟨by simp, by omega, by omega⟩, by omega, word.2⟩
  obtain ⟨text, written⟩ : ∃ text, marshalCursor (collectedCursor runId checkpoint.cursor.snapshotAt
      checkpoint.cursor page last) = some text := by
    have printable := linked.printable
    rw [← Option.isSome_iff_exists]
    simp only [marshalCursor, Option.isSome_map, shape] at printable ⊢
    exact printable
  refine Store.advanceCheckpoint_accepted_iff linked.named real ?_ truncated range ?_ ?_ locked placed
    decoded (incomplete.symm ▸ forward) written
  · rw [shape]
  · rw [validateInventoryResourceCursor, if_pos uplinks]
    exact next_valid
  · rw [shape]
    exact next_placed

/-- A claimed run of a source, before its checkpoint. -/
def uncollected : Store :=
  (Store.withoutRuns (oneSource "s") .empty).applyAll
    [.enqueue (queuedRun "r" "s") 1000, .claimNext none 2000]

/-- The first page of a device source, after which a second one is due. -/
def firstPage : EntityPage := ⟨[⟨0, 7, "sn", "", .empty⟩], 1, 2, false⟩

/-- The checkpoint has just begun: the worker accepts the page, and its run is running. -/
def Collecting (s : Store) (checkpoint : DeviceSyncCheckpoint) (lease : Time) : Prop :=
  validateEntityPage checkpoint.cursor firstPage .device = some 7 ∧
    ∃ r ∈ s.runs.find? "r", r.status = .running ∧ r.cancelRequestedAt = none ∧
      r.leaseCurrent (Time.truncateMicro 4000) = true ∧ r.leaseExpiresAt = some lease

instance (s : Store) (checkpoint : DeviceSyncCheckpoint) (lease : Time) :
    Decidable (Collecting s checkpoint lease) :=
  inferInstanceAs (Decidable (_ ∧ _))

/-- A checkpoint just begun takes the cursor of its first page. -/
theorem advanceCheckpoint_accepts_first : ∃ checkpoint s,
    uncollected.beginCheckpoint "s" "devices" "r" 2000 3000 = .ok (checkpoint, s) ∧
      ∃ result, s.advanceCheckpoint "s" "devices" "r"
        (collectedCursor "r" checkpoint.cursor.snapshotAt checkpoint.cursor firstPage 7) 4000 =
          .ok result := by
  have begun : (uncollected.beginCheckpoint "s" "devices" "r" 2000 3000).toOption.any
      (fun p => Collecting p.2 p.1 (2000 + inventoryRunLeaseDuration)) = true := by
    decide +kernel
  cases ok : uncollected.beginCheckpoint "s" "devices" "r" 2000 3000 with
  | error e =>
    rw [ok] at begun
    exact absurd begun Bool.false_ne_true
  | ok p =>
    obtain ⟨checkpoint, s⟩ := p
    rw [ok] at begun
    simp only [Except.toOption, Option.any_some, decide_eq_true_eq] at begun
    obtain ⟨accepted, r, found, running, uncanceled, current, lease⟩ := begun
    have reached : ReachedCursor .device "s" "devices" "r" s checkpoint.cursor := .begun ok
    refine ⟨checkpoint, s, rfl, (advanceCheckpoint_accepts_iff rfl reached accepted (by simp [firstPage])
      (by decide) (by decide) found running uncanceled current).mpr ?_⟩
    rw [lease]
    decide

/-- The heartbeat renews the lease in the microsecond in which the page is stored: the store refuses the
cursor of a page that the worker has accepted, while the run is running, uncanceled and holds a current
lease. -/
theorem advanceCheckpoint_renewed :
    (uncollected.beginCheckpoint "s" "devices" "r" 2000 3000).toOption.any (fun p =>
      Collecting (p.2.apply (.renewRunLease "r" 4000)) p.1 (4000 + inventoryRunLeaseDuration) ∧
        (((p.2.apply (.renewRunLease "r" 4000)).advanceCheckpoint "s" "devices" "r"
          (collectedCursor "r" p.1.cursor.snapshotAt p.1.cursor firstPage 7) 4000).toOption = none)) =
      true := by
  decide +kernel

end

end UnifiedInfraTopology
