import UnifiedInfraTopology.Worker.Collection

/-!
# How long the page loops run

`validateEntityPage` accepts a page without records that is not done.  Such a page leaves the cursor
where it is, and the loops of `executeClaimed` and `validateEntitySnapshot` ask for it again.

* `validateEntityPage_advances`: an accepted page that is not done moves the cursor forward, if and only
  if it has records.
* `pages_terminate`: in executions without such pages each loop runs at most once more than the total
  of its pages.
* `collection_stalls`: with such pages the collection goes on for any number of iterations.
-/

namespace UnifiedInfraTopology

open Lib

/-- The pages read in a pass, in their order. -/
def World.pages (pass : Pass) (w : World syncService) : List EntityPage :=
  w.landmarks.filterMap (Landmark.page? pass)

/-- An accepted page that is not done moves the cursor forward if it has records, and only then. -/
theorem validateEntityPage_advances {cursor : DeviceSyncCursor} {page : EntityPage}
    {entity : EntityType} {last : Int64} (accepted : validateEntityPage cursor page entity = some last) :
    cursor.nextOffset < page.nextOffset ↔ page.records ≠ [] := by
  obtain ⟨-, counted, -⟩ := validateEntityPage_some accepted
  rw [← List.length_pos_iff]
  omega

/-- After the pages before it, a page that is accepted and not done has records. -/
def Advances (entity : EntityType)
    (next : DeviceSyncCursor → EntityPage → Int64 → DeviceSyncCursor) (start : DeviceSyncCursor)
    (before : List EntityPage) (page : EntityPage) : Prop :=
  ∀ cursor last, PagesRead entity next start before cursor →
    validateEntityPage cursor page entity = some last → page.done = false → page.records ≠ []

section Pure

variable {entity : EntityType} {next : DeviceSyncCursor → EntityPage → Int64 → DeviceSyncCursor}
  {start cursor : DeviceSyncCursor} {pages : List EntityPage} {total : Int}

/-- Pages with records move the offset by at least one each. -/
theorem PagesRead.length_le (read : PagesRead entity next start pages cursor)
    (follows : Follows entity next) (advances : Throughout (Advances entity next start) [] pages)
    (going : ∀ page ∈ pages, page.done = false) :
    start.nextOffset + pages.length ≤ cursor.nextOffset := by
  induction read with
  | nil => simp
  | @snoc cursor pages page last before accepted ih =>
      obtain ⟨earlier, here⟩ := throughout_concat.mp advances
      have kept := ih earlier fun page' inside => going page' (List.mem_append_left _ inside)
      have filled := here cursor last before accepted (going page (by simp))
      have further := (validateEntityPage_advances accepted).mpr filled
      rw [(follows _ _ _ accepted).1, List.length_append, List.length_singleton]
      push_cast
      omega

/-- Pages that are not done stay below their total. -/
theorem PagesRead.lt_total (read : PagesRead entity next start pages cursor)
    (follows : Follows entity next) (filled : pages ≠ [])
    (going : ∀ page ∈ pages, page.done = false ∧ page.total = total) : cursor.nextOffset < total := by
  cases read with
  | nil => exact (filled rfl).elim
  | @snoc cursor pages page last before accepted =>
      obtain ⟨unfinished, rfl⟩ := going page (by simp)
      obtain ⟨-, -, -, -, done, -⟩ := validateEntityPage_some accepted
      rw [unfinished, eq_comm, decide_eq_false_iff_not, not_le] at done
      rw [(follows _ _ _ accepted).1]
      exact done

/-- In a collection that goes on all pages have the total of the first. -/
theorem PagesRead.total_eq {runId : String} {snapshotAt : Time} {first : EntityPage}
    (read : PagesRead entity (collectedCursor runId snapshotAt) start pages cursor)
    (nonneg : 0 ≤ start.nextOffset)
    (advances : Throughout (Advances entity (collectedCursor runId snapshotAt) start) [] pages)
    (going : ∀ page ∈ pages, page.done = false) (head : pages.head? = some first) :
    cursor.total = first.total ∧ 0 < first.total ∧ ∀ page ∈ pages, page.total = first.total := by
  induction read with
  | nil => cases head
  | @snoc cursor pages page last before accepted ih =>
      obtain ⟨earlier, here⟩ := throughout_concat.mp advances
      have filled := here cursor last before accepted (going page (by simp))
      obtain ⟨-, counted, bounded, constant, done, -⟩ := validateEntityPage_some accepted
      have behind := before.offset (follows_collectedCursor entity runId snapshotAt)
      have positive : 0 < page.total := by
        have := List.length_pos_iff.mpr filled
        omega
      have total : (collectedCursor runId snapshotAt cursor page last).total = page.total := by
        rw [collectedCursor_filled filled]
      rw [total]
      cases shape : pages with
      | nil =>
          rw [shape] at head
          cases head
          simp [positive]
      | cons first' rest =>
          have head' : pages.head? = some first := by
            rw [shape] at head ⊢
            exact head
          obtain ⟨known, above, same⟩ := ih earlier
            (fun page' inside => going page' (List.mem_append_left _ inside)) head'
          have equal : page.total = first.total := (constant (by omega)).trans known
          refine ⟨equal, above, fun page' inside => ?_⟩
          rw [← shape] at inside
          rcases List.mem_append.mp inside with old | new
          · exact same page' old
          · rw [List.mem_singleton.mp new]
            exact equal

end Pure

/-! ## The loops -/

section Loops

variable {worker : SyncWorker} {run : SyncRun} {source : Source} {startedAt : Time}
  {selection : Selection} {w w' : World syncService} {script script' : List (Move syncService)}
  {n : Nat}

/-- The iterations of the collection loop that go on. -/
theorem collection_iterations {leaseAt : Time} {s s' : Store} {checkpoint : DeviceSyncCheckpoint}
    {state : Collected}
    (begun : s.beginCheckpoint source.id selection.resource run.id startedAt leaseAt =
      .ok (checkpoint, s'))
    (fresh : w.pages .first = [])
    (reached : Prog.iterate handler
      (collectPage worker run source startedAt selection checkpoint.cursor.snapshotAt) n
      ⟨checkpoint.cursor, [], [], ⟨[], []⟩⟩ script w = some (state, w', script'))
    (advances : Throughout (Advances selection.entity
      (collectedCursor run.id checkpoint.cursor.snapshotAt) checkpoint.cursor) [] (w'.pages .first)) :
    n = 0 ∨ ∃ first, (w'.pages .first).head? = some first ∧ n ≤ first.total := by
  obtain ⟨-, truncated, nonneg, -⟩ := cursor_of_begin begun
  have snapshot : checkpoint.cursor.snapshotAt.truncateMicro = checkpoint.cursor.snapshotAt :=
    congrArg DeviceSyncCursor.snapshotAt truncated
  -- After `k` iterations that go on, `k` pages have been collected, and none was done.
  let I : Nat → Collected → World syncService → Prop := fun k state w' => ∃ pages, pages.length = k ∧
    (∀ page ∈ pages, page.done = false) ∧ CollectedAs run source startedAt
      checkpoint.cursor.snapshotAt selection False w.landmarks checkpoint.cursor pages state w'
  have start : I 0 ⟨checkpoint.cursor, [], [], ⟨[], []⟩⟩ w :=
    ⟨[], rfl, nofun, rfl, rfl, [], .nil, ⟨by simp, False.elim⟩⟩
  obtain ⟨pages, length, going, -, -, collected, collects, trail⟩ := Prog.iterate_invariant I
    (fun k state w' here => by
      obtain ⟨pages, length, going, here⟩ := here
      refine Prog.contract_mono (trail_collectPage snapshot truncated here) ?_
      rintro result w'' ⟨page, post⟩ state' rfl
      obtain ⟨unfinished, post⟩ := post
      refine ⟨pages ++ [page], by simp [length], fun page' inside => ?_, post⟩
      rcases List.mem_append.mp inside with old | new
      · exact going page' old
      · rw [List.mem_singleton.mp new]
        exact unfinished) start reached
  have seen : w'.pages .first = pages := by
    rw [World.pages, trail.landmarks, List.filterMap_append, collects.pages_eq.1]
    exact (congrArg (· ++ pages) fresh).trans (List.nil_append _)
  rw [seen] at advances ⊢
  rw [Nat.zero_add] at length
  rcases pages with _ | ⟨first, rest⟩
  · exact Or.inl length.symm
  · refine Or.inr ⟨first, rfl, ?_⟩
    have read := collects.pagesRead
    have follows := follows_collectedCursor selection.entity run.id checkpoint.cursor.snapshotAt
    obtain ⟨-, -, totals⟩ := read.total_eq nonneg advances going rfl
    have counted := read.length_le follows advances going
    have below := read.lt_total follows (List.cons_ne_nil _ _)
      fun page inside => ⟨going page inside, totals page inside⟩
    omega

/-- The iterations of the validation loop that go on. -/
theorem validation_iterations {entity : EntityType} {total : Int} {expected : List UInt8}
    {state : DeviceSyncCursor × List UInt8} (fresh : w.pages .second = [])
    (reached : Prog.iterate handler (rereadPage run source entity total expected) n
      (rereadStart total, []) script w = some (state, w', script'))
    (advances : Throughout (Advances entity rereadCursor (rereadStart total)) []
      (w'.pages .second)) : n = 0 ∨ n ≤ total := by
  let I : Nat → DeviceSyncCursor × List UInt8 → World syncService → Prop := fun k state w' =>
    ∃ pages, pages.length = k ∧ (∀ page ∈ pages, page.done = false ∧ page.total = total) ∧
      RereadAs entity total run.id False (fun _ _ => True) w.landmarks pages state w'
  have start : I 0 (rereadStart total, []) w :=
    ⟨[], rfl, nofun, .nil _, rfl, ⟨by simp, False.elim⟩⟩
  obtain ⟨pages, length, going, read, -, trail⟩ := Prog.iterate_invariant I
    (fun k state w' here => by
      obtain ⟨pages, length, going, here⟩ := here
      refine Prog.contract_mono (trail_rereadPage here) ?_
      rintro result w'' ⟨page, same, post⟩ state' rfl
      obtain ⟨unfinished, post⟩ := post
      refine ⟨pages ++ [page], by simp [length], fun page' inside => ?_, post⟩
      rcases List.mem_append.mp inside with old | new
      · exact going page' old
      · rw [List.mem_singleton.mp new]
        exact ⟨unfinished, same⟩) start reached
  have seen : w'.pages .second = pages := by
    have here : (pages.map (Landmark.page .second)).filterMap (Landmark.page? .second) = pages := by
      rw [List.filterMap_map]
      exact List.filterMap_some
    rw [World.pages, trail.landmarks, List.filterMap_append, here]
    exact (congrArg (· ++ pages) fresh).trans (List.nil_append _)
  rw [seen] at advances
  rw [Nat.zero_add] at length
  rcases pages with _ | ⟨first, rest⟩
  · exact Or.inl length.symm
  · have follows := follows_rereadCursor entity
    have counted := read.length_le follows advances fun page inside => (going page inside).1
    have below := read.lt_total follows (List.cons_ne_nil _ _) going
    have zero : (rereadStart total).nextOffset = 0 := rfl
    omega

end Loops

/-- **The page loops terminate where accepted pages advance.**  An accepted page that is not done moves
the cursor forward if and only if it has records.  Where all such pages have, at most as many iterations
of the collection go on as the first page has in total, and of the validation as it expects. -/
theorem pages_terminate (worker : SyncWorker) (run : SyncRun) (source : Source) (startedAt : Time) :
    (∀ entity cursor page last, validateEntityPage cursor page entity = some last →
      page.done = false → (cursor.nextOffset < page.nextOffset ↔ page.records ≠ [])) ∧
    (∀ leaseAt selection (s s' : Store) checkpoint n script w state w' script',
      s.beginCheckpoint source.id selection.resource run.id startedAt leaseAt = .ok (checkpoint, s') →
      w.pages .first = [] →
      Prog.iterate handler
        (collectPage worker run source startedAt selection checkpoint.cursor.snapshotAt) n
        ⟨checkpoint.cursor, [], [], ⟨[], []⟩⟩ script w = some (state, w', script') →
      Throughout (Advances selection.entity
        (collectedCursor run.id checkpoint.cursor.snapshotAt) checkpoint.cursor) []
        (w'.pages .first) →
      n = 0 ∨ ∃ first, (w'.pages .first).head? = some first ∧ n ≤ first.total) ∧
    ∀ entity total expected n script w state w' script', w.pages .second = [] →
      Prog.iterate handler (rereadPage run source entity total expected) n
        (rereadStart total, []) script w = some (state, w', script') →
      Throughout (Advances entity rereadCursor (rereadStart total)) [] (w'.pages .second) →
      n = 0 ∨ n ≤ total := by
  refine ⟨fun entity cursor page last accepted _ => validateEntityPage_advances accepted, ?_, ?_⟩
  · intro leaseAt selection s s' checkpoint n script w state w' script' begun fresh reached advances
    exact collection_iterations begun fresh reached advances
  · intro entity total expected n script w state w' script' fresh reached advances
    exact validation_iterations fresh reached advances

/-! ## A source that stalls -/

/-- A source that has one device, and never delivers it. -/
def stalledSource : (r : SyncRequest) → r.Reply
  | .validate _ | .openEntityPass _ _ _ | .upsertVertex _ | .upsertRelation _ => true
  | .selectedEntity _ => some .device
  | .coversFullSource _ _ | .vertexExists _ => some true
  | .passPage _ _ | .collectEntityPage _ _ _ _ => none
  | .collectDevicePage _ _ _ => some ⟨[], 0, 1, false⟩
  | .schedule => .launch
  | .startVertex _ | .startRelation _ => ()
  | .deleteOrphanVerticesNotSeen _ _ _ => true

def stalledMove : Move syncService := ⟨[], 3000, .none, false, stalledSource⟩

/-- The collection loop of a run of devices. -/
def collectDevices : Collected → SyncProg (Option SyncError) (Collected ⊕ Collected) :=
  collectPage ⟨1, 1⟩ (Store.claimed 2000 (queuedRun "r" "s")) ⟨"s", "lab", "cmdb", "ref", true⟩ 2000
    ⟨.device, "devices", syncErrorDeviceCollection, true⟩ 2000

def stalledState : Collected := ⟨Store.freshCursor "r" 2000, [], [], ⟨[], []⟩⟩

/-- An iteration on an empty page asks for the page again. -/
theorem run_collectDevices {store : Store}
    (uncanceled : store.runCancellationRequested "r" = .ok false) (log : List (Event syncService))
    (script : List (Move syncService)) : ∃ log',
      (collectDevices stalledState).run handler (List.replicate 6 stalledMove ++ script)
        ⟨store, none, false, log⟩ =
      (.ok (.inl stalledState), ⟨store, none, false, log'⟩, script) := by
  have named : (Store.claimed 2000 (queuedRun "r" "s")).id = "r" := rfl
  simp [collectDevices, collectPage, leaveIfCanceled, cancellationRequested, leaseContextError,
    readPage, collectEntityPage, orFail, acceptPage, checkOwners, writePage, writeEntityPage, storeCursor,
    poolTurn, List.replicate, Prog.run, Prog.bind, Prog.perform, Prog.loop, handler, stalledMove,
    World.disturbed, World.respond, uncanceled, stalledSource, stalledState, Except.toOption,
    entityPageOfDevices, validateEntityPage, validateRecords, addEntityIdentities,
    collectedCursor, entityIdentityDigest, Store.freshCursor, DeviceSyncCursor.zero, named]

/-- The page without records is accepted, and the collection of a fresh checkpoint goes on for any
number of iterations. -/
theorem collection_stalls :
    validateEntityPage stalledState.cursor ⟨[], 0, 1, false⟩ .device = some 0 ∧
      (claimedWorld.store.beginCheckpoint "s" "devices" "r" 2000 3000).toOption.map
        (·.1.cursor) = some stalledState.cursor ∧
      ∀ n, ∃ script w', Prog.iterate handler collectDevices n stalledState script claimedWorld =
        some (stalledState, w', []) := by
  refine ⟨by decide, by decide +kernel, fun n => ?_⟩
  have uncanceled : claimedWorld.store.runCancellationRequested "r" = .ok false := by decide +kernel
  suffices goes : ∀ n log, ∃ log', Prog.iterate handler collectDevices n stalledState
      (List.replicate (6 * n) stalledMove) ⟨claimedWorld.store, none, false, log⟩ =
        some (stalledState, ⟨claimedWorld.store, none, false, log'⟩, []) by
    obtain ⟨log', reached⟩ := goes n []
    exact ⟨_, _, reached⟩
  intro n
  induction n with
  | zero => exact fun log => ⟨log, rfl⟩
  | succ n ih =>
      intro log
      obtain ⟨log', ran⟩ := run_collectDevices uncanceled log (List.replicate (6 * n) stalledMove)
      obtain ⟨log'', reached⟩ := ih log'
      refine ⟨log'', ?_⟩
      have script : List.replicate (6 * (n + 1)) stalledMove =
          List.replicate 6 stalledMove ++ List.replicate (6 * n) stalledMove := by
        rw [List.replicate_append_replicate]
        congr 1
        omega
      rw [script, Prog.iterate, ran]
      exact reached

/-! ## A source that goes on -/

/-- Every page of this pass that is not done has records. -/
def Filled (pages : List EntityPage) : Bool :=
  pages.all fun page => page.done || !page.records.isEmpty

theorem advances_of_filled {entity : EntityType}
    {next : DeviceSyncCursor → EntityPage → Int64 → DeviceSyncCursor} {start : DeviceSyncCursor}
    {pages : List EntityPage} (filled : Filled pages = true) :
    Throughout (Advances entity next start) [] pages := by
  refine throughout_of_forall fun page inside past cursor last _ _ going empty => ?_
  have here := List.all_eq_true.mp filled page inside
  rw [going, empty] at here
  cases here

/-- A source with two devices, each on a page of its own. -/
def pagedSource (turn : PoolTurn) : (r : SyncRequest) → r.Reply
  | .validate _ | .openEntityPass _ _ _ | .upsertVertex _ | .upsertRelation _ => true
  | .selectedEntity _ => some .device
  | .coversFullSource _ _ | .vertexExists _ => some true
  | .passPage _ _ | .collectEntityPage _ _ _ _ => none
  | .collectDevicePage _ _ offset =>
      if offset = 0 then some ⟨[⟨7, "SN-7", "node", 0, 0, "compute", []⟩], 1, 2, false⟩
      else some ⟨[⟨8, "SN-8", "node", 0, 0, "compute", []⟩], 2, 2, true⟩
  | .schedule => turn
  | .startVertex _ | .startRelation _ => ()
  | .deleteOrphanVerticesNotSeen _ _ _ => true

/-- A write is launched and returns, in turn. -/
def pagedScript : List (Move syncService) :=
  (List.replicate 20 [PoolTurn.launch, .finish 0]).flatten.map fun turn =>
    ⟨[], 3000, .none, false, pagedSource turn⟩

/-- The checkpoint has begun. -/
def begunWorld : World syncService :=
  { claimedWorld with store := claimedWorld.store.apply (.beginCheckpoint "s" "devices" "r" 2000 2000) }

/-- A page with a record advances, and after it the collection has gone on once, of two records. -/
theorem pages_terminate_device :
    (DeviceSyncCursor.zero.nextOffset < (1 : Int) ↔
      [(⟨0, 7, "sn", "", .empty⟩ : EntityRecord)] ≠ []) ∧
    ∃ state w' script', Prog.iterate handler
        (collectPage ⟨1, 6⟩ (queuedRun "r" "s") ⟨"s", "lab", "cmdb", "ref", true⟩ 2000
          ⟨.device, "devices", syncErrorDeviceCollection, true⟩ 2000)
        1 stalledState pagedScript begunWorld = some (state, w', script') ∧
      ∃ first, (w'.pages .first).head? = some first ∧ ((1 : Nat) : Int) ≤ first.total := by
  have terminate := pages_terminate ⟨1, 6⟩ (queuedRun "r" "s") ⟨"s", "lab", "cmdb", "ref", true⟩ 2000
  refine ⟨terminate.1 .device .zero ⟨[⟨0, 7, "sn", "", .empty⟩], 1, 2, false⟩ 7 (by decide) rfl, ?_⟩
  have ran : (Prog.iterate handler
      (collectPage ⟨1, 6⟩ (queuedRun "r" "s") ⟨"s", "lab", "cmdb", "ref", true⟩ 2000
        ⟨.device, "devices", syncErrorDeviceCollection, true⟩ 2000)
      1 stalledState pagedScript begunWorld).any (fun r => Filled (r.2.1.pages .first)) = true := by
    decide +kernel
  have begins : (claimedWorld.store.beginCheckpoint "s" "devices" "r" 2000 3000).toOption.map
      (·.1.cursor) = some stalledState.cursor := by
    decide +kernel
  obtain ⟨⟨state, w', script'⟩, reached, filled⟩ := (Option.any_eq_true _ _).mp ran
  cases begun : claimedWorld.store.beginCheckpoint "s" "devices" "r" 2000 3000 with
  | error e =>
      rw [begun] at begins
      cases begins
  | ok began =>
  rw [begun] at begins
  have going := terminate.2.1 3000 ⟨.device, "devices", syncErrorDeviceCollection, true⟩
    claimedWorld.store began.2 began.1 1 pagedScript begunWorld state w' script' begun rfl
  rw [show began.1.cursor = stalledState.cursor from Option.some.inj begins] at going
  refine ⟨state, w', script', reached, ?_⟩
  exact (going reached (advances_of_filled filled)).resolve_left (by decide)

end UnifiedInfraTopology
