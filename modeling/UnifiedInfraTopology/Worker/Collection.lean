import UnifiedInfraTopology.Worker.PagePool
import UnifiedInfraTopology.Worker.Progress

/-!
# How a run gets to be published

The stages of `executeClaimed` before the publication, with the landmarks they leave.  `Collects` is
the collection: each page accepted after the one before, written completely, and its cursor stored.

* `trail_collectEntities`, `trail_validateCollected`: the two readings of the pages.
* `trail_selectEntity`, `trail_beginCollection`, `trail_moveRun`: the stages around them.
-/

namespace UnifiedInfraTopology

open Lib

/-! ## Cursors -/

theorem follows_collectedCursor (entity : EntityType) (runId : String) (snapshotAt : Time) :
    Follows entity (collectedCursor runId snapshotAt) := by
  intro cursor page last accepted
  obtain ⟨-, counted, -, -, -, records⟩ := validateEntityPage_some accepted
  by_cases empty : page.records = []
  · simp only [empty, validateRecords, List.length_nil] at records counted
    simp only [collectedCursor, empty, EntityPage.partition?, List.head?_nil, Option.map_none,
      Option.getD_none, and_true]
    exact ⟨by omega, Option.some.inj records⟩
  · obtain ⟨first, rest, shape⟩ := List.exists_cons_of_ne_nil empty
    rw [collectedCursor_filled empty]
    simp [EntityPage.partition?, shape]

theorem follows_rereadCursor (entity : EntityType) : Follows entity rereadCursor :=
  fun _ _ _ _ => ⟨rfl, rfl, rfl⟩

theorem truncated_collectedCursor {runId : String} {snapshotAt : Time} {cursor : DeviceSyncCursor} {page : EntityPage}
    {last : Int64} (snapshot : snapshotAt.truncateMicro = snapshotAt)
    (truncated : cursor.truncated = cursor) :
    (collectedCursor runId snapshotAt cursor page last).truncated =
      collectedCursor runId snapshotAt cursor page last := by
  unfold collectedCursor
  split
  · exact truncated
  · simp only [DeviceSyncCursor.truncated, snapshot]

/-! ## The collection -/

/-- The landmark of the cursor after a page; the cursor of an empty page is not stored. -/
def storedCursor (page : EntityPage) (cursor : DeviceSyncCursor) : List Landmark :=
  if page.records = [] then [] else [.advanced cursor]

/-- The pages that were collected, and the landmarks of their collection. -/
inductive Collects (sourceId : String) (entity : EntityType) (runId : String) (snapshotAt : Time)
    (start : DeviceSyncCursor) : List EntityPage → List Landmark → DeviceSyncCursor → Prop where
  | nil : Collects sourceId entity runId snapshotAt start [] [] start
  | snoc {pages : List EntityPage} {page : EntityPage} {trace writes : List Landmark}
      {cursor : DeviceSyncCursor} {last : Int64}
      (before : Collects sourceId entity runId snapshotAt start pages trace cursor)
      (accepted : validateEntityPage cursor page entity = some last)
      (written : PageWritten sourceId entity snapshotAt page.records writes) :
      Collects sourceId entity runId snapshotAt start (pages ++ [page])
        (trace ++ (.page .first page ::
          (writes ++ storedCursor page (collectedCursor runId snapshotAt cursor page last))))
        (collectedCursor runId snapshotAt cursor page last)

namespace Collects

variable {sourceId : String} {entity : EntityType} {runId : String} {snapshotAt : Time}
  {start cursor : DeviceSyncCursor} {pages : List EntityPage} {trace : List Landmark}

theorem pagesRead (collects : Collects sourceId entity runId snapshotAt start pages trace cursor) :
    PagesRead entity (collectedCursor runId snapshotAt) start pages cursor := by
  induction collects with
  | nil => exact .nil _
  | snoc before accepted written ih => exact .snoc ih accepted

/-- The cursor belongs to the run and its snapshot. -/
theorem kept (collects : Collects sourceId entity runId snapshotAt start pages trace cursor)
    (own : start.runId = runId) (snapshot : start.snapshotAt = snapshotAt) :
    cursor.runId = runId ∧ cursor.snapshotAt = snapshotAt := by
  induction collects with
  | nil => exact ⟨own, snapshot⟩
  | snoc before accepted written ih =>
      unfold collectedCursor
      split
      · exact ih
      · exact ⟨rfl, rfl⟩

theorem truncated (collects : Collects sourceId entity runId snapshotAt start pages trace cursor)
    (snapshot : snapshotAt.truncateMicro = snapshotAt) (begun : start.truncated = start) :
    cursor.truncated = cursor := by
  induction collects with
  | nil => exact begun
  | snoc before accepted written ih => exact truncated_collectedCursor snapshot ih

/-- A known total bounds the offset. -/
theorem total (collects : Collects sourceId entity runId snapshotAt start pages trace cursor)
    (signed : 0 ≤ start.total) (fresh : start.nextOffset = 0) :
    0 ≤ cursor.total ∧ (cursor.total = 0 → cursor.nextOffset = 0) := by
  induction collects with
  | nil => exact ⟨signed, fun _ => fresh⟩
  | @snoc pages page trace writes cursor last before accepted written ih =>
      obtain ⟨sized, counted, bounded, -⟩ := validateEntityPage_some accepted
      have behind : 0 ≤ cursor.nextOffset := by
        have := before.pagesRead.offset (follows_collectedCursor entity runId snapshotAt)
        omega
      unfold collectedCursor
      split
      · exact ih
      · exact ⟨sized, fun zero => by simp only at zero ⊢; omega⟩

/-- A collection that is done has reached its total. -/
theorem whole (collects : Collects sourceId entity runId snapshotAt start pages trace cursor)
    (signed : 0 ≤ start.total) (fresh : start.nextOffset = 0)
    (done : ∃ page, pages.getLast? = some page ∧ page.done = true) :
    cursor.nextOffset = cursor.total := by
  obtain ⟨page, final, done⟩ := done
  cases collects with
  | nil => cases final
  | @snoc pages page' trace writes cursor last before accepted written =>
      rw [List.getLast?_concat] at final
      cases final
      obtain ⟨sized, counted, bounded, constant, finished, -⟩ := validateEntityPage_some accepted
      have reached : page.nextOffset = page.total := by
        rw [done, eq_comm, decide_eq_true_eq] at finished
        omega
      obtain ⟨signed', known⟩ := before.total signed fresh
      unfold collectedCursor
      split
      · rename_i empty
        rw [empty, List.length_nil] at counted
        rcases eq_or_lt_of_le signed' with zero | positive
        · rw [known zero.symm, ← zero]
        · have := constant positive
          omega
      · exact reached

/-- The last cursor that was stored is the one the collection has reached. -/
theorem stored (collects : Collects sourceId entity runId snapshotAt start pages trace cursor)
    (checkpoint : DeviceSyncCheckpoint) (begun : checkpoint.cursor = start) :
    ((Landmark.begun checkpoint :: trace).filterMap Landmark.cursor?).getLast? = some cursor := by
  induction collects with
  | nil => simp [Landmark.cursor?, begun]
  | @snoc pages page trace writes cursor last before accepted written ih =>
      have silent : writes.filterMap Landmark.cursor? = [] := by
        refine List.filterMap_eq_nil_iff.mpr fun l member => ?_
        obtain ⟨r, -, rfl | rfl | rfl⟩ := written.entries l member <;> rfl
      have grown : (Landmark.begun checkpoint :: (trace ++ (.page .first page ::
          (writes ++ storedCursor page (collectedCursor runId snapshotAt cursor page last))))).filterMap
            Landmark.cursor? =
          (Landmark.begun checkpoint :: trace).filterMap Landmark.cursor? ++
            (storedCursor page (collectedCursor runId snapshotAt cursor page last)).filterMap
              Landmark.cursor? := by
        rw [← List.cons_append, List.filterMap_append,
          List.filterMap_cons_none (show (Landmark.page .first page).cursor? = none from rfl),
          List.filterMap_append, silent,
          List.nil_append]
      rw [grown]
      unfold storedCursor
      split_ifs with empty
      · simpa [Landmark.cursor?, collectedCursor, empty] using ih
      · exact List.getLast?_concat

section Projections

variable {O : Type} {f : Landmark → Option O} {page : EntityPage} {writes : List Landmark}

/-- A projection that does not see cursors sees the page and what is written of it. -/
theorem filterMap_snoc (unseen : ∀ cursor, f (.advanced cursor) = none) :
    (trace ++ (.page .first page :: (writes ++ storedCursor page cursor))).filterMap f =
      trace.filterMap f ++ ((f (.page .first page)).toList ++ writes.filterMap f) := by
  have stored : (storedCursor page cursor).filterMap f = [] := by
    unfold storedCursor
    split_ifs
    · rfl
    · exact List.filterMap_cons_none (unseen cursor)
  rw [List.filterMap_append, List.filterMap_cons]
  cases f (.page .first page) <;> simp [stored]

end Projections

/-- The pages of a collection are its landmarks. -/
theorem pages_eq (collects : Collects sourceId entity runId snapshotAt start pages trace cursor) :
    trace.filterMap (Landmark.page? .first) = pages ∧
      trace.filterMap (Landmark.page? .second) = [] := by
  induction collects with
  | nil => exact ⟨rfl, rfl⟩
  | @snoc pages page trace writes cursor last before accepted written ih =>
      have silent : ∀ pass, writes.filterMap (Landmark.page? pass) = [] := by
        intro pass
        refine List.filterMap_eq_nil_iff.mpr fun l member => ?_
        obtain ⟨r, -, rfl | rfl | rfl⟩ := written.entries l member <;> rfl
      rw [filterMap_snoc fun _ => rfl, filterMap_snoc fun _ => rfl, ih.1, ih.2, silent, silent]
      exact ⟨rfl, rfl⟩

/-- Every record was written once. -/
theorem vertices (collects : Collects sourceId entity runId snapshotAt start pages trace cursor) :
    (trace.filterMap Landmark.vertex?).Perm
      ((allRecords pages).map (recordVertex sourceId entity snapshotAt)) := by
  induction collects with
  | nil => exact .refl _
  | @snoc pages page trace writes cursor last before accepted written ih =>
      rw [filterMap_snoc fun _ => rfl, allRecords_snoc, List.map_append]
      exact ih.append written.vertices

/-- Every interface was linked to its owner once. -/
theorem relations (collects : Collects sourceId entity runId snapshotAt start pages trace cursor) :
    (trace.filterMap Landmark.relation?).Perm
      (pageRelations sourceId entity snapshotAt (allRecords pages)) := by
  induction collects with
  | nil => simp [pageRelations]
  | @snoc pages page trace writes cursor last before accepted written ih =>
      have split : pageRelations sourceId entity snapshotAt (allRecords (pages ++ [page])) =
          pageRelations sourceId entity snapshotAt (allRecords pages) ++
            pageRelations sourceId entity snapshotAt page.records := by
        unfold pageRelations
        split_ifs
        · rw [allRecords_snoc, List.map_append]
        · rfl
      rw [filterMap_snoc fun _ => rfl, split]
      exact ih.append written.relations

/-- Every interface was linked after it had been written. -/
theorem ordered (collects : Collects sourceId entity runId snapshotAt start pages trace cursor) :
    Throughout (AfterVertex sourceId entity snapshotAt (allRecords pages)) [] trace := by
  have more : ∀ {records records' : List EntityRecord} (past : List Landmark) (l : Landmark),
      (∀ r ∈ records, r ∈ records') → AfterVertex sourceId entity snapshotAt records past l →
        AfterVertex sourceId entity snapshotAt records' past l := by
    intro records records' past l inside after
    cases l with
    | relation relation written =>
        obtain ⟨r, member, same, here⟩ := after
        exact ⟨r, inside r member, same, here⟩
    | _ => trivial
  induction collects with
  | nil => exact throughout_nil
  | @snoc pages page trace writes cursor last before accepted written ih =>
      rw [allRecords_snoc]
      refine throughout_append.mpr ⟨ih.imp fun past l => more past l fun r inside =>
        List.mem_append_left _ inside, throughout_cons.mpr ⟨trivial, throughout_append.mpr ⟨?_, ?_⟩⟩⟩
      · have here := written.ordered.imp fun past l => more past l
          fun r (inside : r ∈ page.records) => List.mem_append_right (allRecords pages) inside
        rw [← List.append_nil ([] ++ trace ++ [Landmark.page Pass.first page])]
        refine here.prepend fun past l after => ?_
        cases l with
        | relation relation written =>
            obtain ⟨r, member, same, here⟩ := after
            exact ⟨r, member, same, List.mem_append_right _ here⟩
        | _ => trivial
      · refine throughout_of_forall fun l stored past => ?_
        unfold storedCursor at stored
        split_ifs at stored
        · exact (List.not_mem_nil stored).elim
        · rw [List.mem_singleton.mp stored]
          trivial

/-- What is written in a collection is a record of one of its pages. -/
theorem entries (collects : Collects sourceId entity runId snapshotAt start pages trace cursor) :
    ∀ l ∈ trace, (∃ page ∈ pages, l = .page .first page) ∨ (∃ cursor, l = .advanced cursor) ∨
      Writes sourceId entity snapshotAt (allRecords pages) l := by
  induction collects with
  | nil => exact fun l member => (List.not_mem_nil member).elim
  | @snoc pages page trace writes cursor last before accepted written ih =>
      intro l member
      rw [allRecords_snoc]
      rcases List.mem_append.mp member with old | new
      · rcases ih l old with ⟨page', inside, rfl⟩ | advanced | ⟨r, inside, here⟩
        · exact Or.inl ⟨page', List.mem_append_left _ inside, rfl⟩
        · exact Or.inr (Or.inl advanced)
        · exact Or.inr (Or.inr ⟨r, List.mem_append_left _ inside, here⟩)
      · rcases List.mem_cons.mp new with rfl | new
        · exact Or.inl ⟨page, by simp, rfl⟩
        · rcases List.mem_append.mp new with write | stored
          · obtain ⟨r, inside, here⟩ := written.entries l write
            exact Or.inr (Or.inr ⟨r, List.mem_append_right _ inside, here⟩)
          · unfold storedCursor at stored
            split_ifs at stored
            · exact (List.not_mem_nil stored).elim
            · exact Or.inr (Or.inl ⟨_, List.mem_singleton.mp stored⟩)

end Collects

/-! ## Small parts -/

section Parts

variable {runId : String} {sound : Prop} {P : String × String → DeviceSyncCursor → Prop}
  {trace : List Landmark} {w : World syncService} {ε α : Type}

theorem ensures_orFail {status : SyncRunStatus} {code : String} {answer : Option α}
    {Q : α → World syncService → Prop} (here : ∀ a, answer = some a → Q a w) :
    Prog.Ensures handler (orFail runId status code answer) Q w := by
  cases answer with
  | some a => exact Prog.contract_ret (here a rfl)
  | none => exact Prog.ensures_exitWith _ _

theorem ensures_leaveFailed {status : SyncRunStatus} {code : String} {Q : α → World syncService → Prop} :
    Prog.Ensures handler (leaveFailed runId status code) Q w :=
  Prog.contract_bind (Prog.contract_of_forall (fun _ _ => Prog.ensures_exitWith _ _)
    fun _ _ => trivial)

theorem ensures_leaveCanceled {status : SyncRunStatus} {Q : α → World syncService → Prop} :
    Prog.Ensures handler (leaveCanceled runId status) Q w :=
  Prog.contract_bind (Prog.contract_of_forall (fun _ _ => Prog.ensures_exitWith _ _)
    fun _ _ => trivial)

theorem trail_currentTime (trail : Trail runId sound P trace w) :
    Prog.Ensures handler (currentTime : SyncProg ε Time)
      (fun _ w' => Trail runId sound P trace w') w :=
  trail_idle ⟨rfl, fun _ => trivial⟩ trail

theorem trail_leaseContextError (trail : Trail runId sound P trace w) :
    Prog.Ensures handler (leaseContextError : SyncProg ε Bool)
      (fun _ w' => Trail runId sound P trace w') w :=
  trail_idle ⟨rfl, fun _ => trivial⟩ trail

theorem trail_cancellationRequested (trail : Trail runId sound P trace w) :
    Prog.Ensures handler (cancellationRequested runId : SyncProg ε _)
      (fun _ w' => Trail runId sound P trace w') w := by
  refine Prog.contract_bind (Prog.contract_mono (trail_leaseContextError trail) fun lost w' trail => ?_)
  split_ifs
  · exact Prog.contract_ret trail
  · refine Prog.contract_perform fun m done _ _ => ?_
    have trail := trail.idle (c := .contextErr) (m := m) rfl
    cases done with
    | true => exact Prog.contract_ret trail
    | false => exact Prog.contract_perform fun m _ _ _ => Prog.contract_ret (trail.idle rfl)

theorem trail_leaveIfCanceled {status : SyncRunStatus} {startedAt : Time}
    (trail : Trail runId sound P trace w) :
    Prog.Ensures handler (leaveIfCanceled runId status startedAt)
      (fun _ w' => Trail runId sound P trace w') w := by
  refine Prog.contract_bind (Prog.contract_mono (trail_cancellationRequested trail)
    fun answer w' trail => ?_)
  match answer with
  | .error e => exact Prog.ensures_exitWith _ _
  | .ok true => exact Prog.ensures_exitWith _ _
  | .ok false => exact Prog.contract_ret trail

/-- Reading a page leaves the page. -/
theorem trail_readPage {pass : Pass} {source : Source} {entity : EntityType} {offset : Int}
    (trail : Trail runId sound P trace w) :
    Prog.Ensures handler (readPage pass source entity offset : SyncProg ε (Option EntityPage))
      (fun read w' => ∀ page, read = some page →
        Trail runId sound P (trace ++ [.page pass page]) w') w := by
  have service : ∀ {r : SyncRequest} {op : Op}, (Call.service r : Call syncService) = .control op →
      op.storesCursor = false := by
    intro r op same
    cases same
  unfold readPage collectEntityPage
  split_ifs
  · refine Prog.contract_call fun m read _ answered => Prog.contract_ret ?_
    rintro page rfl
    exact trail.call (fun _ => service) answered
  · refine Prog.contract_call fun m read _ answered => Prog.contract_ret ?_
    rintro page rfl
    exact trail.call (fun _ => service) answered
  · refine Prog.contract_perform fun m read _ answered => Prog.contract_ret ?_
    intro page converted
    obtain ⟨devices, rfl, rfl⟩ := Option.map_eq_some_iff.mp converted
    exact trail.call (fun _ => service) answered

end Parts

/-! ## The collection loop -/

section Collecting

variable {worker : SyncWorker} {run : SyncRun} {source : Source} {startedAt snapshotAt : Time}
  {selection : Selection} {sound : Prop} {trace : List Landmark} {w : World syncService}
  {start : DeviceSyncCursor} {pages : List EntityPage} {state : Collected}

variable (run source startedAt selection snapshotAt sound trace start) in
/-- The state of the collection loop after some pages. -/
structure CollectedAs (pages : List EntityPage) (state : Collected) (w : World syncService) :
    Prop where
  digest : state.identityDigest = entityIdentityDigest (allRecords pages)
  seen : addEntityIdentities [] (allRecords pages) = some state.seen
  collects : ∃ collected,
    Collects source.id selection.entity run.id snapshotAt start pages collected state.cursor ∧
      Trail run.id sound (StoredAs startedAt source.id selection.resource state.cursor)
        (trace ++ collected) w

theorem trail_checkOwners {P : String × String → DeviceSyncCursor → Prop} {page : EntityPage}
    (trail : Trail run.id sound P trace w) :
    Prog.Ensures handler (checkOwners run source selection state page)
      (fun _ w' => Trail run.id sound P trace w') w := by
  unfold checkOwners
  split_ifs
  · have only : (validateInterfaceOwners source.id state.owners page.records :
        SyncProg (Option SyncError) (Option InterfaceOwners)).Only fun c => c.idle = true := by
      cases page.records with
      | nil => trivial
      | cons first records =>
          unfold validateInterfaceOwners
          dsimp only
          split_ifs
          · trivial
          · trivial
          · trivial
          · trivial
          · refine ⟨rfl, fun found => ?_⟩
            dsimp only [Prog.bind]
            split_ifs <;> trivial
    exact Prog.contract_bind (Prog.contract_mono (trail_idle only trail) fun owners w' trail =>
      ensures_orFail fun _ _ => trail)
  · exact Prog.contract_ret trail

theorem trail_writePage {P : String × String → DeviceSyncCursor → Prop} {page : EntityPage}
    (trail : Trail run.id sound P trace w) :
    Prog.Ensures handler (writePage worker run source selection snapshotAt page)
      (fun _ w' => ∃ writes, PageWritten source.id selection.entity snapshotAt page.records writes ∧
        Trail run.id sound P (trace ++ writes) w') w := by
  refine Prog.contract_bind (Prog.contract_mono (trail_writeEntityPage trail) fun result w' written => ?_)
  match result with
  | .ok () => exact Prog.contract_ret (written rfl)
  | .error .leaseLost => exact Prog.contract_raise trivial
  | .error .canceled => exact ensures_leaveCanceled
  | .error .graphWrite => exact ensures_leaveFailed

/-- The cursor of a page with records is stored. -/
theorem trail_storeCursor {cursor : DeviceSyncCursor} {page : EntityPage} {last : Int64}
    (snapshot : snapshotAt.truncateMicro = snapshotAt) (truncated : cursor.truncated = cursor)
    (trail : Trail run.id sound (StoredAs startedAt source.id selection.resource cursor) trace w) :
    Prog.Ensures handler
      (storeCursor run source startedAt selection snapshotAt cursor page last)
      (fun next w' => next = collectedCursor run.id snapshotAt cursor page last ∧
        Trail run.id sound (StoredAs startedAt source.id selection.resource next)
          (trace ++ storedCursor page next) w') w := by
  unfold storeCursor storedCursor
  dsimp only
  split_ifs with empty
  · refine Prog.contract_ret ⟨rfl, ?_⟩
    simpa only [collectedCursor, empty, List.append_nil] using trail
  · refine Prog.contract_bind (Prog.contract_mono (trail_leaveIfCanceled trail) fun _ w' trail => ?_)
    refine Prog.contract_bind (Prog.contract_mono (trail_currentTime trail) fun now w' trail => ?_)
    refine Prog.contract_perform fun m stored _ answered => ?_
    refine Prog.contract_bind (ensures_orFail fun reply same => Prog.contract_ret ⟨rfl, ?_⟩)
    cases same
    exact trail.advanced (truncated_collectedCursor snapshot truncated) answered

/-- One iteration of the collection loop. -/
theorem trail_collectPage (snapshot : snapshotAt.truncateMicro = snapshotAt)
    (truncated : start.truncated = start)
    (here : CollectedAs run source startedAt snapshotAt selection sound trace start pages state w) :
    Prog.Ensures handler (collectPage worker run source startedAt selection snapshotAt state)
      (fun result w' => ∃ page, match result with
        | .inl state' => page.done = false ∧ CollectedAs run source startedAt snapshotAt selection
            sound trace start (pages ++ [page]) state' w'
        | .inr state' => page.done = true ∧ CollectedAs run source startedAt snapshotAt selection
            sound trace start (pages ++ [page]) state' w') w := by
  obtain ⟨digest, seen, collected, collects, trail⟩ := here
  refine Prog.contract_bind (Prog.contract_mono (trail_leaveIfCanceled trail) fun _ w' trail => ?_)
  refine Prog.contract_bind (Prog.contract_mono (trail_readPage trail) fun read w' trail => ?_)
  refine Prog.contract_bind (ensures_orFail fun page found => ?_)
  have trail := trail page found
  unfold acceptPage
  split
  · rename_i last seen' accepted added
    refine Prog.contract_bind (Prog.contract_ret ?_)
    refine Prog.contract_bind (Prog.contract_mono (trail_checkOwners trail) fun owners w' trail => ?_)
    refine Prog.contract_bind (Prog.contract_mono (trail_writePage trail) ?_)
    rintro _ w' ⟨writes, written, trail⟩
    have kept := collects.truncated snapshot truncated
    refine Prog.contract_bind (Prog.contract_mono (trail_storeCursor snapshot kept trail) ?_)
    rintro next w' ⟨rfl, trail⟩
    have grown : CollectedAs run source startedAt snapshotAt selection sound trace start
        (pages ++ [page]) ⟨collectedCursor run.id snapshotAt state.cursor page last,
          state.identityDigest ++ entityIdentityDigest page.records, seen', owners⟩ w' := by
      refine ⟨?_, ?_, _, .snoc collects accepted written, ?_⟩
      · rw [digest, allRecords_snoc]
        simp [entityIdentityDigest]
      · rw [allRecords_snoc, addEntityIdentities_append, seen]
        exact added
      · simpa only [List.append_assoc, List.cons_append, List.nil_append] using trail
    refine Prog.contract_ret ⟨page, ?_⟩
    cases finished : page.done with
    | false => exact ⟨finished, grown⟩
    | true => exact ⟨finished, grown⟩
  · exact Prog.contract_bind (ensures_leaveFailed)

end Collecting

/-! ## The second reading -/

section Rereading

variable {run : SyncRun} {source : Source} {entity : EntityType} {total : Int}
  {expected : List UInt8} {runId : String} {sound : Prop}
  {P : String × String → DeviceSyncCursor → Prop} {trace : List Landmark} {w : World syncService}
  {pages : List EntityPage} {state : DeviceSyncCursor × List UInt8}

/-- The cursor that the second reading starts from. -/
def rereadStart (total : Int) : DeviceSyncCursor :=
  { DeviceSyncCursor.zero with version := deviceSyncCursorVersion, total }

variable (entity total runId sound P trace) in
/-- The state of the validation loop after some pages. -/
structure RereadAs (pages : List EntityPage) (state : DeviceSyncCursor × List UInt8)
    (w : World syncService) : Prop where
  read : PagesRead entity rereadCursor (rereadStart total) pages state.1
  digest : state.2 = entityIdentityDigest (allRecords pages)
  trail : Trail runId sound P (trace ++ pages.map (.page .second)) w

/-- One iteration of the validation loop. -/
theorem trail_rereadPage (here : RereadAs entity total run.id sound P trace pages state w) :
    Prog.Ensures handler (rereadPage run source entity total expected state)
      (fun result w' => ∃ page, page.total = total ∧ match result with
        | .inl state' => page.done = false ∧
            RereadAs entity total run.id sound P trace (pages ++ [page]) state' w'
        | .inr () => ∃ last digest,
            RereadAs entity total run.id sound P trace (pages ++ [page]) (last, digest) w' ∧
              last.nextOffset = total ∧ sha256 digest = expected) w := by
  obtain ⟨read, digest, trail⟩ := here
  refine Prog.contract_bind (Prog.contract_mono (trail_cancellationRequested trail)
    fun answer w' trail => ?_)
  match answer with
  | .error .leaseLost => exact Prog.contract_raise trivial
  | .error .unavailable => exact Prog.contract_raise trivial
  | .ok true => exact Prog.contract_raise trivial
  | .ok false =>
      refine Prog.contract_bind (Prog.contract_mono (trail_readPage trail) fun found w' trail => ?_)
      cases found with
      | none => exact Prog.contract_bind (Prog.contract_of_forall (fun _ _ => trivial)
          fun _ _ => trivial)
      | some page =>
          have trail := trail page rfl
          dsimp only
          by_cases apart : page.total ≠ total
          · rw [compareEntityPage, if_pos apart]
            exact Prog.contract_raise trivial
          · rw [compareEntityPage, if_neg apart]
            cases accepted : validateEntityPage state.1 page entity with
            | none => exact Prog.contract_raise trivial
            | some last =>
                have grown : RereadAs entity total run.id sound P trace (pages ++ [page])
                    (rereadCursor state.1 page last, state.2 ++ entityIdentityDigest page.records)
                    w' := by
                  refine ⟨.snoc read accepted, ?_, ?_⟩
                  · rw [digest, allRecords_snoc]
                    simp [entityIdentityDigest]
                  · rw [List.map_append, ← List.append_assoc]
                    exact trail
                dsimp only
                split_ifs with done changed
                · exact Prog.contract_raise trivial
                · rw [not_or, not_not, not_not] at changed
                  exact Prog.contract_ret ⟨page, not_not.mp apart, _, _, grown, changed.1, changed.2⟩
                · exact Prog.contract_ret ⟨page, not_not.mp apart, by simpa using done, grown⟩

end Rereading

/-! ## The stages -/

section Stages

variable {worker : SyncWorker} {run : SyncRun} {source : Source} {startedAt : Time}
  {selection : Selection} {sound : Prop} {P : String × String → DeviceSyncCursor → Prop}
  {trace : List Landmark} {w : World syncService}

theorem trail_selectEntity (trail : Trail run.id sound P trace w) :
    Prog.Ensures handler (selectEntity run source startedAt) (fun selection w' =>
      Trail run.id sound P (trace ++ [.covered selection.entity (some selection.fullSource)]) w') w := by
  refine Prog.contract_bind (Prog.contract_mono (trail_leaveIfCanceled trail) fun _ w' trail => ?_)
  split_ifs
  · exact Prog.ensures_exitWith _ _
  · refine Prog.contract_perform fun m valid _ _ => ?_
    have trail := trail.idle (c := .service (.validate source)) (m := m) rfl
    refine Prog.contract_bind (ensures_orFail fun _ _ => ?_)
    refine Prog.contract_perform fun m selected _ _ => ?_
    have trail := trail.idle (c := .service (.selectedEntity source)) (m := m) rfl
    refine Prog.contract_bind (ensures_orFail fun entity _ => ?_)
    refine Prog.contract_bind (ensures_orFail fun resource _ => ?_)
    refine Prog.contract_perform fun m covered _ answered => ?_
    refine Prog.contract_bind (ensures_orFail fun fullSource same => Prog.contract_ret ?_)
    cases same
    refine trail.call ?_ answered
    rintro op ⟨⟩

/-- The checkpoint that was begun belongs to the run. -/
theorem trail_beginCollection (trail : Trail run.id sound (Started startedAt) trace w) :
    Prog.Ensures handler (beginCollection run source startedAt selection) (fun cursor w' =>
      ∃ checkpoint : DeviceSyncCheckpoint, cursor = checkpoint.cursor ∧
        (cursor.runId = run.id ∧ cursor.truncated = cursor ∧ 0 ≤ cursor.nextOffset ∧
          0 ≤ cursor.total) ∧
        Trail run.id sound (StoredAs startedAt source.id selection.resource cursor)
          (trace ++ [.begun checkpoint]) w') w := by
  refine Prog.contract_bind (Prog.contract_mono (trail_currentTime trail) fun now w' trail => ?_)
  refine Prog.contract_perform fun m begun _ answered => ?_
  refine Prog.contract_bind (ensures_orFail fun checkpoint same => ?_)
  cases same
  have facts := cursor_of_begin (attempt_of_answer answered)
  have trail := trail.begun answered
  split_ifs
  · refine Prog.contract_perform fun m opened _ _ => ?_
    have trail := trail.idle (c := .service (.openEntityPass .first source selection.entity))
      (m := m) rfl
    exact Prog.contract_bind (ensures_orFail fun _ _ =>
      Prog.contract_ret ⟨checkpoint, rfl, facts, trail⟩)
  · exact Prog.contract_ret ⟨checkpoint, rfl, facts, trail⟩

/-- The collection ends with a page that is done. -/
theorem trail_collectEntities {start : DeviceSyncCursor} (truncated : start.truncated = start)
    (trail : Trail run.id sound (StoredAs startedAt source.id selection.resource start) trace w) :
    Prog.Ensures handler (collectEntities worker run source startedAt selection start)
      (fun state w' => ∃ pages, (∃ page, pages.getLast? = some page ∧ page.done = true) ∧
        CollectedAs run source startedAt start.snapshotAt selection sound trace start pages state w')
      w := by
  have snapshot : start.snapshotAt.truncateMicro = start.snapshotAt :=
    congrArg DeviceSyncCursor.snapshotAt truncated
  refine Prog.contract_loop (fun state w' => ∃ pages, CollectedAs run source startedAt
    start.snapshotAt selection sound trace start pages state w') ?_ _ _
      ⟨[], rfl, rfl, [], .nil, by rwa [List.append_nil]⟩
  rintro state w' ⟨pages, here⟩
  refine Prog.contract_mono (trail_collectPage snapshot truncated here) ?_
  rintro result w'' ⟨page, held⟩
  cases result with
  | inl state' => exact ⟨pages ++ [page], held.2⟩
  | inr state' => exact ⟨pages ++ [page], ⟨page, List.getLast?_concat, held.1⟩, held.2⟩

theorem trail_moveRun {origin target : SyncRunStatus} (trail : Trail run.id sound P trace w) :
    Prog.Ensures handler (moveRun run.id origin target) (fun _ w' =>
      Trail run.id sound P (trace ++ [.moved target]) w' ∧ w'.Holds run.id target) w := by
  refine Prog.contract_bind (Prog.contract_mono (trail_currentTime trail) fun now w' trail => ?_)
  refine Prog.contract_perform fun m moved _ answered => ensures_orFail fun _ same => ?_
  cases same
  refine ⟨trail.call ?_ answered, ?_⟩
  · rintro op ⟨⟩
    rfl
  · obtain ⟨row, accepted⟩ := Store.ok_of_map ((Store.execute_eq_attempt _ _).trans
      (congrArg (Except.map Prod.snd) (attempt_of_answer answered)))
    exact (holds_transitioned accepted).2

/-- The second reading finds what the first has digested. -/
theorem trail_validateCollected {state : Collected} (trail : Trail run.id sound P trace w) :
    Prog.Ensures handler (validateCollected worker run source selection state)
      (fun _ w' => ∃ pages last digest,
        RereadAs selection.entity state.cursor.total run.id sound P trace pages (last, digest) w' ∧
          last.nextOffset = state.cursor.total ∧ sha256 digest = sha256 state.identityDigest) w := by
  have read : Prog.Ensures handler (validateEntitySnapshot worker run source selection.entity
      state.cursor.total (sha256 state.identityDigest)) (fun _ w' => ∃ pages last digest,
        RereadAs selection.entity state.cursor.total run.id sound P trace pages (last, digest) w' ∧
          last.nextOffset = state.cursor.total ∧ sha256 digest = sha256 state.identityDigest) w := by
    have opens : (openSecondPass source selection.entity : SyncProg SnapshotError Bool).Only
        fun c => c.idle = true := by
      unfold openSecondPass
      split_ifs
      · exact ⟨rfl, fun _ => trivial⟩
      · trivial
    refine Prog.contract_bind (Prog.contract_mono (trail_idle opens trail) fun opened w' trail => ?_)
    split_ifs
    · refine Prog.contract_loop (fun reached w'' => ∃ pages,
        RereadAs selection.entity state.cursor.total run.id sound P trace pages reached w'') ?_ _ _
          ⟨[], .nil _, rfl, by rwa [List.map_nil, List.append_nil]⟩
      rintro reached w'' ⟨pages, here⟩
      refine Prog.contract_mono (trail_rereadPage here) ?_
      rintro result w₃ ⟨page, -, held⟩
      cases result with
      | inl reached' => exact ⟨pages ++ [page], held.2⟩
      | inr _ => exact ⟨pages ++ [page], held⟩
    · exact Prog.contract_bind (Prog.contract_of_forall (fun _ _ => trivial) fun _ _ => trivial)
  refine Prog.contract_bind (Prog.contract_mono (Prog.ensures_reify (P := fun result w' =>
    result = .ok () → ∃ pages last digest,
      RereadAs selection.entity state.cursor.total run.id sound P trace pages (last, digest) w' ∧
        last.nextOffset = state.cursor.total ∧ sha256 digest = sha256 state.identityDigest) read
      (fun _ _ held _ => held) fun _ _ => nofun) fun result w' held => ?_)
  match result with
  | .ok () => exact Prog.contract_ret (held rfl)
  | .error .leaseLost => exact Prog.contract_raise trivial
  | .error .canceled => exact ensures_leaveCanceled
  | .error .other => exact Prog.ensures_exitWith _ _

end Stages

end UnifiedInfraTopology
