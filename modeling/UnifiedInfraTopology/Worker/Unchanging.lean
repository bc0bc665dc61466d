import UnifiedInfraTopology.Lib.Stepping
import UnifiedInfraTopology.Repository.Checkpoints
import UnifiedInfraTopology.Worker.Execute

/-!
# Reading an unchanging source twice

`executeClaimed` reads the pages of its source from the cursor that `BeginCheckpoint` returned, and
then all pages from the first, and compares two digests.  Where the source does not change, both
readings are determined by its pages: `collectStep` and `rereadStep` are one page of each.

* `Boundary`: what a collection from the first page has in memory when it has stored a cursor.
* `finishes_reread_iff`: what the second reading finds after a collection that began at a boundary.
* `confirms_fresh_iff`, `confirms_boundary_iff`: a collection from the first page is always confirmed,
  one from a later boundary only if two different digests collide.
-/

namespace UnifiedInfraTopology

open Lib

deriving instance DecidableEq for Collected

/-- The pages of a source, and whether the graph has the owners of its interfaces. -/
structure UnchangingSource where
  collectDevicePage : Int → Option DevicePage
  collectEntityPage : EntityType → Int → Option EntityPage
  passPage : Int → Option EntityPage
  vertexExists : EntityIdentity → Option Bool

namespace UnchangingSource

variable (S : UnchangingSource) (sourceId runId : String) (entity : EntityType) (snapshotAt : Time)

/-- The page of records at an offset. -/
def page (offset : Int) : Option EntityPage :=
  if entity = .interface then S.passPage offset
  else if entity ≠ .device then S.collectEntityPage entity offset
  else (S.collectDevicePage offset).map entityPageOfDevices

/-- The owners after the page of interfaces, unless `validateInterfaceOwners` refuses it. -/
def owners (found : InterfaceOwners) : List EntityRecord → Option InterfaceOwners
  | [] => some found
  | first :: records =>
      let ownerSN := first.ownerDeviceSN
      let owner : EntityIdentity := ⟨sourceId, .device, ownerSN⟩
      let partitionOwners := (first.partition, ownerSN) :: found.partitionOwners
      if ownerSN = "" ∨ trimSpace ownerSN ≠ ownerSN then none
      else if (first :: records).any fun r => r.ownerDeviceSN ≠ ownerSN then none
      else if (found.partitionOwners.lookup first.partition).any (· ≠ ownerSN) then none
      else if owner ∈ found.verified then some { found with partitionOwners }
      else if S.vertexExists owner = some true then some ⟨owner :: found.verified, partitionOwners⟩
      else none

/-- The owners after a page of any records. -/
def entityOwners (found : InterfaceOwners) (records : List EntityRecord) : Option InterfaceOwners :=
  if entity = .interface then S.owners sourceId found records else some found

/-- What one page of the collection makes of its state; `none` where the run fails. -/
def collectStep (state : Collected) : Option (Collected ⊕ Collected) := do
  let page ← S.page entity state.cursor.nextOffset
  let lastInstanceId ← validateEntityPage state.cursor page entity
  let seen ← addEntityIdentities state.seen page.records
  let owners ← S.entityOwners sourceId entity state.owners page.records
  let state : Collected := ⟨collectedCursor runId snapshotAt state.cursor page lastInstanceId,
    state.identityDigest ++ entityIdentityDigest page.records, seen, owners⟩
  return if page.done then .inr state else .inl state

/-- What one page of the validation makes of its state; `none` where the snapshot has changed. -/
def rereadStep (expectedTotal : Int) (expectedDigest : List UInt8)
    (state : DeviceSyncCursor × List UInt8) : Option ((DeviceSyncCursor × List UInt8) ⊕ Unit) := do
  let page ← S.page entity state.1.nextOffset
  if page.total ≠ expectedTotal then none
  else
    let lastInstanceId ← validateEntityPage state.1 page entity
    let cursor := rereadCursor state.1 page lastInstanceId
    let digest := state.2 ++ entityIdentityDigest page.records
    if page.done then
      if cursor.nextOffset ≠ expectedTotal ∨ sha256 digest ≠ expectedDigest then none
      else some (.inr ())
    else some (.inl (cursor, digest))

end UnchangingSource

/-- The state in which a collection starts. -/
def collectionStart (cursor : DeviceSyncCursor) : Collected := ⟨cursor, [], [], ⟨[], []⟩⟩

/-- The state in which the validation starts. -/
def validationStart (expectedTotal : Int) : DeviceSyncCursor × List UInt8 :=
  ({ DeviceSyncCursor.zero with version := deviceSyncCursorVersion, total := expectedTotal }, [])

namespace UnchangingSource

section

variable (S : UnchangingSource) (sourceId runId : String) (entity : EntityType) (snapshotAt : Time)

/-- A collection that begins at the cursor gets to the end, and the validation finds the same. -/
def Confirms (cursor : DeviceSyncCursor) : Prop :=
  ∃ final, Finishes (S.collectStep sourceId runId entity cursor.snapshotAt) (collectionStart cursor)
      final ∧
    Finishes (S.rereadStep entity final.cursor.total (sha256 final.identityDigest))
      (validationStart final.cursor.total) ()

/-- Every page from the first to the last is there and accepted. -/
def Collectable : Prop :=
  ∃ final, Finishes (S.collectStep sourceId runId entity snapshotAt)
    (collectionStart (Store.freshCursor runId snapshotAt)) final

/-- What a collection from the first page has in memory after some pages, the last one perhaps, of
which one had records: it has stored its cursor. -/
structure Boundary (before : Collected) : Prop where
  reached : Reaches (S.collectStep sourceId runId entity snapshotAt)
      (collectionStart (Store.freshCursor runId snapshotAt)) before ∨
    Finishes (S.collectStep sourceId runId entity snapshotAt)
      (collectionStart (Store.freshCursor runId snapshotAt)) before
  stored : 0 < before.cursor.nextOffset

/-- The pages after the boundary are accepted where the identities and owners before it are not
known, and the digest of their records is that of all records. -/
def Collides (before : Collected) : Prop :=
  ∃ rest, Finishes (S.collectStep sourceId runId entity snapshotAt)
      (collectionStart before.cursor) rest ∧
    sha256 (before.identityDigest ++ rest.identityDigest) = sha256 rest.identityDigest

/-- An identity is on both sides of the boundary, and nothing else is wrong after it. -/
def Repeats (before : Collected) : Prop :=
  ∃ rest, Finishes (S.collectStep sourceId runId entity snapshotAt)
      (collectionStart before.cursor) rest ∧
    ∃ identity ∈ before.seen, identity ∈ rest.seen

end

/-! ## One page -/

section Pages

variable {S : UnchangingSource} {sourceId runId : String} {entity : EntityType} {snapshotAt : Time}

/-- A page that the collection accepts, and the state after it. -/
structure Takes (S : UnchangingSource) (sourceId runId : String) (entity : EntityType)
    (snapshotAt : Time) (state : Collected) (page : EntityPage) (next : Collected) : Prop where
  served : S.page entity state.cursor.nextOffset = some page
  accepted : ∃ last, validateEntityPage state.cursor page entity = some last ∧
    next.cursor = collectedCursor runId snapshotAt state.cursor page last
  digest : next.identityDigest = state.identityDigest ++ entityIdentityDigest page.records
  identities : addEntityIdentities state.seen page.records = some next.seen
  owned : S.entityOwners sourceId entity state.owners page.records = some next.owners

theorem collectStep_some {state : Collected} {result : Collected ⊕ Collected}
    (goes : S.collectStep sourceId runId entity snapshotAt state = some result) :
    ∃ page next, Takes S sourceId runId entity snapshotAt state page next ∧
      result = if page.done then .inr next else .inl next := by
  simp only [collectStep, Option.bind_eq_bind, Option.bind_eq_some_iff, Option.pure_def,
    Option.some.injEq] at goes
  obtain ⟨page, served, last, accepted, seen, identities, owners, owned, rfl⟩ := goes
  exact ⟨page, _, ⟨served, ⟨last, accepted, rfl⟩, rfl, identities, owned⟩, rfl⟩

theorem takes_of_goes {state next : Collected}
    (goes : S.collectStep sourceId runId entity snapshotAt state = some (.inl next)) :
    ∃ page, Takes S sourceId runId entity snapshotAt state page next ∧ page.done = false := by
  obtain ⟨page, next', takes, same⟩ := collectStep_some goes
  cases done : page.done with
  | true => simp [done] at same
  | false =>
      rw [done] at same
      cases same
      exact ⟨page, takes, done⟩

theorem takes_of_ends {state next : Collected}
    (ends : S.collectStep sourceId runId entity snapshotAt state = some (.inr next)) :
    ∃ page, Takes S sourceId runId entity snapshotAt state page next ∧ page.done = true := by
  obtain ⟨page, next', takes, same⟩ := collectStep_some ends
  cases done : page.done with
  | true =>
      rw [done] at same
      cases same
      exact ⟨page, takes, done⟩
  | false => simp [done] at same

/-- The cursor counts from zero, and knows the total as soon as it has counted anything. -/
structure Measured (cursor : DeviceSyncCursor) : Prop where
  ahead : 0 ≤ cursor.nextOffset
  signed : 0 ≤ cursor.total
  known : cursor.total = 0 → cursor.nextOffset = 0

theorem measured_fresh (runId : String) (snapshotAt : Time) :
    Measured (Store.freshCursor runId snapshotAt) := ⟨le_rfl, le_rfl, fun _ => rfl⟩

namespace Takes

variable {state next : Collected} {page : EntityPage}

/-- An empty page leaves the state alone. -/
theorem unchanged (takes : Takes S sourceId runId entity snapshotAt state page next)
    (empty : page.records = []) : next = state := by
  obtain ⟨served, ⟨last, accepted, moved⟩, digest, identities, owned⟩ := takes
  rw [empty] at digest identities owned
  have cursor : next.cursor = state.cursor := by rw [moved, collectedCursor, empty]
  have bytes : next.identityDigest = state.identityDigest := by simp [digest, entityIdentityDigest]
  have seen : next.seen = state.seen := (Option.some.inj identities).symm
  have owners : next.owners = state.owners := by
    unfold entityOwners at owned
    split_ifs at owned <;> exact (Option.some.inj owned).symm
  cases next
  cases state
  simp_all

/-- The cursor after a page with records. -/
theorem moved (takes : Takes S sourceId runId entity snapshotAt state page next)
    (filled : page.records ≠ []) :
    next.cursor.nextOffset = page.nextOffset ∧ next.cursor.total = page.total := by
  obtain ⟨last, accepted, moved⟩ := takes.accepted
  rw [moved]
  unfold collectedCursor
  split
  · rename_i empty
    exact (filled empty).elim
  · exact ⟨rfl, rfl⟩

theorem measured (takes : Takes S sourceId runId entity snapshotAt state page next)
    (measured : Measured state.cursor) : Measured next.cursor := by
  by_cases empty : page.records = []
  · rw [takes.unchanged empty]
    exact measured
  · obtain ⟨last, accepted, -⟩ := takes.accepted
    obtain ⟨signed, counted, bounded, -⟩ := validateEntityPage_some accepted
    obtain ⟨offset, total⟩ := takes.moved empty
    have ahead := measured.ahead
    refine ⟨?_, ?_, fun zero => ?_⟩ <;> omega

/-- A known total stays. -/
theorem total (takes : Takes S sourceId runId entity snapshotAt state page next)
    (known : 0 < state.cursor.total) : next.cursor.total = state.cursor.total := by
  by_cases empty : page.records = []
  · rw [takes.unchanged empty]
  · obtain ⟨last, accepted, -⟩ := takes.accepted
    rw [(takes.moved empty).2]
    exact (validateEntityPage_some accepted).2.2.2.1 known

/-- A page with records makes the total known. -/
theorem positive (takes : Takes S sourceId runId entity snapshotAt state page next)
    (measured : Measured state.cursor) (filled : page.records ≠ []) : 0 < next.cursor.total := by
  obtain ⟨last, accepted, -⟩ := takes.accepted
  obtain ⟨-, counted, bounded, -⟩ := validateEntityPage_some accepted
  have records := List.length_pos_iff.mpr filled
  have ahead := measured.ahead
  rw [(takes.moved filled).2]
  omega

/-- The last page has the total of the cursor after it, which has reached it. -/
theorem whole (takes : Takes S sourceId runId entity snapshotAt state page next)
    (measured : Measured state.cursor) (done : page.done = true) :
    page.total = next.cursor.total ∧ next.cursor.nextOffset = next.cursor.total := by
  obtain ⟨last, accepted, -⟩ := takes.accepted
  obtain ⟨signed, counted, bounded, constant, finished, -⟩ := validateEntityPage_some accepted
  have reached : page.nextOffset = page.total := by
    rw [done, eq_comm, decide_eq_true_eq] at finished
    omega
  by_cases empty : page.records = []
  · rw [takes.unchanged empty]
    rw [empty, List.length_nil] at counted
    have known := measured.known
    have positive := measured.signed
    omega
  · obtain ⟨offset, total⟩ := takes.moved empty
    omega

end Takes

/-- An empty page that is not the last is read again and again. -/
theorem filled_of_finishes {state next final : Collected} {page : EntityPage}
    (takes : Takes S sourceId runId entity snapshotAt state page next)
    (goes : S.collectStep sourceId runId entity snapshotAt state = some (.inl next))
    (finishes : Finishes (S.collectStep sourceId runId entity snapshotAt) next final) :
    page.records ≠ [] := by
  intro empty
  rw [takes.unchanged empty] at goes finishes
  exact not_finishes_of_fixed goes finishes

theorem measured_of_reaches {state final : Collected}
    (reaches : Reaches (S.collectStep sourceId runId entity snapshotAt) state final)
    (measured : Measured state.cursor) : Measured final.cursor :=
  reaches.invariant (I := fun state => Measured state.cursor) (fun _ _ measured goes => by
    obtain ⟨page, takes, -⟩ := takes_of_goes goes
    exact takes.measured measured) measured

/-- A collection that has ended has reached its total. -/
theorem whole_of_finishes {state final : Collected}
    (finishes : Finishes (S.collectStep sourceId runId entity snapshotAt) state final)
    (measured : Measured state.cursor) :
    Measured final.cursor ∧ final.cursor.nextOffset = final.cursor.total := by
  induction finishes with
  | done last =>
      obtain ⟨page, takes, done⟩ := takes_of_ends last
      exact ⟨takes.measured measured, (takes.whole measured done).2⟩
  | more first _ ih =>
      obtain ⟨page, takes, -⟩ := takes_of_goes first
      exact ih (takes.measured measured)

theorem total_of_finishes {state final : Collected}
    (finishes : Finishes (S.collectStep sourceId runId entity snapshotAt) state final)
    (known : 0 < state.cursor.total) : final.cursor.total = state.cursor.total := by
  induction finishes with
  | done last =>
      obtain ⟨page, takes, -⟩ := takes_of_ends last
      exact takes.total known
  | more first _ ih =>
      obtain ⟨page, takes, -⟩ := takes_of_goes first
      rw [ih (takes.total known ▸ known), takes.total known]

/-! ## The two readings side by side -/

variable {earlier expected : List UInt8} {total : Int}

/-- The validation is where the collection is, and has digested `earlier` before it. -/
structure Alongside (earlier : List UInt8) (total : Int) (state : Collected)
    (again : DeviceSyncCursor × List UInt8) : Prop where
  nextOffset : again.1.nextOffset = state.cursor.nextOffset
  lastInstanceId : again.1.lastInstanceId = state.cursor.lastInstanceId
  lastPartition : again.1.lastPartition = state.cursor.lastPartition
  total : again.1.total = total
  digest : again.2 = earlier ++ state.identityDigest

/-- The validation accepts the page that the collection has accepted. -/
theorem Alongside.accepts {state next : Collected} {page : EntityPage}
    {again : DeviceSyncCursor × List UInt8} (along : Alongside earlier total state again)
    (takes : Takes S sourceId runId entity snapshotAt state page next) (same : page.total = total) :
    ∃ last, validateEntityPage again.1 page entity = some last ∧
      Alongside earlier total next (rereadCursor again.1 page last,
        again.2 ++ entityIdentityDigest page.records) := by
  obtain ⟨served, ⟨last, accepted, moved⟩, digest, -, -⟩ := takes
  obtain ⟨nextOffset, lastInstanceId, lastPartition, total', bytes⟩ := along
  refine ⟨last, ?_, ?_⟩
  · obtain ⟨signed, counted, bounded, -, finished, records⟩ := validateEntityPage_some accepted
    rw [validateEntityPage, if_neg (by rw [nextOffset]; omega), if_neg (by rw [total']; omega),
      if_neg (not_not.mpr finished), lastInstanceId, lastPartition, records]
  · obtain ⟨-, counted, -, -, -, records⟩ := validateEntityPage_some accepted
    refine ⟨?_, ?_, ?_, total', by rw [digest, bytes, List.append_assoc]⟩
    all_goals rw [moved, collectedCursor]
    · split
      · rename_i empty
        rw [empty, List.length_nil] at counted
        simp only [rereadCursor]
        omega
      · rfl
    · split
      · rename_i empty
        rw [empty] at records
        exact (Option.some.inj records).symm
      · rfl
    · split
      · rename_i empty
        simp [rereadCursor, EntityPage.partition?, empty, lastPartition]
      · rename_i first rest filled
        simp [rereadCursor, EntityPage.partition?, filled]

/-- A page in the middle. -/
theorem Alongside.goes {state next : Collected} {page : EntityPage}
    {again : DeviceSyncCursor × List UInt8} (along : Alongside earlier total state again)
    (expected : List UInt8) (takes : Takes S sourceId runId entity snapshotAt state page next) (same : page.total = total)
    (more : page.done = false) :
    ∃ again', S.rereadStep entity total expected again = some (.inl again') ∧
      Alongside earlier total next again' := by
  obtain ⟨last, accepted, along'⟩ := along.accepts takes same
  refine ⟨_, ?_, along'⟩
  simp [rereadStep, along.nextOffset, takes.served, same, accepted, more]

/-- The last page. -/
theorem Alongside.ends {state next : Collected} {page : EntityPage}
    {again : DeviceSyncCursor × List UInt8} (along : Alongside earlier total state again)
    (takes : Takes S sourceId runId entity snapshotAt state page next) (same : page.total = total)
    (measured : Measured state.cursor) (done : page.done = true) :
    Finishes (S.rereadStep entity total expected) again () ↔
      sha256 (earlier ++ next.identityDigest) = expected := by
  obtain ⟨last, accepted, along'⟩ := along.accepts takes same
  have reached : (rereadCursor again.1 page last).nextOffset = total := by
    have whole := takes.whole measured done
    rw [along'.nextOffset, whole.2, ← whole.1, same]
  have bytes : again.2 ++ entityIdentityDigest page.records = earlier ++ next.identityDigest :=
    along'.digest
  have step : S.rereadStep entity total expected again =
      if sha256 (earlier ++ next.identityDigest) = expected then some (.inr ()) else none := by
    simp only [rereadStep, along.nextOffset, takes.served, Option.bind_eq_bind, Option.bind_some,
      same, ne_eq, not_true_eq_false, ↓reduceIte, accepted, done, reached, bytes, false_or, ite_not]
  by_cases equal : sha256 (earlier ++ next.identityDigest) = expected
  · rw [if_pos equal] at step
    exact iff_of_true (.done step) equal
  · rw [if_neg equal] at step
    exact iff_of_false (not_finishes_of_none step) equal

/-- What the validation finds from where a collection begins that gets to the end. -/
theorem finishes_reread_of_alongside {state final : Collected}
    {again : DeviceSyncCursor × List UInt8}
    (finishes : Finishes (S.collectStep sourceId runId entity snapshotAt) state final)
    (measured : Measured state.cursor) (along : Alongside earlier final.cursor.total state again) :
    Finishes (S.rereadStep entity final.cursor.total expected) again () ↔
      sha256 (earlier ++ final.identityDigest) = expected := by
  induction finishes generalizing again with
  | done last =>
      obtain ⟨page, takes, done⟩ := takes_of_ends last
      exact along.ends takes (takes.whole measured done).1 measured done
  | @more state next final first rest ih =>
      obtain ⟨page, takes, more⟩ := takes_of_goes first
      have filled := filled_of_finishes takes first rest
      have same : page.total = final.cursor.total := by
        rw [total_of_finishes rest (takes.positive measured filled), (takes.moved filled).2]
      obtain ⟨again', goes, along'⟩ := along.goes expected takes same more
      exact (finishes_of_goesOn goes).trans (ih (takes.measured measured) along')

/-- The validation gets to a boundary between two pages. -/
theorem reaches_reread (expected : List UInt8) {before : Collected}
    (reaches : Reaches (S.collectStep sourceId runId entity snapshotAt)
      (collectionStart (Store.freshCursor runId snapshotAt)) before)
    (same : 0 < before.cursor.total → before.cursor.total = total) :
    ∃ again, Reaches (S.rereadStep entity total expected) (validationStart total) again ∧
      Alongside [] total before again := by
  induction reaches with
  | refl => exact ⟨_, .refl, rfl, rfl, rfl, rfl, rfl⟩
  | @tail state next reaches goes ih =>
      obtain ⟨page, takes, more⟩ := takes_of_goes goes
      have measured := measured_of_reaches reaches (measured_fresh runId snapshotAt)
      by_cases empty : page.records = []
      · rw [takes.unchanged empty] at same ⊢
        exact ih same
      · have positive := takes.positive measured empty
        obtain ⟨again, reached, along⟩ := ih fun known => by
          rw [← takes.total known, same positive]
        obtain ⟨again', goes', along'⟩ := along.goes expected takes
          ((takes.moved empty).2.symm.trans (same positive)) more
        exact ⟨again', reached.tail goes', along'⟩

theorem measured_of_boundary {before : Collected}
    (boundary : S.Boundary sourceId runId entity snapshotAt before) :
    Measured before.cursor ∧ 0 < before.cursor.total := by
  have measured : Measured before.cursor := by
    rcases boundary.reached with reaches | finishes
    · exact measured_of_reaches reaches (measured_fresh runId snapshotAt)
    · exact (whole_of_finishes finishes (measured_fresh runId snapshotAt)).1
  have known := measured.known
  have signed := measured.signed
  have stored := boundary.stored
  exact ⟨measured, by omega⟩

/-- A collection that begins at its total finds one empty page. -/
theorem empty_of_whole {before rest : Collected}
    (finishes : Finishes (S.collectStep sourceId runId entity snapshotAt)
      (collectionStart before.cursor) rest)
    (known : 0 < before.cursor.total) (whole : before.cursor.nextOffset = before.cursor.total) :
    rest = collectionStart before.cursor := by
  have empty : ∀ {page next}, Takes S sourceId runId entity snapshotAt
      (collectionStart before.cursor) page next → page.records = [] := by
    intro page next takes
    obtain ⟨last, accepted, -⟩ := takes.accepted
    obtain ⟨-, counted, bounded, constant, -⟩ := validateEntityPage_some accepted
    have total : page.total = before.cursor.total := constant known
    have offset : page.nextOffset = before.cursor.nextOffset + page.records.length := counted
    exact List.length_eq_zero_iff.mp (by omega)
  cases finishes with
  | done last =>
      obtain ⟨page, takes, -⟩ := takes_of_ends last
      exact takes.unchanged (empty takes)
  | more first later =>
      obtain ⟨page, takes, -⟩ := takes_of_goes first
      exact (filled_of_finishes takes first later (empty takes)).elim

/-- What the validation finds after a collection that began at a boundary. -/
theorem finishes_reread_iff {before rest : Collected}
    (boundary : S.Boundary sourceId runId entity snapshotAt before)
    (finishes : Finishes (S.collectStep sourceId runId entity snapshotAt)
      (collectionStart before.cursor) rest) :
    Finishes (S.rereadStep entity rest.cursor.total expected) (validationStart rest.cursor.total) () ↔
      sha256 (before.identityDigest ++ rest.identityDigest) = expected := by
  obtain ⟨measured, known⟩ := measured_of_boundary boundary
  have total : rest.cursor.total = (collectionStart before.cursor).cursor.total :=
    total_of_finishes finishes known
  rcases boundary.reached with reaches | whole
  · obtain ⟨again, reached, along⟩ := reaches_reread expected reaches
      fun _ => total.symm
    refine (finishes_of_reaches reached).trans
      (finishes_reread_of_alongside finishes measured ⟨along.nextOffset, along.lastInstanceId,
        along.lastPartition, along.total, ?_⟩)
    rw [along.digest]
    exact (List.append_nil _).symm
  · -- The collection before the boundary has read everything, and so has the validation.
    have empty := empty_of_whole finishes known
      (whole_of_finishes whole (measured_fresh runId snapshotAt)).2
    rw [total, empty]
    have along : Alongside [] before.cursor.total (collectionStart (Store.freshCursor runId snapshotAt))
        (validationStart before.cursor.total) := ⟨rfl, rfl, rfl, rfl, rfl⟩
    have all : Finishes (S.rereadStep entity before.cursor.total expected)
        (validationStart before.cursor.total) () ↔ sha256 ([] ++ before.identityDigest) = expected :=
      finishes_reread_of_alongside whole (measured_fresh runId snapshotAt) along
    simpa [collectionStart] using all

/-- A collection from the first page that gets to the end is confirmed. -/
theorem confirms_fresh_iff : S.Confirms sourceId runId entity (Store.freshCursor runId snapshotAt) ↔
    S.Collectable sourceId runId entity snapshotAt := by
  refine ⟨fun ⟨final, finishes, _⟩ => ⟨final, finishes⟩, fun ⟨final, finishes⟩ => ⟨final, finishes, ?_⟩⟩
  have along : Alongside [] final.cursor.total (collectionStart (Store.freshCursor runId snapshotAt))
      (validationStart final.cursor.total) := ⟨rfl, rfl, rfl, rfl, rfl⟩
  exact (finishes_reread_of_alongside finishes (measured_fresh runId snapshotAt) along).mpr rfl

/-- The cursor at a boundary belongs to the snapshot of the collection. -/
theorem dated_of_boundary {before : Collected}
    (boundary : S.Boundary sourceId runId entity snapshotAt before) :
    before.cursor.snapshotAt = snapshotAt := by
  have keeps : ∀ {state page next}, Takes S sourceId runId entity snapshotAt state page next →
      state.cursor.snapshotAt = snapshotAt → next.cursor.snapshotAt = snapshotAt := by
    intro state page next takes dated
    obtain ⟨last, -, moved⟩ := takes.accepted
    rw [moved]
    unfold collectedCursor
    split
    · exact dated
    · rfl
  have goes : ∀ state next, state.cursor.snapshotAt = snapshotAt →
      S.collectStep sourceId runId entity snapshotAt state = some (.inl next) →
      next.cursor.snapshotAt = snapshotAt := by
    intro state next dated goes
    obtain ⟨page, takes, -⟩ := takes_of_goes goes
    exact keeps takes dated
  rcases boundary.reached with reaches | finishes
  · exact reaches.invariant (I := fun state => state.cursor.snapshotAt = snapshotAt) goes rfl
  · refine finishes.result (I := fun state => state.cursor.snapshotAt = snapshotAt)
      (Q := fun final => final.cursor.snapshotAt = snapshotAt) goes (fun state final dated ends => ?_) rfl
    obtain ⟨page, takes, -⟩ := takes_of_ends ends
    exact keeps takes dated

/-- A collection from a boundary is confirmed only where the digests collide. -/
theorem confirms_boundary_iff {before : Collected}
    (boundary : S.Boundary sourceId runId entity snapshotAt before) :
    S.Confirms sourceId runId entity before.cursor ↔
      S.Collides sourceId runId entity snapshotAt before := by
  unfold Confirms Collides
  rw [dated_of_boundary boundary]
  exact exists_congr fun rest => and_congr_right (finishes_reread_iff boundary)

/-! ## Identities -/

/-- Two collections that are at one cursor read one page. -/
theorem Takes.alike {state other next next' : Collected} {page page' : EntityPage}
    {seen : List String} (takes : Takes S sourceId runId entity snapshotAt state page next)
    (takes' : Takes S sourceId runId entity snapshotAt other page' next')
    (cursors : state.cursor = other.cursor) (more : state.seen = other.seen ++ seen) :
    page = page' ∧ next.cursor = next'.cursor ∧ next.seen = next'.seen ++ seen := by
  have served := takes.served
  rw [cursors, takes'.served] at served
  cases served
  obtain ⟨last, accepted, moved⟩ := takes.accepted
  obtain ⟨last', accepted', moved'⟩ := takes'.accepted
  rw [cursors, accepted'] at accepted
  cases accepted
  refine ⟨rfl, by rw [moved, moved', cursors], ?_⟩
  rw [(addEntityIdentities_some takes.identities).1, (addEntityIdentities_some takes'.identities).1,
    more, List.append_assoc]

/-- What a collection has seen that begins where another is, and knows less. -/
theorem seen_of_finishes {state other final rest : Collected} {seen : List String}
    (finishes : Finishes (S.collectStep sourceId runId entity snapshotAt) other rest)
    (whole : Finishes (S.collectStep sourceId runId entity snapshotAt) state final)
    (cursors : state.cursor = other.cursor) (more : state.seen = other.seen ++ seen) :
    final.seen = rest.seen ++ seen := by
  induction finishes generalizing state with
  | done last' =>
      obtain ⟨page', takes', done'⟩ := takes_of_ends last'
      cases whole with
      | done last =>
          obtain ⟨page, takes, -⟩ := takes_of_ends last
          exact (takes.alike takes' cursors more).2.2
      | more first later =>
          obtain ⟨page, takes, open_⟩ := takes_of_goes first
          rw [(takes.alike takes' cursors more).1, done'] at open_
          cases open_
  | more first' _ ih =>
      obtain ⟨page', takes', open_⟩ := takes_of_goes first'
      cases whole with
      | done last =>
          obtain ⟨page, takes, done⟩ := takes_of_ends last
          rw [(takes.alike takes' cursors more).1, open_] at done
          cases done
      | more first later =>
          obtain ⟨page, takes, -⟩ := takes_of_goes first
          obtain ⟨-, cursors', more'⟩ := takes.alike takes' cursors more
          exact ih later cursors' more'

theorem nodup_of_finishes {state final : Collected}
    (finishes : Finishes (S.collectStep sourceId runId entity snapshotAt) state final)
    (distinct : state.seen.Nodup) : final.seen.Nodup := by
  refine finishes.result (I := fun state => state.seen.Nodup) (Q := fun final => final.seen.Nodup)
    (fun state next distinct goes => ?_) (fun state final distinct ends => ?_) distinct
  · obtain ⟨page, takes, -⟩ := takes_of_goes goes
    exact (addEntityIdentities_some takes.identities).2.2 distinct
  · obtain ⟨page, takes, -⟩ := takes_of_ends ends
    exact (addEntityIdentities_some takes.identities).2.2 distinct

/-- No collection from the first page gets past an identity on both sides of a boundary. -/
theorem not_collectable_of_repeats {before : Collected}
    (boundary : S.Boundary sourceId runId entity snapshotAt before)
    (repeats : S.Repeats sourceId runId entity snapshotAt before) :
    ¬S.Collectable sourceId runId entity snapshotAt := by
  rintro ⟨final, finishes⟩
  obtain ⟨rest, later, identity, earlier, again⟩ := repeats
  rcases boundary.reached with reaches | whole
  · have whole := (finishes_of_reaches reaches).mp finishes
    have seen := seen_of_finishes later whole rfl (List.nil_append before.seen).symm
    have distinct := nodup_of_finishes finishes List.nodup_nil
    rw [seen] at distinct
    exact List.disjoint_of_nodup_append distinct again earlier
  · have empty := empty_of_whole later (measured_of_boundary boundary).2
      (whole_of_finishes whole (measured_fresh runId snapshotAt)).2
    rw [empty] at again
    exact List.not_mem_nil again

end Pages

end UnchangingSource

end UnifiedInfraTopology
