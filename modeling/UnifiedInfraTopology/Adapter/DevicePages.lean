import UnifiedInfraTopology.Adapter.Device
import UnifiedInfraTopology.Worker.Execute

/-!
# Paging through the devices

Two readers of `device_view`: `collectDevices` visits the records of one page after the other and stops
at the first page that is not full; a run of the worker asks for page after page until one is done, and
checks each with `validateEntityPage`.

Both are run on the same sequence of responses.  The context of `collectDevices` may end at any time, and
its visitor may refuse a record.

* `collectDevices_counted_iff`: where `collectDevices` returns no error, it has visited the records that
  the source counts, and the worker would have accepted the same ones, if and only if the first page that
  is not full is the one in which the count is reached.
-/

namespace UnifiedInfraTopology.Cmdb

open Lib

structure FullDevicePage where
  records : List FullDeviceRecord
  nextOffset : Int
  total : Int
  done : Bool
deriving DecidableEq

/-- The page as a run of devices reads it. -/
def FullDevicePage.entityPage (page : FullDevicePage) : EntityPage :=
  entityPageOfDevices
    ⟨page.records.map (·.toDeviceRecord), page.nextOffset, page.total, page.done⟩

/-- A response of `device_view`: the items and the count, unless it is refused. -/
abbrev DeviceResponse : Type := Except CmdbError (CmdbResponse DeviceViewDTO)

/-- The items and the count of a response that is accepted. -/
def DeviceResponse.page (response : DeviceResponse) : Except CmdbError (List DeviceViewDTO × Int) :=
  match response with
  | .error e => .error e
  | .ok response => response.page

/-- The records of the items of a page, whose instance IDs must climb. -/
def deviceRecords : Int64 → List DeviceViewDTO → Except CmdbError (List FullDeviceRecord)
  | _, [] => .ok []
  | lastInstanceId, item :: items =>
      match toRecord item with
      | .error e => .error e
      | .ok record =>
          if record.sourceInstanceId ≤ lastInstanceId then
            .error (.response "device inst_id is not strictly increasing")
          else
            match deviceRecords record.sourceInstanceId items with
            | .error e => .error e
            | .ok records => .ok (record :: records)

def collectDeviceRecordsPage (pageSize start : Int) (response : DeviceResponse) :
    Except CmdbError FullDevicePage :=
  match response.page with
  | .error e => .error e
  | .ok (items, total) =>
      if pageSize < items.length then .error (.response "page exceeds configured limit")
      else
        match deviceRecords 0 items with
        | .error e => .error e
        | .ok records =>
            if records = [] ∧ start < total then
              .error (.response "empty page before count was reached")
            else
              .ok ⟨records, start + records.length, total,
                decide (records.length < pageSize) || decide (total ≤ start + records.length)⟩

/-! ## Streaming -/

inductive DeviceError where
  | cmdb (e : CmdbError)
  | visitor (text : String)
deriving DecidableEq

/-- What a visitor makes of a record after the ones before it: an error, or none. -/
abbrev Visitor : Type := List FullDeviceRecord → FullDeviceRecord → Option String

/-- A response of the source, and whether the context has ended when its page was visited. -/
structure DeviceTurn where
  response : DeviceResponse
  ended : Bool

/-- The records the visitor was called on, and the counts of the pages that were read. -/
structure Traversal where
  visited : List FullDeviceRecord
  counts : List Int
deriving DecidableEq

/-- Visit the records of a page. -/
def visitRecords (visit : Visitor) : Int64 → List FullDeviceRecord → List FullDeviceRecord →
    List FullDeviceRecord × Except DeviceError Int64
  | lastInstanceId, visited, [] => (visited, .ok lastInstanceId)
  | lastInstanceId, visited, record :: records =>
      if record.sourceInstanceId ≤ lastInstanceId then
        (visited, .error (.cmdb (.response "device inst_id is not strictly increasing")))
      else
        match visit visited record with
        | some text => (visited ++ [record], .error (.visitor text))
        | none => visitRecords visit record.sourceInstanceId (visited ++ [record]) records

/-- The loop of `CollectDevices`. -/
def collectDevicesFrom (pageSize : Int) (visit : Visitor) : Int → Int64 → Traversal →
    List DeviceTurn → Traversal × Outcome DeviceError Unit
  | _, _, traversal, [] => (traversal, .pending)
  | start, lastInstanceId, traversal, turn :: turns =>
      match collectDeviceRecordsPage pageSize start turn.response with
      | .error e => (traversal, .error (.cmdb e))
      | .ok page =>
          let counts := traversal.counts ++ [page.total]
          match visitRecords visit lastInstanceId traversal.visited page.records with
          | (visited, .error e) => (⟨visited, counts⟩, .error e)
          | (visited, .ok lastInstanceId) =>
              if turn.ended then (⟨visited, counts⟩, .error (.cmdb .context))
              else if page.records = [] then (⟨visited, counts⟩, .ok ())
              else if page.records.length < pageSize then (⟨visited, counts⟩, .ok ())
              else collectDevicesFrom pageSize visit page.nextOffset lastInstanceId
                ⟨visited, counts⟩ turns

/-- `CollectDevices`, against a sequence of responses. -/
def collectDevices (cfg : Except CmdbError CmdbConfig) (visit : Option Visitor)
    (turns : List DeviceTurn) : Traversal × Outcome DeviceError Unit :=
  match visit with
  | none => (⟨[], []⟩, .error (.cmdb (.config "device visitor is required")))
  | some visit =>
      match cfg with
      | .error e => (⟨[], []⟩, .error (.cmdb e))
      | .ok cfg => collectDevicesFrom cfg.pageSize visit 0 0 ⟨[], []⟩ turns

/-! ## Paging -/

/-- The pages of `CollectDevicePage` as a run asks for them: the records, where every page up to the
first that is done is accepted.  A page that `validateEntityPage` refuses is the error none. -/
def pageDevices (pageSize : Int) (runId : String) (snapshotAt : Time) : DeviceSyncCursor →
    List FullDeviceRecord → List DeviceTurn → Outcome (Option CmdbError) (List FullDeviceRecord)
  | _, _, [] => .pending
  | cursor, records, turn :: turns =>
      match collectDeviceRecordsPage pageSize cursor.nextOffset turn.response with
      | .error e => .error (some e)
      | .ok page =>
          match validateEntityPage cursor page.entityPage .device with
          | none => .error none
          | some lastInstanceId =>
              if page.done then .ok (records ++ page.records)
              else pageDevices pageSize runId snapshotAt
                (collectedCursor runId snapshotAt cursor page.entityPage lastInstanceId)
                (records ++ page.records) turns

/-! ## Pages -/

theorem length_deviceRecords {items : List DeviceViewDTO} {records : List FullDeviceRecord}
    {lastInstanceId : Int64} (ok : deviceRecords lastInstanceId items = .ok records) :
    records.length = items.length := by
  induction items generalizing records lastInstanceId with
  | nil =>
      cases ok
      rfl
  | cons item items ih =>
      rw [deviceRecords] at ok
      split at ok
      · cases ok
      split at ok
      · cases ok
      split at ok
      · cases ok
      · rename_i rest
        cases ok
        rw [List.length_cons, List.length_cons, ih rest]

/-- What a page says of its response. -/
structure PageOf (pageSize start : Int) (response : DeviceResponse) (page : FullDevicePage) : Prop where
  items : ∃ items, response.page = .ok (items, page.total) ∧ page.records.length = items.length
  fits : (page.records.length : Int) ≤ pageSize
  nextOffset : page.nextOffset = start + page.records.length
  done : page.done = (decide (page.records.length < pageSize) || decide (page.total ≤ page.nextOffset))

theorem pageOf_collect {pageSize start : Int} {response : DeviceResponse} {page : FullDevicePage}
    (ok : collectDeviceRecordsPage pageSize start response = .ok page) :
    PageOf pageSize start response page := by
  unfold collectDeviceRecordsPage at ok
  split at ok
  · cases ok
  rename_i items total read
  split at ok
  · cases ok
  rename_i fits
  split at ok
  · cases ok
  rename_i records converted
  split at ok
  · cases ok
  · cases ok
    have same := length_deviceRecords converted
    exact ⟨⟨items, read, same⟩, by rw [same]; exact not_lt.mp fits, rfl, rfl⟩

/-! ## What a traversal has visited -/

abbrev instanceIds (records : List FullDeviceRecord) : List Int64 :=
  records.map (·.sourceInstanceId)

theorem visitRecords_ok {visit : Visitor} {lastInstanceId lastInstanceId' : Int64}
    {visited visited' records : List FullDeviceRecord}
    (ok : visitRecords visit lastInstanceId visited records = (visited', .ok lastInstanceId')) :
    visited' = visited ++ records ∧ Ascending lastInstanceId (instanceIds records) lastInstanceId' := by
  induction records generalizing lastInstanceId visited with
  | nil =>
      cases ok
      exact ⟨(List.append_nil _).symm, .nil _⟩
  | cons record records ih =>
      rw [visitRecords] at ok
      split at ok
      · cases ok
      rename_i forward
      split at ok
      · cases ok
      · obtain ⟨rfl, climbs⟩ := ih ok
        exact ⟨by simp, .cons (Int64.not_le.mp forward) climbs⟩

/-- The pages of a sequence of responses, the first at `start`. -/
inductive PagesOf (pageSize : Int) : Int → List FullDevicePage → List DeviceTurn → Prop where
  | nil (start : Int) (turns : List DeviceTurn) : PagesOf pageSize start [] turns
  | cons {start : Int} {page : FullDevicePage} {pages : List FullDevicePage} {turn : DeviceTurn}
      {turns : List DeviceTurn}
      (here : collectDeviceRecordsPage pageSize start turn.response = .ok page)
      (rest : PagesOf pageSize page.nextOffset pages turns) :
      PagesOf pageSize start (page :: pages) (turn :: turns)

abbrev recordsOf (pages : List FullDevicePage) : List FullDeviceRecord :=
  pages.flatMap (·.records)

/-- The pages of a traversal that returns no error: full ones, and one that is not. -/
structure Traversed (pageSize start : Int) (lastInstanceId : Int64) (turns : List DeviceTurn)
    (before after : Traversal) (full : List FullDevicePage) (short : FullDevicePage) : Prop where
  pages : PagesOf pageSize start (full ++ [short]) turns
  filled : ∀ page ∈ full, (page.records.length : Int) = pageSize
  ends : short.records = [] ∨ (short.records.length : Int) < pageSize
  visited : after.visited = before.visited ++ recordsOf (full ++ [short])
  counts : after.counts = before.counts ++ (full ++ [short]).map (·.total)
  climbs : ∃ last, Ascending lastInstanceId (instanceIds (recordsOf (full ++ [short]))) last

theorem traversed_of_ok {pageSize start : Int} {visit : Visitor} {lastInstanceId : Int64}
    {before after : Traversal} {turns : List DeviceTurn}
    (ok : collectDevicesFrom pageSize visit start lastInstanceId before turns = (after, .ok ())) :
    ∃ full short, Traversed pageSize start lastInstanceId turns before after full short := by
  induction turns generalizing start lastInstanceId before with
  | nil => cases ok
  | cons turn turns ih =>
      rw [collectDevicesFrom] at ok
      split at ok
      · cases ok
      rename_i page collected
      dsimp only at ok
      split at ok
      · cases ok
      rename_i visited lastInstanceId' visits
      obtain ⟨rfl, climbs⟩ := visitRecords_ok visits
      have last (ends : page.records = [] ∨ (page.records.length : Int) < pageSize) :
          Traversed pageSize start lastInstanceId (turn :: turns) before
            ⟨before.visited ++ page.records, before.counts ++ [page.total]⟩ [] page :=
        ⟨.cons collected (.nil _ _), nofun, ends, by simp, by simp, lastInstanceId', by simpa using climbs⟩
      split at ok
      · cases ok
      split at ok
      · rename_i empty
        cases ok
        exact ⟨[], page, last (Or.inl empty)⟩
      split at ok
      · rename_i short
        cases ok
        exact ⟨[], page, last (Or.inr short)⟩
      · rename_i long
        obtain ⟨full, short, pages, filled, ends, visited, counts, last', climbs'⟩ := ih ok
        have full' : (page.records.length : Int) = pageSize :=
          le_antisymm (pageOf_collect collected).fits (not_lt.mp long)
        refine ⟨page :: full, short, .cons collected pages, ?_, ends, ?_, ?_, last', ?_⟩
        · exact List.forall_mem_cons.mpr ⟨full', filled⟩
        · simpa using visited
        · simpa using counts
        · have joined := climbs.append climbs'
          rwa [← List.map_append] at joined

/-! ## Where the count is reached -/

/-- The items and the count of a response. -/
def DeviceTurn.Reports (turn : DeviceTurn) (size count : Int) : Prop :=
  ∃ items, turn.response.page = .ok (items, count) ∧ (items.length : Int) = size

/-- The first page that is not full is the one in which the count is reached, and the pages up to it
report the same count. -/
def EndsAtCount (pageSize : Int) (turns : List DeviceTurn) (count : Nat) : Prop :=
  (∀ i < count / pageSize.toNat, ∃ turn, turns[i]? = some turn ∧ turn.Reports pageSize count) ∧
    ∃ turn, turns[count / pageSize.toNat]? = some turn ∧
      turn.Reports (count % pageSize.toNat : Nat) count

/-- What the source counts was visited, in order, and a run would have accepted it. -/
structure Counted (pageSize : Int) (turns : List DeviceTurn) (traversal : Traversal) (count : Nat) :
    Prop where
  counts : ∀ c ∈ traversal.counts, c = (count : Int)
  visited : traversal.visited.length = count
  climbs : (instanceIds traversal.visited).Pairwise (· < ·)
  accepted : ∀ runId snapshotAt, pageDevices pageSize runId snapshotAt
    (Store.freshCursor runId snapshotAt) [] turns = .ok traversal.visited

/-- Records of devices that climb from an instance ID are accepted. -/
theorem validateRecords_of_climb {first lastInstanceId lastPartition last : Int64}
    {records : List EntityRecord} (unpartitioned : ∀ r ∈ records, r.partition = 0)
    (climb : Ascending lastInstanceId (records.map (·.sourceInstanceId)) last) :
    validateRecords .device first records lastInstanceId lastPartition = some last := by
  induction records generalizing lastInstanceId with
  | nil =>
      cases climb
      rfl
  | cons r records ih =>
      cases climb with
      | cons step rest =>
          rw [validateRecords, if_neg (by decide), if_neg (not_not.mpr (unpartitioned r (by simp))),
            if_neg (Int64.not_le.mpr step)]
          exact ih (fun other member => unpartitioned other (by simp [member])) rest

theorem length_entityPage (page : FullDevicePage) :
    page.entityPage.records.length = page.records.length := by
  simp [FullDevicePage.entityPage, entityPageOfDevices]

/-- A page that goes on from a cursor, is done when the count is reached and climbs is accepted. -/
theorem validateEntityPage_of_climb {cursor : DeviceSyncCursor} {page : FullDevicePage}
    {last : Int64} (nextOffset : page.nextOffset = cursor.nextOffset + page.records.length)
    (inside : page.nextOffset ≤ page.total) (nonneg : 0 ≤ page.total)
    (known : 0 < cursor.total → cursor.total = page.total)
    (done : page.done = decide (page.total ≤ page.nextOffset))
    (climb : Ascending cursor.lastInstanceId (instanceIds page.records) last) :
    validateEntityPage cursor page.entityPage .device = some last := by
  unfold validateEntityPage
  rw [if_neg, if_neg, if_neg]
  · apply validateRecords_of_climb
    · simp [FullDevicePage.entityPage, entityPageOfDevices]
    · simpa [FullDevicePage.entityPage, entityPageOfDevices, Function.comp_def] using climb
  · exact not_not.mpr done
  · rintro ⟨positive, changed⟩
    exact changed (known positive).symm
  · rw [length_entityPage]
    rintro (negative | elsewhere | beyond)
    · exact absurd nonneg (Int.not_le.mpr negative)
    · exact elsewhere nextOffset
    · exact absurd inside (Int.not_le.mpr beyond)

/-- Full pages that report one count, and the page in which it is reached, are accepted. -/
theorem pageDevices_of_pages {pageSize : Int} (positive : 0 < pageSize) {runId : String}
    {snapshotAt : Time} {cursor : DeviceSyncCursor} {count : Int} {turns : List DeviceTurn}
    {full : List FullDevicePage} {short : FullDevicePage} {last : Int64}
    (pages : PagesOf pageSize cursor.nextOffset (full ++ [short]) turns)
    (filled : ∀ page ∈ full, (page.records.length : Int) = pageSize)
    (ends : (short.records.length : Int) < pageSize)
    (counts : ∀ page ∈ full ++ [short], page.total = count)
    (reached : cursor.nextOffset + (recordsOf (full ++ [short])).length = count) (nonneg : 0 ≤ count)
    (known : 0 < cursor.total → cursor.total = count)
    (climb : Ascending cursor.lastInstanceId (instanceIds (recordsOf (full ++ [short]))) last)
    (before : List FullDeviceRecord) :
    pageDevices pageSize runId snapshotAt cursor before turns =
      .ok (before ++ recordsOf (full ++ [short])) := by
  induction full generalizing cursor turns before with
  | nil =>
      cases pages with
      | cons here rest =>
          have page := pageOf_collect here
          have total : short.total = count := counts short (by simp)
          have reached : short.nextOffset = short.total := by
            rw [page.nextOffset, total, ← reached]
            simp
          have done : short.done = true := by simp [page.done, ends]
          have accepted : validateEntityPage cursor short.entityPage .device = some last :=
            validateEntityPage_of_climb page.nextOffset reached.le (total ▸ nonneg) (total ▸ known)
              (by rw [done, reached]; simp) (by simpa using climb)
          simp only [pageDevices, here, accepted, done, if_true]
          simp
  | cons first full ih =>
      cases pages with
      | cons here rest =>
          have page := pageOf_collect here
          have size := filled first (by simp)
          have total : first.total = count := counts first (by simp)
          have split_ : recordsOf (first :: full ++ [short]) =
              first.records ++ recordsOf (full ++ [short]) := by simp
          rw [split_, instanceIds, List.map_append] at climb
          obtain ⟨middle, climb, later⟩ := climb.split
          have further : first.nextOffset + (recordsOf (full ++ [short])).length = count := by
            rw [page.nextOffset, ← reached, split_, List.length_append]
            push_cast
            ring
          have inside : first.nextOffset ≤ first.total := by omega
          have done : first.done = decide (first.total ≤ first.nextOffset) := by
            simp [page.done, size]
          have accepted : validateEntityPage cursor first.entityPage .device = some middle :=
            validateEntityPage_of_climb page.nextOffset inside (total ▸ nonneg) (total ▸ known)
              done climb
          simp only [pageDevices, here, accepted, done, decide_eq_true_eq]
          split
          · -- The count is reached at the end of a full page: the page after it is empty.
            rename_i stops
            have none_ : recordsOf (full ++ [short]) = [] := by
              rw [← List.length_eq_zero_iff]
              omega
            rw [split_, none_, List.append_nil]
          · have some_ : first.records ≠ [] := by
              rintro empty
              rw [empty] at size
              exact absurd size positive.ne
            have next : collectedCursor runId snapshotAt cursor first.entityPage middle =
                ⟨deviceSyncCursorVersion, runId, first.nextOffset, middle, 0, snapshotAt, count⟩ := by
              obtain ⟨record, records, same⟩ := List.exists_cons_of_ne_nil some_
              simp [collectedCursor, FullDevicePage.entityPage, entityPageOfDevices, same, total]
            rw [next, split_, ← List.append_assoc]
            exact ih rest (fun page member => filled page (by simp [member]))
              (fun page member => counts page (by simp only [List.cons_append, List.mem_cons, member,
                or_true]))
              further (fun _ => rfl) later (before ++ first.records)

/-! ## The first page that is not full -/

theorem DeviceTurn.Reports.unique {turn : DeviceTurn} {size size' count count' : Int}
    (first : turn.Reports size count) (second : turn.Reports size' count') :
    size = size' ∧ count = count' := by
  obtain ⟨items, read, sized⟩ := first
  obtain ⟨items', read', sized'⟩ := second
  rw [read] at read'
  cases read'
  exact ⟨sized.symm.trans sized', rfl⟩

/-- The page at an index is the response at this index. -/
theorem PagesOf.reports {pageSize start : Int} {pages : List FullDevicePage} {turns : List DeviceTurn}
    (paged : PagesOf pageSize start pages turns) {i : Nat} {page : FullDevicePage}
    (at_ : pages[i]? = some page) :
    ∃ turn, turns[i]? = some turn ∧ turn.Reports page.records.length page.total := by
  induction paged generalizing i with
  | nil => cases at_
  | cons here rest ih =>
      cases i with
      | zero =>
          cases at_
          obtain ⟨items, read, size⟩ := (pageOf_collect here).items
          exact ⟨_, rfl, items, read, by rw [size]⟩
      | succ i => exact ih at_

theorem length_recordsOf {pageSize : Nat} {full : List FullDevicePage}
    (filled : ∀ page ∈ full, (page.records.length : Int) = pageSize) :
    (recordsOf full).length = full.length * pageSize := by
  induction full with
  | nil => exact (Nat.zero_mul _).symm
  | cons page full ih =>
      have size := filled page List.mem_cons_self
      have rest := ih fun other member => filled other (List.mem_cons_of_mem page member)
      rw [recordsOf, List.flatMap_cons, List.length_append, rest, List.length_cons, Nat.succ_mul,
        Nat.add_comm]
      omega

section Ends

variable {pageSize : Nat} {turns : List DeviceTurn} {after : Traversal} {full : List FullDevicePage}
  {short : FullDevicePage} {count : Nat}

theorem Traversed.short_lt (positive : 0 < pageSize)
    (traversed : Traversed pageSize 0 0 turns ⟨[], []⟩ after full short) :
    short.records.length < pageSize := by
  rcases traversed.ends with empty | less
  · rwa [empty]
  · exact Int.ofNat_lt.mp less

theorem Traversed.length_visited (traversed : Traversed pageSize 0 0 turns ⟨[], []⟩ after full short) :
    after.visited.length = short.records.length + full.length * pageSize := by
  rw [traversed.visited, List.nil_append, recordsOf, List.flatMap_append, List.length_append,
    length_recordsOf traversed.filled]
  simp [Nat.add_comm]

theorem Traversed.total_of_counts (traversed : Traversed pageSize 0 0 turns ⟨[], []⟩ after full short)
    (counts : ∀ c ∈ after.counts, c = (count : Int)) :
    ∀ page ∈ full ++ [short], page.total = count := fun page member =>
  counts page.total (by
    rw [traversed.counts, List.nil_append]
    exact List.mem_map_of_mem member)

theorem getElem?_full (short : FullDevicePage) {i : Nat} (inside : i < full.length) :
    ∃ page ∈ full, (full ++ [short])[i]? = some page :=
  ⟨full[i], List.getElem_mem inside, by simp [List.getElem?_append_left inside]⟩

/-- A traversal that visits what the source counts ends where the count is reached. -/
theorem Traversed.endsAtCount (positive : 0 < pageSize)
    (traversed : Traversed pageSize 0 0 turns ⟨[], []⟩ after full short)
    (counts : ∀ c ∈ after.counts, c = (count : Int)) (visited : after.visited.length = count) :
    EndsAtCount pageSize turns count := by
  have total := traversed.total_of_counts counts
  have whole := traversed.length_visited
  rw [visited] at whole
  obtain ⟨quotient, remainder⟩ :
      count / pageSize = full.length ∧ count % pageSize = short.records.length :=
    (Nat.div_mod_unique positive).mpr
      ⟨by rw [whole, Nat.mul_comm], traversed.short_lt positive⟩
  unfold EndsAtCount
  rw [Int.toNat_natCast, quotient, remainder]
  constructor
  · rintro i inside
    obtain ⟨page, member, at_⟩ := getElem?_full short inside
    obtain ⟨turn, here, reports⟩ := traversed.pages.reports at_
    rw [traversed.filled page member, total page (by simp [member])] at reports
    exact ⟨turn, here, reports⟩
  · obtain ⟨turn, here, reports⟩ := traversed.pages.reports (List.getElem?_concat_length ..)
    rw [total short (by simp)] at reports
    exact ⟨turn, here, reports⟩

/-- Where the first page that is not full is the one in which the count is reached, the pages of a
traversal are the ones up to it. -/
theorem Traversed.of_endsAtCount (positive : 0 < pageSize)
    (traversed : Traversed pageSize 0 0 turns ⟨[], []⟩ after full short)
    (ends : EndsAtCount pageSize turns count) :
    (∀ page ∈ full ++ [short], page.total = count) ∧ after.visited.length = count := by
  unfold EndsAtCount at ends
  rw [Int.toNat_natCast] at ends
  obtain ⟨filled, turn, last, reports⟩ := ends
  have less := traversed.short_lt positive
  obtain ⟨turn', last', reports'⟩ := traversed.pages.reports (List.getElem?_concat_length ..)
  have same : full.length = count / pageSize := by
    rcases Nat.lt_trichotomy full.length (count / pageSize) with early | same | late
    · -- A page that is not full stands where the source has a full one.
      obtain ⟨turn, here, reports⟩ := filled full.length early
      rw [last'] at here
      cases here
      exact absurd (reports.unique reports').1 (by omega)
    · exact same
    · -- A full page stands where the source has one that is not.
      obtain ⟨page, member, at_⟩ := getElem?_full short late
      obtain ⟨turn', here, reports'⟩ := traversed.pages.reports at_
      rw [last] at here
      cases here
      have size := (reports.unique reports').1
      rw [traversed.filled page member] at size
      exact absurd size (Int.ofNat_lt.mpr (Nat.mod_lt count positive)).ne
  have short_ : (short.records.length : Int) = (count % pageSize : Nat) ∧ short.total = count := by
    rw [← same, last'] at last
    cases last
    exact reports'.unique reports
  constructor
  · rintro page member
    obtain ⟨i, inside, rfl⟩ := List.getElem_of_mem member
    rcases Nat.lt_or_ge i full.length with early | late
    · obtain ⟨turn, here, reports⟩ := filled i (same ▸ early)
      obtain ⟨turn', here', reports'⟩ := traversed.pages.reports (List.getElem?_eq_getElem inside)
      rw [here] at here'
      cases here'
      exact (reports'.unique reports).2
    · rw [List.getElem_append_right late, List.getElem_singleton]
      exact short_.2
  · rw [traversed.length_visited, Int.ofNat_inj.mp short_.1, same, Nat.mul_comm]
    exact Nat.mod_add_div count pageSize

end Ends

/-- `CollectDevices` returns no error on a page that is not full, wherever the count stands: it has
visited the records that the source counts, and a run would have accepted them, if and only if the
first page that is not full is the one in which the count is reached. -/
theorem collectDevices_counted_iff {cfg : CmdbConfig} (positive : 0 < cfg.pageSize) {visit : Visitor}
    {turns : List DeviceTurn} {traversal : Traversal}
    (ok : collectDevices (.ok cfg) (some visit) turns = (traversal, .ok ())) :
    (∃ count, Counted cfg.pageSize turns traversal count) ↔
      ∃ count, EndsAtCount cfg.pageSize turns count := by
  obtain ⟨pageSize, same⟩ := Int.eq_ofNat_of_zero_le positive.le
  have ok : collectDevicesFrom cfg.pageSize visit 0 0 ⟨[], []⟩ turns = (traversal, .ok ()) := ok
  rw [same] at positive ok ⊢
  have positive : 0 < pageSize := Int.natCast_pos.mp positive
  obtain ⟨full, short, traversed⟩ := traversed_of_ok ok
  constructor
  · rintro ⟨count, counted⟩
    exact ⟨count, traversed.endsAtCount positive counted.counts counted.visited⟩
  · rintro ⟨count, ends⟩
    obtain ⟨totals, length⟩ := traversed.of_endsAtCount positive ends
    have visited : traversal.visited = recordsOf (full ++ [short]) := traversed.visited
    obtain ⟨last, climb⟩ := traversed.climbs
    refine ⟨count, ?_, length, ?_, ?_⟩
    · rw [traversed.counts]
      exact List.forall_mem_map.mpr totals
    · rw [visited]
      exact climb.pairwise.2
    · rintro runId snapshotAt
      rw [visited]
      exact pageDevices_of_pages (Int.natCast_pos.mpr positive) traversed.pages traversed.filled
        (Int.ofNat_lt.mpr (traversed.short_lt positive)) totals
        (by rw [← visited, length]; exact Int.zero_add _) (Int.natCast_nonneg count)
        (fun unknown => absurd unknown (lt_irrefl 0)) climb []

def answer (count : Int) (items : List DeviceViewDTO) : DeviceTurn :=
  ⟨.ok ⟨some true, some 0, some (some count, some items)⟩, false⟩

def device (n : Int64) : DeviceViewDTO := { bareDevice [] with instId := n, deviceId := n }

theorem collectDevices_counted_iff_three :
    collectDevices (.ok ⟨.empty, 2⟩) (some fun _ _ => none)
        [answer 3 [device 1, device 2], answer 3 [device 3]] =
      (⟨[1, 2, 3].filterMap fun n => (toRecord (device n)).toOption, [3, 3]⟩, .ok ()) ∧
    ((∃ count, Counted 2 [answer 3 [device 1, device 2], answer 3 [device 3]]
        ⟨[1, 2, 3].filterMap fun n => (toRecord (device n)).toOption, [3, 3]⟩ count) ↔
      ∃ count, EndsAtCount 2 [answer 3 [device 1, device 2], answer 3 [device 3]] count) := by
  have ok : collectDevices (.ok ⟨.empty, 2⟩) (some fun _ _ => none)
        [answer 3 [device 1, device 2], answer 3 [device 3]] =
      (⟨[1, 2, 3].filterMap fun n => (toRecord (device n)).toOption, [3, 3]⟩, .ok ()) := by
    decide +kernel
  exact ⟨ok, collectDevices_counted_iff (by decide) ok⟩

/-- A page that is cut short ends the traversal without an error. -/
theorem collectDevices_truncated : ¬∀ (cfg : CmdbConfig) (visit : Visitor) (turns : List DeviceTurn)
    (traversal : Traversal), 0 < cfg.pageSize →
    collectDevices (.ok cfg) (some visit) turns = (traversal, .ok ()) →
      ∃ count, Counted cfg.pageSize turns traversal count := by
  intro counted
  have ok : collectDevices (.ok ⟨.empty, 2⟩) (some fun _ _ => none) [answer 5 [device 1]] =
      (⟨[1].filterMap fun n => (toRecord (device n)).toOption, [5]⟩, .ok ()) := by
    decide +kernel
  obtain ⟨count, counts, visited, -, -⟩ := counted ⟨.empty, 2⟩ _ _ _ (by decide) ok
  have five : (5 : Int) = count := counts 5 List.mem_cons_self
  have one : 1 = count := visited
  omega

end UnifiedInfraTopology.Cmdb
