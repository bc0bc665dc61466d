import UnifiedInfraTopology.Lib.GoString
import UnifiedInfraTopology.Lib.Sha256
import UnifiedInfraTopology.Repository.Cursor
import UnifiedInfraTopology.Model.Topology
import Mathlib.Data.Prod.Lex
import Mathlib.Data.List.Pairwise

/-!
# Pages of records

The records a source delivers, and the pure checks of `sync_worker.go` on them: the order of the
pages and of the records in a page (`validateEntityPage`), the identities (`addEntityIdentities`) and
the byte stream that is digested (`writeEntityIdentityDigest`).

* `PagesRead`: a sequence of pages, each accepted after the one before.
* `PagesRead.ascending`: the keys of all records increase strictly, across pages.
* `PagesRead.offset`: the offset counts the records.
* `addEntityIdentities_some`: accepted identities are trimmed, not empty and pairwise distinct.
-/

namespace UnifiedInfraTopology

open Lib

structure EntityRecord where
  partition : Int64
  sourceInstanceId : Int64
  identity : String
  ownerDeviceSN : String
  properties : Properties
deriving DecidableEq

structure EntityPage where
  records : List EntityRecord
  nextOffset : Int
  total : Int
  done : Bool
deriving DecidableEq

structure DeviceRecord where
  sourceInstanceId : Int64
  deviceSN : String
  name : String
  parentTypeId : Int64
  deviceTypeId : Int64
  role : String
  allIPs : List String
deriving DecidableEq

structure DevicePage where
  records : List DeviceRecord
  nextOffset : Int
  total : Int
  done : Bool
deriving DecidableEq

/-- `deviceProperties`. -/
def deviceProperties (record : DeviceRecord) : Properties :=
  let base : Properties := ⟨[("name", .string record.name), ("role", .string record.role),
    ("all_ips", .strings record.allIPs)], by simp⟩
  let parented :=
    if 0 < record.parentTypeId then base.put ("parent_type_id", .signed record.parentTypeId)
    else base
  if 0 < record.deviceTypeId then parented.put ("device_type_id", .signed record.deviceTypeId)
  else parented

/-- The page of entities that `collectEntityPage` makes of a page of devices. -/
def entityPageOfDevices (page : DevicePage) : EntityPage where
  records := page.records.map fun record =>
    ⟨0, record.sourceInstanceId, record.deviceSN, "", deviceProperties record⟩
  nextOffset := page.nextOffset
  total := page.total
  done := page.done

/-! ## The order of records -/

/-- The loop of `validateEntityPage` over the records of a page whose first record is in `first`. -/
def validateRecords (entity : EntityType) (first : Int64) :
    List EntityRecord → Int64 → Int64 → Option Int64
  | [], lastInstanceId, _ => some lastInstanceId
  | r :: records, lastInstanceId, lastPartition =>
      if entity = .interface then
        if r.partition ≤ 0 ∨ r.partition ≠ first ∨ r.partition < lastPartition then none
        else if lastPartition < r.partition then
          if r.sourceInstanceId ≤ 0 then none
          else validateRecords entity first records r.sourceInstanceId r.partition
        else if r.sourceInstanceId ≤ lastInstanceId then none
        else validateRecords entity first records r.sourceInstanceId lastPartition
      else if r.partition ≠ 0 then none
      else if r.sourceInstanceId ≤ lastInstanceId then none
      else validateRecords entity first records r.sourceInstanceId lastPartition

/-- The partition of the first record of a page. -/
def EntityPage.partition? (page : EntityPage) : Option Int64 := page.records.head?.map (·.partition)

/-- `validateEntityPage`: the instance ID of the last record. -/
def validateEntityPage (cursor : DeviceSyncCursor) (page : EntityPage) (entity : EntityType) :
    Option Int64 :=
  if page.total < 0 ∨ page.nextOffset ≠ cursor.nextOffset + page.records.length ∨
      page.total < page.nextOffset then
    none
  else if 0 < cursor.total ∧ page.total ≠ cursor.total then none
  else if page.done ≠ decide (page.total ≤ page.nextOffset) then none
  else validateRecords entity (page.partition?.getD 0) page.records cursor.lastInstanceId
    cursor.lastPartition

/-! ## Identities and digests -/

/-- `addEntityIdentities`: the identities seen so far, unless one is blank, padded or repeated. -/
def addEntityIdentities : List String → List EntityRecord → Option (List String)
  | seen, [] => some seen
  | seen, r :: records =>
      if trimSpace r.identity = "" ∨ trimSpace r.identity ≠ r.identity then none
      else if trimSpace r.identity ∈ seen then none
      else addEntityIdentities (trimSpace r.identity :: seen) records

/-- `binary.BigEndian.PutUint64` of an `int64`. -/
def bigEndian64 (n : Int64) : List UInt8 :=
  (List.range 8).map fun i => (n.toUInt64 >>> (UInt64.ofNat (8 * (7 - i)))).toUInt8

/-- What `writeEntityIdentityDigest` writes for one record. -/
def recordDigest (r : EntityRecord) : List UInt8 :=
  (if 0 < r.partition then bigEndian64 r.partition else []) ++ bigEndian64 r.sourceInstanceId ++
    utf8 r.identity ++ [0] ++ (if 0 < r.partition then utf8 r.ownerDeviceSN ++ [0] else [])

/-- `writeEntityIdentityDigest`: the bytes written for a page. -/
def entityIdentityDigest (records : List EntityRecord) : List UInt8 := records.flatMap recordDigest

theorem addEntityIdentities_some {seen seen' : List String} {records : List EntityRecord}
    (added : addEntityIdentities seen records = some seen') :
    seen' = (records.map (·.identity)).reverse ++ seen ∧
      (∀ r ∈ records, r.identity ≠ "" ∧ trimSpace r.identity = r.identity) ∧
      (seen.Nodup → seen'.Nodup) := by
  induction records generalizing seen with
  | nil =>
      cases added
      exact ⟨rfl, nofun, id⟩
  | cons r records ih =>
      rw [addEntityIdentities] at added
      split at added
      · cases added
      · rename_i proper
        simp only [not_or, not_not] at proper
        obtain ⟨filled, trimmed⟩ := proper
        rw [trimmed] at added filled
        split at added
        · cases added
        · rename_i fresh
          obtain ⟨rfl, rest, distinct⟩ := ih added
          refine ⟨by simp, ?_, fun nodup => distinct (List.nodup_cons.mpr ⟨fresh, nodup⟩)⟩
          intro r' member
          rcases List.mem_cons.mp member with rfl | later
          · exact ⟨filled, trimmed⟩
          · exact rest r' later

theorem addEntityIdentities_append {seen : List String} {first second : List EntityRecord} :
    addEntityIdentities seen (first ++ second) =
      (addEntityIdentities seen first).bind fun seen => addEntityIdentities seen second := by
  induction first generalizing seen with
  | nil => rfl
  | cons r first ih =>
      simp only [List.cons_append, addEntityIdentities]
      split
      · rfl
      · split
        · rfl
        · exact ih

/-! ## Keys -/

/-- A list that climbs strictly from one element to another. -/
inductive Ascending {α : Type} [LT α] : α → List α → α → Prop where
  | nil (a : α) : Ascending a [] a
  | cons {a b c : α} {l : List α} (step : a < b) (rest : Ascending b l c) : Ascending a (b :: l) c

theorem Ascending.append {α : Type} [LT α] {a b c : α} {l l' : List α} (first : Ascending a l b)
    (second : Ascending b l' c) : Ascending a (l ++ l') c := by
  induction first with
  | nil => exact second
  | cons step rest ih => exact .cons step (ih second)

theorem Ascending.pairwise {α : Type} [LT α] [IsTrans α (· < ·)] {a b : α} {l : List α}
    (ascending : Ascending a l b) : (∀ x ∈ l, a < x) ∧ l.Pairwise (· < ·) := by
  induction ascending with
  | nil => exact ⟨nofun, .nil⟩
  | cons step rest ih =>
      refine ⟨fun x member => ?_, List.pairwise_cons.mpr ih⟩
      rcases List.mem_cons.mp member with rfl | later
      · exact step
      · exact IsTrans.trans _ _ _ step (ih.1 x later)

theorem Ascending.lt {α : Type} [Preorder α] {a b : α} {l : List α} (ascending : Ascending a l b)
    (filled : l ≠ []) : a < b := by
  induction ascending with
  | nil => exact (filled rfl).elim
  | @cons a b c l step rest ih =>
      cases l with
      | nil =>
          cases rest
          exact step
      | cons x l => exact step.trans (ih (List.cons_ne_nil x l))

theorem ascending_of_pairwise {α : Type} [LT α] {a : α} {l : List α}
    (climbs : (a :: l).Pairwise (· < ·)) : ∃ e, Ascending a l e := by
  induction l generalizing a with
  | nil => exact ⟨a, .nil a⟩
  | cons b l ih =>
      obtain ⟨first, rest⟩ := List.pairwise_cons.mp climbs
      obtain ⟨e, ascending⟩ := ih rest
      exact ⟨e, .cons (first b List.mem_cons_self) ascending⟩

theorem Ascending.split {α : Type} [LT α] {a e : α} {l l' : List α}
    (ascending : Ascending a (l ++ l') e) : ∃ m, Ascending a l m ∧ Ascending m l' e := by
  induction l generalizing a with
  | nil => exact ⟨a, .nil a, ascending⟩
  | cons b l ih =>
      cases ascending with
      | cons step rest =>
          obtain ⟨m, first, second⟩ := ih rest
          exact ⟨m, .cons step first, second⟩

theorem Ascending.unique {α : Type} [LT α] {a m m' : α} {l : List α} (first : Ascending a l m)
    (second : Ascending a l m') : m = m' := by
  induction first with
  | nil => cases second; rfl
  | cons step rest ih =>
      cases second with
      | cons step' rest' => exact ih rest'

/-- The key of a record: its partition, then its instance ID. -/
def EntityRecord.key (r : EntityRecord) : Int ×ₗ Int :=
  toLex (r.partition.toInt, r.sourceInstanceId.toInt)

/-- The key that the next record must exceed. -/
def position (entity : EntityType) (lastInstanceId lastPartition : Int64) : Int ×ₗ Int :=
  toLex (if entity = .interface then lastPartition.toInt else 0, lastInstanceId.toInt)

/-- The records of a page climb from the position of the cursor to the position after the page. -/
theorem validateRecords_ascending {entity : EntityType}
    {first lastInstanceId lastPartition last : Int64} {records : List EntityRecord}
    (accepted : validateRecords entity first records lastInstanceId lastPartition = some last) :
    Ascending (position entity lastInstanceId lastPartition) (records.map (·.key))
      (position entity last (if records = [] then lastPartition else first)) := by
  induction records generalizing lastInstanceId lastPartition with
  | nil =>
      cases accepted
      exact .nil _
  | cons r records ih =>
      rw [validateRecords] at accepted
      simp only [List.map_cons, reduceCtorEq, ↓reduceIte]
      split at accepted
      · rename_i ports
        subst ports
        split at accepted
        · cases accepted
        · rename_i ordered
          simp only [not_or, not_not] at ordered
          obtain ⟨-, rfl, later⟩ := ordered
          split at accepted
          · rename_i greater
            split at accepted
            · cases accepted
            · have rest := ih accepted
              rw [ite_self] at rest
              refine .cons (Prod.Lex.toLex_lt_toLex.mpr (Or.inl ?_)) rest
              exact Int64.lt_iff_toInt_lt.mp greater
          · rename_i equal
            split at accepted
            · cases accepted
            · rename_i advances
              have same : lastPartition = r.partition := by
                rw [Int64.not_lt] at equal later
                exact Int64.le_antisymm later equal
              subst same
              have rest := ih accepted
              rw [ite_self] at rest
              refine .cons (Prod.Lex.toLex_lt_toLex.mpr (Or.inr ⟨rfl, ?_⟩)) rest
              exact Int64.lt_iff_toInt_lt.mp (Int64.not_le.mp advances)
      · rename_i others
        split at accepted
        · cases accepted
        · rename_i unpartitioned
          rw [not_not] at unpartitioned
          split at accepted
          · cases accepted
          · rename_i advances
            have rest := ih accepted
            simp only [position, others, ↓reduceIte] at rest ⊢
            refine .cons (Prod.Lex.toLex_lt_toLex.mpr (Or.inr ⟨?_, ?_⟩)) ?_
            · simp [unpartitioned]
            · exact Int64.lt_iff_toInt_lt.mp (Int64.not_le.mp advances)
            · simpa [EntityRecord.key, unpartitioned] using rest

/-- Records of one partition that climb from a position are accepted. -/
theorem validateRecords_of_ascending {first lastInstanceId lastPartition : Int64} {e : Int ×ₗ Int}
    {records : List EntityRecord}
    (placed : ∀ r ∈ records, r.partition = first ∧ 0 < r.partition ∧ 0 < r.sourceInstanceId)
    (ascending : Ascending (position .interface lastInstanceId lastPartition)
      (records.map (·.key)) e) :
    ∃ last, validateRecords .interface first records lastInstanceId lastPartition = some last := by
  induction records generalizing lastInstanceId lastPartition with
  | nil => exact ⟨lastInstanceId, rfl⟩
  | cons r records ih =>
      obtain ⟨rfl, positive, named⟩ := placed r List.mem_cons_self
      have later : ∀ other ∈ records, other.partition = r.partition ∧ 0 < other.partition ∧
          0 < other.sourceInstanceId := fun other member => placed other (by simp [member])
      rw [List.map_cons] at ascending
      cases ascending with
      | cons step rest =>
          have next : Ascending (position .interface r.sourceInstanceId r.partition)
              (records.map (·.key)) e := rest
          rcases Prod.Lex.toLex_lt_toLex.mp step with further | ⟨same, further⟩
          · have further : lastPartition < r.partition := Int64.lt_iff_toInt_lt.mpr further
            obtain ⟨last, accepted⟩ := ih later next
            refine ⟨last, ?_⟩
            rw [validateRecords, if_pos rfl, if_neg, if_pos further, if_neg, accepted]
            · exact Int64.not_le.mpr named
            · rw [not_or, not_or, not_not]
              exact ⟨Int64.not_le.mpr positive, rfl, Int64.not_lt.mpr (Int64.le_of_lt further)⟩
          · have same : lastPartition = r.partition := Int64.toInt_inj.mp same
            have greater : lastInstanceId < r.sourceInstanceId := Int64.lt_iff_toInt_lt.mpr further
            subst same
            obtain ⟨last, accepted⟩ := ih later next
            refine ⟨last, ?_⟩
            rw [validateRecords, if_pos rfl, if_neg, if_neg (Int64.lt_irrefl), if_neg, accepted]
            · exact Int64.not_le.mpr greater
            · rw [not_or, not_or, not_not]
              exact ⟨Int64.not_le.mpr positive, rfl, Int64.lt_irrefl⟩

/-- The partitions of accepted records: positive for interfaces, zero otherwise. -/
def Partitioned (entity : EntityType) (r : EntityRecord) : Prop :=
  if entity = .interface then 0 < r.partition else r.partition = 0

theorem validateRecords_partitioned {entity : EntityType}
    {first lastInstanceId lastPartition last : Int64} {records : List EntityRecord}
    (accepted : validateRecords entity first records lastInstanceId lastPartition = some last) :
    ∀ r ∈ records, Partitioned entity r := by
  induction records generalizing lastInstanceId lastPartition with
  | nil => nofun
  | cons r records ih =>
      have both : Partitioned entity r ∧ ∃ lastInstanceId lastPartition,
          validateRecords entity first records lastInstanceId lastPartition = some last := by
        unfold Partitioned
        rw [validateRecords] at accepted
        split_ifs at accepted with ports ordered
        · rw [if_pos ports]
          exact ⟨Int64.not_le.mp fun low => ordered (Or.inl low), _, _, accepted⟩
        · rw [if_pos ports]
          exact ⟨Int64.not_le.mp fun low => ordered (Or.inl low), _, _, accepted⟩
        · rename_i unplaced _
          rw [if_neg ports]
          exact ⟨not_not.mp unplaced, _, _, accepted⟩
      obtain ⟨here, _, _, later⟩ := both
      intro r' inside
      rcases List.mem_cons.mp inside with rfl | inside
      · exact here
      · exact ih later r' inside

/-- Accepted interfaces have the partition of the page. -/
theorem validateRecords_placed {first lastInstanceId lastPartition last : Int64}
    {records : List EntityRecord}
    (accepted : validateRecords .interface first records lastInstanceId lastPartition = some last) :
    ∀ r ∈ records, r.partition = first := by
  induction records generalizing lastInstanceId lastPartition with
  | nil => nofun
  | cons r records ih =>
      have both : r.partition = first ∧ ∃ lastInstanceId lastPartition,
          validateRecords .interface first records lastInstanceId lastPartition = some last := by
        rw [validateRecords, if_pos rfl] at accepted
        split_ifs at accepted with ordered
        · exact ⟨not_not.mp fun apart => ordered (Or.inr (Or.inl apart)), _, _, accepted⟩
        · exact ⟨not_not.mp fun apart => ordered (Or.inr (Or.inl apart)), _, _, accepted⟩
      obtain ⟨here, _, _, later⟩ := both
      intro r' inside
      rcases List.mem_cons.mp inside with rfl | inside
      · exact here
      · exact ih later r' inside

theorem validateEntityPage_placed {cursor : DeviceSyncCursor} {page : EntityPage} {last : Int64}
    (accepted : validateEntityPage cursor page .interface = some last) :
    ∀ r ∈ page.records, r.partition = page.partition?.getD 0 := by
  unfold validateEntityPage at accepted
  split_ifs at accepted
  exact validateRecords_placed accepted

/-- The instance ID after a page is positive, unless the page is empty. -/
theorem validateRecords_last {entity : EntityType}
    {first lastInstanceId lastPartition last : Int64} {records : List EntityRecord}
    (accepted : validateRecords entity first records lastInstanceId lastPartition = some last)
    (signed : 0 ≤ lastInstanceId) : 0 ≤ last ∧ (records ≠ [] → 0 < last) := by
  induction records generalizing lastInstanceId lastPartition with
  | nil =>
      cases accepted
      exact ⟨signed, fun filled => (filled rfl).elim⟩
  | cons r records ih =>
      have positive : 0 < r.sourceInstanceId ∧ ∃ lastPartition,
          validateRecords entity first records r.sourceInstanceId lastPartition = some last := by
        rw [validateRecords] at accepted
        split_ifs at accepted with ports ordered greater low advances unplaced advances
        · exact ⟨Int64.not_le.mp low, _, accepted⟩
        · exact ⟨Int64.lt_of_le_of_lt signed (Int64.not_le.mp advances), _, accepted⟩
        · exact ⟨Int64.lt_of_le_of_lt signed (Int64.not_le.mp advances), _, accepted⟩
      obtain ⟨here, _, later⟩ := positive
      cases records with
      | nil =>
          cases later
          exact ⟨Int64.le_of_lt here, fun _ => here⟩
      | cons r' records =>
          have rest := ih later (Int64.le_of_lt here)
          exact ⟨rest.1, fun _ => rest.2 (List.cons_ne_nil _ _)⟩

/-! ## Sequences of pages -/

/-- The records of some pages. -/
def allRecords (pages : List EntityPage) : List EntityRecord := pages.flatMap (·.records)

@[simp] theorem allRecords_nil : allRecords [] = [] := rfl

theorem allRecords_snoc (pages : List EntityPage) (page : EntityPage) :
    allRecords (pages ++ [page]) = allRecords pages ++ page.records := by
  simp [allRecords]

/-- A sequence of pages, each accepted with the cursor that the earlier ones lead to. -/
inductive PagesRead (entity : EntityType)
    (next : DeviceSyncCursor → EntityPage → Int64 → DeviceSyncCursor) :
    DeviceSyncCursor → List EntityPage → DeviceSyncCursor → Prop where
  | nil (cursor : DeviceSyncCursor) : PagesRead entity next cursor [] cursor
  | snoc {start cursor : DeviceSyncCursor} {pages : List EntityPage} {page : EntityPage}
      {last : Int64} (before : PagesRead entity next start pages cursor)
      (accepted : validateEntityPage cursor page entity = some last) :
      PagesRead entity next start (pages ++ [page]) (next cursor page last)

/-- An update of the cursor that follows the accepted page. -/
def Follows (entity : EntityType)
    (next : DeviceSyncCursor → EntityPage → Int64 → DeviceSyncCursor) : Prop :=
  ∀ cursor page last, validateEntityPage cursor page entity = some last →
    (next cursor page last).nextOffset = page.nextOffset ∧
      (next cursor page last).lastInstanceId = last ∧
      (next cursor page last).lastPartition = page.partition?.getD cursor.lastPartition

/-- What an accepted page satisfies. -/
theorem validateEntityPage_some {cursor : DeviceSyncCursor} {page : EntityPage}
    {entity : EntityType} {last : Int64} (accepted : validateEntityPage cursor page entity = some last) :
    0 ≤ page.total ∧ page.nextOffset = cursor.nextOffset + page.records.length ∧
      page.nextOffset ≤ page.total ∧ (0 < cursor.total → page.total = cursor.total) ∧
      page.done = decide (page.total ≤ page.nextOffset) ∧
      validateRecords entity (page.partition?.getD 0) page.records cursor.lastInstanceId
        cursor.lastPartition = some last := by
  unfold validateEntityPage at accepted
  split at accepted
  · cases accepted
  · rename_i bounds
    split at accepted
    · cases accepted
    · rename_i total
      split at accepted
      · cases accepted
      · rename_i done
        simp only [not_or, not_lt, not_not] at bounds done
        refine ⟨bounds.1, bounds.2.1, bounds.2.2, fun positive => ?_, done, accepted⟩
        by_contra apart
        exact total ⟨positive, apart⟩

namespace PagesRead

variable {entity : EntityType} {next : DeviceSyncCursor → EntityPage → Int64 → DeviceSyncCursor}
  {start cursor : DeviceSyncCursor} {pages : List EntityPage}

/-- The offset counts the records. -/
theorem offset (follows : Follows entity next) (read : PagesRead entity next start pages cursor) :
    cursor.nextOffset = start.nextOffset + (allRecords pages).length := by
  induction read with
  | nil => simp
  | snoc before accepted ih =>
      rw [(follows _ _ _ accepted).1, (validateEntityPage_some accepted).2.1, ih, allRecords_snoc,
        List.length_append]
      omega

/-- The keys of all records climb from the position of one cursor to that of the other. -/
theorem ascending (follows : Follows entity next) (read : PagesRead entity next start pages cursor) :
    Ascending (position entity start.lastInstanceId start.lastPartition)
      ((allRecords pages).map (·.key))
      (position entity cursor.lastInstanceId cursor.lastPartition) := by
  induction read with
  | nil => exact .nil _
  | @snoc cursor pages page last before accepted ih =>
      obtain ⟨-, instance_eq, partition_eq⟩ := follows _ _ _ accepted
      have climbed := validateRecords_ascending (validateEntityPage_some accepted).2.2.2.2.2
      rw [instance_eq, partition_eq, allRecords_snoc, List.map_append]
      refine ih.append ?_
      cases shape : page.records with
      | nil => simpa [EntityPage.partition?, shape] using climbed
      | cons r records => simpa [EntityPage.partition?, shape] using climbed

end PagesRead

end UnifiedInfraTopology
