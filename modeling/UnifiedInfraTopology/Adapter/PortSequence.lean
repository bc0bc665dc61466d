import UnifiedInfraTopology.Adapter.InterfacePass

/-!
# The ports of a pass as one sequence

A CMDB that answers every request exactly from contents that do not change.  `Opened` is what
`OpenEntityPass` leaves: the selected devices in the order of their instance IDs, each with the
number of its ports and its place in the sequence.  `page_spec` says that a page is a non-empty part
of the sequence from its offset on, within one device; `interfacePass_complete` follows the pages
from the start to the end, and through the checks of the worker.
-/

namespace UnifiedInfraTopology

open Lib Cmdb

/-! ## Exact answers -/

/-- The contents of a CMDB: what each condition selects, sorted by `inst_id`. -/
structure CmdbContent where
  devices : Condition → List DeviceItem
  ports : Condition → List PortItem
  ordered : ∀ condition, (ports condition).Pairwise fun a b => ∀ r r',
    cmdbInterfaceRecord a = .ok r → cmdbInterfaceRecord b = .ok r' →
      r.sourceInstanceId < r'.sourceInstanceId

/-- The answer that honours the start and the limit. -/
def exactAnswer {α : Type} (rows : List α) (start limit : Int) : CmdbResponse α :=
  ⟨some true, some 0, some (some (rows.length : Int),
    some ((rows.drop start.toNat).take limit.toNat))⟩

def CmdbContent.client (content : CmdbContent) : CmdbClient where
  devices condition start limit := .ok (exactAnswer (content.devices condition) start limit)
  ports condition start limit := .ok (exactAnswer (content.ports condition) start limit)

theorem page_exactAnswer {α : Type} (rows : List α) (start limit : Int) :
    (exactAnswer rows start limit).page =
      .ok ((rows.drop start.toNat).take limit.toNat, (rows.length : Int)) := by
  have counted : ¬(rows.length : Int) < 0 := by omega
  simp [CmdbResponse.page, exactAnswer, counted]

namespace InterfacePass

/-- A record as a record of a device. -/
def stamped (device : InterfacePartition) (record : EntityRecord) : EntityRecord :=
  { record with partition := device.deviceInstId, ownerDeviceSN := device.sn }

/-- The items of a device. -/
def items (pass : InterfacePass) (content : CmdbContent) (device : InterfacePartition) :
    List PortItem :=
  content.ports (pass.conditionForSN device.sn)

/-- The ports of a device. -/
def ports (pass : InterfacePass) (content : CmdbContent) (device : InterfacePartition) :
    List EntityRecord :=
  (pass.items content device).filterMap fun item =>
    (cmdbInterfaceRecord item).toOption.map (stamped device)

/-- The ports of all devices. -/
def sequence (pass : InterfacePass) (content : CmdbContent) : List EntityRecord :=
  pass.devices.flatMap (pass.ports content)

/-- No port record is rejected. -/
def Readable (pass : InterfacePass) (content : CmdbContent) : Prop :=
  ∀ device ∈ pass.devices, ∀ item ∈ pass.items content device,
    ∃ record, cmdbInterfaceRecord item = .ok record

/-- The partitions follow each other from one offset to another. -/
inductive Consecutive : Int → List InterfacePartition → Int → Prop where
  | nil (a : Int) : Consecutive a [] a
  | cons {device : InterfacePartition} {devices : List InterfacePartition} {b : Int}
      (rest : Consecutive (device.baseOffset + device.total) devices b) :
      Consecutive device.baseOffset (device :: devices) b

/-- What `OpenEntityPass` leaves. -/
structure Opened (pass : InterfacePass) (content : CmdbContent) : Prop where
  consecutive : Consecutive 0 pass.devices pass.total
  counted : ∀ device ∈ pass.devices, device.total = ((pass.items content device).length : Int)
  climbs : (pass.devices.map (·.deviceInstId)).Pairwise (· < ·)
  positive : ∀ device ∈ pass.devices, 0 < device.deviceInstId

/-! ## Discovery -/

section

variable {content : CmdbContent} {condition : Condition} {selected : String}

theorem Consecutive.snoc {a b : Int} {devices : List InterfacePartition}
    (before : Consecutive a devices b) (instId : Int64) (sn : String) (total : Int) :
    Consecutive a (devices ++ [⟨instId, sn, total, b⟩]) (b + total) := by
  induction before with
  | nil a => exact @Consecutive.cons ⟨instId, sn, total, a⟩ [] _ (.nil _)
  | cons rest ih => exact .cons ih

/-- The count of a page is that of all items. -/
theorem total_of_collect {pageSize start : Int} {page : EntityPage}
    (ok : Cmdb.collectEntityPage content.client pageSize condition start = .ok page) :
    page.total = ((content.ports condition).length : Int) := by
  simp only [Cmdb.collectEntityPage, CmdbContent.client, page_exactAnswer] at ok
  split_ifs at ok
  split at ok
  · cases ok
  · cases ok
    rfl

/-- The state of the discovery after some devices. -/
structure Discovered (content : CmdbContent) (cfg : CmdbConfig) (condition : Condition)
    (selected : String) (seen : List DeviceItem) (d : Discovery) : Prop where
  kept : d.pass.cfg = cfg ∧ d.pass.condition = condition
  consecutive : Consecutive 0 d.pass.devices d.pass.total
  counted : ∀ device ∈ d.pass.devices,
    device.total = ((d.pass.items content device).length : Int)
  listed : d.pass.devices.map (fun device => (device.deviceInstId, device.sn)) =
    (seen.filter (selects selected)).map fun item => (item.instId, trimSpace item.deviceSN)
  last : ∀ item ∈ seen, item.instId ≤ d.lastInstId
  climbs : (seen.map (·.instId)).Pairwise (· < ·)
  positive : ∀ item ∈ seen, 0 < item.instId
  named : d.seenSN = (seen.map fun item => trimSpace item.deviceSN).reverse ∧ d.seenSN.Nodup

variable {cfg : CmdbConfig} {seen : List DeviceItem} {d d' : Discovery}

theorem discovered_nothing :
    Discovered content cfg condition selected [] ⟨⟨cfg, condition, [], 0⟩, [], 0⟩ := by
  refine ⟨⟨rfl, rfl⟩, .nil 0, ?_, rfl, ?_, .nil, ?_, rfl, .nil⟩
  all_goals
    intro x member
    cases member

theorem discovered_device {device : DeviceItem}
    (before : Discovered content cfg condition selected seen d)
    (ok : discoverDevice content.client selected d device = .ok d') :
    Discovered content cfg condition selected (seen ++ [device]) d' := by
  unfold discoverDevice at ok
  dsimp only at ok
  split at ok
  · cases ok
  · rename_i proper
    simp only [not_or] at proper
    split at ok
    · cases ok
    · rename_i ahead
      split at ok
      · cases ok
      · rename_i fresh
        have ahead : d.lastInstId < device.instId := Int64.not_le.mp ahead
        have last : ∀ item ∈ seen ++ [device], item.instId ≤ device.instId := by
          intro item member
          rcases List.mem_append.mp member with old | new
          · exact Int64.le_trans (before.last item old) (Int64.le_of_lt ahead)
          · rw [List.mem_singleton.mp new]
            exact Int64.le_refl _
        have climbs : ((seen ++ [device]).map (·.instId)).Pairwise (· < ·) := by
          rw [List.map_append, List.pairwise_append]
          refine ⟨before.climbs, by simp, ?_⟩
          intro a left b right
          obtain ⟨item, member, rfl⟩ := List.mem_map.mp left
          simp only [List.map_cons, List.map_nil, List.mem_singleton] at right
          rw [right]
          exact Int64.lt_of_le_of_lt (before.last item member) ahead
        have positive : ∀ item ∈ seen ++ [device], 0 < item.instId := by
          intro item member
          rcases List.mem_append.mp member with old | new
          · exact before.positive item old
          · rw [List.mem_singleton.mp new]
            exact Int64.not_le.mp proper.2.1
        have named : trimSpace device.deviceSN :: d.seenSN =
              ((seen ++ [device]).map fun item => trimSpace item.deviceSN).reverse ∧
            (trimSpace device.deviceSN :: d.seenSN).Nodup :=
          ⟨by simp [before.named.1], List.nodup_cons.mpr ⟨fresh, before.named.2⟩⟩
        split at ok
        · rename_i skipped
          cases ok
          refine ⟨before.kept, before.consecutive, before.counted, ?_, last, climbs, positive, named⟩
          rw [List.filter_append, List.map_append, ← before.listed]
          simp [skipped]
        · rename_i chosen
          rw [not_not] at chosen
          split at ok
          · cases ok
          · rename_i ports collected
            split_ifs at ok
            cases ok
            refine ⟨before.kept, before.consecutive.snoc _ _ _, ?_, ?_, last, climbs, positive, named⟩
            · intro partition member
              rcases List.mem_append.mp member with old | new
              · exact before.counted partition old
              · rw [List.mem_singleton.mp new]
                exact total_of_collect collected
            · rw [List.filter_append, List.map_append, List.map_append, ← before.listed]
              simp [chosen]

theorem discovered_page {devices : List DeviceItem}
    (before : Discovered content cfg condition selected seen d)
    (ok : devices.foldlM (discoverDevice content.client selected) d = .ok d') :
    Discovered content cfg condition selected (seen ++ devices) d' := by
  induction devices generalizing seen d with
  | nil =>
      cases ok
      rwa [List.append_nil]
  | cons device devices ih =>
      rw [List.foldlM_cons] at ok
      cases here : discoverDevice content.client selected d device with
      | error e =>
          rw [here] at ok
          cases ok
      | ok next =>
          rw [here] at ok
          have rest := ih (discovered_device before here) ok
          rwa [List.append_assoc] at rest

theorem collectDevice_exact (discoveryCfg : CmdbConfig) (start : Nat) :
    Cmdb.collectDevicePageWithFields content.client discoveryCfg start =
      .ok (((content.devices discoveryCfg.deviceCondition).drop start).take
        discoveryCfg.pageSize.toNat,
        ((content.devices discoveryCfg.deviceCondition).length : Int)) := by
  simp [Cmdb.collectDevicePageWithFields, CmdbContent.client, page_exactAnswer]

/-- The loop has seen all devices when it ends. -/
theorem discovered_all {discoveryCfg : CmdbConfig} {fuel start : Nat} {discoveryTotal : Int}
    (before : Discovered content cfg condition selected
      ((content.devices discoveryCfg.deviceCondition).take start) d)
    (ok : discover content.client discoveryCfg selected fuel start discoveryTotal d = .ok d') :
    Discovered content cfg condition selected (content.devices discoveryCfg.deviceCondition) d' := by
  induction fuel generalizing start discoveryTotal d with
  | zero => cases ok
  | succ fuel ih =>
      rw [discover, collectDevice_exact] at ok
      dsimp only at ok
      generalize content.devices discoveryCfg.deviceCondition = devices at before ok ih ⊢
      generalize (if discoveryTotal < 0 then (devices.length : Int) else discoveryTotal) = known
        at ok
      split at ok
      · cases ok
      · split at ok
        · cases ok
        · split at ok
          · cases ok
          · rename_i next folded
            have seen := discovered_page before folded
            rw [← List.take_add] at seen
            split at ok
            · rename_i finished
              cases ok
              rwa [List.take_of_length_le] at seen
              simp only [List.length_take, List.length_drop] at finished
              omega
            · have same : devices.take (start + ((devices.drop start).take
                  discoveryCfg.pageSize.toNat).length) =
                  devices.take (start + discoveryCfg.pageSize.toNat) := by
                rw [List.take_eq_take_iff]
                simp only [List.length_take, List.length_drop]
                omega
              rw [← same] at seen
              exact ih seen (by exact_mod_cast ok)

/-- **Opening a pass** against exact answers. -/
theorem opened_of_open {fuel : Nat} {config : Except CmdbError CmdbConfig}
    {configured : Except CmdbError Condition} {entity : EntityType} {pass : InterfacePass}
    (ok : openEntityPass fuel content.client (.ok ()) config configured entity = .ok pass) :
    Opened pass content ∧ ∃ value selected, configured = .ok value ∧ config = .ok pass.cfg ∧
      interfaceCondition value = .ok (pass.condition, selected) ∧
      pass.devices.map (fun device => (device.deviceInstId, device.sn)) =
        ((content.devices (discoveryCondition pass.condition selected)).filter
          (selects selected)).map (fun item => (item.instId, trimSpace item.deviceSN)) ∧
      (pass.devices.map (·.sn)).Nodup := by
  unfold openEntityPass at ok
  split at ok
  · cases ok
  · split at ok
    · cases ok
    · cases ok
    · cases ok
    · rename_i cfg value live
      split at ok
      · cases ok
      · rename_i condition selected conditioned
        dsimp only at ok
        split at ok
        · cases ok
        · rename_i d discovered
          cases ok
          have seen : Discovered content cfg condition selected
              (content.devices (discoveryCondition condition selected)) d :=
            discovered_all (discovered_nothing : Discovered content cfg condition selected
              ((content.devices (discoveryCondition condition selected)).take 0) _) discovered
          obtain ⟨⟨rfl, rfl⟩, consecutive, counted, listed, -, climbs, positive, named, distinct⟩ :=
            seen
          have ids : d.pass.devices.map (·.deviceInstId) = ((content.devices
              (discoveryCondition d.pass.condition selected)).filter (selects selected)).map
              (·.instId) := by
            have := congrArg (List.map Prod.fst) listed
            simpa only [List.map_map, Function.comp_def] using this
          have names : d.pass.devices.map (·.sn) = ((content.devices
              (discoveryCondition d.pass.condition selected)).filter (selects selected)).map
              fun item => trimSpace item.deviceSN := by
            have := congrArg (List.map Prod.snd) listed
            simpa only [List.map_map, Function.comp_def] using this
          refine ⟨⟨consecutive, counted, ?_, fun device member => ?_⟩, value, selected, rfl, rfl,
            conditioned, listed, ?_⟩
          · rw [ids]
            exact climbs.sublist (List.filter_sublist.map _)
          · have member := List.mem_map_of_mem (f := InterfacePartition.deviceInstId) member
            rw [ids] at member
            obtain ⟨item, inside, same⟩ := List.mem_map.mp member
            rw [← same]
            exact positive item (List.mem_of_mem_filter inside)
          · rw [names]
            rw [named, List.nodup_reverse] at distinct
            exact distinct.sublist (List.filter_sublist.map _)

/-! ## One page of a device -/

/-- Items that are all read, with their records. -/
theorem records_of_items {items : List PortItem} (f : EntityRecord → EntityRecord)
    (readable : ∀ item ∈ items, ∃ record, cmdbInterfaceRecord item = .ok record) :
    ∃ records : List EntityRecord, items.map cmdbInterfaceRecord = records.map .ok ∧
      items.filterMap (fun item => (cmdbInterfaceRecord item).toOption.map f) = records.map f := by
  induction items with
  | nil => exact ⟨[], rfl, rfl⟩
  | cons item items ih =>
      obtain ⟨record, read⟩ := readable item List.mem_cons_self
      obtain ⟨records, decoded, mapped⟩ := ih fun item member => readable item (by simp [member])
      refine ⟨record :: records, by simp [read, decoded], ?_⟩
      rw [List.filterMap_cons_some (by rw [read]; rfl), mapped, List.map_cons]

/-- The instance IDs of the records climb from zero. -/
theorem climbs_of_items {items : List PortItem} {records : List EntityRecord}
    (decoded : items.map cmdbInterfaceRecord = records.map .ok)
    (ordered : items.Pairwise fun a b => ∀ r r', cmdbInterfaceRecord a = .ok r →
      cmdbInterfaceRecord b = .ok r' → r.sourceInstanceId < r'.sourceInstanceId) :
    (0 :: records.map (·.sourceInstanceId)).Pairwise (· < ·) := by
  have readings : (items.map cmdbInterfaceRecord).Pairwise fun a b => ∀ r r', a = .ok r →
      b = .ok r' → r.sourceInstanceId < r'.sourceInstanceId := List.pairwise_map.mpr ordered
  rw [decoded, List.pairwise_map] at readings
  refine List.pairwise_cons.mpr ⟨fun n member => ?_, ?_⟩
  · obtain ⟨record, inside, rfl⟩ := List.mem_map.mp member
    have read : (.ok record : Except CmdbError EntityRecord) ∈ items.map cmdbInterfaceRecord := by
      rw [decoded]
      exact List.mem_map_of_mem inside
    obtain ⟨item, -, ok⟩ := List.mem_map.mp read
    exact instanceId_of_record ok
  · exact List.pairwise_map.mpr (readings.imp fun climb => climb _ _ rfl rfl)

/-- A page of ports, answered exactly, that ends within the ports of the condition. -/
theorem collect_exact {records : List EntityRecord} {start n : Nat} (filled : 0 < n)
    (inside : start + n ≤ (content.ports condition).length)
    (decoded : (content.ports condition).map cmdbInterfaceRecord = records.map .ok) :
    ∃ done, Cmdb.collectEntityPage content.client n condition start =
      .ok ⟨(records.drop start).take n, ((start + n : Nat) : Int),
        ((content.ports condition).length : Int), done⟩ := by
  have climbs := climbs_of_items decoded (content.ordered condition)
  have length : (content.ports condition).length = records.length := by
    simpa using congrArg List.length decoded
  simp only [Cmdb.collectEntityPage, CmdbContent.client, page_exactAnswer, Int.toNat_natCast]
  generalize content.ports condition = items at *
  have part : ((items.drop start).take n).map cmdbInterfaceRecord =
      ((records.drop start).take n).map .ok := by
    rw [List.map_take, List.map_drop, decoded, List.map_take, List.map_drop]
  have climbing : (0 :: ((records.drop start).take n).map (·.sourceInstanceId)).Pairwise (· < ·) := by
    refine climbs.sublist (List.Sublist.cons_cons 0 ?_)
    exact ((List.take_sublist n _).trans (List.drop_sublist start _)).map _
  have size : ((items.drop start).take n).length = n := by
    rw [List.length_take, List.length_drop]
    omega
  have full : ((records.drop start).take n).length = n := by
    rw [List.length_take, List.length_drop]
    omega
  have some_ : (items.drop start).take n ≠ [] := by
    intro none_
    rw [none_] at size
    exact filled.ne size
  simp only [size, lt_irrefl, some_, false_and, ↓reduceIte, interfaceRecords_ok part climbing, full,
    decide_false, Bool.false_or, Nat.cast_add]
  exact ⟨_, rfl⟩

/-! ## Finding the device of an offset -/

/-- Partitions without negative totals lie one after the other. -/
theorem Consecutive.ordered {a b : Int} {devices : List InterfacePartition}
    (consecutive : Consecutive a devices b) (totals : ∀ device ∈ devices, 0 ≤ device.total) :
    (∀ device ∈ devices, a ≤ device.baseOffset) ∧
      devices.Pairwise fun x y => x.baseOffset + x.total ≤ y.baseOffset := by
  induction consecutive with
  | nil a =>
      refine ⟨fun device member => ?_, .nil⟩
      cases member
  | @cons device devices b rest ih =>
      obtain ⟨above, later⟩ := ih fun other member => totals other (List.mem_cons_of_mem _ member)
      have size := totals device List.mem_cons_self
      refine ⟨fun other member => ?_, List.pairwise_cons.mpr ⟨above, later⟩⟩
      rcases List.mem_cons.mp member with rfl | inside
      · exact le_rfl
      · have := above other inside
        omega

/-- An offset lies in one of the partitions, whose start is the size of the ones before it. -/
theorem Consecutive.locate {a b start : Int} {devices : List InterfacePartition}
    (consecutive : Consecutive a devices b) (from_ : a ≤ start) (inside : start < b) :
    ∃ before device after, devices = before ++ device :: after ∧ device.baseOffset ≤ start ∧
      start < device.baseOffset + device.total ∧
      device.baseOffset = a + (before.map (·.total)).sum := by
  induction consecutive with
  | nil a => omega
  | @cons device devices b rest ih =>
      by_cases here : start < device.baseOffset + device.total
      · exact ⟨[], device, devices, rfl, from_, here, by simp⟩
      · obtain ⟨before, other, after, rfl, low, high, offset⟩ := ih (by omega) inside
        refine ⟨device :: before, other, after, rfl, low, high, ?_⟩
        rw [offset, List.map_cons, List.sum_cons]
        omega

variable {pass : InterfacePass}

theorem beyond_iff {start : Int} {i : Nat} (inside : i < pass.devices.length) :
    pass.beyond start i = true ↔ start < pass.devices[i].baseOffset + pass.devices[i].total := by
  rw [beyond, List.getElem?_eq_getElem inside, Option.any_some, decide_eq_true_eq]

/-- The binary search finds the device of an offset. -/
theorem indexOf_eq {before after : List InterfacePartition} {device : InterfacePartition}
    {start : Int} (opened : Opened pass content)
    (shape : pass.devices = before ++ device :: after) (low : device.baseOffset ≤ start)
    (high : start < device.baseOffset + device.total) : pass.indexOf start = before.length := by
  have totals : ∀ device ∈ pass.devices, 0 ≤ device.total := by
    intro device member
    rw [opened.counted device member]
    omega
  have ordered := List.pairwise_iff_getElem.mp (opened.consecutive.ordered totals).2
  have upward : Upward pass.devices.length (pass.beyond start) := by
    intro i j earlier inside holds
    rcases Nat.eq_or_lt_of_le earlier with rfl | earlier
    · exact holds
    · have first := ordered i j (by omega) inside earlier
      have size := totals _ (List.getElem_mem inside)
      rw [beyond_iff (by omega)] at holds
      rw [beyond_iff inside]
      omega
  have inside : before.length < pass.devices.length := by
    rw [shape, List.length_append, List.length_cons]
    omega
  have place : pass.devices[before.length] = device := by
    simp [shape]
  have here : pass.beyond start before.length = true := by
    rw [beyond_iff inside, place]
    exact high
  unfold indexOf
  refine Nat.le_antisymm ?_ ?_
  · by_contra late
    rw [search_false upward (Nat.lt_of_not_le late)] at here
    cases here
  · by_contra early
    have bound : search pass.devices.length (pass.beyond start) < pass.devices.length := by omega
    have found := search_true upward (Nat.le_refl _) bound
    have first := ordered _ before.length bound inside (Nat.lt_of_not_le early)
    rw [beyond_iff bound] at found
    rw [place] at first
    omega

/-! ## Pages are parts of the sequence -/

theorem length_ports {device : InterfacePartition} (opened : Opened pass content)
    (readable : Readable pass content) (member : device ∈ pass.devices) :
    ((pass.ports content device).length : Int) = device.total := by
  obtain ⟨records, decoded, mapped⟩ := records_of_items (stamped device) (readable device member)
  rw [opened.counted device member, ports, mapped, List.length_map]
  simpa using (congrArg List.length decoded).symm

theorem length_flatMap_ports {devices : List InterfacePartition} (opened : Opened pass content)
    (readable : Readable pass content) (members : ∀ device ∈ devices, device ∈ pass.devices) :
    ((devices.flatMap (pass.ports content)).length : Int) = (devices.map (·.total)).sum := by
  induction devices with
  | nil => rfl
  | cons device devices ih =>
      rw [List.flatMap_cons, List.length_append, Nat.cast_add,
        length_ports opened readable (members device List.mem_cons_self),
        ih fun other inside => members other (List.mem_cons_of_mem _ inside), List.map_cons,
        List.sum_cons]

/-- The total is the size of the sequence. -/
theorem length_sequence (opened : Opened pass content) (readable : Readable pass content) :
    ((pass.sequence content).length : Int) = pass.total ∧
      pass.total = (pass.devices.map (·.total)).sum := by
  have total : ∀ {a b : Int} {devices : List InterfacePartition}, Consecutive a devices b →
      b = a + (devices.map (·.total)).sum := by
    intro a b devices consecutive
    induction consecutive with
    | nil a => simp
    | cons rest ih =>
        rw [List.map_cons, List.sum_cons, ← Int.add_assoc]
        exact ih
  have sum := total opened.consecutive
  rw [Int.zero_add] at sum
  rw [sequence, length_flatMap_ports opened readable fun device member => member]
  exact ⟨sum.symm, sum⟩

/-- **One page**: a non-empty part of the sequence from the offset on, within one device. -/
theorem page_spec (opened : Opened pass content) (readable : Readable pass content)
    (sized : 1 ≤ pass.cfg.pageSize) {start : Nat}
    (inside : start < (pass.sequence content).length) :
    pass.indexOf start < pass.devices.length ∧ ∃ device ∈ pass.devices, ∃ n, 0 < n ∧
      ((pass.sequence content).drop start).take n ≠ [] ∧
      (∀ r ∈ ((pass.sequence content).drop start).take n,
        r.partition = device.deviceInstId ∧ r.ownerDeviceSN = device.sn) ∧
      start + n ≤ (pass.sequence content).length ∧
      pass.page content.client (.ok ()) start = .ok ⟨((pass.sequence content).drop start).take n,
        ((start + n : Nat) : Int), pass.total, decide (((start + n : Nat) : Int) = pass.total)⟩ := by
  obtain ⟨length, -⟩ := length_sequence opened readable
  obtain ⟨before, device, after, shape, low, high, offset⟩ :=
    opened.consecutive.locate (show 0 ≤ (start : Int) by omega) (by omega)
  have member : device ∈ pass.devices := by
    rw [shape]
    simp
  have earlier : ((before.flatMap (pass.ports content)).length : Int) = device.baseOffset := by
    rw [length_flatMap_ports opened readable fun other inside => by rw [shape]; simp [inside]]
    omega
  have own := length_ports opened readable member
  obtain ⟨k, local_⟩ := Int.eq_ofNat_of_zero_le (show 0 ≤ start - device.baseOffset by omega)
  obtain ⟨n, size⟩ := Int.eq_ofNat_of_zero_le
    (show 0 ≤ min pass.cfg.pageSize (device.total - (k : Int)) by omega)
  have filled : 0 < n := by omega
  have within : k + n ≤ (pass.ports content device).length := by omega
  have part : ((pass.sequence content).drop start).take n =
      ((pass.ports content device).drop k).take n := by
    have place : start = (before.flatMap (pass.ports content)).length + k := by omega
    rw [sequence, shape, List.flatMap_append, List.flatMap_cons, place, List.drop_append,
      List.drop_eq_nil_of_le (by omega), List.nil_append, Nat.add_sub_cancel_left,
      List.drop_append_of_le_length (by omega), List.take_append_of_le_length]
    rw [List.length_drop]
    omega
  have count : (((pass.ports content device).drop k).take n).length = n := by
    rw [List.length_take, List.length_drop]
    omega
  have total : (pass.sequence content).length = (before.flatMap (pass.ports content)).length +
      (pass.ports content device).length + (after.flatMap (pass.ports content)).length := by
    rw [sequence, shape, List.flatMap_append, List.flatMap_cons, List.length_append,
      List.length_append, Nat.add_assoc]
  have index := indexOf_eq opened shape low high
  refine ⟨?_, device, member, n, filled, ?_, ?_, by omega, ?_⟩
  · rw [index, shape, List.length_append, List.length_cons]
    omega
  · rw [part]
    intro none_
    rw [none_] at count
    exact filled.ne count
  · rw [part]
    intro r inside
    obtain ⟨item, -, read⟩ := List.mem_filterMap.mp
      (List.mem_of_mem_drop (List.mem_of_mem_take inside))
    obtain ⟨record, -, rfl⟩ := Option.map_eq_some_iff.mp read
    exact ⟨rfl, rfl⟩
  · obtain ⟨records, decoded, mapped⟩ := records_of_items (stamped device) (readable device member)
    have recorded : pass.ports content device = records.map (stamped device) := mapped
    have bounded : k + n ≤ (pass.items content device).length := by
      have counted := opened.counted device member
      omega
    obtain ⟨done, collected⟩ := collect_exact filled bounded decoded
    have here : pass.devices[pass.indexOf start]? = some device := by
      rw [index, shape, List.getElem?_append_right (Nat.le_refl _), Nat.sub_self]
      rfl
    have read : ((records.drop k).take n).map (stamped device) =
        ((pass.ports content device).drop k).take n := by
      rw [recorded, List.map_take, List.map_drop]
    have stamps : (((records.drop k).take n).length : Int) = n := by
      rw [← List.length_map (f := stamped device), read, count]
    have counted := opened.counted device member
    unfold page
    rw [if_neg (by omega), if_neg (by omega)]
    simp only [here, local_, size]
    rw [collected]
    have covered : ((pass.items content device).length : Int) = device.total := counted.symm
    simp only [items] at covered
    simp only [covered, stamps, ne_eq, not_true_eq_false, ↓reduceIte, part]
    rw [show (fun record : EntityRecord => { record with
      partition := device.deviceInstId, ownerDeviceSN := device.sn }) = stamped device from rfl,
      read, count, Nat.cast_add]

/-! ## The whole sequence climbs -/

/-- The keys of all ports climb: by device, then by port. -/
theorem sequence_ascending (opened : Opened pass content) (readable : Readable pass content) :
    (∀ r ∈ pass.sequence content, 0 < r.partition ∧ 0 < r.sourceInstanceId) ∧
      ∃ e, Ascending (position .interface 0 0) ((pass.sequence content).map (·.key)) e := by
  have inside : ∀ device ∈ pass.devices, ∃ records : List EntityRecord,
      pass.ports content device = records.map (stamped device) ∧
        (0 :: records.map (·.sourceInstanceId)).Pairwise (· < ·) := by
    intro device member
    obtain ⟨records, decoded, mapped⟩ := records_of_items (stamped device) (readable device member)
    exact ⟨records, mapped, climbs_of_items decoded (content.ordered _)⟩
  have placed : ∀ device ∈ pass.devices, ∀ r ∈ pass.ports content device,
      r.partition = device.deviceInstId ∧ 0 < r.sourceInstanceId := by
    intro device member r port
    obtain ⟨records, shape, climbs⟩ := inside device member
    rw [shape] at port
    obtain ⟨record, read, rfl⟩ := List.mem_map.mp port
    have member := List.mem_map_of_mem (f := EntityRecord.sourceInstanceId) read
    exact ⟨rfl, (List.pairwise_cons.mp climbs).1 _ member⟩
  have positive : ∀ r ∈ pass.sequence content, 0 < r.partition ∧ 0 < r.sourceInstanceId := by
    intro r member
    obtain ⟨device, listed, port⟩ := List.mem_flatMap.mp member
    obtain ⟨same, positive⟩ := placed device listed r port
    rw [same]
    exact ⟨opened.positive device listed, positive⟩
  refine ⟨positive, ascending_of_pairwise (List.pairwise_cons.mpr ⟨?_, ?_⟩)⟩
  · intro key member
    obtain ⟨r, port, rfl⟩ := List.mem_map.mp member
    refine Prod.Lex.toLex_lt_toLex.mpr (Or.inl ?_)
    exact Int64.lt_iff_toInt_lt.mp (positive r port).1
  · rw [List.pairwise_map, sequence, List.pairwise_flatMap]
    constructor
    · intro device member
      obtain ⟨records, shape, climbs⟩ := inside device member
      rw [shape, List.pairwise_map]
      have ports := List.pairwise_map.mp (List.pairwise_cons.mp climbs).2
      refine ports.imp fun {a b} climb => ?_
      exact Prod.Lex.toLex_lt_toLex.mpr (Or.inr ⟨rfl, Int64.lt_iff_toInt_lt.mp climb⟩)
    · have devices := List.pairwise_map.mp opened.climbs
      refine devices.imp_of_mem fun {a b} left right climb r port r' port' => ?_
      refine Prod.Lex.toLex_lt_toLex.mpr (Or.inl ?_)
      rw [(placed a left r port).1, (placed b right r' port').1]
      exact Int64.lt_iff_toInt_lt.mp climb

/-! ## Following the pages -/

/-- The pages from an offset on, each at the `NextOffset` of the one before, until one is done. -/
def followPages (pass : InterfacePass) (client : CmdbClient) : Nat → Int → Option (List EntityPage)
  | 0, _ => none
  | fuel + 1, start =>
      match pass.page client (.ok ()) start with
      | .error _ => none
      | .ok page =>
          if page.done then some [page]
          else (followPages pass client fuel page.nextOffset).map (page :: ·)

/-- The worker's cursor after some pages that its checks accept. -/
def acceptPages (runId : String) : DeviceSyncCursor → List EntityPage → Option DeviceSyncCursor
  | cursor, [] => some cursor
  | cursor, page :: pages =>
      match validateEntityPage cursor page .interface with
      | none => none
      | some last =>
          acceptPages runId (collectedCursor runId cursor.snapshotAt cursor page last) pages

/-- The worker's cursor stands before an offset of the sequence. -/
structure Before (pass : InterfacePass) (content : CmdbContent) (start : Nat)
    (cursor : DeviceSyncCursor) : Prop where
  offset : cursor.nextOffset = start
  total : 0 < cursor.total → pass.total = cursor.total
  key : ∃ e, Ascending (position .interface cursor.lastInstanceId cursor.lastPartition)
    (((pass.sequence content).drop start).map (·.key)) e

/-- A page has the total of the pass, and its records are ports of one device. -/
def OfDevice (pass : InterfacePass) (page : EntityPage) : Prop :=
  page.total = pass.total ∧ (page.records ≠ [] → ∃ device ∈ pass.devices, ∀ r ∈ page.records,
    r.partition = device.deviceInstId ∧ r.ownerDeviceSN = device.sn)

theorem accepted_page (runId : String) {start n : Nat} {cursor : DeviceSyncCursor}
    {device : InterfacePartition} (opened : Opened pass content) (readable : Readable pass content)
    (before : Before pass content start cursor)
    (filled : ((pass.sequence content).drop start).take n ≠ [])
    (within : start + n ≤ (pass.sequence content).length)
    (here : ∀ r ∈ ((pass.sequence content).drop start).take n, r.partition = device.deviceInstId) :
    ∃ last, validateEntityPage cursor ⟨((pass.sequence content).drop start).take n,
        ((start + n : Nat) : Int), pass.total, decide (((start + n : Nat) : Int) = pass.total)⟩
        .interface = some last ∧
      Before pass content (start + n) (collectedCursor runId cursor.snapshotAt cursor
        ⟨((pass.sequence content).drop start).take n, ((start + n : Nat) : Int), pass.total,
          decide (((start + n : Nat) : Int) = pass.total)⟩ last) := by
  obtain ⟨length, -⟩ := length_sequence opened readable
  obtain ⟨positive, -⟩ := sequence_ascending opened readable
  obtain ⟨offset, total, e, ascending⟩ := before
  have parts : (pass.sequence content).drop start =
      ((pass.sequence content).drop start).take n ++ (pass.sequence content).drop (start + n) := by
    rw [← List.drop_drop, List.take_append_drop]
  have size : (((pass.sequence content).drop start).take n).length = n := by
    rw [List.length_take, List.length_drop]
    omega
  have real : ∀ r ∈ ((pass.sequence content).drop start).take n,
      0 < r.partition ∧ 0 < r.sourceInstanceId := fun r member =>
    positive r (List.mem_of_mem_drop (List.mem_of_mem_take member))
  rw [parts, List.map_append] at ascending
  generalize ((pass.sequence content).drop start).take n = records at *
  obtain ⟨m, first, second⟩ := ascending.split
  obtain ⟨last, accepted⟩ := validateRecords_of_ascending
    (fun r member => ⟨here r member, real r member⟩) first
  have reached := validateRecords_ascending accepted
  rw [if_neg filled] at reached
  obtain rfl := first.unique reached
  obtain ⟨r, rest, rfl⟩ := List.exists_cons_of_ne_nil filled
  have partition : r.partition = device.deviceInstId := here r List.mem_cons_self
  refine ⟨last, ?_, rfl, fun _ => rfl, e, ?_⟩
  · unfold validateEntityPage
    dsimp only
    rw [if_neg, if_neg, if_neg]
    · simpa [EntityPage.partition?, partition] using accepted
    · rw [not_not, decide_eq_decide]
      omega
    · rintro ⟨known, other⟩
      exact other (total known)
    · rw [not_or, not_or]
      refine ⟨by omega, ?_, by omega⟩
      rw [size, offset]
      simp
  · simpa only [collectedCursor, partition] using second

/-- **Following the pages** from an offset on reads the rest of the sequence. -/
theorem followPages_spec (opened : Opened pass content) (readable : Readable pass content)
    (sized : 1 ≤ pass.cfg.pageSize) (runId : String) {fuel start : Nat} {cursor : DeviceSyncCursor}
    (inside : start < (pass.sequence content).length)
    (enough : (pass.sequence content).length - start ≤ fuel)
    (before : Before pass content start cursor) :
    ∃ init last, followPages pass content.client fuel start = some (init ++ [last]) ∧
      allRecords (init ++ [last]) = (pass.sequence content).drop start ∧
      (∀ page ∈ init ++ [last], OfDevice pass page) ∧ last.done = true ∧
      (∀ page ∈ init, page.done = false) ∧
      (acceptPages runId cursor (init ++ [last])).isSome = true := by
  induction fuel generalizing start cursor with
  | zero => omega
  | succ fuel ih =>
      obtain ⟨-, device, member, n, positive, filled, here, within, answered⟩ :=
        page_spec opened readable sized inside
      obtain ⟨length, -⟩ := length_sequence opened readable
      obtain ⟨last, accepted, after⟩ := accepted_page runId opened readable before filled
        within fun r inside => (here r inside).1
      rw [followPages, answered]
      dsimp only
      by_cases done : ((start + n : Nat) : Int) = pass.total
      · rw [if_pos (by simpa using done)]
        refine ⟨[], _, rfl, ?_, ?_, by simpa using done, ?_, ?_⟩
        · rw [List.nil_append, allRecords, List.flatMap_singleton, List.take_of_length_le]
          rw [List.length_drop]
          omega
        · intro page listed
          rw [List.nil_append, List.mem_singleton] at listed
          rw [listed]
          exact ⟨rfl, fun _ => ⟨device, member, here⟩⟩
        · intro page listed
          cases listed
        · rw [List.nil_append, acceptPages, accepted]
          rfl
      · rw [if_neg (by simpa using done)]
        obtain ⟨init, final, read, records, pages, ended, earlier, taken⟩ :=
          ih (by omega) (by omega) after
        refine ⟨_ :: init, final, by rw [read]; rfl, ?_, ?_, ended, ?_, ?_⟩
        · rw [List.cons_append, allRecords, List.flatMap_cons]
          rw [allRecords] at records
          rw [records, ← List.drop_drop, List.take_append_drop]
        · intro page listed
          rcases List.mem_cons.mp listed with rfl | later
          · exact ⟨rfl, fun _ => ⟨device, member, here⟩⟩
          · exact pages page later
        · intro page listed
          rcases List.mem_cons.mp listed with rfl | later
          · simpa using done
          · exact earlier page later
        · rw [List.cons_append, acceptPages, accepted]
          exact taken

end

/-- **The interface pass is complete.**  Against exact answers, a pass that opens, and none of whose
ports is rejected:

* has the selected devices, in the order of their instance IDs;
* its sequence has the ports of each device with its ID and SN, in the order of their instance IDs,
  and its total is the sum of the totals of the devices;
* following the pages from the start ends, at the first page that is done, and reads the sequence; a
  page never mixes devices, and the worker's checks accept all pages;
* a page from any offset begins with the record at that offset. -/
theorem interfacePass_complete (content : CmdbContent) {fuel : Nat}
    {config : Except CmdbError CmdbConfig} {configured : Except CmdbError Condition}
    {entity : EntityType} {pass : InterfacePass}
    (ok : openEntityPass fuel content.client (.ok ()) config configured entity = .ok pass)
    (sized : 1 ≤ pass.cfg.pageSize) (readable : Readable pass content) (runId : String)
    (startedAt : Time) :
    (∃ value selected, configured = .ok value ∧
      interfaceCondition value = .ok (pass.condition, selected) ∧
      pass.devices.map (fun device => (device.deviceInstId, device.sn)) =
        ((content.devices (discoveryCondition pass.condition selected)).filter
          (selects selected)).map (fun item => (item.instId, trimSpace item.deviceSN))) ∧
    (pass.devices.map (·.deviceInstId)).Pairwise (· < ·) ∧ (pass.devices.map (·.sn)).Nodup ∧
    (pass.sequence content).Pairwise (fun r r' => r.key < r'.key) ∧
    (∀ device ∈ pass.devices, ((pass.ports content device).length : Int) = device.total ∧
      device.total = ((pass.items content device).length : Int)) ∧
    ((pass.sequence content).length : Int) = pass.total ∧
    pass.total = (pass.devices.map (·.total)).sum ∧
    (∃ fuel init last, followPages pass content.client fuel 0 = some (init ++ [last]) ∧
      allRecords (init ++ [last]) = pass.sequence content ∧
      (∀ page ∈ init ++ [last], OfDevice pass page) ∧ last.done = true ∧
      (∀ page ∈ init, page.done = false) ∧
      (acceptPages runId (Store.freshCursor runId startedAt) (init ++ [last])).isSome = true) ∧
    ∀ start : Nat, (start : Int) < pass.total → pass.indexOf start < pass.devices.length ∧
      ∃ page, pass.page content.client (.ok ()) start = .ok page ∧
        page.records.head? = (pass.sequence content)[start]? ∧ page.records ≠ [] := by
  obtain ⟨opened, value, selected, given, -, conditioned, listed, names⟩ := opened_of_open ok
  obtain ⟨length, sum⟩ := length_sequence opened readable
  obtain ⟨-, e, ascending⟩ := sequence_ascending opened readable
  refine ⟨⟨value, selected, given, conditioned, listed⟩, opened.climbs, names,
    List.pairwise_map.mp ascending.pairwise.2, fun device member =>
      ⟨length_ports opened readable member, opened.counted device member⟩, length, sum, ?_, ?_⟩
  · rcases Nat.eq_zero_or_pos (pass.sequence content).length with empty | filled
    · have done : pass.total = 0 := by omega
      refine ⟨1, [], ⟨[], 0, pass.total, true⟩, ?_, ?_, ?_, rfl, ?_, ?_⟩
      · simp [followPages, page, done]
      · rw [List.eq_nil_of_length_eq_zero empty]
        rfl
      · intro page listed
        rw [List.nil_append, List.mem_singleton] at listed
        rw [listed]
        exact ⟨rfl, fun filled => (filled rfl).elim⟩
      · intro page listed
        cases listed
      · rw [done]
        rfl
    · have start : Before pass content 0 (Store.freshCursor runId startedAt) :=
        ⟨rfl, fun positive => (lt_irrefl _ positive).elim, e, ascending⟩
      obtain ⟨init, last, read, records, rest⟩ :=
        followPages_spec opened readable sized runId filled (Nat.le_refl _) start
      exact ⟨_, init, last, read, records, rest⟩
  · intro start inside
    obtain ⟨found, device, -, n, positive, filled, -, -, answered⟩ :=
      page_spec opened readable sized (show start < (pass.sequence content).length by omega)
    refine ⟨found, _, answered, ?_, filled⟩
    cases n with
    | zero => omega
    | succ n => rw [List.head?_take, if_neg (Nat.succ_ne_zero n), List.head?_drop]

/-- A port with its instance ID and its UUID. -/
def labPort (instId : Int) (uuid : String) : PortItem :=
  ⟨[("inst_id", .number (Json.numberOfInt instId)), ("port_uuid", .string uuid)], by simp⟩

/-- Three network devices, the second without ports. -/
def labContent : CmdbContent where
  devices _ := [⟨10, " SN-A ", 54⟩, ⟨20, "SN-B", 54⟩, ⟨30, "SN-C", 54⟩]
  ports condition :=
    if Properties.get condition "sn" = .string "SN-B" then [] else [labPort 7 "port"]
  ordered condition := by
    split
    · exact .nil
    · exact List.pairwise_singleton _ _

def labCondition : Condition := (Table.empty : Condition).put ("idc_id", .signed 1030)

/-- The pass over these devices. -/
def labPass : InterfacePass where
  cfg := ⟨.empty, 2⟩
  condition := labCondition.put ("port_type", .string "physics")
  devices := [⟨10, "SN-A", 1, 0⟩, ⟨20, "SN-B", 0, 1⟩, ⟨30, "SN-C", 1, 1⟩]
  total := 2

/-- A device without ports in between does not stop the pages. -/
theorem interfacePass_complete_lab :
    openEntityPass 3 labContent.client (.ok ()) (.ok ⟨.empty, 2⟩) (.ok labCondition) .interface =
        .ok labPass ∧
      ∃ fuel init last, followPages labPass labContent.client fuel 0 = some (init ++ [last]) ∧
        allRecords (init ++ [last]) = labPass.sequence labContent := by
  have opened : openEntityPass 3 labContent.client (.ok ()) (.ok ⟨.empty, 2⟩) (.ok labCondition)
      .interface = .ok labPass := rfl
  have readable : Readable labPass labContent := by
    intro device member item listed
    have port : item = labPort 7 "port" := by
      unfold items labContent at listed
      dsimp only at listed
      split at listed
      · cases listed
      · exact List.mem_singleton.mp listed
    rw [port]
    exact ⟨_, rfl⟩
  obtain ⟨-, -, -, -, -, -, -, ⟨fuel, init, last, read, records, -⟩, -⟩ :=
    interfacePass_complete labContent opened (by decide) readable "run" 1000
  exact ⟨opened, fuel, init, last, read, records⟩

end InterfacePass

end UnifiedInfraTopology
