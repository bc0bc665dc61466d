import UnifiedInfraTopology.Adapter.Entity
import UnifiedInfraTopology.Graph.Upsert

/-!
# Every record can be written

The adapter names the properties of a record and their types in one place, the graph in another.
`RecordWritable` says that `UpsertVertex` accepts an identity and a property map, from whatever source and at
whatever times, and stores the values as they are.

* `records_writable`: so it is for every record of the adapter.
-/

namespace UnifiedInfraTopology

open Lib

/-! ## Stored values -/

/-- A stored value is the value of a property: an instant to the microsecond, a list as the JSON text of
all of its items in their order. -/
inductive Stores : GoValue → GraphValue → Prop where
  | nil : Stores .nil .null
  | string (s : String) : Stores (.string s) (.text s)
  | signed (n : Int64) : Stores (.signed n) (.integer n)
  | time (t : Time) : Stores (.time t) (.instant t)
  | strings {items : List String} {text : String}
      (reads : Json.parse text.toList = some (.array (items.map .string))) :
      Stores (.strings items) (.text text)
  | integers {items : List Int64} {text : String}
      (reads : Json.parse text.toList =
        some (.array (items.map fun item => .number (Json.numberOfInt item.toInt)))) :
      Stores (.integers items) (.text text)

/-- A value of a type is accepted and stored as it is. -/
def ValueAccepted (propertyType : TopologyPropertyType) (value : GoValue) : Prop :=
  ∃ stored, normalizeTopologyValue propertyType value = .ok stored ∧ Stores value stored

theorem distinctItems_of_nodup {α : Type} [DecidableEq α] {items : List α} (nodup : items.Nodup) :
    distinctItems items = items := by
  induction items with
  | nil => rfl
  | cons item items ih =>
      obtain ⟨fresh, rest⟩ := List.nodup_cons.mp nodup
      rw [distinctItems, ih rest, List.filter_eq_self.mpr]
      rintro other member
      exact decide_eq_true fun same => fresh (same ▸ member)

theorem accepted_nil (propertyType : TopologyPropertyType) : ValueAccepted propertyType .nil :=
  ⟨.null, rfl, .nil⟩

theorem accepted_string (s : String) : ValueAccepted .string (.string s) := ⟨.text s, rfl, .string s⟩

theorem accepted_signed (n : Int64) : ValueAccepted .integer (.signed n) := ⟨.integer n, rfl, .signed n⟩

theorem accepted_time {t : Time} (real : t.isZero = false) (whole : t.truncateMicro = t) :
    ValueAccepted .dateTime (.time t) := by
  refine ⟨.instant t, ?_, .time t⟩
  simp [normalizeTopologyValue, real, topologyTime, whole]

theorem accepted_strings {items : List String} (nodup : items.Nodup) (filled : "" ∉ items) :
    ValueAccepted .stringList (.strings items) := by
  refine ⟨.text (jsonStrings items), ?_, .strings ?_⟩
  · simp [normalizeTopologyValue, topologyStringListValue, filled, distinctItems_of_nodup nodup,
      Except.map]
  · rw [jsonStrings, String.toList_ofList, Json.parse_printArray, List.map_map]
    rfl

theorem accepted_integers {items : List Int64} (nodup : items.Nodup)
    (positive : ∀ item ∈ items, 0 < item) : ValueAccepted .integerList (.integers items) := by
  refine ⟨.text (String.ofList (Json.printArray (items.map fun item => .int item.toInt))), ?_,
    .integers ?_⟩
  · have none_ : ¬∃ item ∈ items, item ≤ 0 := by
      rintro ⟨item, member, low⟩
      exact Int64.not_le.mpr (positive item member) low
    simp only [normalizeTopologyValue, topologyIntegerListValue, if_neg none_,
      distinctItems_of_nodup nodup, Except.map]
  · rw [String.toList_ofList, Json.parse_printArray, List.map_map]
    rfl

/-! ## Property maps -/

/-- Every property, but for one that is hidden, has a name of the schema and a value of its type. -/
def FitsBut (hidden : Option String) (schema : TopologySchema) (properties : Properties) : Prop :=
  ∀ p ∈ properties.rows, some p.1 ≠ hidden →
    ∃ propertyType, schema.lookup p.1 = some propertyType ∧ ValueAccepted propertyType p.2

abbrev FitsSchema (schema : TopologySchema) (properties : Properties) : Prop := FitsBut none schema properties

section FitsBut

variable {hidden : Option String} {schema : TopologySchema} {properties : Properties}

theorem fitsBut_empty : FitsBut hidden schema .empty := nofun

theorem FitsBut.put (fits : FitsBut hidden schema properties) {name : String} {value : GoValue}
    (fit : some name ≠ hidden →
      ∃ propertyType, schema.lookup name = some propertyType ∧ ValueAccepted propertyType value) :
    FitsBut hidden schema (properties.put (name, value)) := by
  rintro p member visible
  rcases Table.mem_of_put member with rfl | earlier
  · exact fit visible
  · exact fits p earlier visible

theorem FitsBut.erase {name : String} (fits : FitsBut (some name) schema properties) :
    FitsSchema schema (properties.erase fun p => decide (p.1 = name)) := by
  rintro p member -
  obtain ⟨stored, kept⟩ := Table.mem_erase.mp member
  exact fits p stored fun same => of_decide_eq_false kept (Option.some.inj same)

/-- Reading fields of one type keeps a map fitting. -/
theorem FitsBut.putFields {read : String → Except CmdbError GoValue} {name : String → String}
    {propertyType : TopologyPropertyType} {fields : List String} {properties' : Properties}
    (fits : FitsBut hidden schema properties)
    (known : ∀ field ∈ fields, some (name field) ≠ hidden →
      schema.lookup (name field) = some propertyType)
    (typed : ∀ field value, read field = .ok value → ValueAccepted propertyType value)
    (ok : Cmdb.putFields read name fields properties = .ok properties') :
    FitsBut hidden schema properties' := by
  induction fields generalizing properties with
  | nil =>
      cases ok
      exact fits
  | cons field fields ih =>
      rw [Cmdb.putFields] at ok
      split at ok
      · cases ok
      · rename_i value answered
        refine ih (fits.put fun visible => ?_)
          (fun other member => known other (List.mem_cons_of_mem field member)) ok
        exact ⟨propertyType, known field List.mem_cons_self visible, typed field value answered⟩

end FitsBut

/-! ## Columns -/

theorem mapM_normalizeEntry {schema : TopologySchema} {rows : List (String × GoValue)}
    (fits : ∀ p ∈ rows, ∃ propertyType, schema.lookup p.1 = some propertyType ∧
      ValueAccepted propertyType p.2) :
    ∃ normalized, rows.mapM (normalizeEntry schema) = .ok normalized ∧
      List.Forall₂ (fun p q => q.1 = p.1 ∧ Stores p.2 q.2) rows normalized := by
  induction rows with
  | nil => exact ⟨[], rfl, .nil⟩
  | cons p rows ih =>
      obtain ⟨propertyType, known, stored, accepted, stores⟩ := fits p List.mem_cons_self
      obtain ⟨normalized, ok, each⟩ := ih fun q member => fits q (List.mem_cons_of_mem p member)
      refine ⟨(p.1, stored) :: normalized, ?_, .cons ⟨rfl, stores⟩ each⟩
      rw [List.mapM_cons, normalizeEntry, known]
      simp only [accepted, ok]
      rfl

/-- A column has the value that the map has under its name. -/
theorem stores_lookup {rows : List (String × GoValue)} {normalized : List (String × GraphValue)}
    (each : List.Forall₂ (fun p q => q.1 = p.1 ∧ Stores p.2 q.2) rows normalized) (name : String) :
    Stores ((rows.find? fun p => p.1 = name).elim .nil (·.2))
      ((normalized.lookup name).getD .null) := by
  induction each with
  | nil => exact .nil
  | @cons p q rows normalized first rest ih =>
      obtain ⟨name', stored⟩ := q
      obtain ⟨rfl, stores⟩ := first
      by_cases here : p.1 = name
      · subst here
        simpa using stores
      · rw [List.find?_cons_of_neg (by simpa using here), List.lookup_cons,
          beq_false_of_ne (Ne.symm here)]
        exact ih

/-- The columns of a map that fits: every property is one, and each has the value of the map. -/
structure Represents (properties : Properties) (columns : List (String × GraphValue)) : Prop where
  every : ∀ p ∈ properties.rows, p.1 ∈ columns.map (·.1)
  stored : ∀ column ∈ columns, Stores (properties.get column.1) column.2

theorem mem_schemaNames {schema : TopologySchema} {name : String} {propertyType : TopologyPropertyType}
    (known : schema.lookup name = some propertyType) : name ∈ schemaNames schema := by
  rw [schemaNames, List.mem_mergeSort]
  obtain ⟨before, after, rfl, -⟩ := List.lookup_eq_some_iff.mp known
  simp

theorem normalize_of_fits {schema : TopologySchema} {properties : Properties}
    (fits : FitsSchema schema properties) :
    ∃ columns, normalizeTopologyProperties properties schema = .ok columns ∧
      Represents properties columns := by
  obtain ⟨normalized, ok, each⟩ := mapM_normalizeEntry fun p member => fits p member nofun
  refine ⟨_, by rw [normalizeTopologyProperties, ok], ?_, ?_⟩
  · rintro p member
    obtain ⟨propertyType, known, -⟩ := fits p member nofun
    simpa using mem_schemaNames known
  · rintro column member
    obtain ⟨name, -, rfl⟩ := List.mem_map.mp member
    exact stores_lookup each name

/-! ## Vertices -/

/-- `UpsertVertex` accepts an identity with these properties before it contacts the graph, and will
store every one of them as it is. -/
def RecordWritable (entity : EntityType) (stableId : String) (properties : Properties) : Prop :=
  ∀ sourceId createdAt syncedAt, sourceId ≠ "" → createdAt.isZero = false → syncedAt.isZero = false →
    ∃ row, prepareVertex ⟨⟨sourceId, entity, stableId⟩, properties, createdAt, syncedAt⟩ = .ok row ∧
      row.stableId = stableId ∧ Represents properties row.columns

theorem writable_of_fits {entity : EntityType} {entry : TopologyEntitySchema} {stableId : String}
    {properties : Properties} (schema : topologyEntitySchemas entity = some entry)
    (valid : entity.valid) (filled : stableId ≠ "") (fits : FitsSchema entry.properties properties) :
    RecordWritable entity stableId properties := by
  rintro sourceId createdAt syncedAt named created synced
  obtain ⟨columns, ok, represents⟩ := normalize_of_fits fits
  have proper : EntityIdentity.validate ⟨sourceId, entity, stableId⟩ = .ok () := by
    simp [EntityIdentity.validate, named, valid, filled]
  have hashed : EntityIdentity.vid ⟨sourceId, entity, stableId⟩ =
      .ok (hashJSON ["vertex", sourceId, entity.text, stableId]) := by
    simp only [EntityIdentity.vid, proper]
  unfold prepareVertex
  dsimp only
  split
  · rename_i missing
    rw [schema] at missing
    cases missing
  · rename_i entry' schema'
    rw [schema] at schema'
    cases schema'
    rw [hashed]
    dsimp only
    rw [if_neg (by simp [created, synced])]
    split
    · rename_i refused
      rw [ok] at refused
      cases refused
    · rename_i columns' normalized
      rw [ok] at normalized
      cases normalized
      exact ⟨_, rfl, rfl, represents⟩

namespace Cmdb

/-! ## Fields of an item -/

section Fields

variable {item : EntityItem} {field : String} {value : GoValue}

theorem accepted_textField (ok : textField item field = .ok value) : ValueAccepted .string value := by
  unfold textField at ok
  split at ok
  · cases ok
    exact accepted_nil _
  · cases ok
    exact accepted_nil _
  · cases ok
    split
    · exact accepted_nil _
    · exact accepted_string _
  · cases ok

theorem accepted_literalField (ok : literalField item field = .ok value) : ValueAccepted .string value := by
  unfold literalField at ok
  split at ok
  · cases ok
    exact accepted_nil _
  · cases ok
    exact accepted_nil _
  · cases ok
    exact accepted_string _
  · cases ok
    exact accepted_string _
  · cases ok

theorem accepted_integerField (ok : integerField item field = .ok value) :
    ValueAccepted .integer value := by
  unfold integerField at ok
  split at ok
  · cases ok
    exact accepted_nil _
  · cases ok
    exact accepted_nil _
  · split at ok
    · cases ok
    · cases ok
      split
      · exact accepted_nil _
      · exact accepted_signed _

theorem accepted_wholeField {kind : String} (ok : wholeField kind item field = .ok value) :
    ValueAccepted .integer value := by
  unfold wholeField at ok
  split at ok
  · cases ok
    exact accepted_nil _
  · cases ok
    exact accepted_nil _
  · split at ok
    · cases ok
    · cases ok
      exact accepted_signed _

theorem accepted_referenceField : ValueAccepted .integer (referenceField item field) := by
  unfold referenceField
  split
  · exact accepted_nil _
  · split
    · exact accepted_nil _
    · split
      · exact accepted_signed _
      · exact accepted_nil _

/-- A source time is after 1970 and has no fraction of a microsecond. -/
theorem accepted_cmdbSourceTime : ValueAccepted .dateTime (cmdbSourceTime item field) := by
  unfold cmdbSourceTime
  split
  · dsimp only
    split
    · exact accepted_nil _
    · split
      · exact accepted_nil _
      · split
        · exact accepted_nil _
        · rename_i t shown read early
          rw [not_or] at early
          refine accepted_time (decide_eq_false ?_) (Time.truncateMicro_truncateMicro t)
          have late := early.1
          unfold Time.second unixEpoch at late
          unfold Time.truncateMicro Time.microsecond
          unfold Time at *
          omega
  · exact accepted_nil _

end Fields

theorem accepted_podIds {item : EntityItem} {ids : List Int64} (ok : podIds item = .ok ids) :
    ValueAccepted .integerList (.integers ids) := by
  have sorted (read : List (Option Int64)) : ValueAccepted .integerList (.integers (sortedPodIds read)) := by
    have same := List.mergeSort_perm
      (firsts id ((read.filterMap id).filter fun id => decide (0 < id))) fun a b => decide (a ≤ b)
    have nodup : ((firsts id ((read.filterMap id).filter fun id => decide (0 < id))).map id).Nodup :=
      nodup_keys_firsts
    rw [List.map_id] at nodup
    refine accepted_integers (same.nodup_iff.mpr nodup) fun item member => ?_
    have kept := mem_of_mem_firsts (same.mem_iff.mp member)
    exact of_decide_eq_true (List.mem_filter.mp kept).2
  unfold podIds at ok
  split at ok
  · cases ok
    exact accepted_integers .nil nofun
  · cases ok
    exact accepted_integers .nil nofun
  · split at ok
    · cases ok
    · cases ok
      exact sorted _
  · cases ok

theorem fitsBut_putSourceTimes {hidden : Option String} {schema : TopologySchema}
    {properties : Properties} {created updated : GoValue} (fits : FitsBut hidden schema properties)
    (createdAt : ValueAccepted .dateTime created) (updatedAt : ValueAccepted .dateTime updated)
    (known : schema.lookup "source_created_at" = some .dateTime)
    (known' : schema.lookup "source_updated_at" = some .dateTime) :
    FitsBut hidden schema (putSourceTimes created updated properties) :=
  (fits.put fun _ => ⟨.dateTime, known, createdAt⟩).put fun _ => ⟨.dateTime, known', updatedAt⟩

/-! ## Records -/

/-- The property types of an entity type that has a schema. -/
def entitySchema (entity : EntityType) : TopologySchema :=
  (topologyEntitySchemas entity).elim [] (·.properties)

/-- A record has an identity, and properties of the schema. -/
def Proper (entity : EntityType) (record : EntityRecord) : Prop :=
  record.identity ≠ "" ∧ FitsSchema (entitySchema entity) record.properties

theorem proper_interface {item : EntityItem} {record : EntityRecord}
    (ok : cmdbInterfaceRecord item = .ok record) : Proper .interface record := by
  unfold cmdbInterfaceRecord at ok
  split at ok
  · cases ok
  split at ok
  · cases ok
  rename_i properties texts
  dsimp only at ok
  split at ok
  · cases ok
  rename_i identified
  split at ok
  · cases ok
  rename_i properties' literals
  split at ok
  · cases ok
  rename_i properties'' integers
  cases ok
  have named : FitsBut (some "port_uuid") (entitySchema .interface) properties :=
    fitsBut_empty.putFields (by decide) (fun _ _ => accepted_textField) texts
  have measured : FitsSchema (entitySchema .interface) properties' :=
    named.erase.putFields (by decide) (fun _ _ => accepted_literalField) literals
  exact ⟨fun blank => identified (Or.inr blank),
    measured.putFields (by decide) (fun _ _ => accepted_integerField) integers⟩

theorem proper_transformer {item : EntityItem} {record : EntityRecord}
    (ok : cmdbTransformerRecord item = .ok record) : Proper .transformer record := by
  unfold cmdbTransformerRecord at ok
  split at ok
  · cases ok
  split at ok
  · cases ok
  rename_i properties texts
  dsimp only at ok
  split at ok
  · cases ok
  rename_i identified
  split at ok
  · cases ok
  rename_i capacity read
  cases ok
  have named : FitsBut (some "uuid") (entitySchema .transformer) properties :=
    fitsBut_empty.putFields (by decide) (fun _ _ => accepted_textField) texts
  refine ⟨fun blank => identified (Or.inr blank), FitsBut.erase (fitsBut_putSourceTimes ?_
    accepted_cmdbSourceTime accepted_cmdbSourceTime (by decide) (by decide))⟩
  refine FitsBut.put (FitsBut.put (FitsBut.put (FitsBut.put named ?_) ?_) ?_) ?_
  · exact fun _ => ⟨.integer, by decide, accepted_signed _⟩
  · exact fun _ => ⟨.integer, by decide, accepted_referenceField⟩
  · exact fun _ => ⟨.integer, by decide, accepted_referenceField⟩
  · exact fun _ => ⟨.integer, by decide, accepted_wholeField read⟩

theorem proper_entityRecord {item : EntityItem} {entity : EntityType} {record : EntityRecord}
    (covered : entity = .dataCenter ∨ entity = .cabinet)
    (ok : cmdbEntityRecord item entity = .ok record) : Proper entity record := by
  have other : entity ≠ .interface ∧ entity ≠ .transformer := by
    rcases covered with rfl | rfl <;> decide
  rw [cmdbEntityRecord, if_neg other.1, if_neg other.2] at ok
  split at ok
  · cases ok
  rename_i properties texts
  split at ok
  · cases ok
  rename_i properties' integers
  dsimp only at ok
  split at ok
  · cases ok
  rename_i identified
  split at ok
  · cases ok
  rename_i properties'' pods
  cases ok
  have named : FitsBut (some "uuid") (entitySchema entity) properties := by
    refine fitsBut_empty.putFields ?_ (fun _ _ => accepted_textField) texts
    rcases covered with rfl | rfl <;> decide
  have numbered : FitsBut (some "uuid") (entitySchema entity) properties' := by
    refine named.putFields ?_ (fun _ _ => accepted_wholeField) integers
    rcases covered with rfl | rfl <;> decide
  have placed : FitsBut (some "uuid") (entitySchema entity) properties'' := by
    unfold putPodIds at pods
    split at pods
    · rename_i cabinet
      subst cabinet
      split at pods
      · cases pods
      · rename_i ids read
        cases pods
        exact numbered.put fun _ => ⟨.integerList, by decide, accepted_podIds read⟩
    · cases pods
      exact numbered
  refine ⟨fun blank => identified (Or.inr blank),
    (fitsBut_putSourceTimes placed accepted_cmdbSourceTime ?_ ?_ ?_).erase⟩
  · split <;> exact accepted_cmdbSourceTime
  · rcases covered with rfl | rfl <;> decide
  · rcases covered with rfl | rfl <;> decide

theorem proper_cmdbEntityRecord {item : EntityItem} {entity : EntityType} {record : EntityRecord}
    (covered : entity ∈ [.dataCenter, .cabinet, .interface, .transformer])
    (ok : cmdbEntityRecord item entity = .ok record) : Proper entity record := by
  simp only [List.mem_cons, List.not_mem_nil, or_false] at covered
  rcases covered with rfl | rfl | rfl | rfl
  · exact proper_entityRecord (Or.inl rfl) ok
  · exact proper_entityRecord (Or.inr rfl) ok
  · exact proper_interface ok
  · exact proper_transformer ok

/-! ## Devices -/

theorem fits_deviceProperties {record : DeviceRecord} (nodup : record.allIPs.Nodup)
    (filled : "" ∉ record.allIPs) : FitsSchema (entitySchema .device) (deviceProperties record) := by
  have base : FitsSchema (entitySchema .device) ⟨[("name", .string record.name), ("role", .string record.role),
      ("all_ips", .strings record.allIPs)], by simp⟩ := by
    rintro p member -
    have name : (entitySchema .device).lookup "name" = some .string := by decide
    have role : (entitySchema .device).lookup "role" = some .string := by decide
    have addresses : (entitySchema .device).lookup "all_ips" = some .stringList := by decide
    rcases List.mem_cons.mp member with rfl | member
    · exact ⟨.string, name, accepted_string _⟩
    rcases List.mem_cons.mp member with rfl | member
    · exact ⟨.string, role, accepted_string _⟩
    · obtain rfl := List.mem_singleton.mp member
      exact ⟨.stringList, addresses, accepted_strings nodup filled⟩
  have typed (name : String) (known : (entitySchema .device).lookup name = some .integer) (n : Int64)
      {properties : Properties} (fits : FitsSchema (entitySchema .device) properties) :
      FitsSchema (entitySchema .device) (properties.put (name, .signed n)) :=
    fits.put fun _ => ⟨.integer, known, accepted_signed n⟩
  unfold deviceProperties
  dsimp only
  split
  · split
    · exact typed _ (by decide) _ (typed _ (by decide) _ base)
    · exact typed _ (by decide) _ base
  · split
    · exact typed _ (by decide) _ base
    · exact base

theorem toRecord_ok {d : DeviceViewDTO} {record : FullDeviceRecord} (ok : toRecord d = .ok record) :
    record.deviceSN ≠ "" ∧ record.allIPs = allIPs d := by
  unfold toRecord at ok
  split at ok
  · cases ok
  split at ok
  · cases ok
  dsimp only at ok
  split at ok
  · cases ok
  rename_i filled
  split at ok
  · cases ok
  · cases ok
    exact ⟨filled, rfl⟩

end Cmdb

/-- **No record is unwritable.** -/
theorem records_writable :
    (∀ (item : Cmdb.EntityItem) (entity : EntityType) (record : EntityRecord),
      entity ∈ [.dataCenter, .cabinet, .interface, .transformer] →
      Cmdb.cmdbEntityRecord item entity = .ok record →
        RecordWritable entity record.identity record.properties) ∧
    ∀ (d : Cmdb.DeviceViewDTO) (record : Cmdb.FullDeviceRecord), Cmdb.toRecord d = .ok record →
      RecordWritable .device record.deviceSN (deviceProperties record.toDeviceRecord) := by
  constructor
  · rintro item entity record covered ok
    obtain ⟨identified, fits⟩ := Cmdb.proper_cmdbEntityRecord covered ok
    simp only [List.mem_cons, List.not_mem_nil, or_false] at covered
    rcases covered with rfl | rfl | rfl | rfl
    all_goals exact writable_of_fits rfl (by decide) identified fits
  · rintro d record ok
    obtain ⟨identified, addresses⟩ := Cmdb.toRecord_ok ok
    refine writable_of_fits rfl (by decide) identified (Cmdb.fits_deviceProperties ?_ ?_)
    · rw [addresses]
      exact Cmdb.nodup_allIPs d
    · rw [addresses]
      intro member
      have fixed := Cmdb.normalized_of_mem_allIPs member
      rw [Cmdb.normalizeDeviceIP_empty] at fixed
      cases fixed

def dataCenterItem : Cmdb.EntityItem where
  rows := [("inst_id", .number (Json.numberOfInt 7)), ("uuid", .string " DC "),
    ("created_at", .string "2024-05-06 07:08:09")]
  nodup := by decide

def interfaceItem : Cmdb.EntityItem where
  rows := [("inst_id", .number (Json.numberOfInt 9)), ("port_uuid", .string "P-9"),
    ("port_speed", .number (Json.numberOfInt 100)), ("group_type", .number (Json.numberOfInt 2))]
  nodup := by decide

theorem exists_record (item : Cmdb.EntityItem) (entity : EntityType) (identity : String)
    (ok : (Cmdb.cmdbEntityRecord item entity).toOption.map (·.identity) = some identity) :
    ∃ record, Cmdb.cmdbEntityRecord item entity = .ok record ∧ record.identity = identity := by
  cases read : Cmdb.cmdbEntityRecord item entity with
  | error e =>
      rw [read] at ok
      cases ok
  | ok record =>
      rw [read] at ok
      exact ⟨record, rfl, Option.some.inj ok⟩

/-- A data center and an interface. -/
theorem records_writable_items :
    (∃ record, Cmdb.cmdbEntityRecord dataCenterItem .dataCenter = .ok record ∧
      record.identity = "DC" ∧ RecordWritable .dataCenter record.identity record.properties) ∧
    ∃ record, Cmdb.cmdbEntityRecord interfaceItem .interface = .ok record ∧
      record.identity = "P-9" ∧ RecordWritable .interface record.identity record.properties := by
  obtain ⟨center, read, named⟩ := exists_record dataCenterItem .dataCenter "DC" (by decide +kernel)
  obtain ⟨port, read', named'⟩ := exists_record interfaceItem .interface "P-9" (by decide +kernel)
  exact ⟨⟨center, read, named, records_writable.1 _ _ _ (by simp) read⟩,
    port, read', named', records_writable.1 _ _ _ (by simp) read'⟩

end UnifiedInfraTopology
