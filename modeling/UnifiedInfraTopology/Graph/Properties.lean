import UnifiedInfraTopology.Model.Relation

/-!
# Property schemas and normalised properties

The entity and edge schemas of `topology_graph.go` and `normalizeTopologyProperties`, which turns a
caller's property map into the complete list of a schema's columns: every column of the schema in
the order of names, null where the caller gave no value.

The property types no schema uses (`topologyDouble`, `topologyBoolean`) are left out.
-/

namespace UnifiedInfraTopology

open Lib

/-- The errors of the topology repository, one for each message. -/
inductive GraphError where
  | unsupportedEntityType
  | unsupportedEdgeType
  | invalidVertexIdentity (cause : ModelError)
  | invalidRelation (cause : ModelError)
  | timestampsRequired
  | unsupportedProperty (name : String)
  | invalidProperty (name : String) (reason : String)
  | identityCollision
  | rankCollision
  | invalidCleanupScope
  | malformedResult
  | queryFailed
deriving DecidableEq

inductive TopologyPropertyType where
  | string
  | integer
  | dateTime
  | stringList
  | integerList
deriving DecidableEq

/-- A stored property value.  Lists are stored as JSON text, times at microseconds. -/
inductive GraphValue where
  | null
  | text (s : String)
  | integer (n : Int64)
  | instant (t : Time)
deriving DecidableEq

abbrev TopologySchema : Type := List (String × TopologyPropertyType)

structure TopologyEntitySchema where
  stableField : String
  properties : TopologySchema

/-! ## Schemas -/

def topologyEntitySchemas : EntityType → Option TopologyEntitySchema
  | .device => some ⟨"device_sn", [("name", .string), ("parent_type_id", .integer),
      ("device_type_id", .integer), ("role", .string), ("all_ips", .stringList)]⟩
  | .interface => some ⟨"port_uuid", [("port_name", .string), ("port_type", .string),
      ("port_speed", .string), ("port_operation_status", .string), ("group_uuid", .string),
      ("port_group_uuid", .string), ("group_name", .string), ("group_type", .integer),
      ("port_group_type", .integer), ("group_subtype", .integer)]⟩
  | .gpu => some ⟨"uuid", [("parts_sn", .string), ("parts_number", .string),
      ("manufacturer", .string), ("model", .string), ("specification", .string),
      ("card_index", .string), ("slot", .string), ("bmc_slot", .string), ("bus_address", .string),
      ("connector", .string), ("conn_ports", .stringList), ("vram", .string), ("tdp", .string),
      ("computer_perf", .string), ("gpu_fp", .string), ("gpu_fp64", .string),
      ("fp16_tensor_sparsity", .string), ("fp4", .string), ("int4", .string), ("int8", .string),
      ("tf16", .string), ("tf32", .string), ("driver_ver", .string), ("firmware_ver", .string),
      ("npu_versions", .string), ("is_domestic", .string), ("maintenance_status", .string),
      ("maintenance_end", .dateTime)]⟩
  | .pod => some ⟨"uuid", [("inst_id", .integer), ("basic_code", .string), ("name", .string),
      ("full_name", .string), ("plane", .integer), ("mode", .string), ("rdma", .integer),
      ("phy_building_id", .integer), ("idc_logic_id", .integer), ("is_delete", .integer),
      ("is_sync", .integer), ("source_created_at", .dateTime), ("source_updated_at", .dateTime)]⟩
  | .cabinet => some ⟨"uuid", [("inst_id", .integer), ("code", .string), ("dc_colo_rack", .string),
      ("isp_rack_code", .string), ("rack", .string), ("rack_column_code", .string),
      ("rack_row", .string), ("idc_id", .integer), ("phy_building_id", .integer),
      ("phy_room_id", .integer), ("idc_module_id", .integer),
      ("idc_building_structure_id", .integer), ("idc_rows_code", .integer),
      ("pod_ids", .integerList), ("row_switch_id_a", .integer), ("row_switch_id_b", .integer),
      ("source_created_at", .dateTime), ("source_updated_at", .dateTime)]⟩
  | .dataCenter => some ⟨"uuid", [("inst_id", .integer), ("code", .string), ("cn_name", .string),
      ("address", .string), ("location", .string), ("source_created_at", .dateTime),
      ("source_updated_at", .dateTime)]⟩
  | .rpp => some ⟨"uuid", [("inst_id", .integer), ("code", .string), ("idc_id", .integer),
      ("ups_group_id", .integer), ("transformer_group_a_id", .integer),
      ("source_created_at", .dateTime), ("source_updated_at", .dateTime)]⟩
  | .upsGroup => some ⟨"uuid", [("inst_id", .integer), ("code", .string), ("idc_id", .integer),
      ("transformer_id_up", .integer), ("source_created_at", .dateTime),
      ("source_updated_at", .dateTime)]⟩
  | .ups => some ⟨"uuid", [("inst_id", .integer), ("code", .string), ("idc_id", .integer),
      ("ups_group_id", .integer), ("transformer_id_up", .integer), ("brand", .string),
      ("model", .string), ("rated_capacity", .integer), ("source_created_at", .dateTime),
      ("source_updated_at", .dateTime)]⟩
  | .transformer => some ⟨"uuid", [("inst_id", .integer), ("code", .string), ("idc_id", .integer),
      ("standby_transformer_id", .integer), ("brand", .string), ("model", .string),
      ("rated_capacity", .integer), ("source_created_at", .dateTime),
      ("source_updated_at", .dateTime)]⟩
  | .other _ => none

def topologyEdgeSchemas : EdgeType → Option TopologySchema
  | .spatial => some [("plane", .integer)]
  | .composition => some []
  | .network => some [("gpu_port", .string), ("gpu_port_speed", .string), ("gpu_ip", .string),
      ("gpu_slot", .string), ("server_port_speed", .string), ("bond_name", .string),
      ("tor_port", .string), ("tor_port_speed", .string), ("tor_role", .string),
      ("source", .string)]
  | .power => some [("power_path", .string)]
  | .other _ => none

/-- The names of a schema, sorted. -/
def schemaNames (schema : TopologySchema) : List String :=
  (schema.map (·.1)).mergeSort fun a b => decide (a ≤ b)

/-! ## Values -/

/-- `topologyTime`: an instant as the graph stores it. -/
def topologyTime (t : Time) : Time := t.truncateMicro

/-- Keep the first occurrence of each item. -/
def distinctItems {α : Type} [DecidableEq α] : List α → List α
  | [] => []
  | x :: xs => x :: (distinctItems xs).filter fun y => decide (y ≠ x)

def topologyIntegerValue (value : GoValue) : Except String Int64 :=
  let failure : Except String Int64 := .error "value must be a 64-bit integer"
  match value with
  | .signed n => .ok n
  | .unsigned n => if n ≤ 9223372036854775807 then .ok n.toInt64 else failure
  | .number literal => (parseInt64 literal).elim failure .ok
  | _ => failure

def topologyStringListValue (value : GoValue) : Except String String :=
  match value with
  | .strings items =>
      if "" ∈ items then .error "string list items must not be empty"
      else .ok (jsonStrings (distinctItems items))
  | _ => .error "value must be a string list"

def topologyIntegerListValue (value : GoValue) : Except String String :=
  match value with
  | .integers items =>
      if ∃ item ∈ items, item ≤ 0 then .error "integer list items must be positive"
      else .ok (String.ofList (Json.printArray
        ((distinctItems items).map fun item => .int item.toInt)))
  | _ => .error "value must be a 64-bit integer list"

def normalizeTopologyValue (propertyType : TopologyPropertyType) (value : GoValue) :
    Except String GraphValue :=
  match value with
  | .nil => .ok .null
  | value =>
      match propertyType with
      | .string =>
          match value with
          | .string text => .ok (.text text)
          | _ => .error "value must be a string"
      | .integer => (topologyIntegerValue value).map .integer
      | .dateTime =>
          match value with
          | .time t =>
              if t.isZero then .error "value must be a non-zero time"
              else .ok (.instant (topologyTime t))
          | _ => .error "value must be a non-zero time"
      | .stringList => (topologyStringListValue value).map .text
      | .integerList => (topologyIntegerListValue value).map .text

/-! ## Properties -/

/-- One entry of the caller's map, checked against the schema. -/
def normalizeEntry (schema : TopologySchema) (entry : String × GoValue) :
    Except GraphError (String × GraphValue) :=
  match schema.lookup entry.1 with
  | none => .error (.unsupportedProperty entry.1)
  | some propertyType =>
      match normalizeTopologyValue propertyType entry.2 with
      | .error reason => .error (.invalidProperty entry.1 reason)
      | .ok value => .ok (entry.1, value)

/-- `normalizeTopologyProperties`: the columns of the schema with their values. -/
def normalizeTopologyProperties (properties : Properties) (schema : TopologySchema) :
    Except GraphError (List (String × GraphValue)) :=
  match properties.rows.mapM (normalizeEntry schema) with
  | .error e => .error e
  | .ok normalized =>
      .ok ((schemaNames schema).map fun name => (name, (normalized.lookup name).getD .null))

/-- The normalised columns are exactly those of the schema. -/
theorem names_of_normalize {properties : Properties} {schema : TopologySchema}
    {columns : List (String × GraphValue)}
    (ok : normalizeTopologyProperties properties schema = .ok columns) :
    columns.map (·.1) = schemaNames schema := by
  unfold normalizeTopologyProperties at ok
  split at ok
  · cases ok
  · cases ok
    rw [List.map_map]
    exact List.map_id' _

end UnifiedInfraTopology
