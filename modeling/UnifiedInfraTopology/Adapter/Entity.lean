import UnifiedInfraTopology.Adapter.Device
import UnifiedInfraTopology.Lib.Firsts
import UnifiedInfraTopology.Lib.GoTime

/-!
# The records of the other entities

`cmdbEntityRecord` of `cmdb_entity.go`: what is kept of an item of a data center, a cabinet, an
interface or a transformer.  An item has raw values by field; a missing field reads like one that is
null.
-/

namespace UnifiedInfraTopology.Cmdb

open Lib

/-- An item of any entity: raw values by field. -/
abbrev EntityItem : Type := PortItem

/-! ## Fields -/

/-- An integer; a missing one is nil. -/
def wholeField (kind : String) (item : EntityItem) (field : String) : Except CmdbError GoValue :=
  match item.find? field with
  | none | some (_, .null) => .ok .nil
  | some (_, raw) =>
      match assignInt64 0 raw with
      | none => .error (.record ("invalid " ++ kind ++ " field " ++ field))
      | some n => .ok (.signed n)

/-- A positive integer; everything else is nil. -/
def referenceField (item : EntityItem) (field : String) : GoValue :=
  match item.find? field with
  | none => .nil
  | some (_, raw) =>
      match assignInt64 0 raw with
      | none => .nil
      | some n => if 0 < n then .signed n else .nil

/-- `value.(int64)`, with zero for other types. -/
def assertInt64 : GoValue → Int64
  | .signed n => n
  | _ => 0

/-- An element of `pod_ids`. -/
def podId : Json.Value → Option (Option Int64)
  | .null => some none
  | raw => (assignInt64 0 raw).map some

/-- The positive elements of `pod_ids`, each once, sorted. -/
def sortedPodIds (ids : List (Option Int64)) : List Int64 :=
  (firsts id ((ids.filterMap id).filter fun id => decide (0 < id))).mergeSort fun a b => decide (a ≤ b)

def podIds (item : EntityItem) : Except CmdbError (List Int64) :=
  match item.find? "pod_ids" with
  | none | some (_, .null) => .ok []
  | some (_, .array items) =>
      match items.mapM podId with
      | none => .error (.record "invalid pod_ids")
      | some ids => .ok (sortedPodIds ids)
  | some _ => .error (.record "invalid pod_ids")

/-! ## Times -/

/-- The offset of a time of the CMDB without a zone. -/
def cmdbOffset : Int := 8 * 60 * 60

/-- The layouts of `cmdbSourceTime`: what stands before the time of day, and the zone. -/
def sourceLayouts : List (Between × (List Char → Option Int)) :=
  [(.letter, parseLooseZone), (.spaces, fun cs => if cs = [] then some cmdbOffset else none)]

/-- The instant of a text in the first layout that reads it, and what a clock in its zone shows then. -/
def parseSourceTime (text : List Char) : Option (Time × Time) :=
  sourceLayouts.findSome? fun layout =>
    (parseLayout layout.1 layout.2 text).bind fun t =>
      (parseLayout layout.1 (fun cs => (layout.2 cs).map fun _ => 0) text).map fun shown => (t, shown)

/-- Seconds from the zero instant to 1970. -/
def unixEpoch : Int := 62135596800

/-- Midnight of 2000-01-01, which stands for no time in the CMDB. -/
def noSourceTime : Time := daysOfCivil ⟨2000, 1, 1⟩ * 86400 * 1000000000

def cmdbSourceTime (item : EntityItem) (field : String) : GoValue :=
  match item.find? field with
  | some (_, .string s) =>
      let text := (trimSpace s).toList
      if text = [] ∨ "0000-00-00".toList <+: text then .nil
      else
        match parseSourceTime text with
        | none => .nil
        | some (t, shown) =>
            if t / Time.second - unixEpoch ≤ 0 ∨ shown = noSourceTime then .nil
            else .time t.truncateMicro
  | _ => .nil

/-! ## Records -/

def entityTextFields (entity : EntityType) : List String :=
  if entity = .cabinet then
    ["uuid", "code", "dc_colo_rack", "isp_rack_code", "rack", "rack_column_code", "rack_row"]
  else ["uuid", "code", "cn_name", "address", "location"]

def entityIntegerFields (entity : EntityType) : List String :=
  if entity = .cabinet then
    ["inst_id", "idc_id", "phy_building_id", "phy_room_id", "idc_module_id",
      "idc_building_structure_id", "idc_rows_code", "row_switch_id_A", "row_switch_id_B"]
  else ["inst_id"]

/-- The switches of a row have names in lower case. -/
def entityTarget (field : String) : String :=
  if field = "row_switch_id_A" then "row_switch_id_a"
  else if field = "row_switch_id_B" then "row_switch_id_b"
  else field

/-- The times of a record. -/
def putSourceTimes (created updated : GoValue) (properties : Properties) : Properties :=
  (properties.put ("source_created_at", created)).put ("source_updated_at", updated)

def putPodIds (entity : EntityType) (item : EntityItem) (properties : Properties) :
    Except CmdbError Properties :=
  if entity = .cabinet then
    match podIds item with
    | .error e => .error e
    | .ok ids => .ok (properties.put ("pod_ids", .integers ids))
  else .ok properties

/-- A record without the property that is its identity. -/
def entityRecord (instId : Int64) (identity : String) (properties : Properties) : EntityRecord :=
  ⟨0, instId, identity, "", properties.erase fun p => decide (p.1 = "uuid")⟩

def transformerTarget (field : String) : String :=
  if field = "transformer_brand" then "brand"
  else if field = "transformer_type" then "model"
  else field

def cmdbTransformerRecord (item : EntityItem) : Except CmdbError EntityRecord :=
  match instanceField item with
  | .error e => .error e
  | .ok instId =>
      match putFields (textField item) transformerTarget
          ["uuid", "code", "transformer_brand", "transformer_type"] .empty with
      | .error e => .error e
      | .ok properties =>
          let identity := assertString (properties.get "uuid")
          if instId ≤ 0 ∨ identity = "" then
            .error (.record "positive inst_id and uuid are required")
          else
            let properties := ((properties.put ("inst_id", .signed instId)).put
              ("idc_id", referenceField item "idc")).put
                ("standby_transformer_id", referenceField item "standby_transformer")
            match wholeField "numeric" item "transformer_capacity" with
            | .error e => .error e
            | .ok capacity => .ok (entityRecord instId identity
                (putSourceTimes (cmdbSourceTime item "create_time") (cmdbSourceTime item "last_time")
                  (properties.put ("rated_capacity", capacity))))

def cmdbEntityRecord (item : EntityItem) (entity : EntityType) : Except CmdbError EntityRecord :=
  if entity = .interface then cmdbInterfaceRecord item
  else if entity = .transformer then cmdbTransformerRecord item
  else
    match putFields (textField item) id (entityTextFields entity) .empty with
    | .error e => .error e
    | .ok properties =>
        match putFields (wholeField "integer" item) entityTarget (entityIntegerFields entity)
            properties with
        | .error e => .error e
        | .ok properties =>
            let instId := assertInt64 (properties.get "inst_id")
            let identity := assertString (properties.get "uuid")
            if instId ≤ 0 ∨ identity = "" then
              .error (.record "positive inst_id and uuid are required")
            else
              match putPodIds entity item properties with
              | .error e => .error e
              | .ok properties =>
                  let updated := cmdbSourceTime item "updated_at"
                  .ok (entityRecord instId identity (putSourceTimes (cmdbSourceTime item "created_at")
                    (if updated = .nil then cmdbSourceTime item "last_time" else updated) properties))

end UnifiedInfraTopology.Cmdb
