import UnifiedInfraTopology.Lib.GoString
import UnifiedInfraTopology.Repository.Cursor
import UnifiedInfraTopology.Worker.Pages

/-!
# The CMDB collector

The requests for one page of devices or ports, of `cmdb_device.go` and `cmdb_entity.go`, and the
record of a port.  The exchange itself (HTTP, its limits and the decoding of the payload) is a
parameter, `CmdbClient`: what comes back for a condition, a start and a limit.
-/

namespace UnifiedInfraTopology

open Lib

/-- The errors of the collector, with their text.  `indexOutOfRange` is the panic of a slice access;
`unfinished` is no error of the source, a loop has used up the iterations it was given. -/
inductive CmdbError where
  | context
  | config (detail : String)
  | http (detail : String)
  | response (detail : String)
  | record (detail : String)
  | indexOutOfRange
  | unfinished
deriving DecidableEq

/-- The condition of a request: values by field. -/
abbrev Condition : Type := Properties

structure CmdbConfig where
  deviceCondition : Condition
  pageSize : Int

/-- An item of `device_view`, with the fields that the discovery of network devices asks for. -/
structure DeviceItem where
  instId : Int64
  deviceSN : String
  parentTypeId : Int64
deriving DecidableEq

/-- An item of `port_view`: raw values by field. -/
abbrev PortItem : Type := Table (String × Json.Value) Prod.fst

/-- A decoded response. -/
structure CmdbResponse (α : Type) where
  result : Option Bool
  errorCode : Option Int
  data : Option (Option Int × Option (List α))

/-- The exchange with the CMDB: the condition, the start and the limit of a request, sorted by
`inst_id`. -/
structure CmdbClient where
  devices : Condition → Int → Int → Except CmdbError (CmdbResponse DeviceItem)
  ports : Condition → Int → Int → Except CmdbError (CmdbResponse PortItem)

/-- The items and the count of a response. -/
def CmdbResponse.page {α : Type} (response : CmdbResponse α) : Except CmdbError (List α × Int) :=
  if response.result ≠ some true ∨ response.errorCode ≠ some 0 then
    .error (.response "upstream business failure")
  else
    match response.data with
    | some (some count, some info) =>
        if count < 0 then .error (.response "missing data, count, or info") else .ok (info, count)
    | _ => .error (.response "missing data, count, or info")

namespace Cmdb

/-- `collectDevicePageWithFields`. -/
def collectDevicePageWithFields (client : CmdbClient) (cfg : CmdbConfig) (start : Int) :
    Except CmdbError (List DeviceItem × Int) :=
  match client.devices cfg.deviceCondition start cfg.pageSize with
  | .error e => .error e
  | .ok response => response.page

/-! ## Ports -/

/-- The integer `inst_id`; a missing one is zero. -/
def instanceField (item : PortItem) : Except CmdbError Int64 :=
  match item.find? "inst_id" with
  | none => .ok 0
  | some (_, raw) =>
      match assignInt64 0 raw with
      | none => .error (.record "invalid integer field inst_id")
      | some n => .ok n

/-- A text without its outer white space; a blank one is nil. -/
def textField (item : PortItem) (field : String) : Except CmdbError GoValue :=
  match item.find? field with
  | none | some (_, .null) => .ok .nil
  | some (_, .string s) => .ok (if trimSpace s = "" then .nil else .string (trimSpace s))
  | some _ => .error (.record ("invalid text field " ++ field))

/-- A text, or the literal of a number. -/
def literalField (item : PortItem) (field : String) : Except CmdbError GoValue :=
  match item.find? field with
  | none | some (_, .null) => .ok .nil
  | some (_, .string s) => .ok (.string s)
  | some (_, .number n) =>
      .ok (.string (String.ofList ((if n.negative then ['-'] else []) ++ n.digits ++ n.tail)))
  | some _ => .error (.record ("invalid text or numeric field " ++ field))

/-- An integer; zero is nil. -/
def integerField (item : PortItem) (field : String) : Except CmdbError GoValue :=
  match item.find? field with
  | none | some (_, .null) => .ok .nil
  | some (_, raw) =>
      match assignInt64 0 raw with
      | none => .error (.record ("invalid integer field " ++ field))
      | some n => .ok (if n = 0 then .nil else .signed n)

/-- Read some fields in their order and store them under their names. -/
def putFields (read : String → Except CmdbError GoValue) (name : String → String) :
    List String → Properties → Except CmdbError Properties
  | [], properties => .ok properties
  | field :: fields, properties =>
      match read field with
      | .error e => .error e
      | .ok value => putFields read name fields (properties.put (name field, value))

/-- `value.(string)`, with the empty text for other types. -/
def assertString : GoValue → String
  | .string s => s
  | _ => ""

/-- `cmdbInterfaceRecord`. -/
def cmdbInterfaceRecord (item : PortItem) : Except CmdbError EntityRecord :=
  match instanceField item with
  | .error e => .error e
  | .ok instId =>
      match putFields (textField item)
          (fun field => if field = "port_group_name" then "group_name" else field)
          ["port_uuid", "port_name", "port_type", "group_uuid", "port_group_uuid", "port_group_name"]
          .empty with
      | .error e => .error e
      | .ok properties =>
          let identity := assertString (properties.get "port_uuid")
          if instId ≤ 0 ∨ identity = "" then
            .error (.record "positive inst_id and port_uuid are required")
          else
            let properties := properties.erase fun p => decide (p.1 = "port_uuid")
            match putFields (literalField item) id ["port_speed", "port_operation_status"]
                properties with
            | .error e => .error e
            | .ok properties =>
                match putFields (integerField item) id
                    ["group_type", "port_group_type", "group_subtype"] properties with
                | .error e => .error e
                | .ok properties => .ok ⟨0, instId, identity, "", properties⟩

/-- The records of the items of a page, whose instance IDs must climb. -/
def interfaceRecords : Int64 → List PortItem → Except CmdbError (List EntityRecord)
  | _, [] => .ok []
  | lastInstanceId, item :: items =>
      match cmdbInterfaceRecord item with
      | .error e => .error e
      | .ok record =>
          if record.sourceInstanceId ≤ lastInstanceId then
            .error (.response "entity inst_id is not strictly increasing")
          else
            match interfaceRecords record.sourceInstanceId items with
            | .error e => .error e
            | .ok records => .ok (record :: records)

/-- `collectEntityPage` of interfaces. -/
def collectEntityPage (client : CmdbClient) (pageSize : Int) (condition : Condition) (start : Int) :
    Except CmdbError EntityPage :=
  match client.ports condition start pageSize with
  | .error e => .error e
  | .ok response =>
      match response.page with
      | .error e => .error e
      | .ok (items, total) =>
          if pageSize < items.length then .error (.response "page exceeds configured limit")
          else if items = [] ∧ start < total then
            .error (.response "empty page before count was reached")
          else
            match interfaceRecords 0 items with
            | .error e => .error e
            | .ok records =>
                .ok ⟨records, start + records.length, total,
                  decide (records.length < pageSize) || decide (total ≤ start + records.length)⟩

/-! ## Records -/

/-- A record has a positive instance ID. -/
theorem instanceId_of_record {item : PortItem} {record : EntityRecord}
    (ok : cmdbInterfaceRecord item = .ok record) : 0 < record.sourceInstanceId := by
  unfold cmdbInterfaceRecord at ok
  split at ok
  · cases ok
  · split at ok
    · cases ok
    · dsimp only at ok
      split at ok
      · cases ok
      · rename_i proper
        rw [not_or] at proper
        split at ok
        · cases ok
        · split at ok
          · cases ok
          · cases ok
            exact Int64.not_le.mp proper.1

/-- Items whose records climb are converted one by one. -/
theorem interfaceRecords_ok {items : List PortItem} {records : List EntityRecord}
    {lastInstanceId : Int64} (decoded : items.map cmdbInterfaceRecord = records.map .ok)
    (climbs : (lastInstanceId :: records.map (·.sourceInstanceId)).Pairwise (· < ·)) :
    interfaceRecords lastInstanceId items = .ok records := by
  induction items generalizing records lastInstanceId with
  | nil =>
      cases records with
      | nil => rfl
      | cons r records => cases decoded
  | cons item items ih =>
      cases records with
      | nil => cases decoded
      | cons r records =>
          simp only [List.map_cons, List.cons.injEq] at decoded
          obtain ⟨here, later⟩ := decoded
          rw [List.map_cons] at climbs
          obtain ⟨ahead, rest⟩ := List.pairwise_cons.mp climbs
          have forward : lastInstanceId < r.sourceInstanceId := ahead _ List.mem_cons_self
          simp only [interfaceRecords, here, ih later rest, Int64.not_le.mpr forward, ↓reduceIte]

end Cmdb

end UnifiedInfraTopology
