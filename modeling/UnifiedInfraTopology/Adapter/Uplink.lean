import UnifiedInfraTopology.Adapter.InterfacePass
import UnifiedInfraTopology.Lib.Paging
import UnifiedInfraTopology.Lib.Sha256
import UnifiedInfraTopology.Model.Identity

/-!
# The collector of the server uplinks

`CollectServerUplinkPage` and `collectUplinkToRPorts` of `cmdb_server_uplink.go`.  A page of servers
lists for each server the ToR switches and the names of their ports that it is wired to; the ports of
a ToR are read by its SN and resolve the names.

The exchange with the CMDB is a parameter as before.  It also says how the items are marshalled again
for the digest of the page.
-/

namespace UnifiedInfraTopology

open Lib

/-- An item of a response: raw values by field. -/
abbrev RawItem : Type := PortItem

/-- A `map[string]string`. -/
abbrev TextMap : Type := Table (String × String) Prod.fst

/-- `m[k]`: a missing key reads as the empty text. -/
def TextMap.get (m : TextMap) (k : String) : String := (m.find? k).elim "" (·.2)

theorem TextMap.get_put (m : TextMap) (k v k' : String) :
    TextMap.get (m.put (k, v)) k' = if k = k' then v else m.get k' := by
  unfold TextMap.get
  rw [Table.find?_put]
  split <;> rfl

/-- A table of results by key, filled on demand. -/
abbrev Cache (α : Type) : Type := Table (String × α) Prod.fst

structure UplinkQuery where
  endpoint : String
  condition : Condition
  start : Int
  limit : Int
  fields : List String

structure UplinkAnswer where
  response : CmdbResponse RawItem
  /-- `json.Marshal` of the items. -/
  encoded : List UInt8

/-- What the collector works with: the context, the configuration of a source and the exchange. -/
structure UplinkClient where
  contextDone : Bool
  configFor : Source → Except CmdbError CmdbConfig
  exchange : UplinkQuery → Except CmdbError UplinkAnswer

/-- `cmdbEntityData`, with its items as they are marshalled again. -/
structure UplinkData where
  count : Int
  info : List RawItem
  encoded : List UInt8

/-- The number of items of a page. -/
def UplinkData.size (raw : UplinkData) : Int := raw.info.length

/-- `UplinkPage`. -/
structure UplinkPage where
  links : List RelationIdentity
  targets : TextMap
  nextOffset : Int
  total : Int
  done : Bool
  skipped : Int
  firstInstanceId : Int64
  lastInstanceId : Int64
  sourceDigest : String
  serverSNs : List String

/-- A `map[string]any` literal. -/
def conditionOf (entries : List (String × GoValue)) : Condition := entries.foldl Table.put .empty

namespace Cmdb

/-! ## Fields -/

/-- A text without its outer white space; a missing and a null one are empty. -/
def uplinkText (item : RawItem) (field : String) : Except CmdbError String :=
  match item.find? field with
  | none | some (_, .null) => .ok ""
  | some (_, .string s) => .ok (trimSpace s)
  | some _ => .error (.record ("invalid text field " ++ field))

/-- An integer; a null one is zero, a missing one is an error. -/
def uplinkInteger (item : RawItem) (field : String) : Except CmdbError Int64 :=
  match item.find? field with
  | none => .error (.record ("invalid integer field " ++ field))
  | some (_, raw) =>
      match assignInt64 0 raw with
      | none => .error (.record ("invalid integer field " ++ field))
      | some n => .ok n

/-! ## Requests -/

def collectUplinkMapPage (client : UplinkClient) (cfg : CmdbConfig) (endpoint : String)
    (condition : Condition) (start : Int) (fields : List String) : Except CmdbError UplinkData :=
  if client.contextDone then .error .context
  else do
    let answer ← client.exchange ⟨endpoint, condition, start, cfg.pageSize, fields⟩
    let response := answer.response
    if response.result ≠ some true ∨ response.errorCode ≠ some 0 then
      .error (.response "upstream business failure")
    else
      match response.data with
      | some (some count, some info) =>
          if count < 0 then .error (.response "missing count or info")
          else if count < start ∨ (info.length : Int) ≠ min cfg.pageSize (count - start) then
            .error (.response "incomplete or excessive uplink page")
          else .ok ⟨count, info, answer.encoded⟩
      | _ => .error (.response "missing count or info")

/-- A page that is accepted is full, or ends with the last item. -/
theorem collectUplinkMapPage_ok {client : UplinkClient} {cfg : CmdbConfig} {endpoint : String}
    {condition : Condition} {start : Int} {fields : List String} {raw : UplinkData}
    (ok : collectUplinkMapPage client cfg endpoint condition start fields = .ok raw) :
    0 ≤ raw.count ∧ start ≤ raw.count ∧ raw.size = min cfg.pageSize (raw.count - start) := by
  obtain ⟨-, ok⟩ := check_ok ok
  obtain ⟨answer, -, ok⟩ := bind_ok ok
  obtain ⟨-, ok⟩ := check_ok ok
  split at ok
  · obtain ⟨counted, ok⟩ := check_ok ok
    obtain ⟨whole, ok⟩ := check_ok ok
    cases ok
    rw [not_or, Int.not_lt, not_not] at whole
    exact ⟨Int.not_lt.mp counted, whole⟩
  · cases ok

def deviceViewEndpoint : String := "/pub/api/v3/find/instance/object/device_view"

def portViewEndpoint : String := "/pub/api/v3/find/instance/object/port_view"

def collectDeviceViewMapPage (client : UplinkClient) (cfg : CmdbConfig) (start : Int)
    (fields : List String) : Except CmdbError UplinkData :=
  collectUplinkMapPage client cfg deviceViewEndpoint cfg.deviceCondition start fields

/-- The devices with the SN of a ToR. -/
def torDevices (client : UplinkClient) (cfg : CmdbConfig) (tor : String) :
    Except CmdbError UplinkData :=
  -- The SN selects the device; the room does not, as a ToR may stand in another one.
  let deviceCfg := { cfg with
    deviceCondition := conditionOf [("device_sn", .string tor), ("parent_type_id", .signed 54)] }
  collectDeviceViewMapPage client deviceCfg 0 ["inst_id", "device_sn", "parent_type_id"]

/-- A page of the physical ports of a ToR. -/
def torPortPage (client : UplinkClient) (cfg : CmdbConfig) (tor : String) (start : Int) :
    Except CmdbError UplinkData :=
  collectUplinkMapPage client cfg portViewEndpoint
    (conditionOf [("sn", .string tor), ("port_type", .string "physics")]) start
    ["inst_id", "port_uuid", "port_name", "port_type", "local_device_sn"]

/-! ## The ports of a ToR -/

/-- What a port row says: its name and its UUID. -/
structure PortRow where
  name : String
  uuid : String
deriving DecidableEq

def portRow (item : RawItem) : Except CmdbError PortRow := do
  let name ← uplinkText item "port_name"
  let uuid ← uplinkText item "port_uuid"
  return ⟨name, uuid⟩

/-- Read a port row; `unordered` is the text of the error of an instance ID that does not climb. -/
def readPort (unordered tor : String) (last : Int64) (item : RawItem) :
    Except CmdbError (Int64 × PortRow) := do
  let inst ← uplinkInteger item "inst_id"
  if inst ≤ last then .error (.response unordered)
  else do
    let row ← portRow item
    let kind ← uplinkText item "port_type"
    let owner ← uplinkText item "local_device_sn"
    if kind ≠ "physics" ∨ (owner ≠ "" ∧ owner ≠ tor) then
      .error (.record "port violates physical ToR condition")
    else return (inst, row)

/-- The maps that `collectUplinkToRPorts` fills. -/
structure PortMaps where
  ports : TextMap
  seenNames : List String
  seenUUID : TextMap
  ambiguousUUID : List String

namespace PortMaps

def empty : PortMaps := ⟨.empty, [], .empty, []⟩

/-- The name is another one than the one the UUID was last seen with. -/
def collides (m : PortMaps) (row : PortRow) : Bool :=
  (m.seenUUID.find? row.uuid).any fun previous => previous.2 != row.name

/-- What a row does to the maps. -/
def add (m : PortMaps) (row : PortRow) : PortMaps where
  ports := m.ports.put (row.name, if row.name ∈ m.seenNames then "" else row.uuid)
  seenNames := row.name :: m.seenNames
  seenUUID := if row.uuid = "" then m.seenUUID else m.seenUUID.put (row.uuid, row.name)
  ambiguousUUID :=
    if row.uuid ≠ "" ∧ m.collides row then row.uuid :: m.ambiguousUUID else m.ambiguousUUID

/-- The pass over the map at the end. -/
def resolved (m : PortMaps) : TextMap :=
  m.ports.update (fun p => decide (p.1 = "" ∨ p.2 ∈ m.ambiguousUUID)) (fun p => (p.1, ""))
    fun _ => rfl

end PortMaps

/-- The last instance ID and the maps, after one more row. -/
def scanPort (tor : String) (scan : Int64 × PortMaps) (item : RawItem) :
    Except CmdbError (Int64 × PortMaps) := do
  let (inst, row) ← readPort "port inst_id is not strictly increasing" tor scan.1 item
  return (inst, scan.2.add row)

def collectUplinkToRPorts (client : UplinkClient) (cfg : CmdbConfig) (tor : String) :
    Except CmdbError TextMap := do
  let devices ← torDevices client cfg tor
  if devices.count ≠ 1 then return .empty
  else
    match devices.info.head? with
    | none => .error .indexOutOfRange
    | some device => do
        let sn ← uplinkText device "device_sn"
        let category ← uplinkInteger device "parent_type_id"
        let inst ← uplinkInteger device "inst_id"
        if sn ≠ tor ∨ category ≠ 54 ∨ inst ≤ 0 then return .empty
        else do
          let scan ← readPages UplinkData.count UplinkData.size (torPortPage client cfg tor)
            (.response "ToR port count changed") .unfinished
            (fun scan raw => raw.info.foldlM (scanPort tor) scan) (0, .empty)
          return scan.2.resolved

/-! ## A page of servers -/

/-- The configuration that the servers of a source are asked for with; `refusal` is the text of the
error of a source without a positive `idc_id`. -/
def serverConfig (client : UplinkClient) (refusal : String) (source : Source) :
    Except CmdbError CmdbConfig := do
  let cfg ← client.configFor source
  match InterfacePass.sprintInt64 (cfg.deviceCondition.get "idc_id") with
  | none => .error (.config refusal)
  | some idc =>
      if idc ≤ 0 then .error (.config refusal)
      else return ⟨conditionOf [("idc_id", .signed idc), ("parent_type_id", .signed 52)],
        min cfg.pageSize 200⟩

/-- A page of servers. -/
def serverPage (client : UplinkClient) (cfg : CmdbConfig) (start : Int) :
    Except CmdbError UplinkData :=
  collectDeviceViewMapPage client cfg start
    ["inst_id", "device_sn", "parent_type_id", "server_tor_ports"]

/-- What a server item says of the server: its instance ID, its class and its SN. -/
structure ServerRow where
  instId : Int64
  category : Int64
  sn : String

def serverRow (item : RawItem) : Except CmdbError ServerRow := do
  let inst ← uplinkInteger item "inst_id"
  let category ← uplinkInteger item "parent_type_id"
  let sn ← uplinkText item "device_sn"
  return ⟨inst, category, sn⟩

/-- `json.Unmarshal` into `[]json.RawMessage`, of a field that may be missing. -/
def rawItems (item : RawItem) (field error : String) : Except CmdbError (List Json.Value) :=
  match item.find? field with
  | none | some (_, .null) => .ok []
  | some (_, .array items) => .ok items
  | some _ => .error (.record error)

/-- `json.Unmarshal` into a `map[string]json.RawMessage`: the last member of a name counts. -/
def rawMembers (error : String) : Json.Value → Except CmdbError RawItem
  | .null => .ok .empty
  | .object members => .ok (members.foldl Table.put .empty)
  | _ => .error (.record error)

/-- `json.Unmarshal` into a `*string`. -/
def rawText (error : String) : Json.Value → Except CmdbError (Option String)
  | .null => .ok none
  | .string s => .ok (some s)
  | _ => .error (.record error)

/-- An entry of `server_tor_ports`: the SN of a ToR and the names of its ports. -/
structure UplinkEntry where
  tor : String
  names : List (Option String)

/-- Read an entry; the texts are those of its errors. -/
def uplinkEntry (badEntry badPorts : String) (entry : Json.Value) : Except CmdbError UplinkEntry := do
  let target ← rawMembers badEntry entry
  let tor ← uplinkText target "sn"
  let items ← rawItems target "ports" badPorts
  let names ← items.mapM (rawText badPorts)
  return ⟨tor, names⟩

/-- A nil name is the empty text. -/
def trimmedName (name : Option String) : String := name.elim "" trimSpace

/-- Look a key up in a cache, or compute its value and keep it there. -/
def cached {α : Type} (compute : String → Except CmdbError α) (cache : Cache α) (k : String) :
    Except CmdbError (α × Cache α) :=
  match cache.find? k with
  | some (_, value) => .ok (value, cache)
  | none => do
      let value ← compute k
      return (value, cache.put (k, value))

/-- The page while it is being filled, with the local maps. -/
structure UplinkScan where
  page : UplinkPage
  cache : Cache TextMap
  seenServers : List String

/-- The relation between a server and a port that it is wired to. -/
def uplinkIdentity (source : Source) (sn uuid : String) : RelationIdentity where
  sourceId := source.id
  edgeType := .network
  kind := .serverUplink
  origin := ⟨source.id, .device, sn⟩
  target := ⟨source.id, .interface, uuid⟩
  sourceRelationId := ""
  discriminator := ""

/-- The port has an owner, and it is another ToR. -/
def ownedElsewhere (owners : TextMap) (uuid tor : String) : Bool :=
  (owners.find? uuid).any fun owner => owner.2 != tor

/-- One name of an entry. -/
def linkName (source : Source) (sn tor : String) (ports : TextMap) (page : UplinkPage)
    (name : Option String) : Except CmdbError UplinkPage :=
  let value := trimmedName name
  let uuid := ports.get value
  if value = "" ∨ uuid = "" then .ok { page with skipped := page.skipped + 1 }
  else if ownedElsewhere page.targets uuid tor then
    .error (.record "port UUID has conflicting ToR owners")
  else
    .ok { page with
      targets := page.targets.put (uuid, tor)
      links := page.links ++ [uplinkIdentity source sn uuid] }

/-- One entry of a server. -/
def linkEntry (client : UplinkClient) (cfg : CmdbConfig) (source : Source) (sn : String)
    (scan : UplinkScan) (entry : Json.Value) : Except CmdbError UplinkScan := do
  let entry ← uplinkEntry "invalid server_tor_ports entry" "invalid server_tor_ports ports" entry
  if entry.tor = "" ∨ entry.names = [] then
    return { scan with page := { scan.page with skipped := scan.page.skipped + 1 } }
  else do
    let (ports, cache) ← cached (collectUplinkToRPorts client cfg) scan.cache entry.tor
    let page ← entry.names.foldlM (linkName source sn entry.tor ports) scan.page
    return { scan with page, cache }

/-- One server. -/
def linkServer (client : UplinkClient) (cfg : CmdbConfig) (source : Source) (scan : UplinkScan)
    (item : RawItem) : Except CmdbError UplinkScan := do
  let row ← serverRow item
  if row.instId ≤ 0 ∨ row.instId ≤ scan.page.lastInstanceId ∨ row.category ≠ 52 ∨ row.sn = "" ∨
      row.sn ∈ scan.seenServers then
    .error (.record "server requires unique sn, increasing positive inst_id and classification 52")
  else do
    let page := { scan.page with
      firstInstanceId :=
        if scan.page.firstInstanceId = 0 then row.instId else scan.page.firstInstanceId
      lastInstanceId := row.instId
      serverSNs := scan.page.serverSNs ++ [row.sn] }
    let entries ← rawItems item "server_tor_ports" "invalid server_tor_ports"
    entries.foldlM (linkEntry client cfg source row.sn)
      { scan with page, seenServers := row.sn :: scan.seenServers }

/-- The page before its servers are read. -/
def emptyPage (start : Int) (raw : UplinkData) : UplinkPage where
  links := []
  targets := .empty
  nextOffset := start + raw.size
  total := raw.count
  done := start + raw.size == raw.count
  skipped := 0
  firstInstanceId := 0
  lastInstanceId := 0
  sourceDigest := String.ofList (hexEncode (sha256 raw.encoded))
  serverSNs := []

/-- `CollectServerUplinkPage`. -/
def collectServerUplinkPage (client : UplinkClient) (source : Source) (start : Int) :
    Except CmdbError UplinkPage :=
  if client.contextDone then .error .context
  else if start < 0 ∨ trimSpace source.id = "" then
    .error (.config "nonnegative offset and source ID required")
  else do
    let cfg ← serverConfig client "server uplinks require a positive device_condition.idc_id" source
    let raw ← serverPage client cfg start
    let scan ← raw.info.foldlM (linkServer client cfg source) ⟨emptyPage start raw, .empty, []⟩
    return scan.page

end Cmdb

end UnifiedInfraTopology
