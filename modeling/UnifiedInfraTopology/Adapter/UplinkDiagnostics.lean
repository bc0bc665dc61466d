import UnifiedInfraTopology.Adapter.Uplink

/-!
# The diagnostics of the server uplinks

`CollectServerUplinkDiagnostics` and `collectDiagnosticToR` of `cmdb_uplink_diagnostics.go`: one
reading of all servers that keeps every reference of a server to a port, with the reason why it cannot
be resolved.
-/

namespace UnifiedInfraTopology

open Lib

/-- `UplinkDiagnosticReference`; an empty reason says that the port is known. -/
structure UplinkDiagnosticReference where
  serverSN : String
  serverInstanceId : Int64
  torSN : String
  torInstanceId : Int64
  portName : String
  portNames : List String
  portUUID : String
  reason : String
deriving DecidableEq

structure UplinkDiagnostics where
  servers : Int
  sourceDigest : String
  references : List UplinkDiagnosticReference

structure DiagnosticToR where
  instanceId : Int64
  reason : String
  ports : TextMap
  reasons : TextMap

namespace Cmdb

/-! ## The ports of a ToR -/

/-- The maps that `collectDiagnosticToR` fills. -/
structure DiagnosticMaps where
  ports : TextMap
  reasons : TextMap
  seenNames : List String
  seenUUID : TextMap
  ambiguousUUID : List String

namespace DiagnosticMaps

def empty : DiagnosticMaps := ⟨.empty, .empty, [], .empty, []⟩

/-- The name is another one than the one the UUID was last seen with. -/
def collides (m : DiagnosticMaps) (row : PortRow) : Bool :=
  (m.seenUUID.find? row.uuid).any fun previous => previous.2 != row.name

/-- What a row does to the maps. -/
def add (m : DiagnosticMaps) (row : PortRow) : DiagnosticMaps where
  ports := m.ports.put (row.name, if row.name ∈ m.seenNames then "" else row.uuid)
  reasons :=
    if row.name ∈ m.seenNames then m.reasons.put (row.name, "cmdb_ambiguous_port_name")
    else if row.uuid = "" then m.reasons.put (row.name, "cmdb_blank_port_uuid")
    else m.reasons
  seenNames := row.name :: m.seenNames
  seenUUID := if row.uuid = "" then m.seenUUID else m.seenUUID.put (row.uuid, row.name)
  ambiguousUUID :=
    if row.uuid ≠ "" ∧ m.collides row then row.uuid :: m.ambiguousUUID else m.ambiguousUUID

theorem key_cleared (p : String × String) : (p.1, "").1 = p.1 := rfl

/-- The pass over the ports at the end: the ports. -/
def resolvedPorts (m : DiagnosticMaps) : TextMap :=
  m.ports.update (fun p => decide (p.1 = "") || decide (p.2 ∈ m.ambiguousUUID))
    (fun p => (p.1, "")) key_cleared

/-- The pass over the ports at the end: the reasons. -/
def resolvedReasons (m : DiagnosticMaps) : TextMap :=
  m.ports.rows.foldl (fun reasons p =>
    if p.2 ∈ m.ambiguousUUID then reasons.put (p.1, "cmdb_ambiguous_port_uuid") else reasons)
    m.reasons

end DiagnosticMaps

/-- The last instance ID and the maps, after one more row. -/
def scanDiagnosticPort (tor : String) (scan : Int64 × DiagnosticMaps) (item : RawItem) :
    Except CmdbError (Int64 × DiagnosticMaps) := do
  let (inst, row) ← readPort "port inst_id not increasing" tor scan.1 item
  return (inst, scan.2.add row)

/-- A ToR without ports, and the reason. -/
def unresolvedToR (reason : String) : DiagnosticToR := ⟨0, reason, .empty, .empty⟩

def collectDiagnosticToR (client : UplinkClient) (cfg : CmdbConfig) (tor : String) :
    Except CmdbError DiagnosticToR := do
  let devices ← torDevices client cfg tor
  if devices.count = 0 then return unresolvedToR "cmdb_network_tor_not_found"
  else if devices.count ≠ 1 then return unresolvedToR "cmdb_multiple_network_tors"
  else
    match devices.info.head? with
    | none => .error .indexOutOfRange
    | some device => do
        let sn ← uplinkText device "device_sn"
        let category ← uplinkInteger device "parent_type_id"
        let inst ← uplinkInteger device "inst_id"
        if sn ≠ tor ∨ category ≠ 54 ∨ inst ≤ 0 then
          return unresolvedToR "cmdb_tor_identity_mismatch"
        else do
          let scan ← readPages UplinkData.count UplinkData.size (torPortPage client cfg tor)
            (.response "ToR port count changed") .unfinished
            (fun scan raw => raw.info.foldlM (scanDiagnosticPort tor) scan) (0, .empty)
          return ⟨inst, "", scan.2.resolvedPorts, scan.2.resolvedReasons⟩

/-! ## The servers -/

/-- What the reading of the servers keeps. -/
structure DiagnosticScan where
  result : UplinkDiagnostics
  cache : Cache DiagnosticToR
  seen : List String
  owners : TextMap
  last : Int64
  /-- The bytes that the digest has been given. -/
  digested : List UInt8

/-- An entry without ToR or without ports is one reference. -/
def unusableEntry (ref : UplinkDiagnosticReference) (entry : UplinkEntry) :
    UplinkDiagnosticReference :=
  { ref with
    reason := if entry.tor = "" then "cmdb_blank_tor_sn" else "cmdb_empty_ports"
    portNames := entry.names.map trimmedName }

/-- Why a port name is not resolved; empty when it is. -/
def unresolvedReason (resolved : DiagnosticToR) (name uuid : String) : String :=
  if name = "" then "cmdb_blank_port_name"
  else if resolved.reason ≠ "" then resolved.reason
  else if resolved.reasons.get name ≠ "" then resolved.reasons.get name
  else if uuid = "" then "cmdb_port_name_missing"
  else ""

def DiagnosticScan.append (scan : DiagnosticScan) (row : UplinkDiagnosticReference) :
    DiagnosticScan :=
  { scan with result := { scan.result with references := scan.result.references ++ [row] } }

section Append

variable (scan : DiagnosticScan) (row : UplinkDiagnosticReference)

@[simp] theorem append_owners : (scan.append row).owners = scan.owners := rfl

@[simp] theorem append_last : (scan.append row).last = scan.last := rfl

@[simp] theorem append_seen : (scan.append row).seen = scan.seen := rfl

@[simp] theorem append_cache : (scan.append row).cache = scan.cache := rfl

@[simp] theorem append_references :
    (scan.append row).result.references = scan.result.references ++ [row] := rfl

end Append

/-- One name of an entry. -/
def diagnoseName (ref : UplinkDiagnosticReference) (resolved : DiagnosticToR)
    (scan : DiagnosticScan) (name : Option String) : Except CmdbError DiagnosticScan :=
  let portName := trimmedName name
  let portUUID := resolved.ports.get portName
  let row := { ref with
    portName, portUUID
    torInstanceId := resolved.instanceId
    reason := unresolvedReason resolved portName portUUID }
  if row.reason = "" then
    if ownedElsewhere scan.owners portUUID ref.torSN then
      .error (.record "conflicting port UUID owners")
    else .ok ({ scan with owners := scan.owners.put (portUUID, ref.torSN) }.append row)
  else .ok (scan.append row)

/-- One entry of a server. -/
def diagnoseEntry (client : UplinkClient) (cfg : CmdbConfig) (sn : String) (inst : Int64)
    (scan : DiagnosticScan) (entry : Json.Value) : Except CmdbError DiagnosticScan := do
  let entry ← uplinkEntry "invalid uplink entry" "invalid uplink ports" entry
  let ref : UplinkDiagnosticReference := ⟨sn, inst, entry.tor, 0, "", [], "", ""⟩
  if entry.tor = "" ∨ entry.names = [] then return scan.append (unusableEntry ref entry)
  else do
    let (resolved, cache) ← cached (collectDiagnosticToR client cfg) scan.cache entry.tor
    entry.names.foldlM (diagnoseName ref resolved) { scan with cache }

/-- One server. -/
def diagnoseServer (client : UplinkClient) (cfg : CmdbConfig) (scan : DiagnosticScan)
    (item : RawItem) : Except CmdbError DiagnosticScan := do
  let row ← serverRow item
  if row.instId ≤ scan.last ∨ row.sn = "" ∨ row.category ≠ 52 ∨ row.sn ∈ scan.seen then
    .error (.record "server identity/order changed")
  else do
    let scan := { scan with
      last := row.instId
      seen := row.sn :: scan.seen
      result := { scan.result with servers := scan.result.servers + 1 } }
    let entries ← rawItems item "server_tor_ports" "invalid server_tor_ports"
    entries.foldlM (diagnoseEntry client cfg row.sn row.instId) scan

/-- One page of servers. -/
def diagnosePage (client : UplinkClient) (cfg : CmdbConfig) (scan : DiagnosticScan)
    (raw : UplinkData) : Except CmdbError DiagnosticScan :=
  raw.info.foldlM (diagnoseServer client cfg) { scan with digested := scan.digested ++ raw.encoded }

/-- `CollectServerUplinkDiagnostics`. -/
def collectServerUplinkDiagnostics (client : UplinkClient) (source : Source) :
    Except CmdbError UplinkDiagnostics :=
  if trimSpace source.id = "" then .error (.config "")
  else do
    let cfg ← serverConfig client "positive device_condition.idc_id required" source
    let scan ← readPages UplinkData.count UplinkData.size (serverPage client cfg)
      (.response "server count changed") .unfinished (diagnosePage client cfg)
      ⟨⟨0, "", []⟩, .empty, [], .empty, 0, []⟩
    return { scan.result with sourceDigest := String.ofList (hexEncode (sha256 scan.digested)) }

end Cmdb

end UnifiedInfraTopology
