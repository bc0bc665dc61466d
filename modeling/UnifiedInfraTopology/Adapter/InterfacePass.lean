import UnifiedInfraTopology.Adapter.Collector
import UnifiedInfraTopology.Lib.Search
import UnifiedInfraTopology.Worker.Execute

/-!
# The interface pass

`OpenEntityPass` and `Page` of `cmdb_interface_pass.go`.  Opening a pass lists the network devices
and counts the ports of each; the ports of all devices form one sequence, in which the ports of a
device start at its `baseOffset`.  `Page` finds the device of an offset by binary search and asks for
a page of its ports.
-/

namespace UnifiedInfraTopology

open Lib

structure InterfacePartition where
  deviceInstId : Int64
  sn : String
  total : Int
  baseOffset : Int
deriving DecidableEq

structure InterfacePass where
  cfg : CmdbConfig
  condition : Condition
  devices : List InterfacePartition
  total : Int

namespace InterfacePass

/-- `conditionForSN`. -/
def conditionForSN (pass : InterfacePass) (sn : String) : Condition :=
  pass.condition.put ("sn", .string sn)

/-! ## Opening -/

/-- `strconv.ParseInt(fmt.Sprint(v), 10, 64)`.  A float prints without exponent below a million. -/
def sprintInt64 : GoValue → Option Int64
  | .signed n | .plane n => some n
  | .unsigned n => if n.toNat < 2 ^ 63 then some (Int64.ofNat n.toNat) else none
  | .string literal | .number literal => parseInt64 literal
  | .float (.finite q) =>
      if q.den = 1 ∧ q.num.natAbs < 1000000 then some (Int64.ofInt q.num) else none
  | _ => none

/-- The largest `int`. -/
def maxInt : Int := 9223372036854775807

/-- The SN that a condition selects; the empty text selects every device. -/
def selectedSN (condition : Condition) : Except CmdbError String :=
  match condition.find? "sn" with
  | none => .ok ""
  | some (_, .string sn) =>
      if trimSpace sn = "" then .error (.config "interface sn must be a nonempty string")
      else .ok (trimSpace sn)
  | some _ => .error (.config "interface sn must be a nonempty string")

/-- The pass while devices are being listed, the SNs seen and the last instance ID. -/
structure Discovery where
  pass : InterfacePass
  seenSN : List String
  lastInstId : Int64

/-- The device has the selected SN, whatever the discovery has been answered. -/
def selects (selected : String) (device : DeviceItem) : Bool :=
  selected == "" || selected == trimSpace device.deviceSN

/-- One device of a discovery page. -/
def discoverDevice (client : CmdbClient) (selected : String) (d : Discovery) (device : DeviceItem) :
    Except CmdbError Discovery :=
  let sn := trimSpace device.deviceSN
  if device.parentTypeId ≠ 54 ∨ device.instId ≤ 0 ∨ sn = "" then
    .error (.record "network device requires parent_type_id 54, positive inst_id and device_sn")
  else if device.instId ≤ d.lastInstId then
    .error (.response "network device inst_id is not strictly increasing")
  else if sn ∈ d.seenSN then .error (.response "duplicate network device sn")
  else
    let d := { d with seenSN := sn :: d.seenSN, lastInstId := device.instId }
    if ¬selects selected device then .ok d
    else
      match Cmdb.collectEntityPage client 1 (d.pass.conditionForSN sn) 0 with
      | .error e => .error e
      | .ok ports =>
          if (ports.records.length : Int) ≠ min 1 ports.total then
            .error (.response "incomplete interface count page")
          else if maxInt - d.pass.total < ports.total then
            .error (.response "interface total exceeds supported offset")
          else
            .ok { d with
              pass := { d.pass with
                devices := d.pass.devices ++ [⟨device.instId, sn, ports.total, d.pass.total⟩]
                total := d.pass.total + ports.total } }

/-- The loop of `OpenEntityPass` from an offset on. -/
def discover (client : CmdbClient) (discoveryCfg : CmdbConfig) (selected : String) :
    Nat → Int → Int → Discovery → Except CmdbError Discovery
  | 0, _, _, _ => .error .unfinished
  | fuel + 1, start, discoveryTotal, d =>
      match Cmdb.collectDevicePageWithFields client discoveryCfg start with
      | .error e => .error e
      | .ok (items, total) =>
          let discoveryTotal := if discoveryTotal < 0 then total else discoveryTotal
          if total ≠ discoveryTotal then
            .error (.response "network device count changed during discovery")
          else if total < start ∨ (items.length : Int) ≠ min discoveryCfg.pageSize (total - start) then
            .error (.response "incomplete network device page")
          else
            match items.foldlM (discoverDevice client selected) d with
            | .error e => .error e
            | .ok d =>
                if total ≤ start + items.length then .ok d
                else discover client discoveryCfg selected fuel (start + items.length) discoveryTotal d

/-- The condition of the ports and the SN it selects, from the configured condition. -/
def interfaceCondition (configured : Condition) : Except CmdbError (Condition × String) :=
  match sprintInt64 (Properties.get configured "idc_id") with
  | none => .error (.config "interface passes require a positive idc_id")
  | some idc =>
      if idc ≤ 0 then .error (.config "interface passes require a positive idc_id")
      else
        let condition := if (configured.find? "port_type").isNone then
          configured.put ("port_type", .string "physics") else configured
        match selectedSN condition with
        | .error e => .error e
        | .ok selected =>
            if selected = "" then .ok (condition, "")
            else .ok (condition.put ("sn", .string selected), selected)

/-- The condition of the network devices. -/
def discoveryCondition (condition : Condition) (selected : String) : Condition :=
  let condition : Condition :=
    ((Table.empty : Condition).put ("idc_id", Properties.get condition "idc_id")).put
      ("parent_type_id", .signed 54)
  if selected = "" then condition else condition.put ("device_sn", .string selected)

/-- `OpenEntityPass`, given what `ctx.Err`, `configFor` and `conditionFor` return. -/
def openEntityPass (fuel : Nat) (client : CmdbClient) (ctx : Except CmdbError Unit)
    (config : Except CmdbError CmdbConfig) (configured : Except CmdbError Condition)
    (entity : EntityType) : Except CmdbError InterfacePass :=
  if entity ≠ .interface then .error (.config "entity passes require interface")
  else
    match ctx, config, configured with
    | .error e, _, _ => .error e
    | .ok (), .error e, _ => .error e
    | .ok (), .ok _, .error e => .error e
    | .ok (), .ok cfg, .ok configured =>
        match interfaceCondition configured with
        | .error e => .error e
        | .ok (condition, selected) =>
            let discoveryCfg : CmdbConfig :=
              { cfg with deviceCondition := discoveryCondition condition selected }
            match discover client discoveryCfg selected fuel 0 (-1)
                ⟨⟨cfg, condition, [], 0⟩, [], 0⟩ with
            | .error e => .error e
            | .ok d => .ok d.pass

/-! ## Pages -/

/-- The ports up to those of the device with an index go beyond an offset. -/
def beyond (pass : InterfacePass) (start : Int) (i : Nat) : Bool :=
  (pass.devices[i]?).any fun device => decide (start < device.baseOffset + device.total)

/-- The index of the device whose ports an offset falls into. -/
def indexOf (pass : InterfacePass) (start : Int) : Nat :=
  search pass.devices.length (pass.beyond start)

/-- `Page`. -/
def page (pass : InterfacePass) (client : CmdbClient) (ctx : Except CmdbError Unit) (start : Int) :
    Except CmdbError EntityPage :=
  match ctx with
  | .error e => .error e
  | .ok () =>
      if start < 0 ∨ pass.total < start then .error (.config "interface offset is outside pass")
      else if start = pass.total then .ok ⟨[], start, pass.total, true⟩
      else
        match pass.devices[pass.indexOf start]? with
        | none => .error .indexOutOfRange
        | some device =>
            let localStart := start - device.baseOffset
            let pageSize := min pass.cfg.pageSize (device.total - localStart)
            match Cmdb.collectEntityPage client pageSize (pass.conditionForSN device.sn) localStart with
            | .error e => .error e
            | .ok page =>
                if page.total ≠ device.total then
                  .error (.response "interface count changed during pass")
                else if (page.records.length : Int) ≠ pageSize then
                  .error (.response "incomplete interface partition page")
                else
                  let records := page.records.map fun record =>
                    { record with partition := device.deviceInstId, ownerDeviceSN := device.sn }
                  .ok ⟨records, start + records.length, pass.total,
                    decide (start + records.length = pass.total)⟩

end InterfacePass

end UnifiedInfraTopology
