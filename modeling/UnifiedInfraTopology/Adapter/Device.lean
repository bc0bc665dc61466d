import UnifiedInfraTopology.Adapter.Collector
import UnifiedInfraTopology.Lib.Firsts
import UnifiedInfraTopology.Lib.Netip

/-!
# Devices of `device_view`

The decoded item of `cmdb_device.go`, its record and the addresses of the record.

An address may be written alone, with a port or with a list of ports; `normalizeDeviceIP` tries the three
spellings in this order.  An address of version 6 keeps its zone as it is written.

* `allIPs_laws`: which addresses a record has, in which order, and what a second pass makes of them.
-/

namespace UnifiedInfraTopology.Cmdb

open Lib

structure DeviceComputePlaneDTO where
  podId : Int64
deriving DecidableEq

structure DeviceIPDTO where
  ip : String
deriving DecidableEq

structure DeviceIPInfoDTO where
  eth : List DeviceIPDTO
  ilo : List DeviceIPDTO
  data : List DeviceIPDTO
  console : List DeviceIPDTO
  management : List DeviceIPDTO
deriving DecidableEq

structure DeviceViewDTO where
  instId : Int64
  deviceId : Int64
  deviceSN : String
  deviceName : String
  hostName : String
  parentTypeId : Int64
  deviceTypeId : Int64
  role : String
  cabinetUUID : String
  podUUID : String
  computePlane : List DeviceComputePlaneDTO
  deviceIPInfo : DeviceIPInfoDTO
  ethIP : List String
  iloIP : List String
  dataIP : List String
  consoleIP : List String
  managementIP : List String
deriving DecidableEq

/-- The record of a device, with the references that a run of devices does not write. -/
structure FullDeviceRecord extends DeviceRecord where
  cabinetUUID : String
  podUUID : String
  computePlane : List Int64
deriving DecidableEq

/-! ## Addresses -/

/-- `strings.FieldsFunc` at slashes of both kinds. -/
def splitPorts (cs : List Char) : List (List Char) :=
  (cs.splitOnP fun c => c = '/' ∨ c = '\\').filter (· ≠ [])

/-- `strings.Trim(s, "[]")`. -/
def trimBrackets (cs : List Char) : List Char :=
  (cs.dropWhile fun c => c = '[' ∨ c = ']').rdropWhile fun c => c = '[' ∨ c = ']'

/-- The third spelling: an address and at least two ports, none of them zero. -/
def parseAddrPorts (cs : List Char) : Option Netip.Addr :=
  match Netip.splitLastColon cs with
  | none | some ([], _) | some (_, []) => none
  | some (host, ports) =>
      (Netip.parseAddr (trimBrackets host)).bind fun address =>
        if (splitPorts ports).length < 2 then none
        else if (splitPorts ports).all fun port => (Netip.parsePort port).any (· ≠ 0) then some address
        else none

/-- The address that a text denotes in one of the three spellings. -/
def deviceAddr (cs : List Char) : Option Netip.Addr :=
  (Netip.parseAddr cs).or (((Netip.parseAddrPort cs).map (·.1)).or (parseAddrPorts cs))

def normalizeDeviceIP (value : String) : Option String :=
  (deviceAddr value.toList).map fun address => String.ofList address.print

/-- The entries of the ten groups, in their order. -/
def DeviceViewDTO.addresses (d : DeviceViewDTO) : List String :=
  let info := d.deviceIPInfo
  ((info.eth ++ info.ilo ++ info.data ++ info.console ++ info.management).map (·.ip)) ++
    d.ethIP ++ d.iloIP ++ d.dataIP ++ d.consoleIP ++ d.managementIP

/-- The body of the loop of `allIPs`; what was seen is what the result has. -/
def addIP (result : List String) (value : String) : List String :=
  let value := trimSpace value
  if value = "" then result
  else
    match normalizeDeviceIP value with
    | none => result
    | some normalized => if normalized ∈ result then result else result ++ [normalized]

/-- `allIPs`, which never fails. -/
def allIPs (d : DeviceViewDTO) : List String := d.addresses.foldl addIP []

/-! ## Records -/

def validParentTypeID (id : Int64) : Bool :=
  id = 0 || id = 52 || id = 53 || id = 54 || id = 55

/-- The first of some texts that is not empty; the last where all are. -/
def firstFilled (first second third : String) : String :=
  if first ≠ "" then first else if second ≠ "" then second else third

def toRecord (d : DeviceViewDTO) : Except CmdbError FullDeviceRecord :=
  if d.instId ≤ 0 ∨ d.deviceId ≤ 0 then .error (.record "inst_id and device_id are required")
  else if d.instId ≠ d.deviceId then .error (.record "inst_id and device_id conflict")
  else
    let deviceSN := trimSpace d.deviceSN
    if deviceSN = "" then .error (.record "device_sn is required")
    else if validParentTypeID d.parentTypeId = false ∨ d.deviceTypeId < 0 then
      .error (.record "invalid device type")
    else .ok {
      sourceInstanceId := if d.instId = 0 then d.deviceId else d.instId
      deviceSN
      name := firstFilled (trimSpace d.deviceName) (trimSpace d.hostName) deviceSN
      parentTypeId := d.parentTypeId
      deviceTypeId := d.deviceTypeId
      role := trimSpace d.role
      allIPs := allIPs d
      cabinetUUID := trimSpace d.cabinetUUID
      podUUID := trimSpace d.podUUID
      computePlane := d.computePlane.map (·.podId) }

/-! ## Which addresses a record has -/

/-- What an entry yields: the normal form of its trimmed text. -/
def normalizedEntry (value : String) : Option String :=
  if trimSpace value = "" then none else normalizeDeviceIP (trimSpace value)

theorem addIP_eq (result : List String) (value : String) : addIP result value =
    match normalizedEntry value with
    | none => result
    | some normalized => if normalized ∈ result then result else result ++ [normalized] := by
  unfold addIP normalizedEntry
  dsimp only
  by_cases blank : trimSpace value = ""
  · rw [if_pos blank, if_pos blank]
  · rw [if_neg blank, if_neg blank]

theorem firsts_id_append (l : List String) (a : String) : firsts id (l ++ [a]) =
    if a ∈ firsts id l then firsts id l else firsts id l ++ [a] := by
  rw [firsts_append, List.map_id]
  rfl

/-- The loop keeps the first occurrences. -/
theorem allIPs_eq (d : DeviceViewDTO) :
    allIPs d = firsts id (d.addresses.filterMap normalizedEntry) := by
  unfold allIPs
  induction d.addresses using List.reverseRecOn with
  | nil => rfl
  | append_singleton values value ih =>
      rw [List.foldl_append, List.foldl_cons, List.foldl_nil, ih, List.filterMap_append, addIP_eq]
      cases entry : normalizedEntry value with
      | none => simp [entry]
      | some normalized =>
          have last : [value].filterMap normalizedEntry = [normalized] := by simp [entry]
          rw [last, firsts_id_append]

/-- A normal form is its own normal form. -/
theorem normalizeDeviceIP_fixed {value normalized : String}
    (ok : normalizeDeviceIP value = some normalized) :
    normalizeDeviceIP normalized = some normalized := by
  obtain ⟨address, -, rfl⟩ := Option.map_eq_some_iff.mp ok
  rw [normalizeDeviceIP, String.toList_ofList, deviceAddr, Netip.parseAddr_print, Option.some_or]
  rfl

theorem normalized_of_mem_allIPs {d : DeviceViewDTO} {ip : String} (member : ip ∈ allIPs d) :
    normalizeDeviceIP ip = some ip := by
  rw [allIPs_eq] at member
  obtain ⟨value, -, entry⟩ := List.mem_filterMap.mp (mem_of_mem_firsts member)
  unfold normalizedEntry at entry
  split at entry
  · cases entry
  · exact normalizeDeviceIP_fixed entry

theorem normalizeDeviceIP_empty : normalizeDeviceIP "" = none := by decide

/-- An entry that is trimmed and its own normal form. -/
theorem normalizedEntry_fixed {ip : String} (trimmed : trimSpace ip = ip)
    (fixed : normalizeDeviceIP ip = some ip) : normalizedEntry ip = some ip := by
  have filled : ip ≠ "" := by
    rintro rfl
    rw [normalizeDeviceIP_empty] at fixed
    cases fixed
  rw [normalizedEntry, trimmed, if_neg filled, fixed]

theorem nodup_allIPs (d : DeviceViewDTO) : (allIPs d).Nodup := by
  have nodup : ((firsts id (d.addresses.filterMap normalizedEntry)).map id).Nodup := nodup_keys_firsts
  rwa [List.map_id, ← allIPs_eq] at nodup

/-- **The addresses of a record.**  They are the normal forms of the entries, each once and in the order
of first occurrence; each is its own normal form; and where none of them has white space at an end, a
device with just these addresses has the same. -/
theorem allIPs_laws (d : DeviceViewDTO) :
    ((∀ ip, ip ∈ allIPs d ↔ ∃ value ∈ d.addresses, trimSpace value ≠ "" ∧
        normalizeDeviceIP (trimSpace value) = some ip) ∧
      (allIPs d).Nodup ∧ (allIPs d).Pairwise fun a b =>
        (d.addresses.filterMap normalizedEntry).idxOf a <
          (d.addresses.filterMap normalizedEntry).idxOf b) ∧
    (∀ ip ∈ allIPs d, normalizeDeviceIP ip = some ip) ∧
    ∀ again : DeviceViewDTO, again.addresses = allIPs d →
      (∀ ip ∈ allIPs d, trimSpace ip = ip) → allIPs again = allIPs d := by
  refine ⟨⟨fun ip => ?_, nodup_allIPs d, ?_⟩, fun ip => normalized_of_mem_allIPs, ?_⟩
  · have kept : ip ∈ (firsts id (d.addresses.filterMap normalizedEntry)).map id ↔
        ip ∈ (d.addresses.filterMap normalizedEntry).map id := mem_keys_firsts
    rw [List.map_id, List.map_id, ← allIPs_eq] at kept
    rw [kept, List.mem_filterMap]
    refine exists_congr fun value => and_congr_right fun _ => ?_
    unfold normalizedEntry
    by_cases blank : trimSpace value = ""
    · simp [blank]
    · rw [if_neg blank, and_iff_right blank]
  · rw [allIPs_eq]
    exact pairwise_idxOf_firsts
  · intro again same trimmed
    have entries : (allIPs d).filterMap normalizedEntry = allIPs d := by
      have each : ∀ ip ∈ allIPs d, normalizedEntry ip = some ip := fun ip member =>
        normalizedEntry_fixed (trimmed ip member) (normalized_of_mem_allIPs member)
      rw [List.filterMap_congr each, List.filterMap_some]
    rw [allIPs_eq again, same, entries]
    exact firsts_of_nodup (by rw [List.map_id]; exact nodup_allIPs d)

def bareDevice (addresses : List String) : DeviceViewDTO where
  instId := 1
  deviceId := 1
  deviceSN := "SN"
  deviceName := ""
  hostName := ""
  parentTypeId := 52
  deviceTypeId := 57
  role := ""
  cabinetUUID := ""
  podUUID := ""
  computePlane := []
  deviceIPInfo := ⟨[], [], [], [], []⟩
  ethIP := addresses
  iloIP := []
  dataIP := []
  consoleIP := []
  managementIP := []

/-- A zone that was read out of brackets may end in white space, and then loses it. -/
theorem allIPs_unstable : ¬∀ d again : DeviceViewDTO, again.addresses = allIPs d →
    allIPs again = allIPs d := by
  intro stable
  have first : allIPs (bareDevice ["[fe80::1%eth0 ]:80"]) = ["fe80::1%eth0 "] := by decide +kernel
  have second : allIPs (bareDevice ["fe80::1%eth0 "]) = ["fe80::1%eth0"] := by decide +kernel
  have same := stable (bareDevice ["[fe80::1%eth0 ]:80"]) (bareDevice ["fe80::1%eth0 "])
    (by rw [first]; rfl)
  rw [first, second] at same
  exact absurd same (by decide)

end UnifiedInfraTopology.Cmdb
