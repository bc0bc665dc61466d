import UnifiedInfraTopology.Model.Identity

/-!
# Normalising relations

`internal/model/relation.go`: the table of legal endpoints, the properties each kind may carry, and
`normalizeRelation`, which checks a relation and derives its discriminator.

A Go map has no order.  Where several properties are illegal the source reports the first by name;
so does `validateRelationProperties`.
-/

namespace UnifiedInfraTopology

open Lib

structure Relation where
  identity : RelationIdentity
  properties : Properties
  createdAt : Time
  syncedAt : Time
deriving DecidableEq

def relationSpecs : List RelationSpec := [
  ⟨.spatial, .memberOf, .device, .pod⟩,
  ⟨.spatial, .locatedIn, .device, .cabinet⟩,
  ⟨.spatial, .locatedIn, .cabinet, .dataCenter⟩,
  ⟨.spatial, .taggedWith, .cabinet, .pod⟩,
  ⟨.composition, .ownsInterface, .device, .interface⟩,
  ⟨.composition, .containsGPU, .device, .gpu⟩,
  ⟨.network, .serverUplink, .device, .interface⟩,
  ⟨.network, .gpuUplink, .gpu, .interface⟩,
  ⟨.network, .linksTo, .interface, .interface⟩,
  ⟨.power, .powerUpstream, .cabinet, .rpp⟩,
  ⟨.power, .powerUpstream, .rpp, .upsGroup⟩,
  ⟨.power, .memberOf, .ups, .upsGroup⟩,
  ⟨.power, .powerUpstream, .upsGroup, .transformer⟩,
  ⟨.power, .hasStandby, .transformer, .transformer⟩]

def relationPropertyNames (spec : RelationSpec) : List String :=
  if spec = ⟨.spatial, .memberOf, .device, .pod⟩ then ["plane"]
  else if spec = ⟨.network, .gpuUplink, .gpu, .interface⟩ then
    ["gpu_port", "gpu_port_speed", "gpu_ip", "gpu_slot", "server_port_speed", "bond_name",
      "tor_port", "tor_port_speed", "tor_role", "source"]
  else if spec = ⟨.power, .powerUpstream, .cabinet, .rpp⟩ then ["power_path"]
  else []

/-- The first of some names in the order of strings. -/
def leastName : List String → Option String
  | [] => none
  | name :: names =>
      match leastName names with
      | none => some name
      | some best => some (if best < name then best else name)

def validateRelationProperties (spec : RelationSpec) (properties : Properties) :
    Except ModelError Unit :=
  let invalid := (properties.rows.map (·.1)).filter fun name =>
    decide (name ∉ relationPropertyNames spec)
  match leastName invalid with
  | none => .ok ()
  | some name => .error (.unsupportedProperty name)

/-! ## Derived values -/

/-- `relationPlane`: a non-zero integer out of the numeric types.

The bound `math.MaxInt64` rounds up to 2^63 when it is compared to a `float64`, so that 2^63 itself
passes; converting it to `int64` wraps. -/
def relationPlane (value : GoValue) : Except ModelError Int64 :=
  let plane : Except ModelError Int64 :=
    match value with
    | .plane n | .signed n => .ok n
    | .unsigned n => if 9223372036854775807 < n then .error .planeOutOfRange else .ok n.toInt64
    | .float (.finite q) =>
        if q.den ≠ 1 ∨ 9223372036854775808 < q ∨ q < -9223372036854775808 then
          .error .planeNotInteger
        else .ok (Int64.ofInt q.num)
    | .float _ => .error .planeNotInteger
    | .number literal => (parseInt64 literal).elim (.error .planeNotInteger) .ok
    | _ => .error .planeRequired
  match plane with
  | .error e => .error e
  | .ok plane => if plane = 0 then .error .planeZero else .ok plane

/-- The upper case of the two letters `normalizedPowerPath` looks for; no other letter has them as
its upper case. -/
def toUpperAscii (s : String) : String :=
  String.ofList (s.toList.map fun c =>
    if 97 ≤ c.toNat ∧ c.toNat ≤ 122 then Char.ofNat (c.toNat - 32) else c)

def normalizedPowerPath (value : GoValue) : Except ModelError String :=
  match value with
  | .string powerPath =>
      let powerPath := toUpperAscii (trimSpace powerPath)
      if powerPath ≠ "A" ∧ powerPath ≠ "B" then .error .powerPathInvalid else .ok powerPath
  | _ => .error .powerPathRequired

/-! ## Normalisation -/

/-- The part of `NormalizeRelation` that depends on the kind of relation. -/
def normalizeSpec (spec : RelationSpec) (relation : Relation) : Except ModelError Relation :=
  let identity := relation.identity
  let properties := relation.properties
  if spec = ⟨.spatial, .memberOf, .device, .pod⟩ then
    match relationPlane (properties.get "plane") with
    | .error e => .error e
    | .ok plane =>
        .ok { relation with
          properties := properties.put ("plane", .signed plane)
          identity := { identity with discriminator := toString plane.toInt } }
  else if spec = ⟨.power, .powerUpstream, .cabinet, .rpp⟩ then
    match normalizedPowerPath (properties.get "power_path") with
    | .error e => .error e
    | .ok powerPath =>
        .ok { relation with
          properties := properties.put ("power_path", .string powerPath)
          identity := { identity with discriminator := powerPath } }
  else if spec = ⟨.network, .gpuUplink, .gpu, .interface⟩ then
    if identity.sourceRelationId = "" then .error .uplinkRelationIdRequired
    else
      match properties.get "tor_port" with
      | .string torPort =>
          if trimSpace torPort = "" then .error .torPortRequired
          else .ok { relation with
            properties := properties.put ("tor_port", .string (trimSpace torPort)) }
      | _ => .error .torPortRequired
  else if spec = ⟨.network, .linksTo, .interface, .interface⟩ then
    match identity.origin.canonicalJSON with
    | .error e => .error e
    | .ok origin =>
        match identity.target.canonicalJSON with
        | .error e => .error e
        | .ok target =>
            -- The endpoints of a link are ordered by the bytes of their canonical JSON.
            if utf8 target < utf8 origin then
              .ok { relation with
                identity := { identity with origin := identity.target, target := identity.origin } }
            else .ok relation
  else if spec = ⟨.power, .hasStandby, .transformer, .transformer⟩ then
    if identity.origin = identity.target then .error .standbyReferencesItself else .ok relation
  else .ok relation

/-- `NormalizeRelation`. -/
def normalizeRelation (relation : Relation) : Except ModelError Relation :=
  match relation.identity.validate with
  | .error e => .error e
  | .ok () =>
      if relation.createdAt.isZero then .error .createdTimeRequired
      else if relation.syncedAt.isZero then .error .syncedTimeRequired
      else
        let identity := relation.identity
        let spec : RelationSpec :=
          ⟨identity.edgeType, identity.kind, identity.origin.entityType,
            identity.target.entityType⟩
        if spec ∉ relationSpecs then .error (.unsupportedEndpoints spec)
        else
          match validateRelationProperties spec relation.properties with
          | .error e => .error e
          | .ok () =>
              let cleared := { relation with identity := { identity with discriminator := "" } }
              match normalizeSpec spec cleared with
              | .error e => .error e
              | .ok relation =>
                  if spec.kind ≠ .gpuUplink ∧ relation.identity.sourceRelationId ≠ "" then
                    .error .relationIdUnsupported
                  else .ok relation

end UnifiedInfraTopology
