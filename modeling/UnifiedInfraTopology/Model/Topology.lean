import UnifiedInfraTopology.Lib.Table
import UnifiedInfraTopology.Lib.GoTime
import Mathlib.Data.Rat.Defs

/-!
# Topology vocabulary and dynamic values

The entity, edge and relation names of `internal/model/topology.go`, and `GoValue`, the dynamic
types that a property map (`map[string]any`) can hold and that the model code distinguishes.

Each name is a text in the source.  The inductive types have one constructor for each constant and
`other` for every other text; `text` gives the text back.
-/

namespace UnifiedInfraTopology

open Lib

inductive EntityType where
  | device
  | interface
  | gpu
  | pod
  | cabinet
  | dataCenter
  | rpp
  | upsGroup
  | ups
  | transformer
  | other (text : String)
deriving DecidableEq

namespace EntityType

def text : EntityType → String
  | device => "device"
  | interface => "interface"
  | gpu => "gpu"
  | pod => "pod"
  | cabinet => "cabinet"
  | dataCenter => "data_center"
  | rpp => "rpp"
  | upsGroup => "ups_group"
  | ups => "ups"
  | transformer => "transformer"
  | other text => text

def valid : EntityType → Bool
  | other _ => false
  | _ => true

end EntityType

inductive EdgeType where
  | spatial
  | composition
  | network
  | power
  | other (text : String)
deriving DecidableEq

namespace EdgeType

def text : EdgeType → String
  | spatial => "spatial_relation"
  | composition => "composition_relation"
  | network => "network_relation"
  | power => "power_relation"
  | other text => text

def valid : EdgeType → Bool
  | other _ => false
  | _ => true

end EdgeType

inductive RelationKind where
  | memberOf
  | locatedIn
  | taggedWith
  | ownsInterface
  | containsGPU
  | serverUplink
  | gpuUplink
  | linksTo
  | powerUpstream
  | hasStandby
  | other (text : String)
deriving DecidableEq

namespace RelationKind

def text : RelationKind → String
  | memberOf => "member_of"
  | locatedIn => "located_in"
  | taggedWith => "tagged_with"
  | ownsInterface => "owns_interface"
  | containsGPU => "contains_gpu"
  | serverUplink => "server_uplink"
  | gpuUplink => "gpu_uplink"
  | linksTo => "links_to"
  | powerUpstream => "power_upstream"
  | hasStandby => "has_standby"
  | other text => text

def valid : RelationKind → Bool
  | other _ => false
  | _ => true

end RelationKind

/-! ## Dynamic values -/

/-- A `float64` by the rational number it denotes. -/
inductive GoFloat where
  | finite (value : Rat)
  | infinite (negative : Bool)
  | nan
deriving DecidableEq

/-- A value of type `any`.  `signed` stands for `int`, `int8`, `int16`, `int32` and `int64`,
`unsigned` for the unsigned types: no code tells the widths apart.  A nil slice is an empty one. -/
inductive GoValue where
  | nil
  | string (s : String)
  | signed (n : Int64)
  | unsigned (n : UInt64)
  | plane (n : Int64)
  | float (f : GoFloat)
  | number (literal : String)
  | boolean (b : Bool)
  | time (t : Time)
  | strings (items : List String)
  | integers (items : List Int64)
  | other
deriving DecidableEq

/-- A property map. -/
abbrev Properties : Type := Table (String × GoValue) Prod.fst

/-- `properties[name]`: a missing name reads as nil. -/
def Properties.get (properties : Properties) (name : String) : GoValue :=
  (properties.find? name).elim .nil (·.2)

/-- `strconv.ParseInt(literal, 10, 64)`: an optional sign and decimal digits, within range. -/
def parseInt64 (literal : String) : Option Int64 :=
  let (negative, digits) := match literal.toList with
    | '-' :: cs => (true, cs)
    | '+' :: cs => (false, cs)
    | cs => (false, cs)
  if digits = [] then none
  else (number? digits).bind fun n =>
    let value : Int := if negative then -(n : Int) else n
    if -9223372036854775808 ≤ value ∧ value ≤ 9223372036854775807 then some (Int64.ofInt value)
    else none

end UnifiedInfraTopology
