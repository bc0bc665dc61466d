import UnifiedInfraTopology.Lib.GoString
import UnifiedInfraTopology.Lib.Json
import UnifiedInfraTopology.Lib.Sha256
import UnifiedInfraTopology.Model.Topology

/-!
# Canonical identities

`internal/model/identity.go`: the identities of entities and relations, the vertex and relation IDs
hashed from their canonical JSON, and the edge rank cut out of a relation ID.

* `vid_pattern`: a vertex ID is 64 lowercase hexadecimal digits;
* `rank_range`: a rank lies between 1 and 2^63 - 1.
-/

namespace UnifiedInfraTopology

open Lib

/-- The relation table's rows: an edge type and kind between two entity types. -/
structure RelationSpec where
  edgeType : EdgeType
  kind : RelationKind
  origin : EntityType
  target : EntityType
deriving DecidableEq

/-- The errors of the model package, one for each message. -/
inductive ModelError where
  | sourceIdRequired
  | invalidEntityType (entityType : EntityType)
  | stableIdRequired
  | invalidEdgeType (edgeType : EdgeType)
  | invalidRelationKind (kind : RelationKind)
  | invalidFromIdentity (cause : ModelError)
  | invalidToIdentity (cause : ModelError)
  | sourcesMustMatch
  | rankNotHexadecimal
  | createdTimeRequired
  | syncedTimeRequired
  | unsupportedEndpoints (spec : RelationSpec)
  | unsupportedProperty (name : String)
  | planeOutOfRange
  | planeNotInteger
  | planeRequired
  | planeZero
  | powerPathRequired
  | powerPathInvalid
  | uplinkRelationIdRequired
  | torPortRequired
  | standbyReferencesItself
  | relationIdUnsupported
deriving DecidableEq

structure EntityIdentity where
  sourceId : String
  entityType : EntityType
  stableId : String
deriving DecidableEq

structure RelationIdentity where
  sourceId : String
  edgeType : EdgeType
  kind : RelationKind
  origin : EntityIdentity
  target : EntityIdentity
  sourceRelationId : String
  discriminator : String
deriving DecidableEq

/-- The JSON text of an array of strings. -/
def jsonStrings (parts : List String) : String :=
  String.ofList (Json.printArray (parts.map .str))

theorem jsonStrings_injective : Function.Injective jsonStrings := by
  intro parts parts' same
  have printed := Json.printArray_injective (String.ofList_inj.mp same)
  exact List.map_injective_iff.mpr (fun _ _ => Json.Scalar.str.inj) printed

/-- `hashJSON`: the hexadecimal SHA-256 digest of a canonical JSON array. -/
def hashJSON (parts : List String) : String :=
  String.ofList (hexEncode (sha256 (utf8 (jsonStrings parts))))

/-! ## Entities -/

namespace EntityIdentity

def validate (i : EntityIdentity) : Except ModelError Unit :=
  if i.sourceId = "" then .error .sourceIdRequired
  else if ¬i.entityType.valid then .error (.invalidEntityType i.entityType)
  else if i.stableId = "" then .error .stableIdRequired
  else .ok ()

def canonicalJSON (i : EntityIdentity) : Except ModelError String :=
  match i.validate with
  | .error e => .error e
  | .ok () => .ok (jsonStrings [i.sourceId, i.entityType.text, i.stableId])

/-- `VID`: the vertex ID of an entity. -/
def vid (i : EntityIdentity) : Except ModelError String :=
  match i.validate with
  | .error e => .error e
  | .ok () => .ok (hashJSON ["vertex", i.sourceId, i.entityType.text, i.stableId])

theorem vid_ok {i : EntityIdentity} {vid : String} (ok : i.vid = .ok vid) :
    i.validate = .ok () ∧ vid = hashJSON ["vertex", i.sourceId, i.entityType.text, i.stableId] := by
  unfold EntityIdentity.vid at ok
  split at ok
  · cases ok
  · rename_i valid
    exact ⟨valid, (Except.ok.inj ok).symm⟩

end EntityIdentity

/-- `topologyVIDPattern`: 64 lowercase hexadecimal digits. -/
def topologyVIDPattern (vid : String) : Bool :=
  vid.toList.length == 64 &&
    vid.toList.all fun c => (48 ≤ c.toNat && c.toNat ≤ 57) || (97 ≤ c.toNat && c.toNat ≤ 102)

theorem toList_hashJSON (parts : List String) :
    (hashJSON parts).toList = hexEncode (sha256 (utf8 (jsonStrings parts))) :=
  String.toList_ofList

theorem length_hashJSON (parts : List String) : (hashJSON parts).toList.length = 64 := by
  rw [toList_hashJSON, length_hexEncode, length_sha256]

theorem hashJSON_pattern (parts : List String) : topologyVIDPattern (hashJSON parts) = true := by
  rw [topologyVIDPattern, length_hashJSON, toList_hashJSON]
  simp only [beq_self_eq_true, Bool.true_and, List.all_eq_true]
  intro c member
  exact lowercase_of_mem_hexEncode member

/-! ## Relations -/

/-- `rankFromRelationID`: the first 63 bits of a relation ID, with zero replaced by one. -/
def rankFromRelationId (relationId : String) : Except ModelError Int64 :=
  if relationId.toList.length ≠ 64 then .error .rankNotHexadecimal
  else
    match hexNumber? relationId.toList, hexNumber? (relationId.toList.take 16) with
    | some _, some value =>
        let value := value % 9223372036854775808
        .ok (Int64.ofNat (if value = 0 then 1 else value))
    | _, _ => .error .rankNotHexadecimal

/-- The rank lies between 1 and 2^63 - 1. -/
theorem rank_range {relationId : String} {rank : Int64} (ok : rankFromRelationId relationId = .ok rank) :
    1 ≤ rank.toInt ∧ rank.toInt ≤ 9223372036854775807 := by
  unfold rankFromRelationId at ok
  split at ok
  · cases ok
  · split at ok
    · rename_i value _ _
      have small : value % 9223372036854775808 < 9223372036854775808 :=
        Nat.mod_lt _ (by decide)
      cases ok
      rw [Int64.toInt_ofNat_of_lt (by split <;> omega)]
      split <;> omega
    · cases ok

theorem rankFromRelationId_hashJSON (parts : List String) :
    ∃ rank, rankFromRelationId (hashJSON parts) = .ok rank := by
  have digits : ∀ c ∈ (hashJSON parts).toList, (hexValue? c).isSome = true := by
    intro c member
    rw [toList_hashJSON] at member
    have lowercase := lowercase_of_mem_hexEncode member
    simp only [Bool.or_eq_true, Bool.and_eq_true, decide_eq_true_eq] at lowercase
    unfold hexValue?
    split_ifs
    · rfl
    · rfl
    · rfl
    · omega
  obtain ⟨whole, read⟩ : ∃ n, hexNumber? (hashJSON parts).toList = some n :=
    Option.isSome_iff_exists.mp (isSome_hexFrom? digits)
  obtain ⟨front, cut⟩ : ∃ n, hexNumber? ((hashJSON parts).toList.take 16) = some n :=
    Option.isSome_iff_exists.mp (isSome_hexFrom? fun c member => digits c (List.mem_of_mem_take member))
  refine ⟨Int64.ofNat (if front % 9223372036854775808 = 0 then 1 else front % 9223372036854775808), ?_⟩
  rw [rankFromRelationId, if_neg (by rw [length_hashJSON]; exact not_not.mpr rfl), read, cut]

namespace RelationIdentity

def validate (i : RelationIdentity) : Except ModelError Unit :=
  if i.sourceId = "" then .error .sourceIdRequired
  else if ¬i.edgeType.valid then .error (.invalidEdgeType i.edgeType)
  else if ¬i.kind.valid then .error (.invalidRelationKind i.kind)
  else
    match i.origin.validate with
    | .error e => .error (.invalidFromIdentity e)
    | .ok () =>
        match i.target.validate with
        | .error e => .error (.invalidToIdentity e)
        | .ok () =>
            if i.origin.sourceId ≠ i.sourceId ∨ i.target.sourceId ≠ i.sourceId then
              .error .sourcesMustMatch
            else .ok ()

/-- `ID`: hashed from the source's own relation ID where there is one, else from the endpoints. -/
def id (i : RelationIdentity) : Except ModelError String :=
  match i.validate with
  | .error e => .error e
  | .ok () =>
      if i.sourceRelationId ≠ "" then
        .ok (hashJSON ["relation", i.sourceId, i.edgeType.text, i.kind.text, i.sourceRelationId])
      else
        match i.origin.canonicalJSON with
        | .error e => .error e
        | .ok origin =>
            match i.target.canonicalJSON with
            | .error e => .error e
            | .ok target =>
                .ok (hashJSON ["relation", i.sourceId, i.edgeType.text, i.kind.text, origin, target,
                  i.discriminator])

/-- `Rank`. -/
def rank (i : RelationIdentity) : Except ModelError Int64 :=
  match i.id with
  | .error e => .error e
  | .ok relationId => rankFromRelationId relationId

/-- The ID of a relation is a hash. -/
theorem id_eq_hashJSON {i : RelationIdentity} {relationId : String} (ok : i.id = .ok relationId) :
    ∃ parts, relationId = hashJSON parts := by
  unfold RelationIdentity.id at ok
  split at ok
  · cases ok
  · split at ok
    · exact ⟨_, (Except.ok.inj ok).symm⟩
    · split at ok
      · cases ok
      · split at ok
        · cases ok
        · exact ⟨_, (Except.ok.inj ok).symm⟩

/-- A relation with an ID has a rank. -/
theorem rank_of_id {i : RelationIdentity} {relationId : String} (ok : i.id = .ok relationId) :
    ∃ rank, i.rank = .ok rank := by
  obtain ⟨parts, rfl⟩ := id_eq_hashJSON ok
  rw [RelationIdentity.rank, ok]
  exact rankFromRelationId_hashJSON parts

end RelationIdentity

end UnifiedInfraTopology
