import UnifiedInfraTopology.Model.Relation

/-!
# What `NormalizeRelation` makes of a relation

`NormalSpec` lists what `normalizeSpec` accepts, one constructor for each branch, and
`normalizeRelation_ok_iff` what `normalizeRelation` accepts.  A property map is a reference in Go:
`normalizeRelationAt` is the same function over a heap of maps, and `normalizeRelationAt_eq` says that
it makes the same relation and leaves every map that was there alone.

* `normalizeRelation_laws`: the result is a fixed point, which neither the given discriminator nor the
  order of the endpoints of a link changes.
-/

namespace UnifiedInfraTopology

open Lib

/-! ## Valid identities -/

theorem EntityIdentity.canonicalJSON_ok {i : EntityIdentity} {text : String}
    (ok : i.canonicalJSON = .ok text) :
    text = jsonStrings [i.sourceId, i.entityType.text, i.stableId] := by
  unfold EntityIdentity.canonicalJSON at ok
  split at ok
  · cases ok
  · exact (Except.ok.inj ok).symm

/-- The parts of a valid identity. -/
structure RelationIdentity.Valid (i : RelationIdentity) : Prop where
  sourceId : i.sourceId ≠ ""
  edgeType : i.edgeType.valid = true
  kind : i.kind.valid = true
  origin : i.origin.validate = .ok ()
  target : i.target.validate = .ok ()
  originSource : i.origin.sourceId = i.sourceId
  targetSource : i.target.sourceId = i.sourceId

theorem RelationIdentity.validate_ok_iff {i : RelationIdentity} : i.validate = .ok () ↔ i.Valid := by
  unfold RelationIdentity.validate
  constructor
  · intro ok
    split at ok
    · cases ok
    rename_i sourceId
    split at ok
    · cases ok
    rename_i edgeType
    split at ok
    · cases ok
    rename_i kind
    split at ok
    · cases ok
    rename_i origin
    split at ok
    · cases ok
    rename_i target
    split at ok
    · cases ok
    rename_i same
    rw [not_or, not_not, not_not] at same
    exact ⟨sourceId, not_not.mp edgeType, not_not.mp kind, origin, target, same.1, same.2⟩
  · rintro ⟨sourceId, edgeType, kind, origin, target, originSource, targetSource⟩
    simp [sourceId, edgeType, kind, origin, target, originSource, targetSource]

/-- The endpoints of a valid identity may be swapped. -/
theorem RelationIdentity.Valid.swap {i : RelationIdentity} (valid : i.Valid) :
    { i with origin := i.target, target := i.origin }.Valid :=
  ⟨valid.sourceId, valid.edgeType, valid.kind, valid.target, valid.origin, valid.targetSource,
    valid.originSource⟩

/-! ## The branches of `normalizeSpec` -/

abbrev podMember : RelationSpec := ⟨.spatial, .memberOf, .device, .pod⟩

abbrev cabinetPower : RelationSpec := ⟨.power, .powerUpstream, .cabinet, .rpp⟩

abbrev gpuUplinks : RelationSpec := ⟨.network, .gpuUplink, .gpu, .interface⟩

abbrev portLinks : RelationSpec := ⟨.network, .linksTo, .interface, .interface⟩

abbrev standbys : RelationSpec := ⟨.power, .hasStandby, .transformer, .transformer⟩

/-- What `normalizeSpec` makes of a relation. -/
inductive NormalSpec (r : Relation) : RelationSpec → Relation → Prop where
  | plane {plane : Int64} (read : relationPlane (r.properties.get "plane") = .ok plane) :
      NormalSpec r podMember { r with
        properties := r.properties.put ("plane", .signed plane)
        identity := { r.identity with discriminator := toString plane.toInt } }
  | powerPath {path : String}
      (read : normalizedPowerPath (r.properties.get "power_path") = .ok path) :
      NormalSpec r cabinetPower { r with
        properties := r.properties.put ("power_path", .string path)
        identity := { r.identity with discriminator := path } }
  | torPort {torPort : String} (named : r.identity.sourceRelationId ≠ "")
      (read : r.properties.get "tor_port" = .string torPort) (set_ : trimSpace torPort ≠ "") :
      NormalSpec r gpuUplinks { r with
        properties := r.properties.put ("tor_port", .string (trimSpace torPort)) }
  | ordered {origin target : String} (first : r.identity.origin.canonicalJSON = .ok origin)
      (second : r.identity.target.canonicalJSON = .ok target)
      (inOrder : ¬utf8 target < utf8 origin) : NormalSpec r portLinks r
  | swapped {origin target : String} (first : r.identity.origin.canonicalJSON = .ok origin)
      (second : r.identity.target.canonicalJSON = .ok target)
      (reversed : utf8 target < utf8 origin) :
      NormalSpec r portLinks { r with
        identity := { r.identity with origin := r.identity.target, target := r.identity.origin } }
  | standby (apart : r.identity.origin ≠ r.identity.target) : NormalSpec r standbys r
  | plain {spec : RelationSpec} (other : spec ∉ [podMember, cabinetPower, gpuUplinks, portLinks,
      standbys]) : NormalSpec r spec r

theorem normalizeSpec_ok_iff {spec : RelationSpec} {r n : Relation} :
    normalizeSpec spec r = .ok n ↔ NormalSpec r spec n := by
  constructor
  · intro ok
    unfold normalizeSpec at ok
    simp only at ok
    split at ok
    · rename_i same
      split at ok
      · cases ok
      · rename_i read
        cases ok
        exact same ▸ .plane read
    rename_i notPod
    split at ok
    · rename_i same
      split at ok
      · cases ok
      · rename_i read
        cases ok
        exact same ▸ .powerPath read
    rename_i notPower
    split at ok
    · rename_i same
      split at ok
      · cases ok
      rename_i named
      split at ok
      · rename_i read
        split at ok
        · cases ok
        · rename_i set_
          cases ok
          exact same ▸ .torPort named read set_
      · cases ok
    rename_i notUplink
    split at ok
    · rename_i same
      split at ok
      · cases ok
      rename_i first
      split at ok
      · cases ok
      rename_i second
      split at ok
      · rename_i reversed
        cases ok
        exact same ▸ .swapped first second reversed
      · rename_i inOrder
        cases ok
        exact same ▸ .ordered first second inOrder
    rename_i notLink
    split at ok
    · rename_i same
      split at ok
      · cases ok
      · rename_i apart
        cases ok
        exact same ▸ .standby apart
    rename_i notStandby
    cases ok
    exact .plain (by simp [notPod, notPower, notUplink, notLink, notStandby])
  · intro normal
    cases normal with
    | plane read => simp [normalizeSpec, read]
    | powerPath read => simp [normalizeSpec, read]
    | torPort named read set_ => simp [normalizeSpec, named, read, set_]
    | ordered first second inOrder => simp [normalizeSpec, first, second, inOrder]
    | swapped first second reversed => simp [normalizeSpec, first, second, reversed]
    | standby apart => simp [normalizeSpec, apart]
    | plain other =>
        simp only [List.mem_cons, List.not_mem_nil, or_false, not_or] at other
        obtain ⟨notPod, notPower, notUplink, notLink, notStandby⟩ := other
        simp [normalizeSpec, notPod, notPower, notUplink, notLink, notStandby]

/-! ## What `normalizeRelation` accepts -/

/-- The row of the relation table. -/
def Relation.spec (r : Relation) : RelationSpec :=
  ⟨r.identity.edgeType, r.identity.kind, r.identity.origin.entityType,
    r.identity.target.entityType⟩

/-- The relation with another discriminator. -/
def Relation.discriminated (r : Relation) (discriminator : String) : Relation :=
  { r with identity := { r.identity with discriminator } }

/-- The relation with its endpoints swapped. -/
def Relation.swapped (r : Relation) : Relation :=
  { r with identity := { r.identity with origin := r.identity.target, target := r.identity.origin } }

theorem leastName_eq_none_iff {names : List String} : leastName names = none ↔ names = [] := by
  cases names with
  | nil => exact iff_of_true rfl rfl
  | cons name names =>
      refine iff_of_false ?_ nofun
      unfold leastName
      split <;> nofun

theorem validateRelationProperties_ok_iff {spec : RelationSpec} {properties : Properties} :
    validateRelationProperties spec properties = .ok () ↔
      ∀ entry ∈ properties.rows, entry.1 ∈ relationPropertyNames spec := by
  have none_ : leastName ((properties.rows.map (·.1)).filter fun name =>
      decide (name ∉ relationPropertyNames spec)) = none ↔
      ∀ entry ∈ properties.rows, entry.1 ∈ relationPropertyNames spec := by
    rw [leastName_eq_none_iff, List.filter_eq_nil_iff, List.forall_mem_map]
    simp
  rw [← none_, validateRelationProperties]
  split
  · rename_i none_
    exact iff_of_true rfl none_
  · rename_i found
    rw [found]
    exact iff_of_false nofun nofun

/-- What an accepted relation satisfies, and what is made of it. -/
structure Normalizes (r n : Relation) : Prop where
  valid : r.identity.Valid
  created : r.createdAt.isZero = false
  synced : r.syncedAt.isZero = false
  listed : r.spec ∈ relationSpecs
  allowed : ∀ entry ∈ r.properties.rows, entry.1 ∈ relationPropertyNames r.spec
  normal : NormalSpec (r.discriminated "") r.spec n
  unnamed : r.identity.kind ≠ .gpuUplink → n.identity.sourceRelationId = ""

theorem normalizeRelation_ok_iff {r n : Relation} :
    normalizeRelation r = .ok n ↔ Normalizes r n := by
  constructor
  · intro ok
    unfold normalizeRelation at ok
    split at ok
    · cases ok
    rename_i valid
    split at ok
    · cases ok
    rename_i created
    split at ok
    · cases ok
    rename_i synced
    simp only at ok
    split at ok
    · cases ok
    rename_i listed
    split at ok
    · cases ok
    rename_i allowed
    split at ok
    · cases ok
    rename_i normal
    split at ok
    · cases ok
    rename_i unnamed
    cases ok
    exact ⟨RelationIdentity.validate_ok_iff.mp valid, Bool.eq_false_iff.mpr created,
      Bool.eq_false_iff.mpr synced, not_not.mp listed,
      validateRelationProperties_ok_iff.mp allowed, normalizeSpec_ok_iff.mp normal,
      fun kind => by_contra fun named => unnamed ⟨kind, named⟩⟩
  · rintro ⟨valid, created, synced, listed, allowed, normal, unnamed⟩
    have listed : ¬(⟨r.identity.edgeType, r.identity.kind, r.identity.origin.entityType,
        r.identity.target.entityType⟩ : RelationSpec) ∉ relationSpecs := not_not.mpr listed
    have normal := normalizeSpec_ok_iff.mpr normal
    have allowed := validateRelationProperties_ok_iff.mpr allowed
    unfold Relation.spec at normal allowed
    unfold Relation.discriminated at normal
    simp only [normalizeRelation, RelationIdentity.validate_ok_iff.mpr valid, created, synced,
      listed, allowed, normal, Bool.false_eq_true, ↓reduceIte]
    rw [if_neg]
    rintro ⟨kind, named⟩
    exact named (unnamed kind)

/-! ## What normalisation keeps -/

/-- What normalisation leaves alone, and the endpoints up to their order. -/
structure NormalSpec.Keeps (r n : Relation) : Prop where
  sourceId : n.identity.sourceId = r.identity.sourceId
  edgeType : n.identity.edgeType = r.identity.edgeType
  kind : n.identity.kind = r.identity.kind
  sourceRelationId : n.identity.sourceRelationId = r.identity.sourceRelationId
  createdAt : n.createdAt = r.createdAt
  syncedAt : n.syncedAt = r.syncedAt
  endpoints : (n.identity.origin = r.identity.origin ∧ n.identity.target = r.identity.target) ∨
    (n.identity.origin = r.identity.target ∧ n.identity.target = r.identity.origin)

theorem NormalSpec.keeps {r n : Relation} {spec : RelationSpec} (normal : NormalSpec r spec n) :
    Keeps r n := by
  cases normal with
  | swapped => exact ⟨rfl, rfl, rfl, rfl, rfl, rfl, .inr ⟨rfl, rfl⟩⟩
  | _ => exact ⟨rfl, rfl, rfl, rfl, rfl, rfl, .inl ⟨rfl, rfl⟩⟩

theorem Normalizes.keeps {r n : Relation} (ok : Normalizes r n) : NormalSpec.Keeps r n := by
  obtain ⟨sourceId, edgeType, kind, sourceRelationId, createdAt, syncedAt, endpoints⟩ :=
    ok.normal.keeps
  exact ⟨sourceId, edgeType, kind, sourceRelationId, createdAt, syncedAt, endpoints⟩

/-- The endpoints of a link are of one type. -/
theorem NormalSpec.spec_eq {r n : Relation} {spec : RelationSpec} (normal : NormalSpec r spec n)
    (same : r.spec = spec) : n.spec = spec := by
  cases normal with
  | swapped =>
      simp only [Relation.spec, RelationSpec.mk.injEq] at same ⊢
      obtain ⟨edgeType, kind, origin, target⟩ := same
      exact ⟨edgeType, kind, target, origin⟩
  | _ => exact same

theorem Normalizes.spec {r n : Relation} (ok : Normalizes r n) : n.spec = r.spec :=
  ok.normal.spec_eq rfl

theorem Normalizes.validResult {r n : Relation} (ok : Normalizes r n) : n.identity.Valid := by
  obtain ⟨sourceId, edgeType, kind, origin, target, originSource, targetSource⟩ := ok.valid
  obtain ⟨source, edge, relation, -, -, -, ⟨from_, to_⟩ | ⟨from_, to_⟩⟩ := ok.keeps
  · exact ⟨source ▸ sourceId, edge ▸ edgeType, relation ▸ kind, from_ ▸ origin, to_ ▸ target,
      by rw [from_, source, originSource], by rw [to_, source, targetSource]⟩
  · exact ⟨source ▸ sourceId, edge ▸ edgeType, relation ▸ kind, from_ ▸ target, to_ ▸ origin,
      by rw [from_, source, targetSource], by rw [to_, source, originSource]⟩

/-- The properties of the result are those of the relation, and one that is allowed. -/
theorem NormalSpec.allowed {r n : Relation} {spec : RelationSpec} (normal : NormalSpec r spec n)
    (given : ∀ entry ∈ r.properties.rows, entry.1 ∈ relationPropertyNames spec) :
    ∀ entry ∈ n.properties.rows, entry.1 ∈ relationPropertyNames spec := by
  have put {name : String} {value : GoValue} (known : name ∈ relationPropertyNames spec) :
      ∀ entry ∈ (r.properties.put (name, value)).rows, entry.1 ∈ relationPropertyNames spec := by
    intro entry member
    rcases Table.mem_of_put member with rfl | member
    · exact known
    · exact given entry member
  cases normal with
  | plane => exact put (by decide)
  | powerPath => exact put (by decide)
  | torPort => exact put (by decide)
  | _ => exact given

/-! ## Derived values are fixed points -/

theorem Properties.get_put (properties : Properties) (name : String) (value : GoValue) :
    Properties.get (properties.put (name, value)) name = value := by
  rw [Properties.get, Table.find?_put, if_pos rfl]
  rfl

/-- Storing a property twice. -/
theorem Properties.put_put (properties : Properties) (entry : String × GoValue) :
    (properties.put entry).put entry = properties.put entry :=
  Table.put_of_mem (properties.self_mem_put entry)

theorem relationPlane_signed {value : GoValue} {plane : Int64}
    (ok : relationPlane value = .ok plane) : relationPlane (.signed plane) = .ok plane := by
  unfold relationPlane at ok
  dsimp only at ok
  split at ok
  · cases ok
  · split at ok
    · cases ok
    · rename_i nonzero
      cases ok
      exact if_neg nonzero

theorem normalizedPowerPath_letter : normalizedPowerPath (.string "A") = .ok "A" ∧
    normalizedPowerPath (.string "B") = .ok "B" := ⟨rfl, rfl⟩

theorem normalizedPowerPath_string {value : GoValue} {path : String}
    (ok : normalizedPowerPath value = .ok path) : normalizedPowerPath (.string path) = .ok path := by
  have letter : path = "A" ∨ path = "B" := by
    unfold normalizedPowerPath at ok
    split at ok
    · dsimp only at ok
      split at ok
      · cases ok
      · rename_i letter
        rw [not_and_or, not_not, not_not, Except.ok.inj ok] at letter
        exact letter
    · cases ok
  rcases letter with rfl | rfl
  · exact normalizedPowerPath_letter.1
  · exact normalizedPowerPath_letter.2

/-- The result of a branch is its own result. -/
theorem NormalSpec.again {r n : Relation} {spec : RelationSpec} (normal : NormalSpec r spec n)
    (cleared : r.identity.discriminator = "") : NormalSpec (n.discriminated "") spec n := by
  have kept {n : Relation} (cleared : n.identity.discriminator = "") (normal : NormalSpec n spec n) :
      NormalSpec (n.discriminated "") spec n := by
    have same : n.discriminated "" = n := by
      unfold Relation.discriminated
      rw [← cleared]
    rw [same]
    exact normal
  cases normal with
  | plane read =>
      rename_i plane
      have stored := (Properties.get_put r.properties "plane" (.signed plane)).symm
      have again := NormalSpec.plane (r := Relation.discriminated { r with
        properties := r.properties.put ("plane", .signed plane)
        identity := { r.identity with discriminator := toString plane.toInt } } "")
        ((congrArg relationPlane stored.symm).trans (relationPlane_signed read))
      simpa only [Relation.discriminated, Properties.put_put] using again
  | powerPath read =>
      rename_i path
      have stored := (Properties.get_put r.properties "power_path" (.string path)).symm
      have again := NormalSpec.powerPath (r := Relation.discriminated { r with
        properties := r.properties.put ("power_path", .string path)
        identity := { r.identity with discriminator := path } } "")
        ((congrArg normalizedPowerPath stored.symm).trans (normalizedPowerPath_string read))
      simpa only [Relation.discriminated, Properties.put_put] using again
  | torPort named read set_ =>
      rename_i torPort
      have stored := Properties.get_put r.properties "tor_port" (.string (trimSpace torPort))
      have again := NormalSpec.torPort (r := { r with
        properties := r.properties.put ("tor_port", .string (trimSpace torPort)) }) named stored
        (by rwa [trimSpace_trimSpace])
      refine kept cleared ?_
      simpa only [trimSpace_trimSpace, Properties.put_put] using again
  | ordered first second inOrder => exact kept cleared (.ordered first second inOrder)
  | swapped first second reversed => exact kept cleared (.ordered second first (List.lt_asymm reversed))
  | standby apart => exact kept cleared (.standby apart)
  | plain other => exact kept cleared (.plain other)

theorem Normalizes.again {r n : Relation} (ok : Normalizes r n) : Normalizes n n := by
  have spec := ok.spec
  have keeps := ok.keeps
  refine ⟨ok.validResult, keeps.createdAt ▸ ok.created, keeps.syncedAt ▸ ok.synced,
    spec ▸ ok.listed, ?_, ?_, ?_⟩
  · rw [spec]
    exact ok.normal.allowed ok.allowed
  · rw [spec]
    exact ok.normal.again rfl
  · rw [keeps.kind]
    exact ok.unnamed

/-! ## The order of the endpoints of a link -/

/-- One text, one endpoint of a link. -/
theorem EntityIdentity.canonicalJSON_injective {i j : EntityIdentity} {text : String}
    (ok : i.canonicalJSON = .ok text) (ok' : j.canonicalJSON = .ok text)
    (types : i.entityType = j.entityType) : i = j := by
  have parts := jsonStrings_injective ((canonicalJSON_ok ok).symm.trans (canonicalJSON_ok ok'))
  simp only [List.cons.injEq, and_true] at parts
  obtain ⟨sourceId, -, stableId⟩ := parts
  cases i
  cases j
  cases sourceId
  cases types
  cases stableId
  rfl

theorem Relation.swapped_self {r : Relation} (same : r.identity.origin = r.identity.target) :
    r.swapped = r := by
  obtain ⟨⟨sourceId, edgeType, kind, origin, target, sourceRelationId, discriminator⟩, properties,
    createdAt, syncedAt⟩ := r
  cases same
  rfl

/-- A link and the link with its endpoints swapped have one result. -/
theorem NormalSpec.swap {r n : Relation} (normal : NormalSpec r portLinks n)
    (types : r.identity.origin.entityType = r.identity.target.entityType) :
    NormalSpec r.swapped portLinks n := by
  cases normal with
  | ordered first second inOrder =>
      rename_i origin target
      by_cases before : utf8 origin < utf8 target
      · exact .swapped (r := r.swapped) second first before
      · have texts := utf8_injective (List.le_antisymm inOrder before)
        have endpoints := EntityIdentity.canonicalJSON_injective first (texts ▸ second) types
        rw [Relation.swapped_self endpoints]
        exact .ordered first second inOrder
  | swapped first second reversed => exact .ordered (r := r.swapped) second first (List.lt_asymm reversed)
  | plain other => exact (other (by simp)).elim

theorem spec_of_link : ∀ spec ∈ relationSpecs, spec.kind = .linksTo → spec = portLinks := by decide

theorem spec_of_uplink : ∀ spec ∈ relationSpecs, spec.kind = .gpuUplink → spec = gpuUplinks := by
  decide

theorem Normalizes.swap {r n : Relation} (ok : Normalizes r n) (link : r.identity.kind = .linksTo) :
    Normalizes r.swapped n := by
  have spec : r.spec = portLinks := spec_of_link r.spec ok.listed link
  have swapped : r.swapped.spec = portLinks := by
    simp only [Relation.spec, RelationSpec.mk.injEq, Relation.swapped] at spec ⊢
    obtain ⟨edgeType, kind, origin, target⟩ := spec
    exact ⟨edgeType, kind, target, origin⟩
  have types : r.identity.origin.entityType = r.identity.target.entityType :=
    (congrArg RelationSpec.origin spec).trans (congrArg RelationSpec.target spec).symm
  obtain ⟨valid, created, synced, listed, allowed, normal, unnamed⟩ := ok
  rw [spec] at listed allowed normal
  refine ⟨valid.swap, created, synced, swapped ▸ listed, ?_, ?_, unnamed⟩
  · rw [swapped]
    exact allowed
  · rw [swapped]
    exact NormalSpec.swap normal types

/-! ## Property maps by reference -/

/-- The property maps of a program; a map is known by its index. -/
abbrev MapHeap : Type := List Properties

namespace MapHeap

/-- The entries of a map; a nil map has none. -/
def read (heap : MapHeap) (map : Option Nat) : Properties :=
  (map.bind fun i => heap[i]?).getD .empty

def write (heap : MapHeap) (map : Option Nat) (entry : String × GoValue) : MapHeap :=
  map.elim heap fun i => heap.modify i fun properties => properties.put entry

/-- `cloneProperties`: a new map with the entries of the old one. -/
def clone (heap : MapHeap) (map : Option Nat) : Option Nat × MapHeap :=
  (some heap.length, heap ++ [heap.read map])

end MapHeap

/-- A relation with a reference to its property map. -/
structure RelationValue where
  identity : RelationIdentity
  /-- `none` is the nil map. -/
  properties : Option Nat
  createdAt : Time
  syncedAt : Time

def RelationValue.load (r : RelationValue) (heap : MapHeap) : Relation :=
  ⟨r.identity, heap.read r.properties, r.createdAt, r.syncedAt⟩

/-- `normalizeSpec` with its writes to the map of the relation. -/
def normalizeSpecAt (spec : RelationSpec) (r : RelationValue) (heap : MapHeap) :
    Except ModelError RelationValue × MapHeap :=
  let properties := heap.read r.properties
  if spec = podMember then
    match relationPlane (properties.get "plane") with
    | .error e => (.error e, heap)
    | .ok plane =>
        (.ok { r with identity := { r.identity with discriminator := toString plane.toInt } },
          heap.write r.properties ("plane", .signed plane))
  else if spec = cabinetPower then
    match normalizedPowerPath (properties.get "power_path") with
    | .error e => (.error e, heap)
    | .ok powerPath =>
        (.ok { r with identity := { r.identity with discriminator := powerPath } },
          heap.write r.properties ("power_path", .string powerPath))
  else if spec = gpuUplinks then
    if r.identity.sourceRelationId = "" then (.error .uplinkRelationIdRequired, heap)
    else
      match properties.get "tor_port" with
      | .string torPort =>
          if trimSpace torPort = "" then (.error .torPortRequired, heap)
          else (.ok r, heap.write r.properties ("tor_port", .string (trimSpace torPort)))
      | _ => (.error .torPortRequired, heap)
  else if spec = portLinks then
    match r.identity.origin.canonicalJSON with
    | .error e => (.error e, heap)
    | .ok origin =>
        match r.identity.target.canonicalJSON with
        | .error e => (.error e, heap)
        | .ok target =>
            if utf8 target < utf8 origin then
              (.ok { r with identity := { r.identity with
                origin := r.identity.target, target := r.identity.origin } }, heap)
            else (.ok r, heap)
  else if spec = standbys then
    if r.identity.origin = r.identity.target then (.error .standbyReferencesItself, heap)
    else (.ok r, heap)
  else (.ok r, heap)

/-- `NormalizeRelation` over a heap of maps: it works on a clone of the given map. -/
def normalizeRelationAt (r : RelationValue) (heap : MapHeap) :
    Except ModelError RelationValue × MapHeap :=
  match r.identity.validate with
  | .error e => (.error e, heap)
  | .ok () =>
      if r.createdAt.isZero then (.error .createdTimeRequired, heap)
      else if r.syncedAt.isZero then (.error .syncedTimeRequired, heap)
      else
        let spec : RelationSpec := ⟨r.identity.edgeType, r.identity.kind,
          r.identity.origin.entityType, r.identity.target.entityType⟩
        if spec ∉ relationSpecs then (.error (.unsupportedEndpoints spec), heap)
        else
          let (map, heap) := heap.clone r.properties
          let r := { r with properties := map }
          match validateRelationProperties spec (heap.read map) with
          | .error e => (.error e, heap)
          | .ok () =>
              let cleared := { r with identity := { r.identity with discriminator := "" } }
              match normalizeSpecAt spec cleared heap with
              | (.error e, heap) => (.error e, heap)
              | (.ok r, heap) =>
                  if spec.kind ≠ .gpuUplink ∧ r.identity.sourceRelationId ≠ "" then
                    (.error .relationIdUnsupported, heap)
                  else (.ok r, heap)

section Fresh

variable (heap : MapHeap) (properties : Properties)

theorem MapHeap.read_fresh : (heap ++ [properties]).read (some heap.length) = properties := by
  simp [MapHeap.read]

theorem MapHeap.write_fresh (entry : String × GoValue) :
    (heap ++ [properties]).write (some heap.length) entry = heap ++ [properties.put entry] := by
  simp [MapHeap.write, List.modify_eq_take_cons_drop]

/-- On a new map, the writes of `normalizeSpecAt` are the properties that `normalizeSpec` computes. -/
theorem normalizeSpecAt_fresh (spec : RelationSpec) (r : RelationValue)
    (fresh : r.properties = some heap.length) :
    normalizeSpecAt spec r (heap ++ [properties]) =
      match normalizeSpec spec ⟨r.identity, properties, r.createdAt, r.syncedAt⟩ with
      | .error e => (.error e, heap ++ [properties])
      | .ok n => (.ok ⟨n.identity, r.properties, n.createdAt, n.syncedAt⟩,
          heap ++ [n.properties]) := by
  unfold normalizeSpecAt normalizeSpec
  simp only [fresh, MapHeap.read_fresh, MapHeap.write_fresh]
  by_cases pod : spec = podMember
  · rw [if_pos pod, if_pos pod]
    cases relationPlane (properties.get "plane") <;> rfl
  rw [if_neg pod, if_neg pod]
  by_cases power : spec = cabinetPower
  · rw [if_pos power, if_pos power]
    cases normalizedPowerPath (properties.get "power_path") <;> rfl
  rw [if_neg power, if_neg power]
  by_cases uplink : spec = gpuUplinks
  · rw [if_pos uplink, if_pos uplink]
    by_cases named : r.identity.sourceRelationId = ""
    · rw [if_pos named, if_pos named]
    rw [if_neg named, if_neg named]
    cases properties.get "tor_port" with
    | string torPort =>
        dsimp only
        by_cases blank : trimSpace torPort = ""
        · rw [if_pos blank, if_pos blank]
        · rw [if_neg blank, if_neg blank, ← fresh]
    | _ => rfl
  rw [if_neg uplink, if_neg uplink]
  by_cases link : spec = portLinks
  · rw [if_pos link, if_pos link]
    cases r.identity.origin.canonicalJSON with
    | error e => rfl
    | ok origin =>
        cases r.identity.target.canonicalJSON with
        | error e => rfl
        | ok target =>
            dsimp only
            by_cases reversed : utf8 target < utf8 origin
            · rw [if_pos reversed, if_pos reversed]
            · rw [if_neg reversed, if_neg reversed, ← fresh]
  rw [if_neg link, if_neg link]
  by_cases standby : spec = standbys
  · rw [if_pos standby, if_pos standby]
    by_cases same : r.identity.origin = r.identity.target
    · rw [if_pos same, if_pos same]
    · rw [if_neg same, if_neg same, ← fresh]
  · rw [if_neg standby, if_neg standby, ← fresh]

/-- Over a heap of maps the result is the same, and the maps that were there are left alone. -/
theorem normalizeRelationAt_eq (r : RelationValue) :
    (∃ fresh, (normalizeRelationAt r heap).2 = heap ++ fresh) ∧
      (normalizeRelationAt r heap).1.map (·.load (normalizeRelationAt r heap).2) =
        normalizeRelation (r.load heap) := by
  unfold normalizeRelationAt normalizeRelation RelationValue.load
  dsimp only
  cases r.identity.validate with
  | error e => exact ⟨⟨[], (List.append_nil heap).symm⟩, rfl⟩
  | ok =>
      dsimp only
      by_cases created : r.createdAt.isZero = true
      · rw [if_pos created, if_pos created]
        exact ⟨⟨[], (List.append_nil heap).symm⟩, rfl⟩
      rw [if_neg created, if_neg created]
      by_cases synced : r.syncedAt.isZero = true
      · rw [if_pos synced, if_pos synced]
        exact ⟨⟨[], (List.append_nil heap).symm⟩, rfl⟩
      rw [if_neg synced, if_neg synced]
      split
      · exact ⟨⟨[], (List.append_nil heap).symm⟩, rfl⟩
      rw [MapHeap.clone]
      dsimp only
      rw [MapHeap.read_fresh]
      generalize validateRelationProperties _ (heap.read r.properties) = allowed
      cases allowed with
      | error e => exact ⟨⟨_, rfl⟩, rfl⟩
      | ok =>
          dsimp only
          rw [normalizeSpecAt_fresh heap (heap.read r.properties) _ _ rfl]
          dsimp only
          generalize normalizeSpec _ _ = result
          cases result with
          | error e => exact ⟨⟨_, rfl⟩, rfl⟩
          | ok n =>
              dsimp only
              split
              · exact ⟨⟨_, rfl⟩, rfl⟩
              · refine ⟨⟨_, rfl⟩, ?_⟩
                simp only [Except.map, MapHeap.read_fresh]

end Fresh

/-! ## Normalised relations -/

/-- A normalised relation is its own normal form; the given discriminator has no influence; the ends
of a link may be given in either order; the map of the caller is left as it was; and the result is a
row of the relation table with properties of that row, and with a relation ID of its source exactly
when it is an uplink of a GPU. -/
theorem normalizeRelation_laws :
    (∀ r n : Relation, normalizeRelation r = .ok n → normalizeRelation n = .ok n) ∧
    (∀ (r : Relation) (discriminator : String),
      normalizeRelation (r.discriminated discriminator) = normalizeRelation r) ∧
    (∀ r n : Relation, r.identity.kind = .linksTo → normalizeRelation r = .ok n →
      ∃ n', normalizeRelation r.swapped = .ok n' ∧ n'.identity.id = n.identity.id ∧
        n'.identity.origin.vid = n.identity.origin.vid ∧
        n'.identity.target.vid = n.identity.target.vid ∧ n'.identity.rank = n.identity.rank) ∧
    (∀ (r : RelationValue) (heap : MapHeap), (∀ i ∈ r.properties, i < heap.length) →
      (normalizeRelationAt r heap).2.read r.properties = heap.read r.properties ∧
        (normalizeRelationAt r heap).1.map (·.load (normalizeRelationAt r heap).2) =
          normalizeRelation (r.load heap)) ∧
    (∀ r n : Relation, normalizeRelation r = .ok n → n.spec ∈ relationSpecs ∧
      (∀ entry ∈ n.properties.rows, entry.1 ∈ relationPropertyNames n.spec) ∧
      (n.identity.sourceRelationId ≠ "" ↔ n.identity.kind = .gpuUplink)) := by
  refine ⟨fun r n ok => ?_, fun r discriminator => rfl, fun r n link ok => ?_,
    fun r heap stored => ⟨?_, (normalizeRelationAt_eq heap r).2⟩, fun r n ok => ?_⟩
  · exact normalizeRelation_ok_iff.mpr (normalizeRelation_ok_iff.mp ok).again
  · have swapped := (normalizeRelation_ok_iff.mp ok).swap link
    exact ⟨n, normalizeRelation_ok_iff.mpr swapped, rfl, rfl, rfl, rfl⟩
  · obtain ⟨fresh, grown⟩ := (normalizeRelationAt_eq heap r).1
    rw [grown]
    cases given : r.properties with
    | none => rfl
    | some i =>
        have inside := stored i given
        simp only [MapHeap.read, Option.bind_some, List.getElem?_append_left inside]
  · have ok := normalizeRelation_ok_iff.mp ok
    refine ⟨ok.spec ▸ ok.listed, ok.again.allowed, fun named => ?_, fun uplink => ?_⟩
    · by_contra other
      rw [ok.keeps.kind] at other
      exact named (ok.unnamed other)
    · rw [ok.keeps.kind] at uplink
      have normal := ok.normal
      rw [spec_of_uplink r.spec ok.listed uplink] at normal
      cases normal with
      | torPort named => exact named
      | plain other => exact (other (by simp)).elim

end UnifiedInfraTopology
