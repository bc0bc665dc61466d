import UnifiedInfraTopology.Graph.Built

/-!
# The bytes behind an ID

A vertex ID and a relation ID are the SHA-256 digests of the UTF-8 bytes of a JSON array, of four
strings for a vertex and of five or seven for a relation; the endpoints of a relation are JSON texts
inside JSON strings.  The bytes determine the identity (`preimage_injective`), so two IDs are the
same only for one identity, or for two preimages that SHA-256 maps to one digest.

No function into 32 bytes is injective, so freedom from collisions is asked of a set of preimages:
those of the identities at hand.
-/

namespace UnifiedInfraTopology

open Lib

/-- The bytes that `hashJSON` hashes. -/
def preimage (parts : List String) : List UInt8 := utf8 (jsonStrings parts)

theorem preimage_injective : Function.Injective preimage :=
  utf8_injective.comp jsonStrings_injective

/-- One digest comes from one array, as long as no two of the preimages collide. -/
theorem hashJSON_injOn {hashed : Set (List UInt8)} (collisionFree : Set.InjOn sha256 hashed)
    {parts parts' : List String} (known : preimage parts ∈ hashed)
    (known' : preimage parts' ∈ hashed) (same : hashJSON parts = hashJSON parts') :
    parts = parts' := by
  have digits : hexEncode (sha256 (preimage parts)) = hexEncode (sha256 (preimage parts')) :=
    String.ofList_inj.mp same
  have digests := hexEncode_injective digits
  exact preimage_injective (collisionFree known known' digests)

/-! ## Vertices -/

theorem EntityIdentity.hashed_injective {i j : EntityIdentity} (valid : i.validate = .ok ())
    (valid' : j.validate = .ok ()) (same : i.hashed = j.hashed) : i = j := by
  obtain ⟨sourceId, entityType, stableId⟩ := i
  obtain ⟨sourceId', entityType', stableId'⟩ := j
  simp only [EntityIdentity.hashed, List.cons.injEq, true_and, and_true] at same
  obtain ⟨rfl, texts, rfl⟩ := same
  have types := EntityType.text_injective (EntityIdentity.validate_ok valid).2
    (EntityIdentity.validate_ok valid').2 texts
  dsimp only at types
  rw [types]

/-! ## Relations -/

/-- An identity that `normalizeRelation` has accepted, as it was given or as it was normalised. -/
def RelationIdentity.Accepted (i : RelationIdentity) : Prop :=
  ∃ r normalized, normalizeRelation r = .ok normalized ∧
    (i = r.identity ∨ i = normalized.identity)

/-- What two relations with one ID have in common. -/
structure RelationIdentity.Same (i j : RelationIdentity) : Prop where
  sourceId : i.sourceId = j.sourceId
  edgeType : i.edgeType = j.edgeType
  kind : i.kind = j.kind
  named : (i.sourceRelationId ≠ "" ∧ i.sourceRelationId = j.sourceRelationId) ∨
    (i.origin = j.origin ∧ i.target = j.target ∧ i.discriminator = j.discriminator)

theorem EdgeType.text_injective {a b : EdgeType} (valid : a.valid = true) (valid' : b.valid = true)
    (same : a.text = b.text) : a = b := by
  cases a <;> cases b <;> simp_all [EdgeType.valid, EdgeType.text]

theorem RelationKind.text_injective {a b : RelationKind} (valid : a.valid = true)
    (valid' : b.valid = true) (same : a.text = b.text) : a = b := by
  cases a <;> cases b <;> simp_all [RelationKind.valid, RelationKind.text]

/-- The canonical JSON of an endpoint determines it. -/
theorem EntityIdentity.json_injective {i j : EntityIdentity} (valid : i.validate = .ok ())
    (valid' : j.validate = .ok ())
    (same : jsonStrings [i.sourceId, i.entityType.text, i.stableId] =
      jsonStrings [j.sourceId, j.entityType.text, j.stableId]) : i = j := by
  have parts := jsonStrings_injective same
  exact hashed_injective valid valid' (congrArg ("vertex" :: ·) parts)

/-- The two shapes of the array: with the relation ID of the source, or with the endpoints. -/
theorem RelationIdentity.hashed_injective {i j : RelationIdentity} (valid : i.validate = .ok ())
    (valid' : j.validate = .ok ()) (same : i.hashed = j.hashed) : i.Same j := by
  obtain ⟨-, edgeType, kind, origin, target, -⟩ := RelationIdentity.validate_ok_iff.mp valid
  obtain ⟨-, edgeType', kind', origin', target', -⟩ := RelationIdentity.validate_ok_iff.mp valid'
  have edgeTypes := EdgeType.text_injective edgeType edgeType'
  have kinds := RelationKind.text_injective kind kind'
  unfold RelationIdentity.hashed at same
  split at same
  · rename_i own
    split at same
    · simp only [List.cons.injEq, true_and, and_true] at same
      obtain ⟨sourceId, edgeType, kind, sourceRelationId⟩ := same
      exact ⟨sourceId, edgeTypes edgeType, kinds kind, .inl ⟨own, sourceRelationId⟩⟩
    · cases congrArg List.length same
  · split at same
    · cases congrArg List.length same
    · simp only [List.cons.injEq, true_and, and_true] at same
      obtain ⟨sourceId, edgeType, kind, origins, targets, discriminator⟩ := same
      exact ⟨sourceId, edgeTypes edgeType, kinds kind,
        .inr ⟨EntityIdentity.json_injective origin origin' origins,
          EntityIdentity.json_injective target target' targets, discriminator⟩⟩

/-! ## Accepted relations -/

theorem validate_normalizeRelation {r normalized : Relation}
    (ok : normalizeRelation r = .ok normalized) :
    r.identity.validate = .ok () ∧ normalized.identity.validate = .ok () := by
  have normal := normalizeRelation_ok_iff.mp ok
  exact ⟨RelationIdentity.validate_ok_iff.mpr normal.valid,
    RelationIdentity.validate_ok_iff.mpr normal.validResult⟩

theorem RelationIdentity.Accepted.validate {i : RelationIdentity} (accepted : i.Accepted) :
    i.validate = .ok () := by
  obtain ⟨r, normalized, ok, rfl | rfl⟩ := accepted
  · exact (validate_normalizeRelation ok).1
  · exact (validate_normalizeRelation ok).2

/-- A valid identity has a relation ID. -/
theorem RelationIdentity.id_of_valid {i : RelationIdentity} (valid : i.validate = .ok ()) :
    i.id = .ok (hashJSON i.hashed) := by
  obtain ⟨-, -, -, origin, target, -⟩ := RelationIdentity.validate_ok_iff.mp valid
  unfold RelationIdentity.id RelationIdentity.hashed
  simp only [valid, EntityIdentity.canonicalJSON, origin, target]
  split <;> rfl

/-! ## Identity -/

/-- The arrays of vertices and of relations start with different strings. -/
theorem hashed_ne (i : EntityIdentity) (j : RelationIdentity) : i.hashed ≠ j.hashed := by
  intro same
  have first := congrArg List.head? same
  unfold EntityIdentity.hashed RelationIdentity.hashed at first
  split at first <;> simp at first

/-- IDs determine identities.  Among preimages without a collision, one vertex ID belongs to one
identity; one relation ID belongs to relations of one source, edge type and kind that share the
relation ID of the source or the endpoints and the discriminator; and no preimage is both a vertex's
and a relation's. -/
theorem ids_injective {hashed : Set (List UInt8)} (collisionFree : Set.InjOn sha256 hashed) :
    (∀ i j : EntityIdentity, preimage i.hashed ∈ hashed → preimage j.hashed ∈ hashed →
      ∀ vid, i.vid = .ok vid → j.vid = .ok vid → i = j) ∧
    (∀ i j : RelationIdentity, i.Accepted → j.Accepted →
      preimage i.hashed ∈ hashed → preimage j.hashed ∈ hashed → i.id = j.id → i.Same j) ∧
    ∀ (i : EntityIdentity) (j : RelationIdentity), preimage i.hashed ≠ preimage j.hashed := by
  refine ⟨?_, ?_, ?_⟩
  · intro i j known known' vid first second
    have digests : hashJSON i.hashed = hashJSON j.hashed :=
      (EntityIdentity.vid_hashed first).symm.trans (EntityIdentity.vid_hashed second)
    have parts := hashJSON_injOn collisionFree known known' digests
    exact EntityIdentity.hashed_injective (EntityIdentity.vid_ok first).1
      (EntityIdentity.vid_ok second).1 parts
  · intro i j accepted accepted' known known' same
    rw [RelationIdentity.id_of_valid accepted.validate,
      RelationIdentity.id_of_valid accepted'.validate] at same
    have parts := hashJSON_injOn collisionFree known known' (Except.ok.inj same)
    exact RelationIdentity.hashed_injective accepted.validate accepted'.validate parts
  · intro i j same
    exact hashed_ne i j (preimage_injective same)

/-! ### Two ports

The stable ID of the first port closes the string and the array around it, and needs escapes of every
kind. -/

def hostilePort : EntityIdentity := ⟨"cmdb", .interface, "1\"],[\\<\n\x00"⟩

def plainPort : EntityIdentity := ⟨"cmdb", .interface, "1"⟩

def ownershipOf (port : EntityIdentity) : RelationIdentity :=
  ⟨"cmdb", .composition, .ownsInterface, ⟨"cmdb", .device, "sn"⟩, port, "", ""⟩

/-- The four preimages of the ports and their ownerships. -/
def portPreimages : List (List UInt8) :=
  [preimage hostilePort.hashed, preimage plainPort.hashed,
    preimage (ownershipOf hostilePort).hashed, preimage (ownershipOf plainPort).hashed]

theorem portPreimages_collisionFree : Set.InjOn sha256 {bytes | bytes ∈ portPreimages} := by
  have apart : (portPreimages.map sha256).Nodup := by decide +kernel
  intro bytes member bytes' member'
  exact List.inj_on_of_nodup_map apart member member'

theorem accepted_ownershipOf {port : EntityIdentity} (either : port ∈ [hostilePort, plainPort]) :
    (ownershipOf port).Accepted := by
  have accepts : ∀ port ∈ [hostilePort, plainPort],
      normalizeRelation ⟨ownershipOf port, .empty, 1000, 1000⟩ =
        .ok ⟨ownershipOf port, .empty, 1000, 1000⟩ := by
    decide +kernel
  exact ⟨_, _, accepts port either, .inl rfl⟩

theorem ids_injective_ports :
    ¬(∃ vid, hostilePort.vid = .ok vid ∧ plainPort.vid = .ok vid) ∧
    (ownershipOf hostilePort).id ≠ (ownershipOf plainPort).id ∧
    preimage plainPort.hashed ≠ preimage (ownershipOf plainPort).hashed := by
  have injective := ids_injective portPreimages_collisionFree
  obtain ⟨vertices, relations, kinds⟩ := injective
  have differ : hostilePort ≠ plainPort := by decide
  refine ⟨?_, ?_, kinds plainPort (ownershipOf plainPort)⟩
  · intro shared
    obtain ⟨vid, first, second⟩ := shared
    exact differ (vertices hostilePort plainPort (by simp [portPreimages])
      (by simp [portPreimages]) vid first second)
  · intro shared
    have same := relations (ownershipOf hostilePort) (ownershipOf plainPort)
      (accepted_ownershipOf (by simp)) (accepted_ownershipOf (by simp)) (by simp [portPreimages])
      (by simp [portPreimages]) shared
    rcases same.named with ⟨own, -⟩ | ⟨-, target, -⟩
    · exact own rfl
    · exact differ target

end UnifiedInfraTopology
