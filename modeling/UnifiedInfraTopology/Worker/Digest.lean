import UnifiedInfraTopology.Worker.Execute

/-!
# What the identity digest determines

`writeEntityIdentityDigest` writes fixed-width numbers and zero-terminated texts, without lengths.
Two accepted sequences of records with one byte stream are one sequence as far as the digest looks at
them, if no text has a zero character in it; a zero character inside a text can be read as its end.

* `recordDigest_append_inj`: one record can be read off the stream.
* `digestDetermines_iff`: the streams of the texts over an alphabet determine the records, if and
  only if the zero character is not in the alphabet.
* `digest_ambiguous`: two snapshots that differ in every identity and have one digest.
-/

namespace UnifiedInfraTopology

open Lib

/-! ## Bytes -/

theorem bigEndian64_injective : Function.Injective bigEndian64 := by
  intro m n same
  have bytes : ∀ k < 8, (m.toUInt64 >>> UInt64.ofNat (8 * (7 - k))).toUInt8 =
      (n.toUInt64 >>> UInt64.ofNat (8 * (7 - k))).toUInt8 := by
    intro k small
    have here := congrArg (fun bytes => bytes[k]?) same
    simpa [bigEndian64, small] using here
  have parts : ∀ k < 8, m.toUInt64.toNat / 2 ^ (8 * (7 - k)) % 256 =
      n.toUInt64.toNat / 2 ^ (8 * (7 - k)) % 256 := by
    intro k small
    have here := congrArg UInt8.toNat (bytes k small)
    have width : 8 * (7 - k) % 64 = 8 * (7 - k) := by omega
    simpa [Nat.shiftRight_eq_div_pow, width] using here
  have left := m.toUInt64.toNat_lt
  have right := n.toUInt64.toNat_lt
  have whole : m.toUInt64.toNat = n.toUInt64.toNat := by
    have h0 := parts 0 (by decide)
    have h1 := parts 1 (by decide)
    have h2 := parts 2 (by decide)
    have h3 := parts 3 (by decide)
    have h4 := parts 4 (by decide)
    have h5 := parts 5 (by decide)
    have h6 := parts 6 (by decide)
    have h7 := parts 7 (by decide)
    norm_num at h0 h1 h2 h3 h4 h5 h6 h7
    omega
  rw [← Int64.toInt64_toUInt64 m, ← Int64.toInt64_toUInt64 n, UInt64.toNat_inj.mp whole]

@[simp] theorem length_bigEndian64 (n : Int64) : (bigEndian64 n).length = 8 := rfl

/-! ## Records -/

/-- What the digest looks at in two records of an entity type. -/
structure SameIdentity (entity : EntityType) (r r' : EntityRecord) : Prop where
  partition : r.partition = r'.partition
  sourceInstanceId : r.sourceInstanceId = r'.sourceInstanceId
  identity : r.identity = r'.identity
  owner : entity = .interface → r.ownerDeviceSN = r'.ownerDeviceSN

/-- The texts of a record are over an alphabet. -/
def EntityRecord.Over (alphabet : Char → Prop) (r : EntityRecord) : Prop :=
  (∀ c ∈ r.identity.toList, alphabet c) ∧ ∀ c ∈ r.ownerDeviceSN.toList, alphabet c

/-- One record can be read off the stream. -/
theorem recordDigest_append_inj {entity : EntityType} {alphabet : Char → Prop}
    {r r' : EntityRecord} {rest rest' : List UInt8} (clean : ¬alphabet '\x00')
    (placed : Partitioned entity r) (placed' : Partitioned entity r') (within : r.Over alphabet)
    (within' : r'.Over alphabet)
    (same : recordDigest r ++ rest = recordDigest r' ++ rest') :
    SameIdentity entity r r' ∧ rest = rest' := by
  have identity : 0 ∉ utf8 r.identity := zero_notMem_utf8 fun inside => clean (within.1 _ inside)
  have identity' : 0 ∉ utf8 r'.identity := zero_notMem_utf8 fun inside => clean (within'.1 _ inside)
  have owner : 0 ∉ utf8 r.ownerDeviceSN := zero_notMem_utf8 fun inside => clean (within.2 _ inside)
  have owner' : 0 ∉ utf8 r'.ownerDeviceSN :=
    zero_notMem_utf8 fun inside => clean (within'.2 _ inside)
  unfold Partitioned at placed placed'
  by_cases ports : entity = .interface
  · rw [if_pos ports] at placed placed'
    simp only [recordDigest, placed, placed', ↓reduceIte, List.append_assoc] at same
    obtain ⟨partitions, same⟩ := List.append_inj same rfl
    obtain ⟨instances, same⟩ := List.append_inj same rfl
    obtain ⟨identities, same⟩ := append_separator_inj identity identity' same
    obtain ⟨owners, same⟩ := append_separator_inj owner owner' same
    exact ⟨⟨bigEndian64_injective partitions, bigEndian64_injective instances,
      utf8_injective identities, fun _ => utf8_injective owners⟩, same⟩
  · rw [if_neg ports] at placed placed'
    have unset : ¬(0 : Int64) < 0 := by decide
    simp only [recordDigest, placed, placed', unset, ↓reduceIte, List.append_assoc,
      List.nil_append] at same
    obtain ⟨instances, same⟩ := List.append_inj same rfl
    obtain ⟨identities, same⟩ := append_separator_inj identity identity' same
    exact ⟨⟨placed.trans placed'.symm, bigEndian64_injective instances, utf8_injective identities,
      fun chosen => (ports chosen).elim⟩, same⟩

theorem entityIdentityDigest_inj {entity : EntityType} {alphabet : Char → Prop}
    {a b : List EntityRecord} (clean : ¬alphabet '\x00') (length : a.length = b.length)
    (placed : ∀ r ∈ a, Partitioned entity r ∧ r.Over alphabet)
    (placed' : ∀ r ∈ b, Partitioned entity r ∧ r.Over alphabet)
    (same : entityIdentityDigest a = entityIdentityDigest b) :
    List.Forall₂ (SameIdentity entity) a b := by
  induction a generalizing b with
  | nil =>
      cases List.length_eq_zero_iff.mp length.symm
      exact .nil
  | cons r a ih =>
      cases b with
      | nil => cases length
      | cons r' b =>
          have here := placed r List.mem_cons_self
          have here' := placed' r' List.mem_cons_self
          simp only [entityIdentityDigest, List.flatMap_cons] at same
          obtain ⟨agree, rest⟩ := recordDigest_append_inj clean here.1 here'.1 here.2 here'.2 same
          exact .cons agree (ih (Nat.succ.inj length)
            (fun r inside => placed r (List.mem_cons_of_mem _ inside))
            (fun r inside => placed' r (List.mem_cons_of_mem _ inside)) rest)

/-! ## Accepted sequences -/

/-- The records of some pages, each accepted by `validateEntityPage` after the one before, whose
identities `addEntityIdentities` accepts. -/
def Accepted (entity : EntityType) (records : List EntityRecord) : Prop :=
  (∃ next start pages cursor, PagesRead entity next start pages cursor ∧
      allRecords pages = records) ∧
    (addEntityIdentities [] records).isSome = true

theorem Accepted.partitioned {entity : EntityType} {records : List EntityRecord}
    (accepted : Accepted entity records) : ∀ r ∈ records, Partitioned entity r := by
  obtain ⟨⟨next, start, pages, cursor, read, rfl⟩, -⟩ := accepted
  induction read with
  | nil => nofun
  | snoc before page ih =>
      intro r inside
      rw [allRecords_snoc, List.mem_append] at inside
      rcases inside with earlier | here
      · exact ih r earlier
      · exact validateRecords_partitioned (validateEntityPage_some page).2.2.2.2.2 r here

/-- The owners of interfaces have trimmed names that are not empty. -/
def Owned (entity : EntityType) (records : List EntityRecord) : Prop :=
  entity = .interface →
    ∀ r ∈ records, r.ownerDeviceSN ≠ "" ∧ trimSpace r.ownerDeviceSN = r.ownerDeviceSN

/-- Among accepted sequences of one length with texts over an alphabet, the byte stream determines
the records, and so does the digest where its hash does not collide. -/
def DigestDetermines (entity : EntityType) (alphabet : Char → Prop) : Prop :=
  ∀ a b : List EntityRecord, Accepted entity a → Accepted entity b → Owned entity a →
    Owned entity b → (∀ r ∈ a, r.Over alphabet) → (∀ r ∈ b, r.Over alphabet) →
    a.length = b.length →
      (entityIdentityDigest a = entityIdentityDigest b → List.Forall₂ (SameIdentity entity) a b) ∧
      ((sha256 (entityIdentityDigest a) = sha256 (entityIdentityDigest b) →
          entityIdentityDigest a = entityIdentityDigest b) →
        sha256 (entityIdentityDigest a) = sha256 (entityIdentityDigest b) →
          List.Forall₂ (SameIdentity entity) a b)

/-! ## Texts with zero characters -/

/-- A text of zero characters. -/
def zeros (n : Nat) : String := String.ofList (List.replicate n '\x00')

theorem over_zeros {alphabet : Char → Prop} (zero : alphabet '\x00') (n : Nat) :
    ∀ c ∈ (zeros n).toList, alphabet c := by
  intro c inside
  rw [zeros, String.toList_ofList] at inside
  rw [List.eq_of_mem_replicate inside]
  exact zero

/-- Records whose stream can be read in two ways, and the first reading. -/
def snapshotBefore (entity : EntityType) : List EntityRecord :=
  if entity = .interface then [⟨1, 1, zeros 1, zeros 2, .empty⟩]
  else [⟨0, 1, zeros 1, "", .empty⟩, ⟨0, 2, zeros 4, "", .empty⟩]

/-- The second reading. -/
def snapshotAfter (entity : EntityType) : List EntityRecord :=
  if entity = .interface then [⟨1, 1, zeros 2, zeros 1, .empty⟩]
  else [⟨0, 1, zeros 2, "", .empty⟩, ⟨0, 512, zeros 3, "", .empty⟩]

theorem accepted_of_page {entity : EntityType} {records : List EntityRecord}
    (valid : (validateEntityPage .zero ⟨records, records.length, records.length, true⟩
      entity).isSome = true)
    (identities : (addEntityIdentities [] records).isSome = true) : Accepted entity records := by
  obtain ⟨last, valid⟩ := Option.isSome_iff_exists.mp valid
  refine ⟨⟨rereadCursor, .zero, _, _, .snoc (.nil _) valid, ?_⟩, identities⟩
  simp [allRecords]

theorem over_snapshots (entity : EntityType) (alphabet : Char → Prop) (zero : alphabet '\x00') :
    (∀ r ∈ snapshotBefore entity, r.Over alphabet) ∧
      ∀ r ∈ snapshotAfter entity, r.Over alphabet := by
  have blank : ∀ c ∈ "".toList, alphabet c := nofun
  have filled := over_zeros zero
  unfold snapshotBefore snapshotAfter EntityRecord.Over
  split_ifs <;> simp only [List.mem_cons, List.not_mem_nil, or_false, forall_eq_or_imp, forall_eq]
  · exact ⟨⟨filled 1, filled 2⟩, filled 2, filled 1⟩
  · exact ⟨⟨⟨filled 1, blank⟩, filled 4, blank⟩, ⟨filled 2, blank⟩, filled 3, blank⟩

/-- Both readings are accepted snapshots with one stream, and no identity is the same. -/
theorem snapshots_ambiguous (entity : EntityType) :
    (Accepted entity (snapshotBefore entity) ∧ Accepted entity (snapshotAfter entity)) ∧
      (Owned entity (snapshotBefore entity) ∧ Owned entity (snapshotAfter entity)) ∧
      (snapshotBefore entity).length = (snapshotAfter entity).length ∧
      entityIdentityDigest (snapshotBefore entity) = entityIdentityDigest (snapshotAfter entity) ∧
      ¬List.Forall₂ (SameIdentity entity) (snapshotBefore entity) (snapshotAfter entity) := by
  by_cases ports : entity = .interface
  · subst ports
    refine ⟨⟨accepted_of_page ?_ ?_, accepted_of_page ?_ ?_⟩, ⟨fun _ => ?_, fun _ => ?_⟩, rfl, ?_, ?_⟩
    all_goals try decide +kernel
    intro same
    rcases same with _ | ⟨here, -⟩
    exact absurd here.identity (by decide +kernel)
  · refine ⟨⟨accepted_of_page ?_ ?_, accepted_of_page ?_ ?_⟩,
      ⟨fun chosen => (ports chosen).elim, fun chosen => (ports chosen).elim⟩, ?_, ?_, ?_⟩
    all_goals simp only [snapshotBefore, snapshotAfter, ports, ↓reduceIte]
    · simp [validateEntityPage, validateRecords, ports, DeviceSyncCursor.zero]
    · decide +kernel
    · simp [validateEntityPage, validateRecords, ports, DeviceSyncCursor.zero]
    · decide +kernel
    · rfl
    · decide +kernel
    · intro same
      rcases same with _ | ⟨here, -⟩
      exact absurd here.identity (by decide +kernel)

/-- **The digest determines the records if and only if no text has a zero character in it.** -/
theorem digestDetermines_iff (entity : EntityType) (alphabet : Char → Prop) :
    DigestDetermines entity alphabet ↔ ¬alphabet '\x00' := by
  constructor
  · intro determines zero
    obtain ⟨⟨before, after⟩, ⟨owned, owned'⟩, length, same, differ⟩ := snapshots_ambiguous entity
    obtain ⟨within, within'⟩ := over_snapshots entity _ zero
    exact differ ((determines _ _ before after owned owned' within within' length).1 same)
  · intro clean a b accepted accepted' _ _ within within' length
    have determined := entityIdentityDigest_inj clean length
      (fun r inside => ⟨accepted.partitioned r inside, within r inside⟩)
      fun r inside => ⟨accepted'.partitioned r inside, within' r inside⟩
    exact ⟨determined, fun collisionFree same => determined (collisionFree same)⟩

/-- Two snapshots of devices that differ in their identities, with one digest. -/
theorem digest_ambiguous : ¬∀ entity, DigestDetermines entity fun _ => True := by
  intro determines
  obtain ⟨⟨before, after⟩, ⟨owned, owned'⟩, length, same, differ⟩ := snapshots_ambiguous .device
  obtain ⟨within, within'⟩ := over_snapshots .device (fun _ => True) trivial
  exact differ ((determines .device _ _ before after owned owned' within within' length).1 same)

end UnifiedInfraTopology
