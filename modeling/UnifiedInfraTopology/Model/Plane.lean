import UnifiedInfraTopology.Model.Normalization

/-!
# The plane of a membership

`relationPlane` reads a plane out of every numeric type.  `Denotes` says which integer a value denotes;
a float denotes one only where it is integral.

* `relationPlane_exact_iff`: what `relationPlane` reads, and what `normalizeRelation` stores, is the
  integer the value denotes, except for the float 2^63, the one value its bounds let through that no
  `int64` holds.
-/

namespace UnifiedInfraTopology

open Lib

/-- The integer a value denotes. -/
inductive Denotes : GoValue → Int → Prop where
  | plane (n : Int64) : Denotes (.plane n) n.toInt
  | signed (n : Int64) : Denotes (.signed n) n.toInt
  | unsigned (n : UInt64) : Denotes (.unsigned n) n.toNat
  | float {q : Rat} {z : Int} (integral : q = z) : Denotes (.float (.finite q)) z
  | number {literal : String} {digits : List Char} {n : Nat} (written : digits ≠ [])
      (shape : literal.toList = digits ∨ literal.toList = '+' :: digits)
      (read : number? digits = some n) : Denotes (.number literal) n
  | negative {literal : String} {digits : List Char} {n : Nat} (written : digits ≠ [])
      (shape : literal.toList = '-' :: digits) (read : number? digits = some n) :
      Denotes (.number literal) (-n)

/-- A float denotes its own value only. -/
theorem Denotes.eq_of_float {q : Rat} {z : Int} (denotes : Denotes (.float (.finite q)) z) :
    q = z := by
  cases denotes with
  | float integral => exact integral

/-! ## Reading a plane -/

/-- The bounds of `strconv.ParseInt`. -/
theorem toInt_of_bounded {value : Int} {n : Int64}
    (bounded : (if -9223372036854775808 ≤ value ∧ value ≤ 9223372036854775807 then
      some (Int64.ofInt value) else none) = some n) : n.toInt = value := by
  split at bounded
  · rename_i inside
    cases bounded
    exact Int64.toInt_ofInt_of_le inside.1 (Int.lt_add_one_of_le inside.2)
  · cases bounded

theorem denotes_of_parseInt64 {literal : String} {n : Int64}
    (parsed : parseInt64 literal = some n) : Denotes (.number literal) n.toInt := by
  unfold parseInt64 at parsed
  split at parsed
  rename_i negative digits shape
  split at parsed
  · cases parsed
  rename_i written
  obtain ⟨value, read, bounded⟩ := Option.bind_eq_some_iff.mp parsed
  rw [toInt_of_bounded bounded]
  split at shape
  · rename_i cs minus
    cases shape
    exact .negative written minus read
  · rename_i cs plus
    cases shape
    exact .number written (Or.inr plus) read
  · cases shape
    exact .number written (Or.inl rfl) read

/-- The last branch of `relationPlane`. -/
theorem nonzero_of_plane {read : Except ModelError Int64} {n : Int64}
    (ok : (match read with
      | .error e => .error e
      | .ok plane => if plane = 0 then .error .planeZero else .ok plane :
      Except ModelError Int64) = .ok n) : read = .ok n ∧ n ≠ 0 := by
  split at ok
  · cases ok
  · split at ok
    · cases ok
    · rename_i nonzero
      cases ok
      exact ⟨rfl, nonzero⟩

theorem denotes_of_unsigned {m : UInt64} (small : ¬9223372036854775807 < m) :
    Denotes (.unsigned m) m.toInt64.toInt := by
  have bound : m.toNat ≤ 9223372036854775807 := UInt64.le_iff_toNat_le.mp (UInt64.not_lt.mp small)
  have same : m.toInt64.toInt = m.toNat :=
    BitVec.toInt_eq_toNat_of_lt (show 2 * m.toNat < 2 ^ 64 by omega)
  rw [same]
  exact .unsigned m

theorem denotes_of_float {q : Rat} (integral : q.den = 1) (above : ¬q < -9223372036854775808)
    (below : q < 9223372036854775808) :
    Denotes (.float (.finite q)) (Int64.ofInt q.num).toInt := by
  have same : (q.num : Rat) = q := Rat.coe_int_num_of_den_eq_one integral
  rw [← same] at above below
  have lower : -9223372036854775808 ≤ q.num := by exact_mod_cast not_lt.mp above
  have upper : q.num < 9223372036854775808 := by exact_mod_cast below
  rw [Int64.toInt_ofInt_of_le lower upper]
  exact .float same.symm

/-- Every value but one is read exactly. -/
theorem relationPlane_exact {value : GoValue} {n : Int64} (ok : relationPlane value = .ok n)
    (other : value ≠ .float (.finite 9223372036854775808)) : n ≠ 0 ∧ Denotes value n.toInt := by
  unfold relationPlane at ok
  obtain ⟨read, nonzero⟩ := nonzero_of_plane ok
  refine ⟨nonzero, ?_⟩
  split at read
  · cases read
    exact .plane n
  · cases read
    exact .signed n
  · rename_i m
    split at read
    · cases read
    · rename_i small
      cases read
      exact denotes_of_unsigned small
  · rename_i q
    split at read
    · cases read
    · rename_i inside
      rw [not_or, not_or, not_not] at inside
      obtain ⟨integral, below, above⟩ := inside
      cases read
      have apart : q ≠ 9223372036854775808 := fun same => other (by rw [same])
      exact denotes_of_float integral above (lt_of_le_of_ne (not_lt.mp below) apart)
  · cases read
  · rename_i literal
    cases parsed : parseInt64 literal with
    | none =>
        rw [parsed] at read
        cases read
    | some m =>
        rw [parsed] at read
        cases read
        exact denotes_of_parseInt64 parsed
  · cases read

/-- 2^63 passes the bounds, and wraps. -/
theorem relationPlane_wraps :
    relationPlane (.float (.finite 9223372036854775808)) = .ok (-9223372036854775808) := by
  decide +kernel

theorem not_denotes_wrapped : ¬Denotes (.float (.finite 9223372036854775808))
    (-9223372036854775808 : Int64).toInt := by
  intro denotes
  have same := denotes.eq_of_float
  revert same
  decide +kernel

/-! ## Storing a plane -/

/-- What `normalizeRelation` stores for a plane: the property, the discriminator and the last part of
what the relation ID hashes are those of one integer. -/
structure StoresPlane (n : Int64) (result : Relation) : Prop where
  property : result.properties.get "plane" = .signed n
  discriminator : result.identity.discriminator = toString n.toInt
  id : ∃ ends, result.identity.id = .ok (hashJSON (["relation", result.identity.sourceId,
    result.identity.edgeType.text, result.identity.kind.text] ++ ends ++ [toString n.toInt]))

theorem EntityIdentity.canonicalJSON_of_validate {i : EntityIdentity} (valid : i.validate = .ok ()) :
    ∃ text, i.canonicalJSON = .ok text := by
  rw [canonicalJSON, valid]
  exact ⟨_, rfl⟩

/-- The ID of a relation without one of the source. -/
theorem RelationIdentity.Valid.id_eq {i : RelationIdentity} (valid : i.Valid)
    (unnamed : i.sourceRelationId = "") : ∃ ends, i.id = .ok (hashJSON (["relation", i.sourceId,
      i.edgeType.text, i.kind.text] ++ ends ++ [i.discriminator])) := by
  obtain ⟨origin, first⟩ := EntityIdentity.canonicalJSON_of_validate valid.origin
  obtain ⟨target, second⟩ := EntityIdentity.canonicalJSON_of_validate valid.target
  refine ⟨[origin, target], ?_⟩
  rw [RelationIdentity.id, RelationIdentity.validate_ok_iff.mpr valid]
  dsimp only
  rw [if_neg (not_not.mpr unnamed), first, second]
  rfl

theorem Normalizes.storesPlane {r result : Relation} (ok : Normalizes r result)
    (member : r.spec = podMember) : ∃ n, relationPlane (r.properties.get "plane") = .ok n ∧
      StoresPlane n result := by
  have uplink : r.identity.kind ≠ .gpuUplink := by
    have kind : r.identity.kind = .memberOf := congrArg RelationSpec.kind member
    rw [kind]
    decide
  have hashed := ok.validResult.id_eq (ok.unnamed uplink)
  have normal := ok.normal
  rw [member] at normal
  cases normal with
  | plane read =>
      exact ⟨_, read, Properties.get_put _ _ _, rfl, hashed⟩
  | plain other => exact absurd List.mem_cons_self other

/-- **Planes are exact.**  Of any value, `relationPlane` reads a non-zero number that the value denotes,
and a normalised membership of a pod has that number in its property, its discriminator and its ID, if
and only if the value is not the float 2^63. -/
theorem relationPlane_exact_iff (value : GoValue) :
    ((∀ n, relationPlane value = .ok n → n ≠ 0 ∧ Denotes value n.toInt) ∧
      ∀ r result, r.spec = podMember → r.properties.get "plane" = value →
        normalizeRelation r = .ok result →
          ∃ n, n ≠ 0 ∧ Denotes value n.toInt ∧ StoresPlane n result) ↔
      value ≠ .float (.finite 9223372036854775808) := by
  constructor
  · rintro ⟨exact_, -⟩ rfl
    exact not_denotes_wrapped (exact_ _ relationPlane_wraps).2
  · intro other
    refine ⟨fun n ok => relationPlane_exact ok other, ?_⟩
    intro r result member given ok
    obtain ⟨n, read, stores⟩ := (normalizeRelation_ok_iff.mp ok).storesPlane member
    obtain ⟨nonzero, denotes⟩ := relationPlane_exact (given ▸ read) other
    exact ⟨n, nonzero, denotes, stores⟩

/-- The float 2^63 is stored as -2^63. -/
theorem relationPlane_inexact : ¬∀ value n, relationPlane value = .ok n →
    n ≠ 0 ∧ Denotes value n.toInt :=
  fun exact_ => not_denotes_wrapped (exact_ _ _ relationPlane_wraps).2

end UnifiedInfraTopology
