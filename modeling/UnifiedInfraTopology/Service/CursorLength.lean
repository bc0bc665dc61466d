import UnifiedInfraTopology.Service.Inventory

/-!
# The length of a cursor

`length_encodeCursor_le` bounds the cursors that `encodeCursor` issues by the length of the user id;
up to 300 characters they are at most 4096 bytes.
-/

namespace UnifiedInfraTopology

open Lib

/-- The bytes of some characters. -/
def byteLength (cs : List Char) : Nat := (cs.flatMap String.utf8EncodeChar).length

theorem byteLength_append (cs cs' : List Char) :
    byteLength (cs ++ cs') = byteLength cs + byteLength cs' := by
  unfold byteLength
  rw [List.flatMap_append, List.length_append]

theorem byteLength_cons (c : Char) (cs : List Char) :
    byteLength (c :: cs) = c.utf8Size + byteLength cs := by
  unfold byteLength
  rw [List.flatMap_cons, List.length_append, String.length_utf8EncodeChar]

theorem length_utf8_ofList (cs : List Char) : (utf8 (String.ofList cs)).length = byteLength cs := by
  rw [utf8, String.toList_ofList, byteLength]

theorem byteLength_le (cs : List Char) : byteLength cs ≤ 4 * cs.length := by
  induction cs with
  | nil => exact le_rfl
  | cons c cs ih =>
      have small := c.utf8Size_le_four
      rw [byteLength_cons, List.length_cons]
      omega

theorem length_le_byteLength (cs : List Char) : cs.length ≤ byteLength cs := by
  induction cs with
  | nil => exact le_rfl
  | cons c cs ih =>
      have positive := c.utf8Size_pos
      rw [byteLength_cons, List.length_cons]
      omega

/-- A character below 128 is one byte. -/
theorem byteLength_of_ascii {cs : List Char} (ascii : ∀ c ∈ cs, c.toNat < 128) :
    byteLength cs = cs.length := by
  induction cs with
  | nil => rfl
  | cons c cs ih =>
      have one : c.utf8Size = 1 := by
        rw [Char.utf8Size_eq_one_iff, UInt32.le_iff_toNat_le]
        exact Nat.le_of_lt_succ (ascii c List.mem_cons_self)
      rw [byteLength_cons, one, ih fun c' member => ascii c' (List.mem_cons_of_mem c member),
        List.length_cons, Nat.add_comm]

theorem shortEscape_ascii {n : Nat} {e : Char} (short : Json.shortEscape? n = some e) :
    e.toNat < 128 := by
  unfold Json.shortEscape? at short
  split at short <;> cases short <;> decide

theorem hexDigit_ascii {d : Nat} (small : d < 16) : (hexDigit d).toNat < 128 := by
  have all : ∀ d : Fin 16, (hexDigit d).toNat < 128 := by decide
  exact all ⟨d, small⟩

/-- A character of a string is printed in at most six bytes. -/
theorem byteLength_escapeChar (c : Char) : byteLength (Json.escapeChar c) ≤ 6 := by
  unfold Json.escapeChar
  have solid : Json.backslash.toNat < 128 := by decide
  split
  · rename_i e short
    rw [byteLength_of_ascii]
    · exact (by decide : 2 ≤ 6)
    · intro c member
      rcases List.mem_pair.mp member with rfl | rfl
      · exact solid
      · exact shortEscape_ascii short
  · split
    · rename_i byCode
      have small := Json.escapedByCode_lt byCode
      rw [byteLength_of_ascii]
      · exact Nat.le_refl 6
      · intro c member
        simp only [Json.escapeCode, List.mem_cons, List.not_mem_nil, or_false] at member
        rcases member with rfl | rfl | rfl | rfl | rfl | rfl
        · exact solid
        · decide
        · exact hexDigit_ascii (by omega)
        · exact hexDigit_ascii (by omega)
        · exact hexDigit_ascii (by omega)
        · exact hexDigit_ascii (by omega)
    · exact (byteLength_le [c]).trans (by decide : 4 ≤ 6)

theorem byteLength_printString (s : String) :
    byteLength (Json.printString s) ≤ 6 * s.toList.length + 2 := by
  have body : byteLength (s.toList.flatMap Json.escapeChar) ≤ 6 * s.toList.length := by
    induction s.toList with
    | nil => exact le_rfl
    | cons c cs ih =>
        have one := byteLength_escapeChar c
        rw [List.flatMap_cons, byteLength_append, List.length_cons]
        omega
  have quote_ : Json.quote.utf8Size = 1 := by decide
  rw [Json.printString, byteLength_cons, byteLength_append, byteLength_cons, quote_]
  simp only [byteLength, List.flatMap_nil, List.length_nil] at body ⊢
  omega

theorem length_formatFraction (nanos : Nat) : (formatFraction nanos).length ≤ 10 := by
  unfold formatFraction
  split
  · exact Nat.zero_le _
  · have short := (List.rdropWhile_prefix (· == '0') (padded 9 nanos)).length_le
    rw [length_padded] at short
    rw [List.length_cons]
    omega

theorem length_formatRFC3339 {t : Time} {text : List Char} (printed : formatRFC3339 t = some text) :
    text.length ≤ 30 := by
  unfold formatRFC3339 at printed
  simp only at printed
  split at printed
  · cases printed
    have fraction := length_formatFraction ((t % 86400000000000).toNat % 1000000000)
    simp only [List.length_append, List.length_cons, List.length_nil, length_padded]
    omega
  · cases printed

/-- One member of an object, with a name of one letter. -/
theorem byteLength_printMember (name : String) (letter : name.toList.length ≤ 1) (s : String) :
    byteLength (Json.printMember (name, .str s)) ≤ 6 * s.toList.length + 11 := by
  have colon : (':' : Char).utf8Size = 1 := by decide
  have first := byteLength_printString name
  have second := byteLength_printString s
  rw [Json.printMember, byteLength_append, byteLength_cons, colon]
  change byteLength (Json.printString name) + (1 + byteLength (Json.printString s)) ≤ _
  omega

/-- The text of a cursor, with the bytes of its user id, resource, filters and last id. -/
theorem byteLength_marshal {c : InventoryCursor} {text : String} (first : c.version = 1)
    (marshalled : marshalInventoryCursor c = some text) : (utf8 text).length ≤
      6 * (c.userId.toList.length + c.resource.toList.length + c.filters.toList.length +
        c.lastId.toList.length) + 300 := by
  have comma : (',' : Char).utf8Size = 1 := by decide
  have brace : ('{' : Char).utf8Size = 1 ∧ ('}' : Char).utf8Size = 1 := by decide
  have version : byteLength (Json.printMember ("v", .int 1)) = 5 := by decide
  have user := byteLength_printMember "u" (by decide) c.userId
  have resource := byteLength_printMember "r" (by decide) c.resource
  have filters := byteLength_printMember "f" (by decide) c.filters
  have lastId := byteLength_printMember "i" (by decide) c.lastId
  unfold marshalInventoryCursor marshalInventoryCursorIn at marshalled
  rw [first] at marshalled
  cases timed : c.lastCreatedAt with
  | none =>
      rw [timed] at marshalled
      cases marshalled
      rw [length_utf8_ofList]
      simp only [Json.printObject, Json.printItems, Json.printTail, byteLength_append,
        byteLength_cons, comma, brace, version]
      have empty : byteLength [] = 0 := rfl
      omega
  | some t =>
      rw [timed] at marshalled
      obtain ⟨printed, text_, rfl⟩ := Option.map_eq_some_iff.mp marshalled
      rw [formatRFC3339In_zero] at text_
      have time := byteLength_printMember "t" (by decide) (String.ofList printed)
      have short := length_formatRFC3339 text_
      rw [String.toList_ofList] at time
      rw [length_utf8_ofList]
      simp only [List.cons_append, List.nil_append, Json.printObject, Json.printItems,
        Json.printTail, byteLength_append, byteLength_cons, comma, brace, version]
      have empty : byteLength [] = 0 := rfl
      omega

/-- The cursors of a short user id fit. -/
theorem length_encodeCursor_le (svc : InventoryService) {c : InventoryCursor} (first : c.version = 1)
    (user : c.userId.toList.length ≤ 300) (resource : c.resource.toList.length ≤ 9)
    (filters : c.filters.toList.length ≤ 64) (lastId : c.lastId.toList.length ≤ 32) :
    (utf8 (svc.encodeCursor c)).length ≤ 4096 := by
  have payload : (utf8 ((marshalInventoryCursor c).getD "")).length ≤ 2730 := by
    cases marshalled : marshalInventoryCursor c with
    | none => decide
    | some text =>
        have bound := byteLength_marshal first marshalled
        rw [Option.getD_some]
        omega
  unfold InventoryService.encodeCursor InventoryService.encodeCursorIn
  unfold marshalInventoryCursor at payload
  rw [length_utf8_ofList, byteLength_of_ascii]
  · rw [List.length_append, List.length_cons, Base64.length_encode, Base64.length_encode,
      InventoryService.sign, length_hmacSha256]
    omega
  · intro ch member
    rw [List.mem_append, List.mem_cons] at member
    rcases member with text | rfl | mac
    · exact (Base64.mem_encode text).2.2.2
    · decide
    · exact (Base64.mem_encode mac).2.2.2

end UnifiedInfraTopology
