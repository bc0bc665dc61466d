import UnifiedInfraTopology.Lib.Text

/-!
# Strings as Go programs see them

A Go string is a sequence of bytes; a valid one is the UTF-8 text of a Lean `String`.  `utf8` is
that sequence, `trimSpace` cuts the white space of Unicode from both ends, `hexEncode` writes bytes
as lowercase hexadecimal digits.  A text without a zero character can be terminated by a zero byte
(`zero_notMem_utf8`, `append_separator_inj`).
-/

namespace UnifiedInfraTopology.Lib

/-- The bytes of a string. -/
def utf8 (s : String) : List UInt8 := s.toList.flatMap String.utf8EncodeChar

theorem utf8_injective : Function.Injective utf8 := by
  intro s t same
  have bytes : s.toByteArray = t.toByteArray := by
    rw [← s.ofList_toList, ← t.ofList_toList]
    simp only [String.toByteArray_ofList, List.utf8Encode]
    exact congrArg List.toByteArray same
  exact String.toByteArray_inj.mp bytes

/-- The characters of at most `n` bytes: a byte that begins no character reads as U+FFFD. -/
def runesFrom : Nat → List UInt8 → List Char
  | 0, _ => []
  | _, [] => []
  | n + 1, byte :: bytes =>
      match (byte :: bytes).toByteArray.utf8DecodeChar? 0 with
      | some c => c :: runesFrom n ((byte :: bytes).drop c.utf8Size)
      | none => '\uFFFD' :: runesFrom n bytes

/-- The characters of some bytes. -/
def runes (bytes : List UInt8) : List Char := runesFrom bytes.length bytes

theorem runesFrom_encode {cs : List Char} {n : Nat}
    (enough : (cs.flatMap String.utf8EncodeChar).length ≤ n) :
    runesFrom n (cs.flatMap String.utf8EncodeChar) = cs := by
  induction cs generalizing n with
  | nil => cases n <;> rfl
  | cons c cs ih =>
      have size := String.length_utf8EncodeChar c
      have positive := c.utf8Size_pos
      rw [List.flatMap_cons, List.length_append, size] at enough
      cases n with
      | zero => omega
      | succ n =>
          obtain ⟨byte, bytes, same⟩ : ∃ byte bytes,
              (c :: cs).flatMap String.utf8EncodeChar = byte :: bytes := by
            refine List.exists_cons_of_length_pos ?_
            rw [List.flatMap_cons, List.length_append]
            omega
          have read : (byte :: bytes).toByteArray.utf8DecodeChar? 0 = some c := by
            rw [← same, List.flatMap_cons, List.toByteArray_append]
            exact ByteArray.utf8DecodeChar?_utf8EncodeChar_append
          have rest : (byte :: bytes).drop c.utf8Size = cs.flatMap String.utf8EncodeChar := by
            rw [← same, List.flatMap_cons, List.drop_append_of_le_length size.ge, ← size,
              List.drop_length, List.nil_append]
          rw [same, runesFrom, read]
          dsimp only
          rw [rest, ih (by omega)]

/-- A text reads back from its bytes. -/
theorem runes_utf8 (s : String) : runes (utf8 s) = s.toList := runesFrom_encode le_rfl

/-! ## Bytes as characters -/

/-- The character of each byte. -/
def latin1 (bytes : List UInt8) : List Char := bytes.map fun b => Char.ofNat b.toNat

theorem latin1_injective : Function.Injective latin1 := by
  refine List.map_injective_iff.mpr fun a b same => ?_
  have valid (byte : UInt8) : byte.toNat.isValidChar := Or.inl (byte.toNat_lt.trans (by decide))
  have codes := congrArg Char.toNat same
  rw [Char.ofNat, Char.ofNat, dif_pos (valid a), dif_pos (valid b)] at codes
  exact UInt8.toNat_inj.mp codes

theorem utf8EncodeChar_ascii {c : Char} (ascii : c.toNat < 128) :
    String.utf8EncodeChar c = [UInt8.ofNat c.toNat] := by
  have low : c.val.toNat ≤ 127 := Nat.le_of_lt_succ ascii
  unfold String.utf8EncodeChar
  dsimp only
  rw [if_pos low]
  rfl

/-- The characters of an ASCII text are its bytes. -/
theorem latin1_utf8 {cs : List Char} (ascii : ∀ c ∈ cs, c.toNat < 128) :
    latin1 (utf8 (String.ofList cs)) = cs := by
  rw [utf8, String.toList_ofList]
  induction cs with
  | nil => rfl
  | cons c cs ih =>
      have small := ascii c List.mem_cons_self
      have byte : (UInt8.ofNat c.toNat).toNat = c.toNat := by
        rw [UInt8.toNat_ofNat']
        omega
      rw [List.flatMap_cons, utf8EncodeChar_ascii small, latin1, List.singleton_append,
        List.map_cons, byte, Char.ofNat_toNat]
      exact congrArg (c :: ·) (ih fun d member => ascii d (List.mem_cons_of_mem c member))

/-! ## Zero-terminated texts -/

/-- A byte of a character is zero only in the encoding of the zero character. -/
theorem zero_mem_utf8EncodeChar {c : Char} (member : 0 ∈ String.utf8EncodeChar c) : c = '\x00' := by
  have bound : c.val.toNat < 0x110000 := by
    have valid := c.valid
    unfold UInt32.isValidChar Nat.isValidChar at valid
    omega
  have zero : ∀ n : Nat, 0 = UInt8.ofNat n ↔ n % 256 = 0 := fun n => by
    rw [eq_comm, ← UInt8.toNat_inj, UInt8.toNat_ofNat']
    rfl
  have value : c.val.toNat = 0 := by
    unfold String.utf8EncodeChar at member
    dsimp only at member
    split_ifs at member <;>
      simp only [List.mem_cons, List.not_mem_nil, or_false, zero] at member <;> omega
  exact Char.ext (UInt32.toNat_inj.mp value)

theorem zero_notMem_utf8 {s : String} (clean : '\x00' ∉ s.toList) : 0 ∉ utf8 s := by
  intro member
  obtain ⟨c, inside, zero⟩ := List.mem_flatMap.mp member
  exact clean (zero_mem_utf8EncodeChar zero ▸ inside)

/-- A text without the separator ends at the first separator. -/
theorem append_separator_inj {α : Type} {sep : α} {l l' rest rest' : List α} (clean : sep ∉ l)
    (clean' : sep ∉ l') (same : l ++ sep :: rest = l' ++ sep :: rest') : l = l' ∧ rest = rest' := by
  induction l generalizing l' with
  | nil =>
      cases l' with
      | nil => exact ⟨rfl, (List.cons.inj same).2⟩
      | cons b l' => exact (clean' (List.mem_cons.mpr (Or.inl (List.cons.inj same).1))).elim
  | cons a l ih =>
      cases l' with
      | nil => exact (clean (List.mem_cons.mpr (Or.inl (List.cons.inj same).1.symm))).elim
      | cons b l' =>
          obtain ⟨rfl, tails⟩ := List.cons.inj same
          obtain ⟨rfl, rests⟩ := ih (fun inside => clean (List.mem_cons_of_mem _ inside))
            (fun inside => clean' (List.mem_cons_of_mem _ inside)) tails
          exact ⟨rfl, rests⟩

/-! ## White space -/

/-- Go's `unicode.IsSpace`. -/
def isUnicodeSpace (c : Char) : Bool :=
  let n := c.toNat
  (9 ≤ n && n ≤ 13) || n == 32 || n == 0x85 || n == 0xA0 || n == 0x1680 ||
    (0x2000 ≤ n && n ≤ 0x200A) || n == 0x2028 || n == 0x2029 || n == 0x202F || n == 0x205F ||
    n == 0x3000

/-- Go's `strings.TrimSpace`. -/
def trimSpace (s : String) : String :=
  String.ofList ((s.toList.dropWhile isUnicodeSpace).rdropWhile isUnicodeSpace)

theorem dropWhile_rdropWhile {α : Type} (p : α → Bool) (l : List α) :
    ((l.dropWhile p).rdropWhile p).dropWhile p = (l.dropWhile p).rdropWhile p := by
  rw [List.dropWhile_eq_self_iff]
  intro positive
  have inside := List.rdropWhile_prefix p (l.dropWhile p)
  have longer := positive.trans_le inside.length_le
  have head := List.dropWhile_get_zero_not p l longer
  rw [inside.getElem positive]
  exact head

theorem trimSpace_trimSpace (s : String) : trimSpace (trimSpace s) = trimSpace s := by
  unfold trimSpace
  rw [String.toList_ofList, dropWhile_rdropWhile, List.rdropWhile_idempotent]

/-! ## Hexadecimal text -/

/-- Go's `hex.EncodeToString`. -/
def hexEncode (bytes : List UInt8) : List Char :=
  bytes.flatMap fun b => [hexDigit (b.toNat / 16), hexDigit (b.toNat % 16)]

theorem length_hexEncode (bytes : List UInt8) : (hexEncode bytes).length = 2 * bytes.length := by
  induction bytes with
  | nil => rfl
  | cons b bytes ih =>
      simp only [hexEncode, List.flatMap_cons, List.length_append, List.length_cons,
        List.length_nil] at ih ⊢
      omega

theorem hexDigit_injective {d e : Nat} (small : d < 16) (small' : e < 16)
    (same : hexDigit d = hexDigit e) : d = e := by
  have value := hexValue?_hexDigit small
  rw [same, hexValue?_hexDigit small'] at value
  exact (Option.some.inj value).symm

theorem hexEncode_injective : Function.Injective hexEncode := by
  intro bytes
  induction bytes with
  | nil =>
      intro bytes' same
      cases bytes' with
      | nil => rfl
      | cons b bytes' => cases same
  | cons a bytes ih =>
      intro bytes' same
      cases bytes' with
      | nil => cases same
      | cons b bytes' =>
          simp only [hexEncode, List.flatMap_cons, List.cons_append, List.nil_append,
            List.cons.injEq] at same
          obtain ⟨high, low, rest⟩ := same
          have bound := a.toNat_lt
          have bound' := b.toNat_lt
          have highs := hexDigit_injective (by omega) (by omega) high
          have lows := hexDigit_injective (Nat.mod_lt _ (by decide)) (Nat.mod_lt _ (by decide)) low
          have value : a.toNat = b.toNat := by omega
          rw [UInt8.toNat_inj.mp value, ih rest]

/-- Every character of a hexadecimal text is a digit or one of the letters `a` to `f`. -/
theorem lowercase_of_mem_hexEncode {bytes : List UInt8} {c : Char} (member : c ∈ hexEncode bytes) :
    ((48 ≤ c.toNat && c.toNat ≤ 57) || (97 ≤ c.toNat && c.toNat ≤ 102)) = true := by
  have digit : ∀ d < 16, ((48 ≤ (hexDigit d).toNat && (hexDigit d).toNat ≤ 57) ||
      (97 ≤ (hexDigit d).toNat && (hexDigit d).toNat ≤ 102)) = true := by decide
  obtain ⟨b, -, written⟩ := List.mem_flatMap.mp member
  have small : b.toNat / 16 < 16 := by
    have := b.toNat_lt
    omega
  rcases List.mem_cons.mp written with rfl | written
  · exact digit _ small
  · rw [List.mem_singleton.mp written]
    exact digit _ (Nat.mod_lt _ (by decide))

end UnifiedInfraTopology.Lib
