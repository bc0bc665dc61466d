import Mathlib.Data.Nat.Digits.Defs
import Mathlib.Data.List.DropRight

/-!
# Decimal and hexadecimal text

Numbers as text, over lists of characters: `decimal` prints a natural number without leading
zeros, `padded` prints it in a fixed width, `number?` reads decimal digits back, `hexDigit` and
`hexValue?` convert one hexadecimal digit.  Each printer comes with the theorem that its reader
inverts it.
-/

namespace UnifiedInfraTopology.Lib

/-- The decimal digit `0` to `9`. -/
def digitChar (d : Nat) : Char := Char.ofNat (48 + d)

/-- The value of a decimal digit. -/
def digitValue? (c : Char) : Option Nat :=
  if 48 ≤ c.toNat ∧ c.toNat ≤ 57 then some (c.toNat - 48) else none

theorem digitValue?_digitChar {d : Nat} (small : d < 10) : digitValue? (digitChar d) = some d := by
  revert small
  revert d
  decide

/-- Read decimal digits; `acc` is the value read so far. -/
def numberFrom? : Nat → List Char → Option Nat
  | acc, [] => some acc
  | acc, c :: cs => (digitValue? c).bind fun d => numberFrom? (10 * acc + d) cs

/-- Read a run of decimal digits. -/
def number? (cs : List Char) : Option Nat := numberFrom? 0 cs

theorem numberFrom?_append (acc : Nat) (left right : List Char) :
    numberFrom? acc (left ++ right) = (numberFrom? acc left).bind (numberFrom? · right) := by
  induction left generalizing acc with
  | nil => rfl
  | cons c left ih =>
      simp only [List.cons_append, numberFrom?]
      cases digitValue? c with
      | none => rfl
      | some d => exact ih _

/-! ## Fixed width -/

/-- The last `width` decimal digits of `n`, with leading zeros. -/
def padded : Nat → Nat → List Char
  | 0, _ => []
  | width + 1, n => padded width (n / 10) ++ [digitChar (n % 10)]

@[simp] theorem length_padded (width n : Nat) : (padded width n).length = width := by
  induction width generalizing n with
  | zero => rfl
  | succ width ih => simp [padded, ih]

theorem number?_padded {width n : Nat} (fits : n < 10 ^ width) :
    number? (padded width n) = some n := by
  unfold number?
  induction width generalizing n with
  | zero => simp only [pow_zero, Nat.lt_one_iff] at fits; subst fits; rfl
  | succ width ih =>
      have front : n / 10 < 10 ^ width := by
        rw [Nat.div_lt_iff_lt_mul (by decide)]
        rwa [pow_succ] at fits
      have last : digitValue? (digitChar (n % 10)) = some (n % 10) :=
        digitValue?_digitChar (Nat.mod_lt n (by decide))
      rw [padded, numberFrom?_append, ih front]
      simp only [Option.bind_some, numberFrom?, last, Nat.div_add_mod]

theorem isDigit_of_mem_padded {width n : Nat} {c : Char} (member : c ∈ padded width n) :
    (digitValue? c).isSome := by
  induction width generalizing n with
  | zero => cases member
  | succ width ih =>
      rcases List.mem_append.mp member with front | last
      · exact ih front
      · rw [List.mem_singleton.mp last, digitValue?_digitChar (Nat.mod_lt n (by decide))]
        rfl

/-! ## No leading zeros -/

/-- The decimal text of `n`, given as many steps as it has digits. -/
def decimalFrom : Nat → Nat → List Char
  | 0, _ => []
  | fuel + 1, n =>
      if n < 10 then [digitChar n] else decimalFrom fuel (n / 10) ++ [digitChar (n % 10)]

/-- The decimal text of a natural number. -/
def decimal (n : Nat) : List Char := decimalFrom (n + 1) n

theorem number?_decimalFrom {fuel n : Nat} (enough : n < fuel) :
    number? (decimalFrom fuel n) = some n := by
  unfold number?
  induction fuel generalizing n with
  | zero => cases enough
  | succ fuel ih =>
      simp only [decimalFrom]
      split
      · rename_i small
        simp [numberFrom?, digitValue?_digitChar small]
      · rename_i large
        have shorter : n / 10 < fuel := by omega
        have last : digitValue? (digitChar (n % 10)) = some (n % 10) :=
          digitValue?_digitChar (Nat.mod_lt n (by decide))
        rw [numberFrom?_append, ih shorter]
        simp only [Option.bind_some, numberFrom?, last, Nat.div_add_mod]

theorem number?_decimal (n : Nat) : number? (decimal n) = some n :=
  number?_decimalFrom (Nat.lt_succ_self n)

theorem decimalFrom_digits {fuel n : Nat} {c : Char} (member : c ∈ decimalFrom fuel n) :
    (digitValue? c).isSome := by
  induction fuel generalizing n with
  | zero => cases member
  | succ fuel ih =>
      simp only [decimalFrom] at member
      split at member
      · rename_i small
        rw [List.mem_singleton.mp member, digitValue?_digitChar small]
        rfl
      · rcases List.mem_append.mp member with front | last
        · exact ih front
        · rw [List.mem_singleton.mp last, digitValue?_digitChar (Nat.mod_lt n (by decide))]
          rfl

theorem isDigit_of_mem_decimal {n : Nat} {c : Char} (member : c ∈ decimal n) :
    (digitValue? c).isSome := decimalFrom_digits member

theorem decimal_ne_nil (n : Nat) : decimal n ≠ [] := by
  unfold decimal decimalFrom
  split
  · exact List.cons_ne_nil _ _
  · exact List.append_ne_nil_of_right_ne_nil _ (List.cons_ne_nil _ _)

theorem head?_decimalFrom {fuel n : Nat} (enough : n < fuel)
    (zero : (decimalFrom fuel n).head? = some '0') : n = 0 := by
  induction fuel generalizing n with
  | zero => cases enough
  | succ fuel ih =>
      simp only [decimalFrom] at zero
      split at zero
      · rename_i small
        have digit := digitValue?_digitChar small
        rw [List.head?_cons, Option.some.injEq] at zero
        rw [zero] at digit
        exact (Option.some.inj digit).symm
      · rename_i large
        have shorter : n / 10 < fuel := by omega
        obtain ⟨m, rfl⟩ : ∃ m, fuel = m + 1 := ⟨fuel - 1, by omega⟩
        have nonempty : decimalFrom (m + 1) (n / 10) ≠ [] := by
          unfold decimalFrom
          split <;> simp
        rw [List.head?_append_of_ne_nil _ nonempty] at zero
        have := ih shorter zero
        omega

/-- Only the number zero starts with the digit zero. -/
theorem head?_decimal {n : Nat} (zero : (decimal n).head? = some '0') : decimal n = ['0'] := by
  rw [head?_decimalFrom (Nat.lt_succ_self n) zero]
  rfl

/-- Split a text after its leading run of decimal digits. -/
def splitDigits (cs : List Char) : List Char × List Char :=
  (cs.takeWhile fun c => (digitValue? c).isSome, cs.dropWhile fun c => (digitValue? c).isSome)

theorem splitDigits_append {digits rest : List Char}
    (all : ∀ c ∈ digits, (digitValue? c).isSome)
    (stop : ∀ c ∈ rest.head?, (digitValue? c).isSome = false) :
    splitDigits (digits ++ rest) = (digits, rest) := by
  unfold splitDigits
  rw [List.takeWhile_append_of_pos all, List.dropWhile_append_of_pos all]
  cases rest with
  | nil => simp
  | cons c rest => simp [stop c (by simp)]

/-! ## Hexadecimal digits -/

/-- The lowercase hexadecimal digit of a value below sixteen. -/
def hexDigit (d : Nat) : Char := if d < 10 then Char.ofNat (48 + d) else Char.ofNat (87 + d)

/-- The value of a hexadecimal digit, in either case. -/
def hexValue? (c : Char) : Option Nat :=
  if 48 ≤ c.toNat ∧ c.toNat ≤ 57 then some (c.toNat - 48)
  else if 97 ≤ c.toNat ∧ c.toNat ≤ 102 then some (c.toNat - 87)
  else if 65 ≤ c.toNat ∧ c.toNat ≤ 70 then some (c.toNat - 55)
  else none

theorem hexValue?_hexDigit {d : Nat} (small : d < 16) : hexValue? (hexDigit d) = some d := by
  revert small
  revert d
  decide

/-- Read hexadecimal digits; `acc` is the value read so far. -/
def hexFrom? : Nat → List Char → Option Nat
  | acc, [] => some acc
  | acc, c :: cs => (hexValue? c).bind fun d => hexFrom? (16 * acc + d) cs

/-- Read a run of hexadecimal digits. -/
def hexNumber? (cs : List Char) : Option Nat := hexFrom? 0 cs

theorem isSome_hexFrom? {acc : Nat} {cs : List Char}
    (digits : ∀ c ∈ cs, (hexValue? c).isSome = true) : (hexFrom? acc cs).isSome = true := by
  induction cs generalizing acc with
  | nil => rfl
  | cons c cs ih =>
      obtain ⟨here, later⟩ := List.forall_mem_cons.mp digits
      obtain ⟨d, digit⟩ := Option.isSome_iff_exists.mp here
      rw [hexFrom?, digit]
      exact ih later

end UnifiedInfraTopology.Lib
