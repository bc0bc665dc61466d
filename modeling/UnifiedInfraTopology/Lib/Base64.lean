import UnifiedInfraTopology.Lib.Sha256
import Mathlib.Data.List.Basic

/-!
# Base 64 for URLs, without padding

`base64.RawURLEncoding`: three bytes are four digits of six bits, and a last group of one or two
bytes is two or three digits.  The decoder skips line ends and ignores the bits that the last digit
has too many, as the one of the library does.

* `decode_encode`: what is encoded decodes to the same bytes;
* `mem_encode`: the characters of a text are those of the alphabet;
* `length_encode`: the length of a text.
-/

namespace UnifiedInfraTopology.Lib.Base64

/-- The digit of a value below 64. -/
def digit64 (n : Nat) : Char :=
  if n < 26 then Char.ofNat (65 + n)
  else if n < 52 then Char.ofNat (71 + n)
  else if n < 62 then Char.ofNat (n - 4)
  else if n = 62 then '-'
  else '_'

def value64? (c : Char) : Option Nat :=
  let n := c.toNat
  if 65 ≤ n ∧ n ≤ 90 then some (n - 65)
  else if 97 ≤ n ∧ n ≤ 122 then some (n - 71)
  else if 48 ≤ n ∧ n ≤ 57 then some (n + 4)
  else if c = '-' then some 62
  else if c = '_' then some 63
  else none

theorem value64?_digit64 {n : Nat} (small : n < 64) : value64? (digit64 n) = some n := by
  have all : ∀ n : Fin 64, value64? (digit64 n) = some n.val := by decide
  exact all ⟨n, small⟩

/-- A digit is neither a dot nor a line end. -/
theorem digit64_plain {n : Nat} (small : n < 64) :
    digit64 n ≠ '.' ∧ digit64 n ≠ '\n' ∧ digit64 n ≠ '\r' ∧ (digit64 n).toNat < 128 := by
  have all : ∀ n : Fin 64, digit64 n ≠ '.' ∧ digit64 n ≠ '\n' ∧ digit64 n ≠ '\r' ∧
      (digit64 n).toNat < 128 := by decide
  exact all ⟨n, small⟩

/-- The digits of some bytes. -/
def digits : List UInt8 → List Nat
  | [] => []
  | [a] => [a.toNat / 4, a.toNat % 4 * 16]
  | [a, b] =>
      let n := a.toNat * 256 + b.toNat
      [n / 1024, n / 16 % 64, n % 16 * 4]
  | a :: b :: c :: rest =>
      let n := a.toNat * 65536 + b.toNat * 256 + c.toNat
      n / 262144 :: n / 4096 % 64 :: n / 64 % 64 :: n % 64 :: digits rest

/-- The bytes of some digits; a single last digit is refused. -/
def bytes : List Nat → Option (List UInt8)
  | [] => some []
  | [_] => none
  | [p, q] => some [UInt8.ofNat ((p * 64 + q) / 16)]
  | [p, q, r] =>
      let n := p * 4096 + q * 64 + r
      some [UInt8.ofNat (n / 1024), UInt8.ofNat (n / 4)]
  | p :: q :: r :: s :: rest =>
      let n := p * 262144 + q * 4096 + r * 64 + s
      (bytes rest).map fun tail =>
        UInt8.ofNat (n / 65536) :: UInt8.ofNat (n / 256) :: UInt8.ofNat n :: tail

def encode (message : List UInt8) : List Char := (digits message).map digit64

def decode (text : List Char) : Option (List UInt8) :=
  ((text.filter fun c => c ≠ '\n' ∧ c ≠ '\r').mapM value64?).bind bytes

theorem digits_lt (message : List UInt8) : ∀ n ∈ digits message, n < 64 := by
  fun_induction digits message with
  | case1 => exact fun n member => (List.not_mem_nil member).elim
  | case2 a =>
      intro n member
      have := a.toNat_lt
      rcases List.mem_pair.mp member with rfl | rfl <;> omega
  | case3 a b total =>
      intro n member
      have := a.toNat_lt
      have := b.toNat_lt
      simp only [List.mem_cons, List.not_mem_nil, or_false] at member
      rcases member with rfl | rfl | rfl <;> omega
  | case4 a b c rest total ih =>
      intro n member
      have := a.toNat_lt
      have := b.toNat_lt
      have := c.toNat_lt
      simp only [List.mem_cons] at member
      rcases member with rfl | rfl | rfl | rfl | later
      · omega
      · omega
      · omega
      · omega
      · exact ih n later

theorem ofNat_byte {a : UInt8} {n : Nat} (low : n % 256 = a.toNat) : UInt8.ofNat n = a := by
  apply UInt8.toNat_inj.mp
  rw [UInt8.toNat_ofNat']
  exact low

/-- The bytes are the ones that the digits were taken of. -/
theorem bytes_digits (message : List UInt8) : bytes (digits message) = some message := by
  fun_induction digits message with
  | case1 => rfl
  | case2 a =>
      have := a.toNat_lt
      rw [bytes, ofNat_byte (a := a) (by omega)]
  | case3 a b total =>
      have := a.toNat_lt
      have := b.toNat_lt
      simp only [bytes]
      rw [ofNat_byte (a := a) (by omega), ofNat_byte (a := b) (by omega)]
  | case4 a b c rest total ih =>
      have := a.toNat_lt
      have := b.toNat_lt
      have := c.toNat_lt
      simp only [bytes, ih, Option.map_some]
      rw [ofNat_byte (a := a) (by omega), ofNat_byte (a := b) (by omega),
        ofNat_byte (a := c) (by omega)]

theorem mapM_value64? {values : List Nat} (small : ∀ n ∈ values, n < 64) :
    (values.map digit64).mapM value64? = some values := by
  induction values with
  | nil => rfl
  | cons n values ih =>
      rw [List.map_cons, List.mapM_cons, value64?_digit64 (small n List.mem_cons_self),
        ih fun m member => small m (List.mem_cons_of_mem n member)]
      rfl

/-- The characters of a text are plain. -/
theorem mem_encode {message : List UInt8} {c : Char} (member : c ∈ encode message) :
    c ≠ '.' ∧ c ≠ '\n' ∧ c ≠ '\r' ∧ c.toNat < 128 := by
  obtain ⟨n, inside, rfl⟩ := List.mem_map.mp member
  exact digit64_plain (digits_lt message n inside)

/-- What is encoded decodes to the same bytes. -/
theorem decode_encode (message : List UInt8) : decode (encode message) = some message := by
  have kept : (encode message).filter (fun c => c ≠ '\n' ∧ c ≠ '\r') = encode message := by
    refine List.filter_eq_self.mpr fun c member => ?_
    obtain ⟨-, newline, return_, -⟩ := mem_encode member
    simp [newline, return_]
  rw [decode, kept, encode, mapM_value64? (digits_lt message), Option.bind_some, bytes_digits]

theorem length_encode (message : List UInt8) :
    (encode message).length = (4 * message.length + 2) / 3 := by
  rw [encode, List.length_map]
  fun_induction digits message with
  | case1 => rfl
  | case2 a => simp
  | case3 a b total => simp
  | case4 a b c rest total ih =>
      simp only [List.length_cons]
      omega

end UnifiedInfraTopology.Lib.Base64
