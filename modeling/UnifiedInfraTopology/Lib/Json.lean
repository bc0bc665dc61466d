import UnifiedInfraTopology.Lib.Text
import Mathlib.Algebra.Order.Group.Int

/-!
# JSON text

A printer for flat JSON texts and a reader for all JSON texts, over lists of characters.

The printer follows Go's `encoding/json`: quotation marks and backslashes are escaped, the control
characters and `<`, `>`, `&`, U+2028 and U+2029 are written as escapes.  It covers what the
programs using it print: arrays and objects whose items are strings and integers (`Scalar`).  The
reader accepts any JSON text, with white space, nesting, fractions and surrogate escapes.

* `parse_printArray`, `parse_printObject`: the reader inverts the printer;
* `printArray_injective`: two arrays with the same text are equal.
-/

namespace UnifiedInfraTopology.Lib

namespace Json

variable {α : Type}

def quote : Char := Char.ofNat 34

def backslash : Char := Char.ofNat 92

/-! ## Strings -/

/-- The escape of a character below U+10000 by its code. -/
def escapeCode (n : Nat) : List Char :=
  [backslash, 'u', hexDigit (n / 4096), hexDigit (n / 256 % 16), hexDigit (n / 16 % 16),
    hexDigit (n % 16)]

/-- The two-character escapes the printer uses, by the code of the character they stand for. -/
def shortEscape? : Nat → Option Char
  | 34 => some quote
  | 92 => some backslash
  | 8 => some 'b'
  | 12 => some 'f'
  | 10 => some 'n'
  | 13 => some 'r'
  | 9 => some 't'
  | _ => none

/-- Control characters, the HTML characters and the two line separators of JavaScript. -/
def escapedByCode (n : Nat) : Bool :=
  n < 32 || n == 38 || n == 60 || n == 62 || n == 8232 || n == 8233

def escapeChar (c : Char) : List Char :=
  match shortEscape? c.toNat with
  | some e => [backslash, e]
  | none => if escapedByCode c.toNat then escapeCode c.toNat else [c]

def printString (s : String) : List Char :=
  quote :: (s.toList.flatMap escapeChar ++ [quote])

/-- A string literal before its surrogate pairs are joined: a character written as it is or by a
short escape, or the code of a `u` escape. -/
inductive StringUnit where
  | char (c : Char)
  | code (n : Nat)

/-- The character a short escape stands for. -/
def unescape? (e : Char) : Option Char :=
  if e = quote then some quote
  else if e = backslash then some backslash
  else if e = '/' then some '/'
  else if e = 'b' then some (Char.ofNat 8)
  else if e = 'f' then some (Char.ofNat 12)
  else if e = 'n' then some (Char.ofNat 10)
  else if e = 'r' then some (Char.ofNat 13)
  else if e = 't' then some (Char.ofNat 9)
  else none

/-- Read a string literal after its opening quotation mark. -/
def stringUnits : List Char → Option (List StringUnit × List Char)
  | [] => none
  | c :: cs =>
      if c = quote then some ([], cs)
      else if c = backslash then
        match cs with
        | 'u' :: h1 :: h2 :: h3 :: h4 :: cs => do
            let n ← hexNumber? [h1, h2, h3, h4]
            let (units, rest) ← stringUnits cs
            some (.code n :: units, rest)
        | e :: cs => do
            let c ← unescape? e
            let (units, rest) ← stringUnits cs
            some (.char c :: units, rest)
        | [] => none
      else if c.toNat < 32 then none
      else do
        let (units, rest) ← stringUnits cs
        some (.char c :: units, rest)

def highSurrogate (n : Nat) : Bool := 0xD800 ≤ n && n < 0xDC00

def lowSurrogate (n : Nat) : Bool := 0xDC00 ≤ n && n < 0xE000

/-- The character of one escape code; an unpaired surrogate becomes U+FFFD. -/
def charOfCode (n : Nat) : Char :=
  if highSurrogate n || lowSurrogate n then Char.ofNat 0xFFFD else Char.ofNat n

def joinUnits : List StringUnit → List Char
  | [] => []
  | .char c :: units => c :: joinUnits units
  | .code high :: .code low :: units =>
      if highSurrogate high && lowSurrogate low then
        Char.ofNat (0x10000 + (high - 0xD800) * 1024 + (low - 0xDC00)) :: joinUnits units
      else charOfCode high :: joinUnits (.code low :: units)
  | .code n :: units => charOfCode n :: joinUnits units

/-- What the reader makes of one printed character. -/
def unitOfChar (c : Char) : StringUnit :=
  if (shortEscape? c.toNat).isNone && escapedByCode c.toNat then .code c.toNat else .char c

theorem ofNat_of_toNat {c : Char} {n : Nat} (code : c.toNat = n) : Char.ofNat n = c := by
  rw [← code, Char.ofNat_toNat]

theorem unescape?_shortEscape {c e : Char} (short : shortEscape? c.toNat = some e) :
    unescape? e = some c ∧ e ≠ 'u' := by
  unfold shortEscape? at short
  split at short <;> cases short <;> rename_i code <;> rw [← ofNat_of_toNat code] <;> decide

theorem stringUnits_plain {c : Char} (notQuote : c ≠ quote) (notBackslash : c ≠ backslash)
    (printable : ¬c.toNat < 32) (rest : List Char) :
    stringUnits (c :: rest) = (stringUnits rest).map fun p => (.char c :: p.1, p.2) := by
  rw [stringUnits.eq_def]
  simp only [notQuote, notBackslash, printable, ↓reduceIte]
  cases stringUnits rest <;> rfl

theorem stringUnits_short {e c : Char} (stands : unescape? e = some c) (notCode : e ≠ 'u')
    (rest : List Char) :
    stringUnits (backslash :: e :: rest) =
      (stringUnits rest).map fun p => (.char c :: p.1, p.2) := by
  have apart : backslash ≠ quote := by decide
  rw [stringUnits.eq_def]
  simp only [apart, ↓reduceIte]
  split
  · rename_i shape
    exact absurd (List.cons.inj shape).1 notCode
  · rename_i shape
    obtain ⟨rfl, rfl⟩ := List.cons.inj shape
    simp only [stands]
    cases stringUnits rest <;> rfl
  · rename_i shape
    cases shape

theorem stringUnits_escapeCode {n : Nat} (small : n < 65536) (rest : List Char) :
    stringUnits (escapeCode n ++ rest) =
      (stringUnits rest).map fun p => (.code n :: p.1, p.2) := by
  have digits : hexNumber? [hexDigit (n / 4096), hexDigit (n / 256 % 16), hexDigit (n / 16 % 16),
      hexDigit (n % 16)] = some n := by
    simp only [hexNumber?, hexFrom?, hexValue?_hexDigit (show n / 4096 < 16 by omega),
      hexValue?_hexDigit (show n / 256 % 16 < 16 by omega),
      hexValue?_hexDigit (show n / 16 % 16 < 16 by omega),
      hexValue?_hexDigit (show n % 16 < 16 by omega), Option.bind_some, Option.some.injEq]
    omega
  have apart : backslash ≠ quote := by decide
  rw [escapeCode, List.cons_append, stringUnits.eq_def]
  simp only [List.cons_append, List.nil_append, apart, ↓reduceIte, digits]
  cases stringUnits rest <;> rfl

theorem escapedByCode_lt {n : Nat} (byCode : escapedByCode n = true) :
    n < 65536 ∧ highSurrogate n = false ∧ lowSurrogate n = false := by
  simp only [escapedByCode, Bool.or_eq_true, decide_eq_true_eq, beq_iff_eq] at byCode
  simp only [highSurrogate, lowSurrogate, Bool.and_eq_false_iff, decide_eq_false_iff_not]
  omega

theorem stringUnits_escapeChar (c : Char) (rest : List Char) :
    stringUnits (escapeChar c ++ rest) =
      (stringUnits rest).map fun p => (unitOfChar c :: p.1, p.2) := by
  unfold escapeChar unitOfChar
  cases short : shortEscape? c.toNat with
  | some e =>
      obtain ⟨stands, notCode⟩ := unescape?_shortEscape short
      exact stringUnits_short stands notCode rest
  | none =>
      simp only [Option.isNone_none, Bool.true_and]
      cases byCode : escapedByCode c.toNat with
      | true => exact stringUnits_escapeCode (escapedByCode_lt byCode).1 rest
      | false =>
          have notQuote : c ≠ quote := by
            rintro rfl
            exact absurd short (by decide)
          have notBackslash : c ≠ backslash := by
            rintro rfl
            exact absurd short (by decide)
          have printable : ¬c.toNat < 32 := by
            intro control
            simp [escapedByCode, control] at byCode
          exact stringUnits_plain notQuote notBackslash printable rest

theorem stringUnits_escaped (cs rest : List Char) :
    stringUnits (cs.flatMap escapeChar ++ quote :: rest) = some (cs.map unitOfChar, rest) := by
  induction cs with
  | nil => rw [List.flatMap_nil, List.nil_append, stringUnits.eq_def]; simp
  | cons c cs ih =>
      rw [List.flatMap_cons, List.append_assoc, stringUnits_escapeChar, ih]
      rfl

theorem joinUnits_code {n : Nat} (plain : highSurrogate n = false) (low : lowSurrogate n = false)
    (units : List StringUnit) : joinUnits (.code n :: units) = Char.ofNat n :: joinUnits units := by
  have here : charOfCode n = Char.ofNat n := by simp [charOfCode, plain, low]
  rcases units with _ | ⟨c | next, units⟩
  · simp [joinUnits, here]
  · simp [joinUnits, here]
  · rw [joinUnits, here, plain, Bool.false_and]
    rfl

theorem joinUnits_map_unitOfChar (cs : List Char) : joinUnits (cs.map unitOfChar) = cs := by
  induction cs with
  | nil => rfl
  | cons c cs ih =>
      rw [List.map_cons, unitOfChar]
      split
      · rename_i byCode
        rw [Bool.and_eq_true] at byCode
        obtain ⟨-, plain, low⟩ := escapedByCode_lt byCode.2
        rw [joinUnits_code plain low, ih, Char.ofNat_toNat]
      · rw [joinUnits, ih]

/-- Read a string literal after its opening quotation mark. -/
def parseString (cs : List Char) : Option (String × List Char) :=
  (stringUnits cs).map fun p => (String.ofList (joinUnits p.1), p.2)

theorem parseString_print (s : String) (rest : List Char) :
    parseString (s.toList.flatMap escapeChar ++ quote :: rest) = some (s, rest) := by
  simp only [parseString, stringUnits_escaped, Option.map_some, joinUnits_map_unitOfChar,
    String.ofList_toList]

/-! ## Numbers -/

/-- A number as it is written: sign, integer part, and the text of fraction and exponent. -/
structure Number where
  negative : Bool
  digits : List Char
  tail : List Char
deriving DecidableEq

def parseFractionPart : List Char → Option (List Char × List Char)
  | '.' :: cs =>
      let (digits, rest) := splitDigits cs
      if digits = [] then none else some ('.' :: digits, rest)
  | cs => some ([], cs)

def parseExponent : List Char → Option (List Char × List Char)
  | [] => some ([], [])
  | c :: cs =>
      if c = 'e' ∨ c = 'E' then
        let sign := cs.takeWhile fun d => d = '+' ∨ d = '-'
        let (digits, rest) := splitDigits (cs.drop sign.length)
        if digits = [] ∨ 1 < sign.length then none else some (c :: sign ++ digits, rest)
      else some ([], c :: cs)

def parseSign : List Char → Bool × List Char
  | '-' :: cs => (true, cs)
  | cs => (false, cs)

def parseNumber (cs : List Char) : Option (Number × List Char) :=
  let (negative, cs) := parseSign cs
  let (digits, cs) := splitDigits cs
  if digits = [] ∨ (digits.head? = some '0' ∧ digits ≠ ['0']) then none
  else do
    let (fraction, cs) ← parseFractionPart cs
    let (exponent, cs) ← parseExponent cs
    some (⟨negative, digits, fraction ++ exponent⟩, cs)

/-- The value of a number without fraction and exponent. -/
def Number.int? (n : Number) : Option Int :=
  if n.tail = [] then
    (number? n.digits).map fun (value : Nat) =>
      if n.negative then -(value : Int) else (value : Int)
  else none

def numberOfInt (n : Int) : Number := ⟨decide (n < 0), decimal n.natAbs, []⟩

def printInt (n : Int) : List Char :=
  if n < 0 then '-' :: decimal n.natAbs else decimal n.natAbs

/-- What follows a number in a printed text. -/
def Stops (rest : List Char) : Prop := ∀ c ∈ rest.head?, c = ',' ∨ c = ']' ∨ c = '}'

@[simp] theorem int?_numberOfInt (n : Int) : (numberOfInt n).int? = some n := by
  simp only [Number.int?, numberOfInt, ↓reduceIte, number?_decimal, Option.map_some,
    decide_eq_true_eq, Option.some.injEq, Int.natCast_natAbs]
  split
  · rename_i negative
    rw [abs_of_neg negative, Int.neg_neg]
  · rename_i nonneg
    exact abs_of_nonneg (Int.not_lt.mp nonneg)

theorem splitDigits_decimal {n : Nat} {rest : List Char} (stops : Stops rest) :
    splitDigits (decimal n ++ rest) = (decimal n, rest) := by
  refine splitDigits_append (fun c member => isDigit_of_mem_decimal member) fun c head => ?_
  rcases stops c head with rfl | rfl | rfl <;> rfl

theorem parseTails_of_stops {rest : List Char} (stops : Stops rest) :
    parseFractionPart rest = some ([], rest) ∧ parseExponent rest = some ([], rest) := by
  cases rest with
  | nil => exact ⟨rfl, rfl⟩
  | cons c rest => rcases stops c rfl with rfl | rfl | rfl <;> exact ⟨rfl, rfl⟩

theorem parseSign_decimal (n : Nat) (rest : List Char) :
    parseSign (decimal n ++ rest) = (false, decimal n ++ rest) := by
  cases shape : decimal n with
  | nil => exact absurd shape (decimal_ne_nil n)
  | cons c cs =>
      have digit : (digitValue? c).isSome := isDigit_of_mem_decimal (n := n) (by simp [shape])
      rw [List.cons_append, parseSign.eq_2]
      rintro tail same
      rw [(List.cons.inj same).1] at digit
      exact absurd digit (by decide)

theorem parseNumber_printInt (n : Int) {rest : List Char} (stops : Stops rest) :
    parseNumber (printInt n ++ rest) = some (numberOfInt n, rest) := by
  obtain ⟨fraction, exponent⟩ := parseTails_of_stops stops
  have sign : parseSign (printInt n ++ rest) = (decide (n < 0), decimal n.natAbs ++ rest) := by
    unfold printInt
    split
    · rename_i negative
      simp [parseSign, negative]
    · rename_i nonneg
      rw [parseSign_decimal, decide_eq_false nonneg]
  have wellFormed : ¬(decimal n.natAbs = [] ∨
      (decimal n.natAbs).head? = some '0' ∧ decimal n.natAbs ≠ ['0']) := by
    rintro (empty | ⟨zero, other⟩)
    · exact decimal_ne_nil _ empty
    · exact other (head?_decimal zero)
  simp only [parseNumber, sign, splitDigits_decimal stops, wellFormed, ↓reduceIte, fraction,
    exponent, Option.bind_eq_bind, Option.bind_some, List.append_nil, numberOfInt]

/-! ## Values -/

/-- A JSON value. -/
inductive Value where
  | null
  | bool (b : Bool)
  | number (n : Number)
  | string (s : String)
  | array (items : List Value)
  | object (members : List (String × Value))

def isSpace (c : Char) : Bool :=
  c.toNat == 32 || c.toNat == 9 || c.toNat == 10 || c.toNat == 13

def skipSpace (cs : List Char) : List Char := cs.dropWhile isSpace

/-- Read a given word. -/
def parseWord (word : List Char) (v : Value) (cs : List Char) : Option (Value × List Char) :=
  if word.isPrefixOf cs then some (v, cs.drop word.length) else none

mutual

/-- Read one value; the first argument bounds the nesting and the number of items. -/
def parseValue : Nat → List Char → Option (Value × List Char)
  | 0, _ => none
  | fuel + 1, cs =>
      match skipSpace cs with
      | [] => none
      | c :: cs =>
          if c = quote then (parseString cs).map fun p => (.string p.1, p.2)
          else if c = '[' then
            match skipSpace cs with
            | ']' :: rest => some (.array [], rest)
            | cs => do
                let (item, rest) ← parseValue fuel cs
                let (items, rest) ← parseElements fuel rest
                some (.array (item :: items), rest)
          else if c = '{' then
            match skipSpace cs with
            | '}' :: rest => some (.object [], rest)
            | cs => do
                let (member, rest) ← parseMember fuel cs
                let (members, rest) ← parseMembers fuel rest
                some (.object (member :: members), rest)
          else if c = 'n' then parseWord ['n', 'u', 'l', 'l'] .null (c :: cs)
          else if c = 't' then parseWord ['t', 'r', 'u', 'e'] (.bool true) (c :: cs)
          else if c = 'f' then parseWord ['f', 'a', 'l', 's', 'e'] (.bool false) (c :: cs)
          else (parseNumber (c :: cs)).map fun p => (.number p.1, p.2)

/-- Read the items of an array after the first. -/
def parseElements : Nat → List Char → Option (List Value × List Char)
  | 0, _ => none
  | fuel + 1, cs =>
      match skipSpace cs with
      | ']' :: rest => some ([], rest)
      | ',' :: cs => do
          let (item, rest) ← parseValue fuel cs
          let (items, rest) ← parseElements fuel rest
          some (item :: items, rest)
      | _ => none

/-- Read one member of an object. -/
def parseMember : Nat → List Char → Option ((String × Value) × List Char)
  | 0, _ => none
  | fuel + 1, cs =>
      match skipSpace cs with
      | [] => none
      | c :: cs =>
          if c = quote then do
            let (name, rest) ← parseString cs
            match skipSpace rest with
            | ':' :: cs => do
                let (item, rest) ← parseValue fuel cs
                some ((name, item), rest)
            | _ => none
          else none

/-- Read the members of an object after the first. -/
def parseMembers : Nat → List Char → Option (List (String × Value) × List Char)
  | 0, _ => none
  | fuel + 1, cs =>
      match skipSpace cs with
      | '}' :: rest => some ([], rest)
      | ',' :: cs => do
          let (member, rest) ← parseMember fuel cs
          let (members, rest) ← parseMembers fuel rest
          some (member :: members, rest)
      | _ => none

end

/-- Read a whole text. -/
def parse (cs : List Char) : Option Value := do
  let (v, rest) ← parseValue (cs.length + 1) cs
  if skipSpace rest = [] then some v else none

/-! ## Flat arrays and objects -/

/-- The items of the texts that are printed. -/
inductive Scalar where
  | int (n : Int)
  | str (s : String)
deriving DecidableEq

namespace Scalar

def value : Scalar → Value
  | int n => .number (numberOfInt n)
  | str s => .string s

def print : Scalar → List Char
  | int n => printInt n
  | str s => printString s

end Scalar

def printTail (close : Char) (print : α → List Char) : List α → List Char
  | [] => [close]
  | x :: xs => ',' :: (print x ++ printTail close print xs)

def printItems (close : Char) (print : α → List Char) : List α → List Char
  | [] => [close]
  | x :: xs => print x ++ printTail close print xs

/-- The text of an array of strings and integers. -/
def printArray (xs : List Scalar) : List Char := '[' :: printItems ']' Scalar.print xs

def printMember (m : String × Scalar) : List Char := printString m.1 ++ ':' :: m.2.print

/-- The text of an object whose members are strings and integers. -/
def printObject (ms : List (String × Scalar)) : List Char := '{' :: printItems '}' printMember ms

/-! ## The reader inverts the printer -/

theorem skipSpace_cons {c : Char} (solid : isSpace c = false) (cs : List Char) :
    skipSpace (c :: cs) = c :: cs := by
  simp [skipSpace, solid]

theorem stops_printTail {close : Char} (closing : close = ']' ∨ close = '}')
    (print : α → List Char) (xs : List α) (rest : List Char) :
    Stops (printTail close print xs ++ rest) := by
  cases xs with
  | nil =>
      rintro c head
      cases head
      exact Or.inr closing
  | cons x xs =>
      rintro c head
      cases head
      exact Or.inl rfl

/-- The characters a printed scalar can start with. -/
def Leading (c : Char) : Prop := c = quote ∨ c = '-' ∨ (digitValue? c).isSome

theorem Leading.solid {c : Char} (leading : Leading c) : isSpace c = false ∧ c ≠ ']' ∧ c ≠ '}' := by
  rcases leading with rfl | rfl | digit
  · decide
  · decide
  · refine ⟨?_, ?_, ?_⟩
    · unfold digitValue? at digit
      split at digit
      · simp only [isSpace, Bool.or_eq_false_iff, beq_eq_false_iff_ne]
        omega
      · cases digit
    all_goals
      rintro rfl
      exact absurd digit (by decide)

theorem head_printInt (n : Int) :
    ∃ c cs, printInt n = c :: cs ∧ (c = '-' ∨ (digitValue? c).isSome) := by
  unfold printInt
  split
  · exact ⟨_, _, rfl, Or.inl rfl⟩
  · cases shape : decimal n.natAbs with
    | nil => exact absurd shape (decimal_ne_nil _)
    | cons c cs =>
        exact ⟨c, cs, rfl, Or.inr (isDigit_of_mem_decimal (n := n.natAbs) (by simp [shape]))⟩

theorem Scalar.head_print (x : Scalar) : ∃ c cs, x.print = c :: cs ∧ Leading c := by
  cases x with
  | str s => exact ⟨quote, _, rfl, Or.inl rfl⟩
  | int n =>
      obtain ⟨c, cs, shape, leading⟩ := head_printInt n
      exact ⟨c, cs, shape, Or.inr leading⟩

theorem parseValue_scalar (fuel : Nat) (x : Scalar) {rest : List Char} (stops : Stops rest) :
    parseValue (fuel + 1) (x.print ++ rest) = some (x.value, rest) := by
  cases x with
  | str s =>
      have read := parseString_print s rest
      rw [Scalar.print, printString, List.cons_append, List.append_assoc, List.cons_append,
        List.nil_append, parseValue, skipSpace_cons (by decide)]
      simp only [↓reduceIte, read, Option.map_some, Scalar.value]
  | int n =>
      have read := parseNumber_printInt n stops
      obtain ⟨c, cs, shape, digit⟩ := head_printInt n
      have space : isSpace c = false := (Leading.solid (Or.inr digit)).1
      have other : c ≠ quote ∧ c ≠ '[' ∧ c ≠ '{' ∧ c ≠ 'n' ∧ c ≠ 't' ∧ c ≠ 'f' := by
        rcases digit with rfl | digit
        · decide
        · refine ⟨?_, ?_, ?_, ?_, ?_, ?_⟩
          all_goals
            rintro rfl
            exact absurd digit (by decide)
      obtain ⟨notQuote, notArray, notObject, notNull, notTrue, notFalse⟩ := other
      rw [shape, List.cons_append] at read
      rw [Scalar.print, shape, List.cons_append, parseValue, skipSpace_cons space]
      simp only [notQuote, notArray, notObject, notNull, notTrue, notFalse, ↓reduceIte, read,
        Option.map_some, Scalar.value]

theorem parseElements_print {fuel : Nat} (xs : List Scalar) (enough : xs.length < fuel)
    (rest : List Char) :
    parseElements fuel (printTail ']' Scalar.print xs ++ rest) =
      some (xs.map Scalar.value, rest) := by
  induction xs generalizing fuel with
  | nil =>
      obtain ⟨fuel, rfl⟩ : ∃ m, fuel = m + 1 := ⟨fuel - 1, by simp at enough; omega⟩
      rw [printTail, List.cons_append, List.nil_append, parseElements,
        skipSpace_cons (by decide)]
      rfl
  | cons x xs ih =>
      rw [List.length_cons] at enough
      obtain ⟨fuel, rfl⟩ : ∃ m, fuel = m + 2 := ⟨fuel - 2, by omega⟩
      rw [printTail, List.cons_append, List.append_assoc, parseElements,
        skipSpace_cons (by decide)]
      simp only [parseValue_scalar fuel x (stops_printTail (Or.inl rfl) _ xs rest),
        @ih (fuel + 1) (by omega), Option.bind_eq_bind, Option.bind_some, List.map_cons]

theorem length_printTail (close : Char) (print : α → List Char) (xs : List α) :
    xs.length < (printTail close print xs).length := by
  induction xs with
  | nil => simp [printTail]
  | cons x xs ih =>
      simp only [printTail, List.length_cons, List.length_append]
      omega

theorem parse_printArray (xs : List Scalar) :
    parse (printArray xs) = some (.array (xs.map Scalar.value)) := by
  cases xs with
  | nil => rfl
  | cons x xs =>
      have enough : xs.length < (printItems ']' Scalar.print (x :: xs)).length := by
        have := length_printTail ']' Scalar.print xs
        simp only [printItems, List.length_append]
        omega
      generalize size : (printItems ']' Scalar.print (x :: xs)).length = fuel at enough
      have notQuote : '[' ≠ quote := by decide
      have head := parseValue_scalar fuel x
        (stops_printTail (Or.inl rfl) Scalar.print xs [])
      have tail := @parseElements_print (fuel + 1) xs (by omega) []
      obtain ⟨c, cs, shape, leading⟩ := x.head_print
      rw [List.append_nil] at head tail
      rw [shape, List.cons_append] at head
      rw [parse, printArray, List.length_cons, size, parseValue, skipSpace_cons (by decide)]
      simp only [notQuote, ↓reduceIte, printItems, shape, List.cons_append,
        skipSpace_cons leading.solid.1]
      split
      · rename_i same
        exact absurd (List.cons.inj same).1 leading.solid.2.1
      · rw [head]
        simp only [Option.bind_eq_bind, Option.bind_some, tail]
        rfl

/-- Two arrays with the same text have the same items. -/
theorem printArray_injective : Function.Injective printArray := by
  intro xs ys same
  have values : xs.map Scalar.value = ys.map Scalar.value := by
    have read := parse_printArray xs
    rw [same, parse_printArray ys] at read
    exact (Value.array.inj (Option.some.inj read)).symm
  refine List.map_injective_iff.mpr ?_ values
  rintro (m | s) (n | t) eq
  · have := congrArg Number.int? (Value.number.inj eq)
    rw [int?_numberOfInt, int?_numberOfInt] at this
    rw [Option.some.inj this]
  · cases eq
  · cases eq
  · rw [Value.string.inj eq]

theorem parseMember_print (fuel : Nat) (m : String × Scalar) {rest : List Char}
    (stops : Stops rest) :
    parseMember (fuel + 2) (printMember m ++ rest) = some ((m.1, m.2.value), rest) := by
  have name := parseString_print m.1 (':' :: (m.2.print ++ rest))
  rw [printMember, printString, List.append_assoc, List.cons_append, List.append_assoc,
    List.cons_append, List.nil_append, List.cons_append, parseMember, skipSpace_cons (by decide)]
  simp only [↓reduceIte, name, Option.bind_eq_bind, Option.bind_some, skipSpace_cons (c := ':') rfl,
    parseValue_scalar fuel m.2 stops]

theorem parseMembers_print {fuel : Nat} (ms : List (String × Scalar)) (enough : ms.length + 1 < fuel)
    (rest : List Char) :
    parseMembers fuel (printTail '}' printMember ms ++ rest) =
      some (ms.map fun m => (m.1, m.2.value), rest) := by
  induction ms generalizing fuel with
  | nil =>
      obtain ⟨fuel, rfl⟩ : ∃ m, fuel = m + 1 := ⟨fuel - 1, by omega⟩
      rw [printTail, List.cons_append, List.nil_append, parseMembers, skipSpace_cons (by decide)]
      rfl
  | cons m ms ih =>
      rw [List.length_cons] at enough
      obtain ⟨fuel, rfl⟩ : ∃ n, fuel = n + 3 := ⟨fuel - 3, by omega⟩
      rw [printTail, List.cons_append, List.append_assoc, parseMembers,
        skipSpace_cons (by decide)]
      simp only [parseMember_print fuel m (stops_printTail (Or.inr rfl) _ ms rest),
        @ih (fuel + 2) (by omega), Option.bind_eq_bind, Option.bind_some, List.map_cons]

theorem parse_printObject (ms : List (String × Scalar)) :
    parse (printObject ms) = some (.object (ms.map fun m => (m.1, m.2.value))) := by
  cases ms with
  | nil => rfl
  | cons m ms =>
      have enough : ms.length + 2 < (printItems '}' printMember (m :: ms)).length := by
        have := length_printTail '}' printMember ms
        simp only [printItems, printMember, printString, List.length_append, List.length_cons]
        omega
      obtain ⟨fuel, size⟩ : ∃ fuel, (printItems '}' printMember (m :: ms)).length = fuel + 1 :=
        ⟨(printItems '}' printMember (m :: ms)).length - 1, by omega⟩
      have notQuote : '{' ≠ quote := by decide
      have notArray : '{' ≠ '[' := by decide
      have head := parseMember_print fuel m (stops_printTail (Or.inr rfl) printMember ms [])
      have tail := @parseMembers_print (fuel + 2) ms (by omega) []
      rw [List.append_nil] at head tail
      have shape : ∃ cs, printMember m = quote :: cs := ⟨_, rfl⟩
      obtain ⟨cs, shape⟩ := shape
      rw [shape, List.cons_append] at head
      rw [parse, printObject, List.length_cons, size, parseValue, skipSpace_cons (by decide)]
      simp only [notQuote, notArray, ↓reduceIte, printItems, shape, List.cons_append,
        skipSpace_cons (c := quote) (by decide)]
      split
      · rename_i same
        exact absurd (List.cons.inj same).1 (by decide)
      · rw [head]
        simp only [Option.bind_eq_bind, Option.bind_some, tail]
        rfl

end Json

end UnifiedInfraTopology.Lib
