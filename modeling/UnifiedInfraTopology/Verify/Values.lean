import UnifiedInfraTopology.Graph.Properties
import UnifiedInfraTopology.Lib.GoTime

/-!
# Cells of verification queries

`cmd/worker/verify.go` reads the answers of its graph queries as tables of texts: a string as JSON, an
integer in decimal, a null as `null` (`persistenceTable`).  `persistenceString`, `parseInt64` and
`persistenceTime` read the texts again; the lemmas say what they make of each kind of cell.
-/

namespace UnifiedInfraTopology

open Lib

/-- `json.Marshal` of a string. -/
def jsonText (s : String) : String := String.ofList (Json.printString s)

/-- `strconv.FormatInt(n, 10)`. -/
def decimalText (n : Int64) : String := String.ofList (Json.printInt n.toInt)

/-- The text of a cell; other types are refused. -/
def persistenceCell : GraphValue → Option String
  | .text s => some (jsonText s)
  | .integer n => some (decimalText n)
  | .null => some "null"
  | .instant _ => none

/-- `persistenceTable`, without the row of empty headers that it starts with. -/
def persistenceTable (rows : List (List GraphValue)) : Option (List (List String)) :=
  rows.mapM fun row => row.mapM persistenceCell

/-- `persistenceString`: a JSON string or null is decoded, any other text is kept. -/
def persistenceString (value : String) : String :=
  match Json.parse value.toList with
  | some (.string s) => s
  | some .null => ""
  | _ => value

/-- `persistenceTime`. -/
def persistenceTime (value : String) : Option Time :=
  let text := (persistenceString value).toList
  (parseLayout .letter parseLooseZone text).or
    ((parseLayout .letter noZone text).or (parseLayout .spaces noZone text))

/-! ## Reading the cells -/

@[simp] theorem persistenceString_jsonText (s : String) : persistenceString (jsonText s) = s := by
  have read : Json.parse (Json.printString s) = some (.string s) := by
    have value := @Json.parseValue_scalar (Json.printString s).length (.str s) [] nofun
    rw [List.append_nil, Json.Scalar.print] at value
    rw [Json.parse, value]
    rfl
  rw [persistenceString, jsonText, String.toList_ofList, read]

@[simp] theorem persistenceString_null : persistenceString "null" = "" := by decide

/-- The time of a string is the time of its text. -/
def textTime (s : String) : Option Time := persistenceTime (jsonText s)

@[simp] theorem parseInt64_null : parseInt64 "null" = none := by decide

theorem int64_bounds (n : Int64) :
    -9223372036854775808 ≤ n.toInt ∧ n.toInt ≤ 9223372036854775807 :=
  ⟨Int64.le_toInt n, Int64.toInt_le n⟩

@[simp] theorem parseInt64_decimalText (n : Int64) : parseInt64 (decimalText n) = some n := by
  have bounds := int64_bounds n
  have digits := decimal_ne_nil n.toInt.natAbs
  have read := number?_decimal n.toInt.natAbs
  rw [parseInt64, decimalText, String.toList_ofList, Json.printInt]
  by_cases negative : n.toInt < 0
  · have value : -(n.toInt.natAbs : Int) = n.toInt := by omega
    simp only [negative, ↓reduceIte, digits, read, Option.bind_some, value, bounds, and_self,
      Int64.ofInt_toInt]
  · have value : (n.toInt.natAbs : Int) = n.toInt := by omega
    have unsigned {sign : Char} {cs : List Char} (shape : decimal n.toInt.natAbs = sign :: cs) :
        (digitValue? sign).isSome = true :=
      isDigit_of_mem_decimal (n := n.toInt.natAbs) (by rw [shape]; exact List.mem_cons_self)
    rw [if_neg negative]
    split
    rename_i found
    split at found
    · rename_i shape
      cases unsigned shape
    · rename_i shape
      cases unsigned shape
    · cases found
      simp only [Bool.false_eq_true, ↓reduceIte, digits, read, Option.bind_some, value, bounds,
        and_self, Int64.ofInt_toInt]

theorem decimalText_injective : Function.Injective decimalText := by
  intro n m same
  have read := parseInt64_decimalText n
  rw [same, parseInt64_decimalText] at read
  exact (Option.some.inj read).symm

/-- A table of rows of one shape. -/
theorem persistenceTable_map {α : Type} {cells : α → List GraphValue} {texts : α → List String}
    (each : ∀ a, (cells a).mapM persistenceCell = some (texts a)) (rows : List α) :
    persistenceTable (rows.map cells) = some (rows.map texts) := by
  induction rows with
  | nil => rfl
  | cons a rows ih =>
      rw [persistenceTable] at ih ⊢
      rw [List.map_cons, List.mapM_cons, each a, ih]
      rfl

end UnifiedInfraTopology
