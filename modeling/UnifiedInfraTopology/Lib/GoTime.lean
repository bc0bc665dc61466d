import UnifiedInfraTopology.Lib.Text
import Mathlib.Tactic.Ring

/-!
# Instants and their RFC 3339 text

An instant is a number of nanoseconds since 0001-01-01T00:00:00Z, which is the zero instant of the
Go runtime.  Locations are not part of it: converting to UTC does not change the instant.
`truncateMicro` rounds down to a microsecond, counted from the zero instant.

`formatRFC3339` is the text in UTC with the fraction cut after its last non-zero digit, and is
refused outside the years 0 to 9999; `formatRFC3339In` is the text at an offset from UTC, and
`parseRFC3339` reads them back.  `parse_formatIn` says which instant a text denotes: the seconds of
the offset are lost (`parse_format` for UTC, where there are none).
-/

namespace UnifiedInfraTopology.Lib

/-- Nanoseconds since the zero instant. -/
abbrev Time : Type := Int

namespace Time

/-- Go's `Time.IsZero`. -/
def isZero (t : Time) : Bool := decide (t = 0)

def microsecond : Int := 1000

def second : Int := 1000000000

def minute : Int := 60 * second

/-- `UTC().Truncate(time.Microsecond)`. -/
def truncateMicro (t : Time) : Time := t - t % microsecond

@[simp] theorem truncateMicro_truncateMicro (t : Time) :
    t.truncateMicro.truncateMicro = t.truncateMicro := by
  unfold truncateMicro microsecond Time at *
  omega

theorem truncateMicro_mono {s t : Time} (le : s ≤ t) : s.truncateMicro ≤ t.truncateMicro := by
  unfold truncateMicro microsecond Time at *
  omega

end Time

/-! ## Dates of the proleptic Gregorian calendar -/

structure CivilDate where
  year : Int
  month : Nat
  day : Int
deriving DecidableEq

def leapYear (year : Int) : Bool :=
  year % 4 == 0 && (year % 100 != 0 || year % 400 == 0)

/-- Days from the zero instant to the first of January of a year. -/
def daysBeforeYear (year : Int) : Int :=
  365 * (year - 1) + (year - 1) / 4 - (year - 1) / 100 + (year - 1) / 400

/-- The lengths of January to November. -/
def monthLengths (leap : Bool) : List Int :=
  [31, if leap then 29 else 28, 31, 30, 31, 30, 31, 31, 30, 31, 30]

/-- Walk the month lengths: the month a day of the year falls in, and the day within it. -/
def splitMonth : List Int → Nat → Int → Nat × Int
  | [], month, day => (month, day)
  | length :: rest, month, day =>
      if day < length then (month, day) else splitMonth rest (month + 1) (day - length)

/-- The year a day falls in, by cutting off 400, 100, 4 and 1 year cycles. -/
def yearOfDays (days : Int) : Int :=
  let n400 := days / 146097
  let r400 := days % 146097
  let n100 := min (r400 / 36524) 3
  let r100 := r400 - n100 * 36524
  let n4 := r100 / 1461
  let r4 := r100 % 1461
  let n1 := min (r4 / 365) 3
  400 * n400 + 100 * n100 + 4 * n4 + n1 + 1

/-- The date of a day, counted from the zero instant. -/
def civilOfDays (days : Int) : CivilDate :=
  let year := yearOfDays days
  let split := splitMonth (monthLengths (leapYear year)) 1 (days - daysBeforeYear year)
  ⟨year, split.1, split.2 + 1⟩

/-- The day of a date. -/
def daysOfCivil (date : CivilDate) : Int :=
  daysBeforeYear date.year +
    ((monthLengths (leapYear date.year)).take (date.month - 1)).sum + (date.day - 1)

theorem daysBeforeYear_yearOfDays (days : Int) :
    daysBeforeYear (yearOfDays days) ≤ days ∧ days - daysBeforeYear (yearOfDays days) < 366 := by
  unfold daysBeforeYear yearOfDays
  simp only
  generalize cycle : days / 146097 = a
  have rest : days % 146097 = days - 146097 * a := by omega
  rw [rest]
  generalize century : min ((days - 146097 * a) / 36524) 3 = b
  have hb : 0 ≤ b ∧ b ≤ 3 ∧ b * 36524 ≤ days - 146097 * a ∧
      days - 146097 * a - b * 36524 ≤ 36524 := by omega
  generalize quad : (days - 146097 * a - b * 36524) / 1461 = c
  have hc : 0 ≤ c ∧ c ≤ 24 ∧ 1461 * c ≤ days - 146097 * a - b * 36524 := by omega
  have rest : (days - 146097 * a - b * 36524) % 1461 =
      days - 146097 * a - b * 36524 - 1461 * c := by omega
  rw [rest]
  generalize single : min ((days - 146097 * a - b * 36524 - 1461 * c) / 365) 3 = d
  have hd : 0 ≤ d ∧ d ≤ 3 ∧ 365 * d ≤ days - 146097 * a - b * 36524 - 1461 * c ∧
      days - 146097 * a - b * 36524 - 1461 * c - 365 * d < 366 := by omega
  have before : 400 * a + 100 * b + 4 * c + d + 1 - 1 = 400 * a + 100 * b + 4 * c + d := by omega
  have q4 : (400 * a + 100 * b + 4 * c + d) / 4 = 100 * a + 25 * b + c := by omega
  have q100 : (400 * a + 100 * b + 4 * c + d) / 100 = 4 * a + b := by omega
  have q400 : (400 * a + 100 * b + 4 * c + d) / 400 = a := by omega
  rw [before, q4, q100, q400]
  omega

theorem splitMonth_spec (lengths : List Int) (month : Nat) (day : Int) (start : 0 ≤ day) :
    ∃ skipped, skipped ≤ lengths.length ∧
      (splitMonth lengths month day).1 = month + skipped ∧
      (lengths.take skipped).sum + (splitMonth lengths month day).2 = day ∧
      0 ≤ (splitMonth lengths month day).2 := by
  induction lengths generalizing month day with
  | nil => exact ⟨0, le_rfl, rfl, by simp [splitMonth], by simpa [splitMonth] using start⟩
  | cons length rest ih =>
      simp only [splitMonth]
      split
      · exact ⟨0, Nat.zero_le _, rfl, by simp, start⟩
      · rename_i past
        obtain ⟨skipped, bound, first, total, nonneg⟩ :=
          ih (month + 1) (day - length) (by omega)
        refine ⟨skipped + 1, by simpa using bound, by omega, ?_, nonneg⟩
        rw [List.take_succ_cons, List.sum_cons]
        omega

theorem splitMonth_day_lt (lengths : List Int) (month : Nat) (day bound : Int)
    (short : ∀ length ∈ lengths, length ≤ bound) (fits : day < lengths.sum + bound) :
    (splitMonth lengths month day).2 < bound := by
  induction lengths generalizing month day with
  | nil => simpa [splitMonth] using fits
  | cons length rest ih =>
      simp only [splitMonth]
      split
      · rename_i inside
        have := short length (by simp)
        dsimp only
        omega
      · refine ih (month + 1) (day - length) (fun l hl => short l (by simp [hl])) ?_
        rw [List.sum_cons] at fits
        omega

theorem month_civilOfDays (days : Int) :
    1 ≤ (civilOfDays days).month ∧ (civilOfDays days).month ≤ 12 := by
  obtain ⟨skipped, bound, first, -, -⟩ := splitMonth_spec
    (monthLengths (leapYear (yearOfDays days))) 1 (days - daysBeforeYear (yearOfDays days))
    (by have := (daysBeforeYear_yearOfDays days).1; omega)
  simp only [monthLengths, List.length_cons, List.length_nil] at bound
  simp only [civilOfDays, first]
  omega

theorem day_civilOfDays (days : Int) :
    1 ≤ (civilOfDays days).day ∧ (civilOfDays days).day ≤ 32 := by
  obtain ⟨lower, upper⟩ := daysBeforeYear_yearOfDays days
  have range : 0 ≤ days - daysBeforeYear (yearOfDays days) := by omega
  obtain ⟨-, -, -, -, nonneg⟩ := splitMonth_spec
    (monthLengths (leapYear (yearOfDays days))) 1 _ range
  have short := splitMonth_day_lt (monthLengths (leapYear (yearOfDays days))) 1
    (days - daysBeforeYear (yearOfDays days)) 32
    (by intro l hl; simp only [monthLengths, List.mem_cons, List.not_mem_nil, or_false] at hl
        split at hl <;> omega)
    (by simp only [monthLengths, List.sum_cons, List.sum_nil]; split <;> omega)
  simp only [civilOfDays]
  omega

theorem daysOfCivil_civilOfDays (days : Int) : daysOfCivil (civilOfDays days) = days := by
  obtain ⟨skipped, -, first, total, -⟩ := splitMonth_spec
    (monthLengths (leapYear (yearOfDays days))) 1 (days - daysBeforeYear (yearOfDays days))
    (by have := (daysBeforeYear_yearOfDays days).1; omega)
  simp only [daysOfCivil, civilOfDays, first, Nat.add_sub_cancel_left]
  omega

/-! ## Fields of a fixed width -/

/-- Read a decimal field of a fixed width whose value lies between two bounds. -/
def field (width low high : Nat) (cs : List Char) : Option (Nat × List Char) :=
  if (cs.take width).length = width then
    (number? (cs.take width)).bind fun n =>
      if low ≤ n ∧ n ≤ high then some (n, cs.drop width) else none
  else none

/-- Read one given character. -/
def expect (c : Char) : List Char → Option (List Char)
  | [] => none
  | d :: cs => if d = c then some cs else none

theorem field_padded {width low high n : Nat} (rest : List Char) (fits : n < 10 ^ width)
    (above : low ≤ n) (below : n ≤ high) :
    field width low high (padded width n ++ rest) = some (n, rest) := by
  have front : (padded width n ++ rest).take width = padded width n := by
    rw [List.take_append_of_le_length (by simp), List.take_of_length_le (by simp)]
  have back : (padded width n ++ rest).drop width = rest := by
    rw [List.drop_append_of_le_length (by simp), List.drop_of_length_le (by simp), List.nil_append]
  simp only [field, front, back, length_padded, ↓reduceIte, number?_padded fits, Option.bind_some,
    above, below, and_self]

@[simp] theorem expect_cons (c : Char) (cs : List Char) : expect c (c :: cs) = some cs := by
  simp [expect]

/-! ## The fraction of a second -/

/-- The fraction of a second in nanoseconds, without its trailing zeros. -/
def formatFraction (nanos : Nat) : List Char :=
  if nanos = 0 then [] else '.' :: (padded 9 nanos).rdropWhile (· == '0')

/-- Read an optional fraction; digits past the ninth are dropped. -/
def parseFraction : List Char → Option (Nat × List Char)
  | '.' :: cs =>
      let (digits, rest) := splitDigits cs
      if digits = [] then none
      else
        let kept := digits.take 9
        (number? (kept ++ List.replicate (9 - kept.length) '0')).map fun n => (n, rest)
  | cs => some (0, cs)

theorem rdropWhile_zero_append (cs : List Char) :
    cs.rdropWhile (· == '0') ++
      List.replicate (cs.length - (cs.rdropWhile (· == '0')).length) '0' = cs := by
  have split : cs.rdropWhile (· == '0') ++ cs.rtakeWhile (· == '0') = cs := by
    simp only [List.rdropWhile, List.rtakeWhile, ← List.reverse_append,
      List.takeWhile_append_dropWhile, List.reverse_reverse]
  have zeros : cs.rtakeWhile (· == '0') =
      List.replicate (cs.rtakeWhile (· == '0')).length '0' := by
    refine List.eq_replicate_of_mem fun c member => ?_
    have := List.mem_rtakeWhile_imp member
    simpa using this
  have length := congrArg List.length split
  rw [List.length_append] at length
  have count : cs.length - (cs.rdropWhile (· == '0')).length =
      (cs.rtakeWhile (· == '0')).length := by omega
  rw [count, ← zeros, split]

/-- A text that does not go on with a digit or a dot ends a fraction. -/
theorem parseFraction_format {nanos : Nat} (small : nanos < 1000000000) {stop : Char}
    (plain : stop ≠ '.') (ends : (digitValue? stop).isSome = false) (rest : List Char) :
    parseFraction (formatFraction nanos ++ stop :: rest) = some (nanos, stop :: rest) := by
  unfold formatFraction
  split
  · rename_i zero
    rw [List.nil_append, zero, parseFraction]
    rintro cs same
    exact plain (List.cons.inj same).1
  · rename_i nonzero
    have prefix9 : (padded 9 nanos).rdropWhile (· == '0') <+: padded 9 nanos :=
      List.rdropWhile_prefix _ _
    have allDigits : ∀ c ∈ (padded 9 nanos).rdropWhile (· == '0'), (digitValue? c).isSome :=
      fun c member => isDigit_of_mem_padded (prefix9.subset member)
    have short : ((padded 9 nanos).rdropWhile (· == '0')).length ≤ 9 := by
      simpa using prefix9.length_le
    have value : number? (padded 9 nanos) = some nanos :=
      number?_padded (by simpa using small)
    have whole := rdropWhile_zero_append (padded 9 nanos)
    rw [length_padded] at whole
    have nonempty : (padded 9 nanos).rdropWhile (· == '0') ≠ [] := by
      intro empty
      rw [empty, List.nil_append] at whole
      rw [← whole] at value
      have : number? (List.replicate (9 - ([] : List Char).length) '0') = some 0 := by decide
      rw [this] at value
      exact nonzero (Option.some.inj value).symm
    simp only [List.cons_append, parseFraction]
    rw [splitDigits_append allDigits (by simpa using ends)]
    simp only [nonempty, ↓reduceIte, List.take_of_length_le short, whole, value, Option.map_some]

/-! ## RFC 3339 -/

/-- The text of an instant in UTC, for the years 0 to 9999. -/
def formatRFC3339 (t : Time) : Option (List Char) :=
  let days := t / 86400000000000
  let nanos := (t % 86400000000000).toNat
  let seconds := nanos / 1000000000
  let date := civilOfDays days
  if 0 ≤ date.year ∧ date.year ≤ 9999 then
    some (padded 4 date.year.toNat ++ '-' :: padded 2 date.month ++ '-' :: padded 2 date.day.toNat ++
      'T' :: padded 2 (seconds / 3600) ++ ':' :: padded 2 (seconds / 60 % 60) ++
      ':' :: padded 2 (seconds % 60) ++ formatFraction (nanos % 1000000000) ++ ['Z'])
  else none

/-- An offset from UTC, in seconds, as `Z` or as hours and minutes. -/
def formatZone (offset : Int) : List Char :=
  if offset = 0 then ['Z']
  else
    let zone := offset.tdiv 60
    (if zone < 0 then '-' else '+') :: padded 2 (zone.natAbs / 60) ++
      ':' :: padded 2 (zone.natAbs % 60)

/-- The date and the time of day at an offset are those of this instant in UTC. -/
def Time.shifted (t : Time) (offset : Int) : Time := t + offset * 1000000000

/-- The year at an offset. -/
def Time.yearIn (t : Time) (offset : Int) : Int := yearOfDays (t.shifted offset / 86400000000000)

/-- The text of an instant at an offset from UTC: years 0 to 9999, less than 24 hours. -/
def formatRFC3339In (offset : Int) (t : Time) : Option (List Char) :=
  let days := t.shifted offset / 86400000000000
  let nanos := (t.shifted offset % 86400000000000).toNat
  let seconds := nanos / 1000000000
  let date := civilOfDays days
  if (0 ≤ date.year ∧ date.year ≤ 9999) ∧ (offset.tdiv 60).natAbs / 60 < 24 then
    some (padded 4 date.year.toNat ++ '-' :: padded 2 date.month ++ '-' :: padded 2 date.day.toNat ++
      'T' :: padded 2 (seconds / 3600) ++ ':' :: padded 2 (seconds / 60 % 60) ++
      ':' :: padded 2 (seconds % 60) ++ formatFraction (nanos % 1000000000) ++ formatZone offset)
  else none

/-- The offset from UTC at the end of a text, in seconds. -/
def parseZone : List Char → Option Int
  | ['Z'] => some 0
  | sign :: cs => do
      let (hours, cs) ← field 2 0 23 cs
      let cs ← expect ':' cs
      let (minutes, cs) ← field 2 0 59 cs
      let offset : Int := hours * 3600 + minutes * 60
      if cs ≠ [] then none
      else if sign = '+' then some offset
      else if sign = '-' then some (-offset)
      else none
  | [] => none

/-- Read the text of an instant. -/
def parseRFC3339 (cs : List Char) : Option Time := do
  let (year, cs) ← field 4 0 9999 cs
  let cs ← expect '-' cs
  let (month, cs) ← field 2 1 12 cs
  let cs ← expect '-' cs
  let (day, cs) ← field 2 1 99 cs
  let cs ← expect 'T' cs
  let (hour, cs) ← field 2 0 23 cs
  let cs ← expect ':' cs
  let (minute, cs) ← field 2 0 59 cs
  let cs ← expect ':' cs
  let (second, cs) ← field 2 0 59 cs
  let (nanos, cs) ← parseFraction cs
  let offset ← parseZone cs
  let date : CivilDate := ⟨year, month, day⟩
  -- A day past the end of its month is refused: it is not the date of any day.
  if civilOfDays (daysOfCivil date) = date then
    some ((daysOfCivil date * 86400 + hour * 3600 + minute * 60 + second - offset) * 1000000000 +
      nanos)
  else none

/-! ## `time.Parse` -/

/-- An hour of one or two digits. -/
def parseHour (cs : List Char) : Option (Nat × List Char) :=
  if ((cs[1]?).bind digitValue?).isSome then field 2 0 23 cs else field 1 0 23 cs

/-- An optional fraction after a dot or a comma. -/
def parseLooseFraction : List Char → Option (Nat × List Char)
  | [] => some (0, [])
  | c :: cs => if c = ',' then parseFraction ('.' :: cs) else parseFraction (c :: cs)

/-- The offset at the end of a text; 24 hours and 60 minutes are read, too. -/
def parseLooseZone : List Char → Option Int
  | ['Z'] => some 0
  | sign :: cs => do
      let (hours, cs) ← field 2 0 24 cs
      let cs ← expect ':' cs
      let (minutes, cs) ← field 2 0 60 cs
      let offset : Int := hours * 3600 + minutes * 60
      if cs ≠ [] then none
      else if sign = '+' then some offset
      else if sign = '-' then some (-offset)
      else none
  | [] => none

/-- What a layout has between the date and the time of day. -/
inductive Between where
  | letter
  | spaces

def Between.skip : Between → List Char → Option (List Char)
  | letter, cs => expect 'T' cs
  | spaces, cs => (expect ' ' cs).map (·.dropWhile (· == ' '))

/-- `time.Parse` with a date, a time of day with a fraction, and what a layout has at the end. -/
def parseLayout (between : Between) (zone : List Char → Option Int) (cs : List Char) :
    Option Time := do
  let (year, cs) ← field 4 0 9999 cs
  let cs ← expect '-' cs
  let (month, cs) ← field 2 1 12 cs
  let cs ← expect '-' cs
  let (day, cs) ← field 2 1 99 cs
  let cs ← between.skip cs
  let (hour, cs) ← parseHour cs
  let cs ← expect ':' cs
  let (minute, cs) ← field 2 0 59 cs
  let cs ← expect ':' cs
  let (second, cs) ← field 2 0 59 cs
  let (nanos, cs) ← parseLooseFraction cs
  let offset ← zone cs
  let date : CivilDate := ⟨year, month, day⟩
  if civilOfDays (daysOfCivil date) = date then
    some ((daysOfCivil date * 86400 + hour * 3600 + minute * 60 + second - offset) * 1000000000 +
      nanos)
  else none

/-- A layout without an offset: the text has ended, and the time is in UTC. -/
def noZone (cs : List Char) : Option Int := if cs = [] then some 0 else none

/-- The text of an offset denotes its whole minutes. -/
theorem parseZone_format {offset : Int} (short : (offset.tdiv 60).natAbs / 60 < 24) :
    parseZone (formatZone offset) = some (offset.tdiv 60 * 60) := by
  unfold formatZone
  split
  · rename_i utc
    rw [utc]
    rfl
  · dsimp only
    generalize offset.tdiv 60 = zone at *
    have minutes (sign : Char) (other : sign ≠ 'Z' := by decide) :
        parseZone (sign :: padded 2 (zone.natAbs / 60) ++ ':' :: padded 2 (zone.natAbs % 60)) =
          if sign = '+' then some (zone.natAbs * 60 : Int)
          else if sign = '-' then some (-(zone.natAbs * 60 : Int)) else none := by
      have whole : (zone.natAbs / 60 : Nat) * 3600 + (zone.natAbs % 60 : Nat) * 60 =
          (zone.natAbs : Int) * 60 := by omega
      rw [List.cons_append, parseZone]
      · rw [field_padded _ (by omega) (by omega) (by omega)]
        simp only [Option.bind_eq_bind, Option.bind_some, expect_cons]
        rw [← List.append_nil (padded 2 (zone.natAbs % 60)),
          field_padded _ (by omega) (by omega) (by omega)]
        simp only [Option.bind_some, ne_eq, not_true_eq_false, ↓reduceIte, whole]
      · exact fun same => (other same).elim
    by_cases negative : zone < 0
    · rw [if_pos negative, minutes '-']
      refine congrArg some ?_
      omega
    · rw [if_neg negative, minutes '+']
      refine congrArg some ?_
      omega

/-- The first character of an offset is not part of a fraction. -/
theorem formatZone_cons (offset : Int) : ∃ stop rest, formatZone offset = stop :: rest ∧
    stop ≠ '.' ∧ (digitValue? stop).isSome = false := by
  unfold formatZone
  split
  · exact ⟨'Z', [], rfl, by decide, by decide⟩
  · dsimp only
    split
    · exact ⟨'-', _, rfl, by decide, by decide⟩
    · exact ⟨'+', _, rfl, by decide, by decide⟩

/-- The text of an instant denotes it, but for the seconds of the offset. -/
theorem parse_formatIn {offset : Int} {t : Time} {text : List Char}
    (printed : formatRFC3339In offset t = some text) :
    parseRFC3339 text = some (t + offset.tmod 60 * 1000000000) := by
  unfold formatRFC3339In at printed
  simp only at printed
  split at printed
  · rename_i range
    obtain ⟨⟨low, high⟩, short⟩ := range
    cases printed
    have local_ : t + offset.tmod 60 * 1000000000 =
        t.shifted offset - offset.tdiv 60 * 60 * 1000000000 := by
      have split_ := Int.tmod_add_mul_tdiv offset 60
      unfold Time.shifted Time at *
      omega
    have zone := parseZone_format short
    obtain ⟨stop, rest, spelled, plain, ends⟩ := formatZone_cons offset
    rw [local_]
    rw [spelled] at zone ⊢
    generalize t.shifted offset = t at *
    generalize offset.tdiv 60 * 60 = zone_ at *
    obtain ⟨days, hdays⟩ : ∃ days : Int, days = t / 86400000000000 := ⟨_, rfl⟩
    obtain ⟨date, hdate⟩ : ∃ date, date = civilOfDays days := ⟨_, rfl⟩
    rw [← hdays, ← hdate] at low high ⊢
    obtain ⟨monthLow, monthHigh⟩ := month_civilOfDays days
    obtain ⟨dayLow, dayHigh⟩ := day_civilOfDays days
    rw [← hdate] at monthLow monthHigh dayLow dayHigh
    have year : ((date.year.toNat : Nat) : Int) = date.year := Int.toNat_of_nonneg low
    have day : ((date.day.toNat : Nat) : Int) = date.day := Int.toNat_of_nonneg (by omega)
    have rebuilt : (⟨(date.year.toNat : Nat), date.month, (date.day.toNat : Nat)⟩ : CivilDate) =
        date := by rw [year, day]
    have same : daysOfCivil date = days := by rw [hdate, daysOfCivil_civilOfDays]
    have bounded : t % 86400000000000 < 86400000000000 := Int.emod_lt_of_pos _ (by decide)
    have nonneg : 0 ≤ t % 86400000000000 := Int.emod_nonneg _ (by decide)
    generalize nanos : (t % 86400000000000).toNat = n at *
    have nanosEq : (n : Int) = t % 86400000000000 := by rw [← nanos, Int.toNat_of_nonneg nonneg]
    have small : n < 86400000000000 := by omega
    simp only [List.append_assoc, List.cons_append, parseRFC3339]
    rw [field_padded _ (by omega) (by omega) (by omega)]
    simp only [Option.bind_eq_bind, Option.bind_some, expect_cons]
    rw [field_padded _ (by omega) (by omega) (by omega)]
    simp only [Option.bind_some, expect_cons]
    rw [field_padded _ (by omega) (by omega) (by omega)]
    simp only [Option.bind_some, expect_cons]
    rw [field_padded _ (by omega) (by omega) (by omega)]
    simp only [Option.bind_some, expect_cons]
    rw [field_padded _ (by omega) (by omega) (by omega)]
    simp only [Option.bind_some, expect_cons]
    rw [field_padded _ (by omega) (by omega) (by omega)]
    simp only [Option.bind_some]
    rw [parseFraction_format (by omega) plain ends]
    simp only [Option.bind_some, zone, rebuilt, same, ← hdate, ↓reduceIte, Option.some.injEq]
    unfold Time at *
    omega
  · cases printed

/-- The times that have a text at an offset. -/
theorem isSome_formatRFC3339In {offset : Int} {t : Time} (low : 0 ≤ t.yearIn offset)
    (high : t.yearIn offset ≤ 9999) (short : -86400 < offset ∧ offset < 86400) :
    (formatRFC3339In offset t).isSome = true := by
  have hours : (offset.tdiv 60).natAbs / 60 < 24 := by
    rw [Int.natAbs_tdiv]
    change offset.natAbs / 60 / 60 < 24
    omega
  have range : (0 ≤ (civilOfDays (t.shifted offset / 86400000000000)).year ∧
      (civilOfDays (t.shifted offset / 86400000000000)).year ≤ 9999) := ⟨low, high⟩
  simp only [formatRFC3339In, range, hours, and_self, ↓reduceIte, Option.isSome_some]

/-- UTC is the offset zero. -/
theorem formatRFC3339In_zero (t : Time) : formatRFC3339In 0 t = formatRFC3339 t := by
  have same : t.shifted 0 = t := by
    unfold Time.shifted Time at *
    omega
  have short : (Int.tdiv 0 60).natAbs / 60 < 24 := by decide
  simp only [formatRFC3339In, formatRFC3339, same, short, and_true, formatZone, ↓reduceIte]

/-- The text of an instant in UTC denotes that instant. -/
theorem parse_format {t : Time} {text : List Char} (printed : formatRFC3339 t = some text) :
    parseRFC3339 text = some t := by
  rw [← formatRFC3339In_zero] at printed
  simpa using parse_formatIn printed

end UnifiedInfraTopology.Lib
