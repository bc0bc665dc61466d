import UnifiedInfraTopology.Lib.Text

/-!
# Internet addresses as text

Go's `net/netip`: `parseAddr` reads an address of either version, with the zone of a version 6 address,
`Addr.print` writes it in its canonical form, `parseAddrPort` reads an address with a port.

* `parseAddr_print`: what was read is read again from its canonical form.
-/

namespace UnifiedInfraTopology.Lib.Netip

/-- An address.  The groups of version 6 are read left to right; no zone is an empty one. -/
inductive Addr where
  | v4 (a b c d : UInt8)
  | v6 (groups : { groups : List UInt16 // groups.length = 8 }) (zone : List Char)
deriving DecidableEq

/-! ## Version 4 -/

/-- A decimal number below 256 without leading zeros. -/
def octet? (cs : List Char) : Option UInt8 :=
  if cs = [] ∨ (1 < cs.length ∧ cs.head? = some '0') then none
  else (number? cs).bind fun n => if n ≤ 255 then some (UInt8.ofNat n) else none

/-- `parseIPv4Fields`. -/
def parseIPv4 (s : List Char) : Option (UInt8 × UInt8 × UInt8 × UInt8) :=
  match (s.splitOn '.').mapM octet? with
  | some [a, b, c, d] => some (a, b, c, d)
  | _ => none

/-- `appendTo4`. -/
def print4 (a b c d : UInt8) : List Char :=
  List.intercalate ['.'] ([a, b, c, d].map fun n => decimal n.toNat)

/-! ## Version 6 -/

def isHex (c : Char) : Bool := (hexValue? c).isSome

/-- What follows a group: nothing, a colon and more, or the ellipsis. -/
inductive Separator where
  | stop
  | colon (tail : List Char)
  | ellipsis (tail : List Char)

def separator : List Char → Option Separator
  | [] => some .stop
  | [':'] => none
  | ':' :: ':' :: tail => some (.ellipsis tail)
  | ':' :: tail => some (.colon tail)
  | _ => none

/-- The loop of `parseIPv6`, with room for `n` more groups: the groups before the end and the place of
the ellipsis.  The last two groups may be written as a version 4 address. -/
def parseGroups : Nat → List UInt16 → Option Nat → List Char → Option (List UInt16 × Option Nat)
  | 0, groups, ellipsis, s => if s = [] then some (groups, ellipsis) else none
  | n + 1, groups, ellipsis, s =>
      let digits := s.takeWhile isHex
      let rest := s.dropWhile isHex
      if digits = [] ∨ 4 < digits.length then none
      else if rest.head? = some '.' then
        if ellipsis = none ∧ groups.length ≠ 6 then none
        else if n = 0 then none
        else (parseIPv4 s).map fun (a, b, c, d) =>
          (groups ++ [UInt16.ofNat (a.toNat * 256 + b.toNat),
            UInt16.ofNat (c.toNat * 256 + d.toNat)], ellipsis)
      else
        (hexNumber? digits).bind fun group =>
          let groups := groups ++ [UInt16.ofNat group]
          match separator rest with
          | none => none
          | some .stop => some (groups, ellipsis)
          | some (.colon tail) => parseGroups n groups ellipsis tail
          | some (.ellipsis tail) =>
              if ellipsis.isSome then none
              else if tail = [] then some (groups, some groups.length)
              else parseGroups n groups (some groups.length) tail

/-- The ellipsis stands for the groups that are missing, at least one. -/
def expand (groups : List UInt16) : Option Nat → Option (List UInt16)
  | none => if groups.length < 8 then none else some groups
  | some place =>
      if groups.length < 8 then
        some (groups.take place ++ List.replicate (8 - groups.length) 0 ++ groups.drop place)
      else none

/-- The groups of an address without its zone. -/
def parseIPv6 (s : List Char) : Option (List UInt16) :=
  let read := match s with
    | [':', ':'] => some ([], some 0)
    | ':' :: ':' :: tail => parseGroups 8 [] (some 0) tail
    | _ => parseGroups 8 [] none s
  read.bind fun (groups, ellipsis) => expand groups ellipsis

/-- `ParseAddr`: the first of the characters `.`, `:` and `%` decides on the version. -/
def parseAddr (s : List Char) : Option Addr :=
  match s.find? fun c => c = '.' ∨ c = ':' ∨ c = '%' with
  | some '.' => (parseIPv4 s).map fun (a, b, c, d) => .v4 a b c d
  | some ':' =>
      let zone := (s.dropWhile (· ≠ '%')).drop 1
      if '%' ∈ s ∧ zone = [] then none
      else (parseIPv6 (s.takeWhile (· ≠ '%'))).bind fun groups =>
        if full : groups.length = 8 then some (.v6 ⟨groups, full⟩ zone) else none
  | _ => none

/-! ## The canonical form -/

/-- `appendHex`: a hexadecimal number without leading zeros. -/
def hexText (group : UInt16) : List Char :=
  let n := group.toNat
  (if 0x1000 ≤ n then [hexDigit (n / 4096)] else []) ++
    (if 0x100 ≤ n then [hexDigit (n / 256 % 16)] else []) ++
    (if 0x10 ≤ n then [hexDigit (n / 16 % 16)] else []) ++ [hexDigit (n % 16)]

/-- The number of zeros that a list starts with. -/
def zeros (groups : List UInt16) : Nat := (groups.takeWhile (· = 0)).length

/-- The first of the longest runs of at least two zeros: its place and its length. -/
def longestRun (groups : List UInt16) : Option (Nat × Nat) :=
  (List.range 8).foldl (fun best i =>
    if 2 ≤ zeros (groups.drop i) ∧ (best.elim 0 (·.2)) < zeros (groups.drop i) then
      some (i, zeros (groups.drop i))
    else best) none

def joinGroups (groups : List UInt16) : List Char := List.intercalate [':'] (groups.map hexText)

/-- `appendTo6`, without the zone. -/
def print6 (groups : List UInt16) : List Char :=
  match longestRun groups with
  | none => joinGroups groups
  | some (place, length) =>
      joinGroups (groups.take place) ++ [':', ':'] ++ joinGroups (groups.drop (place + length))

/-- `string4In6`: the text of an address of version 4 within version 6. -/
def print4In6 (x y : UInt16) : List Char :=
  "::ffff:".toList ++ print4 (UInt8.ofNat (x.toNat / 256)) (UInt8.ofNat (x.toNat % 256))
    (UInt8.ofNat (y.toNat / 256)) (UInt8.ofNat (y.toNat % 256))

def printGroups : List UInt16 → List Char
  | [0, 0, 0, 0, 0, 0xffff, x, y] => print4In6 x y
  | groups => print6 groups

/-- `String`. -/
def Addr.print : Addr → List Char
  | .v4 a b c d => print4 a b c d
  | .v6 groups zone =>
      if zone = [] then printGroups groups else printGroups groups ++ '%' :: zone

/-! ## Ports -/

/-- `strconv.ParseUint(s, 10, 16)`. -/
def parsePort (s : List Char) : Option Nat :=
  if s = [] then none else (number? s).bind fun n => if n ≤ 65535 then some n else none

/-- The text before the last colon and the text after it. -/
def splitLastColon (s : List Char) : Option (List Char × List Char) :=
  if ':' ∈ s then
    some ((s.rdropWhile (· ≠ ':')).dropLast, s.rtakeWhile (· ≠ ':'))
  else none

/-- `ParseAddrPort`: a version 6 address stands in brackets, a version 4 address does not. -/
def parseAddrPort (s : List Char) : Option (Addr × Nat) :=
  (splitLastColon s).bind fun (host, port) =>
    (parsePort port).bind fun port =>
      match host with
      | [] => none
      | '[' :: inner =>
          if inner.getLast? ≠ some ']' then none
          else match parseAddr inner.dropLast with
            | some (.v6 groups zone) => some (.v6 groups zone, port)
            | _ => none
      | host =>
          match parseAddr host with
          | some (.v4 a b c d) => some (.v4 a b c d, port)
          | _ => none

/-! ## Reading version 4 -/

theorem octet?_decimal (n : UInt8) : octet? (decimal n.toNat) = some n := by
  have proper : ¬(decimal n.toNat = [] ∨
      (1 < (decimal n.toNat).length ∧ (decimal n.toNat).head? = some '0')) := by
    rintro (empty | ⟨long, zero⟩)
    · exact decimal_ne_nil _ empty
    · rw [head?_decimal zero] at long
      exact absurd long (by decide)
  have small : n.toNat ≤ 255 := Nat.le_of_lt_succ n.toNat_lt
  rw [octet?, if_neg proper, number?_decimal, Option.bind_some, if_pos small, UInt8.ofNat_toNat]

theorem notMem_decimal {c : Char} (n : Nat) (other : digitValue? c = none) : c ∉ decimal n := by
  intro member
  have digit := isDigit_of_mem_decimal member
  rw [other] at digit
  cases digit

theorem parseIPv4_print4 (a b c d : UInt8) : parseIPv4 (print4 a b c d) = some (a, b, c, d) := by
  have parts : (print4 a b c d).splitOn '.' = [a, b, c, d].map fun n => decimal n.toNat := by
    refine List.splitOn_intercalate '.' (fun l member => ?_) (List.cons_ne_nil _ _)
    obtain ⟨n, -, rfl⟩ := List.mem_map.mp member
    exact notMem_decimal _ (by decide)
  rw [parseIPv4, parts]
  simp only [List.map_cons, List.map_nil, List.mapM_cons, List.mapM_nil, octet?_decimal,
    Option.bind_eq_bind, Option.bind_some, Option.pure_def]

/-- A version 4 text starts with a number and a dot. -/
theorem print4_eq (a b c d : UInt8) :
    ∃ rest, print4 a b c d = decimal a.toNat ++ '.' :: rest := ⟨_, rfl⟩

theorem mem_print4 {a b c d : UInt8} {ch : Char} (member : ch ∈ print4 a b c d) :
    ch = '.' ∨ (digitValue? ch).isSome = true := by
  have shape : print4 a b c d = decimal a.toNat ++ '.' :: (decimal b.toNat ++ '.' ::
      (decimal c.toNat ++ '.' :: decimal d.toNat)) := by
    simp [print4, List.intercalate_cons_cons, List.intercalate_singleton]
  rw [shape] at member
  simp only [List.mem_append, List.mem_cons] at member
  rcases member with digit | same | digit | same | digit | same | digit
  · exact Or.inr (isDigit_of_mem_decimal digit)
  · exact Or.inl same
  · exact Or.inr (isDigit_of_mem_decimal digit)
  · exact Or.inl same
  · exact Or.inr (isDigit_of_mem_decimal digit)
  · exact Or.inl same
  · exact Or.inr (isDigit_of_mem_decimal digit)

/-! ## Reading version 6 -/

/-- A group as it is written. -/
structure Written (group : UInt16) (text : List Char) : Prop where
  hex : ∀ c ∈ text, isHex c = true
  filled : text ≠ []
  short : text.length ≤ 4
  value : hexNumber? text = some group.toNat

theorem isHex_hexDigit {d : Nat} (small : d < 16) : isHex (hexDigit d) = true := by
  rw [isHex, hexValue?_hexDigit small]
  rfl

theorem written_hexText (group : UInt16) : Written group (hexText group) := by
  have bound : group.toNat < 65536 := group.toNat_lt
  have digit (n : Nat) : isHex (hexDigit (n % 16)) = true := isHex_hexDigit (Nat.mod_lt n (by decide))
  have value (n : Nat) : hexValue? (hexDigit (n % 16)) = some (n % 16) :=
    hexValue?_hexDigit (Nat.mod_lt n (by decide))
  have top : hexValue? (hexDigit (group.toNat / 4096)) = some (group.toNat / 4096) :=
    hexValue?_hexDigit (by omega)
  have first : isHex (hexDigit (group.toNat / 4096)) = true := isHex_hexDigit (by omega)
  unfold hexText
  dsimp only
  constructor
  · intro c member
    split_ifs at member <;> simp at member <;> grind
  · simp
  · split_ifs <;> simp
  · split_ifs <;> simp [hexNumber?, hexFrom?, value, top] <;> omega

/-- The loop reads one group, and goes on behind it. -/
theorem parseGroups_group (n : Nat) (groups : List UInt16) (ellipsis : Option Nat) (group : UInt16)
    {rest : List Char} (stop : ∀ c ∈ rest.head?, isHex c = false ∧ c ≠ '.') :
    parseGroups (n + 1) groups ellipsis (hexText group ++ rest) =
      match separator rest with
      | none => none
      | some .stop => some (groups ++ [group], ellipsis)
      | some (.colon tail) => parseGroups n (groups ++ [group]) ellipsis tail
      | some (.ellipsis tail) =>
          if ellipsis.isSome then none
          else if tail = [] then some (groups ++ [group], some (groups ++ [group]).length)
          else parseGroups n (groups ++ [group]) (some (groups ++ [group]).length) tail := by
  obtain ⟨hex, filled, short, value⟩ := written_hexText group
  have digits : (hexText group ++ rest).takeWhile isHex = hexText group := by
    rw [List.takeWhile_append_of_pos hex]
    cases rest with
    | nil => simp
    | cons c rest => simp [(stop c rfl).1]
  have behind : (hexText group ++ rest).dropWhile isHex = rest := by
    rw [List.dropWhile_append_of_pos hex]
    cases rest with
    | nil => simp
    | cons c rest => simp [(stop c rfl).1]
  have proper : ¬(hexText group = [] ∨ 4 < (hexText group).length) :=
    not_or.mpr ⟨filled, not_lt.mpr short⟩
  have plain : rest.head? ≠ some '.' := fun dot => (stop '.' dot).2 rfl
  rw [parseGroups]
  simp only [digits, behind, value, if_neg proper, if_neg plain, Option.bind_some,
    UInt16.ofNat_toNat]

theorem stops_colon (tail : List Char) : ∀ c ∈ (':' :: tail).head?, isHex c = false ∧ c ≠ '.' := by
  simp [isHex, hexValue?]

/-- A colon and more groups. -/
theorem parseGroups_colon {n : Nat} {groups : List UInt16} {ellipsis : Option Nat} {group : UInt16}
    {c : Char} {tail : List Char} (other : c ≠ ':') :
    parseGroups (n + 1) groups ellipsis (hexText group ++ ':' :: c :: tail) =
      parseGroups n (groups ++ [group]) ellipsis (c :: tail) := by
  have more : separator (':' :: c :: tail) = some (.colon (c :: tail)) := by
    simp [separator, other]
  rw [parseGroups_group n groups ellipsis group (stops_colon _), more]

theorem joinGroups_cons_cons (g h : UInt16) (gs : List UInt16) :
    joinGroups (g :: h :: gs) = hexText g ++ ':' :: joinGroups (h :: gs) := by
  simp [joinGroups, List.intercalate_cons_cons]

theorem joinGroups_singleton (g : UInt16) : joinGroups [g] = hexText g := by
  simp [joinGroups, List.intercalate_singleton]

/-- Joined groups start with a hexadecimal digit. -/
theorem joinGroups_head {gs : List UInt16} (filled : gs ≠ []) :
    ∃ c cs, joinGroups gs = c :: cs ∧ isHex c = true := by
  cases gs with
  | nil => exact absurd rfl filled
  | cons g gs =>
      obtain ⟨hex, filled, -, -⟩ := written_hexText g
      obtain ⟨c, cs, shape⟩ := List.exists_cons_of_ne_nil filled
      have digit := hex c (shape ▸ List.mem_cons_self)
      cases gs with
      | nil => exact ⟨c, cs, by rw [joinGroups_singleton, shape], digit⟩
      | cons h gs => exact ⟨c, _, by rw [joinGroups_cons_cons, shape]; rfl, digit⟩

theorem colon_of_isHex {c : Char} (hex : isHex c = true) : c ≠ ':' := by
  rintro rfl
  cases hex

/-- All groups up to the end of the text. -/
theorem parseGroups_joined {n : Nat} {groups gs : List UInt16} {ellipsis : Option Nat}
    (filled : gs ≠ []) (room : gs.length ≤ n) :
    parseGroups n groups ellipsis (joinGroups gs) = some (groups ++ gs, ellipsis) := by
  induction gs generalizing n groups with
  | nil => exact absurd rfl filled
  | cons g gs ih =>
      obtain ⟨m, rfl⟩ : ∃ m, n = m + 1 := ⟨n - 1, by simp only [List.length_cons] at room; omega⟩
      cases gs with
      | nil =>
          have last := @parseGroups_group m groups ellipsis g [] nofun
          rw [List.append_nil] at last
          rw [joinGroups_singleton, last, separator]
      | cons h gs =>
          obtain ⟨c, cs, shape, hex⟩ := joinGroups_head (List.cons_ne_nil h gs)
          rw [joinGroups_cons_cons, shape, parseGroups_colon (colon_of_isHex hex), ← shape,
            ih (List.cons_ne_nil h gs) (by simp only [List.length_cons] at room ⊢; omega)]
          simp

/-- All groups up to the ellipsis. -/
theorem parseGroups_ellipsis {n : Nat} {groups gs : List UInt16} {tail : List Char}
    (filled : gs ≠ []) (room : gs.length ≤ n) :
    parseGroups n groups none (joinGroups gs ++ ':' :: ':' :: tail) =
      if tail = [] then some (groups ++ gs, some (groups ++ gs).length)
      else parseGroups (n - gs.length) (groups ++ gs) (some (groups ++ gs).length) tail := by
  induction gs generalizing n groups with
  | nil => exact absurd rfl filled
  | cons g gs ih =>
      obtain ⟨m, rfl⟩ : ∃ m, n = m + 1 := ⟨n - 1, by simp only [List.length_cons] at room; omega⟩
      cases gs with
      | nil =>
          rw [joinGroups_singleton, parseGroups_group m groups none g (stops_colon _), separator]
          rfl
      | cons h gs =>
          obtain ⟨c, cs, shape, hex⟩ := joinGroups_head (List.cons_ne_nil h gs)
          have next := @ih m (groups ++ [g]) (List.cons_ne_nil h gs)
            (by simp only [List.length_cons] at room ⊢; omega)
          rw [shape] at next
          rw [joinGroups_cons_cons, shape, List.append_assoc, List.cons_append, List.cons_append,
            parseGroups_colon (colon_of_isHex hex)]
          rw [List.cons_append] at next
          rw [next]
          simp [Nat.add_sub_add_right]

/-! ### The canonical text -/

theorem zeros_spec (groups : List UInt16) :
    groups = List.replicate (zeros groups) 0 ++ groups.drop (zeros groups) := by
  induction groups with
  | nil => rfl
  | cons g groups ih =>
      by_cases zero : g = 0
      · have more : zeros (g :: groups) = zeros groups + 1 := by simp [zeros, zero]
        rw [more, List.replicate_succ, List.drop_succ_cons, List.cons_append, ← ih, zero]
      · have none_ : zeros (g :: groups) = 0 := by simp [zeros, zero]
        rw [none_]
        rfl

/-- A run of zeros within a list. -/
structure Run (groups : List UInt16) (place length : Nat) : Prop where
  long : 2 ≤ length
  shape : groups =
    groups.take place ++ List.replicate length 0 ++ groups.drop (place + length)

theorem run_of_longestRun {groups : List UInt16} {place length : Nat}
    (found : longestRun groups = some (place, length)) : Run groups place length := by
  have step (indices : List Nat) (best : Option (Nat × Nat))
      (sound : ∀ run ∈ best, Run groups run.1 run.2) :
      ∀ run ∈ indices.foldl (fun best i =>
        if 2 ≤ zeros (groups.drop i) ∧ (best.elim 0 (·.2)) < zeros (groups.drop i) then
          some (i, zeros (groups.drop i))
        else best) best, Run groups run.1 run.2 := by
    induction indices generalizing best with
    | nil => exact sound
    | cons i indices ih =>
        refine ih _ fun run member => ?_
        dsimp only at member
        split at member
        · rename_i longer
          cases member
          refine ⟨longer.1, ?_⟩
          have zeros := zeros_spec (groups.drop i)
          rw [List.drop_drop] at zeros
          rw [List.append_assoc, ← zeros, List.take_append_drop]
        · exact sound run member
  exact step (List.range 8) none nofun (place, length) found

theorem parseIPv6_plain {s : List Char} {c : Char} {cs : List Char} (shape : s = c :: cs)
    (other : c ≠ ':') : parseIPv6 s = (parseGroups 8 [] none s).bind fun (groups, ellipsis) =>
      expand groups ellipsis := by
  subst shape
  unfold parseIPv6
  split
  · rename_i same
    cases same
    exact absurd rfl other
  · rename_i same
    cases same
    exact absurd rfl other
  · rfl

/-- What an ellipsis leaves out is put back. -/
theorem expand_run {groups : List UInt16} {place length : Nat} (run : Run groups place length)
    (full : groups.length = 8) : expand (groups.take place ++ groups.drop (place + length))
      (some (groups.take place).length) = some groups := by
  have size := congrArg List.length run.shape
  rw [List.length_append, List.length_append, List.length_replicate, full] at size
  have long := run.long
  have short : (groups.take place ++ groups.drop (place + length)).length < 8 := by
    rw [List.length_append]
    omega
  have missing : 8 - (groups.take place ++ groups.drop (place + length)).length = length := by
    rw [List.length_append]
    omega
  rw [expand, if_pos short, missing, List.take_left, List.drop_left, ← run.shape]

theorem parseIPv6_print6 {groups : List UInt16} (full : groups.length = 8) :
    parseIPv6 (print6 groups) = some groups := by
  unfold print6
  split
  · -- No run: all groups are written.
    have filled : groups ≠ [] := by
      rintro rfl
      cases full
    obtain ⟨c, cs, shape, hex⟩ := joinGroups_head filled
    rw [parseIPv6_plain shape (colon_of_isHex hex), parseGroups_joined filled full.le]
    simp [expand, full]
  · rename_i place length found
    have run := run_of_longestRun found
    have whole := expand_run run full
    have size := congrArg List.length run.shape
    rw [List.length_append, List.length_append, List.length_replicate, full] at size
    generalize groups.take place = front at *
    generalize groups.drop (place + length) = back at *
    have long := run.long
    have text : joinGroups front ++ [':', ':'] ++ joinGroups back =
        joinGroups front ++ ':' :: ':' :: joinGroups back := by simp
    rw [text]
    cases front with
    | nil =>
        cases back with
        | nil => exact whole
        | cons g back =>
            obtain ⟨c, cs, shape, hex⟩ := joinGroups_head (List.cons_ne_nil g back)
            have read : parseIPv6 (':' :: ':' :: joinGroups (g :: back)) =
                (parseGroups 8 [] (some 0) (joinGroups (g :: back))).bind
                  fun (groups, ellipsis) => expand groups ellipsis := by
              rw [shape]
              rfl
            rw [joinGroups, List.map_nil, List.intercalate_nil, List.nil_append, read,
              parseGroups_joined (List.cons_ne_nil g back) (by simp only [List.length_cons] at size ⊢; omega)]
            exact whole
    | cons f front =>
        obtain ⟨c, cs, shape, hex⟩ := joinGroups_head (List.cons_ne_nil f front)
        have start : joinGroups (f :: front) ++ ':' :: ':' :: joinGroups back =
            c :: (cs ++ ':' :: ':' :: joinGroups back) := by rw [shape]; rfl
        rw [parseIPv6_plain start (colon_of_isHex hex),
          parseGroups_ellipsis (List.cons_ne_nil f front) (by omega)]
        cases back with
        | nil =>
            rw [List.append_nil] at whole
            rw [joinGroups, List.map_nil, List.intercalate_nil, if_pos rfl]
            exact whole
        | cons g back =>
            have written : joinGroups (g :: back) ≠ [] := by
              obtain ⟨c, cs, shape, -⟩ := joinGroups_head (List.cons_ne_nil g back)
              rw [shape]
              exact List.cons_ne_nil c cs
            rw [if_neg written, parseGroups_joined (List.cons_ne_nil g back) (by omega)]
            exact whole

/-! ### Version 4 within version 6 -/

theorem isHex_of_digit {c : Char} (digit : (digitValue? c).isSome = true) : isHex c = true := by
  unfold digitValue? at digit
  unfold isHex hexValue?
  split at digit
  · rename_i range
    rw [if_pos range]
    rfl
  · cases digit

theorem length_decimal_octet : ∀ n < 256, (decimal n).length ≤ 4 := by decide +kernel

theorem parseGroups_print4 {n place : Nat} {groups : List UInt16} (room : n ≠ 0) (a b c d : UInt8) :
    parseGroups (n + 1) groups (some place) (print4 a b c d) =
      some (groups ++ [UInt16.ofNat (a.toNat * 256 + b.toNat),
        UInt16.ofNat (c.toNat * 256 + d.toNat)], some place) := by
  obtain ⟨rest, shape⟩ := print4_eq a b c d
  have hex : ∀ ch ∈ decimal a.toNat, isHex ch = true :=
    fun ch member => isHex_of_digit (isDigit_of_mem_decimal member)
  have dot : isHex '.' = false := by decide
  have digits : (print4 a b c d).takeWhile isHex = decimal a.toNat := by
    rw [shape, List.takeWhile_append_of_pos hex]
    simp [dot]
  have behind : (print4 a b c d).dropWhile isHex = '.' :: rest := by
    rw [shape, List.dropWhile_append_of_pos hex]
    simp [dot]
  have proper : ¬(decimal a.toNat = [] ∨ 4 < (decimal a.toNat).length) :=
    not_or.mpr ⟨decimal_ne_nil _, not_lt.mpr (length_decimal_octet _ a.toNat_lt)⟩
  rw [parseGroups]
  simp only [digits, behind, List.head?_cons, if_neg proper, if_pos, if_neg room,
    parseIPv4_print4, Option.map_some, reduceCtorEq, false_and, if_false]

theorem ofNat_halves (x : UInt16) : UInt16.ofNat ((UInt8.ofNat (x.toNat / 256)).toNat * 256 +
    (UInt8.ofNat (x.toNat % 256)).toNat) = x := by
  have bound : x.toNat < 65536 := x.toNat_lt
  have value : (UInt8.ofNat (x.toNat / 256)).toNat * 256 + (UInt8.ofNat (x.toNat % 256)).toNat =
      x.toNat := by
    rw [UInt8.toNat_ofNat', UInt8.toNat_ofNat']
    omega
  rw [value, UInt16.ofNat_toNat]

theorem parseIPv6_print4In6 (x y : UInt16) :
    parseIPv6 (print4In6 x y) = some [0, 0, 0, 0, 0, 0xffff, x, y] := by
  have first : hexText 0xffff = ['f', 'f', 'f', 'f'] := by decide
  unfold print4In6
  generalize hx : UInt8.ofNat (x.toNat / 256) = a
  generalize hx' : UInt8.ofNat (x.toNat % 256) = b
  generalize hy : UInt8.ofNat (y.toNat / 256) = c
  generalize hy' : UInt8.ofNat (y.toNat % 256) = d
  obtain ⟨rest, shape⟩ := print4_eq a b c d
  obtain ⟨digit, digits, number⟩ := List.exists_cons_of_ne_nil (decimal_ne_nil a.toNat)
  have other : digit ≠ ':' :=
    colon_of_isHex (isHex_of_digit (isDigit_of_mem_decimal (number ▸ List.mem_cons_self)))
  have start : print4 a b c d = digit :: (digits ++ '.' :: rest) := by rw [shape, number]; rfl
  have text : "::ffff:".toList ++ print4 a b c d =
      ':' :: ':' :: (hexText 0xffff ++ ':' :: print4 a b c d) := by rw [first]; rfl
  have read : parseGroups 8 [] (some 0) (hexText 0xffff ++ ':' :: print4 a b c d) =
      some ([0xffff, x, y], some 0) := by
    rw [start, parseGroups_colon other, ← start, parseGroups_print4 (by decide), ← hx, ← hx', ← hy,
      ← hy', ofNat_halves, ofNat_halves]
    rfl
  rw [text]
  calc parseIPv6 (':' :: ':' :: (hexText 0xffff ++ ':' :: print4 a b c d))
      = (parseGroups 8 [] (some 0) (hexText 0xffff ++ ':' :: print4 a b c d)).bind
          (fun (groups, ellipsis) => expand groups ellipsis) := by rw [first]; rfl
    _ = some [0, 0, 0, 0, 0, 0xffff, x, y] := by rw [read]; rfl

/-! ## Reading the canonical form -/

/-- A text that begins like an address of version 6 and has no zone. -/
structure Body (text : List Char) : Prop where
  starts : ∃ front rest, text = front ++ ':' :: rest ∧ ∀ c ∈ front, isHex c = true
  clean : '%' ∉ text

theorem find?_front {front : List Char} (hex : ∀ c ∈ front, isHex c = true) :
    (front.find? fun c => c = '.' ∨ c = ':' ∨ c = '%') = none := by
  refine List.find?_eq_none.mpr fun c member => ?_
  have digit := hex c member
  simp only [decide_eq_true_eq]
  rintro (rfl | rfl | rfl) <;> cases digit

theorem parseAddr_body {text zone : List Char} {groups : List UInt16} (body : Body text)
    (full : groups.length = 8) (read : parseIPv6 text = some groups) :
    parseAddr (if zone = [] then text else text ++ '%' :: zone) = some (.v6 ⟨groups, full⟩ zone) := by
  obtain ⟨⟨front, rest, shape, hex⟩, clean⟩ := body
  have colon (more : List Char) :
      ((text ++ more).find? fun c => c = '.' ∨ c = ':' ∨ c = '%') = some ':' := by
    rw [shape, List.append_assoc, List.find?_append, find?_front hex]
    simp
  have other : ∀ c ∈ text, (c ≠ '%' : Bool) = true := by
    intro c member
    rw [decide_eq_true_eq]
    rintro rfl
    exact clean member
  by_cases bare : zone = []
  · subst bare
    have found := colon []
    rw [List.append_nil] at found
    have before : text.takeWhile (· ≠ '%') = text := List.takeWhile_eq_self_iff.mpr other
    have after : text.dropWhile (· ≠ '%') = [] := List.dropWhile_eq_nil_iff.mpr other
    rw [if_pos rfl, parseAddr, found]
    simp only [before, after, read, clean, false_and, if_false, Option.bind_some, full, dif_pos,
      List.drop_nil]
  · have before : (text ++ '%' :: zone).takeWhile (· ≠ '%') = text := by
      rw [List.takeWhile_append_of_pos other]
      simp
    have after : (text ++ '%' :: zone).dropWhile (· ≠ '%') = '%' :: zone := by
      rw [List.dropWhile_append_of_pos other]
      simp
    rw [if_neg bare, parseAddr, colon]
    simp only [before, after, read, bare, and_false, if_false, Option.bind_some, full, dif_pos,
      List.drop_succ_cons, List.drop_zero]

theorem mem_joinGroups {gs : List UInt16} {c : Char} (member : c ∈ joinGroups gs) :
    c = ':' ∨ isHex c = true := by
  induction gs with
  | nil => cases member
  | cons g gs ih =>
      cases gs with
      | nil =>
          rw [joinGroups_singleton] at member
          exact Or.inr ((written_hexText g).hex c member)
      | cons h gs =>
          rw [joinGroups_cons_cons, List.mem_append, List.mem_cons] at member
          rcases member with digit | same | later
          · exact Or.inr ((written_hexText g).hex c digit)
          · exact Or.inl same
          · exact ih later

theorem body_joinGroups (gs : List UInt16) (rest : List Char) (clean : '%' ∉ rest) :
    Body (joinGroups gs ++ ':' :: rest) where
  starts := by
    cases gs with
    | nil => exact ⟨[], rest, rfl, nofun⟩
    | cons g gs =>
        have hex := (written_hexText g).hex
        cases gs with
        | nil => exact ⟨hexText g, rest, by rw [joinGroups_singleton], hex⟩
        | cons h gs =>
            exact ⟨hexText g, joinGroups (h :: gs) ++ ':' :: rest,
              by rw [joinGroups_cons_cons, List.append_assoc, List.cons_append], hex⟩
  clean := by
    rw [List.mem_append, List.mem_cons, not_or, not_or]
    refine ⟨fun member => ?_, by decide, clean⟩
    rcases mem_joinGroups member with same | hex
    · cases same
    · cases hex

theorem percent_joinGroups (gs : List UInt16) : '%' ∉ joinGroups gs := by
  intro member
  rcases mem_joinGroups member with same | hex
  · cases same
  · cases hex

theorem body_print6 {groups : List UInt16} (full : groups.length = 8) : Body (print6 groups) := by
  unfold print6
  split
  · match groups, full with
    | g :: h :: gs, _ =>
        have body := body_joinGroups [g] (joinGroups (h :: gs)) (percent_joinGroups _)
        rwa [joinGroups_singleton, ← joinGroups_cons_cons] at body
  · rename_i place length _
    have body := body_joinGroups (groups.take place)
      (':' :: joinGroups (groups.drop (place + length)))
      (by simpa using percent_joinGroups (groups.drop (place + length)))
    simpa using body

theorem body_print4In6 (x y : UInt16) : Body (print4In6 x y) where
  starts := ⟨[], _, rfl, nofun⟩
  clean := by
    unfold print4In6
    rw [List.mem_append, not_or]
    refine ⟨by decide, fun member => ?_⟩
    rcases mem_print4 member with same | digit
    · cases same
    · cases digit

theorem body_printGroups {groups : List UInt16} (full : groups.length = 8) :
    Body (printGroups groups) ∧ parseIPv6 (printGroups groups) = some groups := by
  unfold printGroups
  split
  · rename_i x y
    exact ⟨body_print4In6 x y, parseIPv6_print4In6 x y⟩
  · exact ⟨body_print6 full, parseIPv6_print6 full⟩

/-- **An address reads back from its canonical form.** -/
theorem parseAddr_print (address : Addr) : parseAddr address.print = some address := by
  cases address with
  | v4 a b c d =>
      obtain ⟨rest, shape⟩ := print4_eq a b c d
      have digits : ∀ ch ∈ decimal a.toNat, isHex ch = true :=
        fun ch member => isHex_of_digit (isDigit_of_mem_decimal member)
      have found : ((print4 a b c d).find? fun c => c = '.' ∨ c = ':' ∨ c = '%') = some '.' := by
        rw [shape, List.find?_append, find?_front digits]
        simp
      rw [Addr.print, parseAddr, found]
      simp only [parseIPv4_print4, Option.map_some]
  | v6 groups zone =>
      obtain ⟨body, read⟩ := body_printGroups groups.2
      exact parseAddr_body body groups.2 read

end UnifiedInfraTopology.Lib.Netip
