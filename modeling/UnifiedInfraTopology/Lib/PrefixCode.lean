import UnifiedInfraTopology.Lib.Json

/-!
# Code words that can be cut off again

`PrefixCode f` says that in a text that begins with a code word of `f`, the word and what follows it are
determined.  Code words can be written one after the other (`append`), behind a mark (`cons`), and in
any number (`flatMap_injective`); words of two codes can be mixed where no word of the one begins like a
word of the other (`sum`).

The JSON texts of strings and booleans are such codes, and of integers up to the mark behind them.
-/

namespace UnifiedInfraTopology.Lib

variable {α β γ τ : Type}

def PrefixCode (f : α → List τ) : Prop :=
  ∀ a b rest rest', f a ++ rest = f b ++ rest' → a = b ∧ rest = rest'

namespace PrefixCode

variable {f : α → List τ} {g : β → List τ}

/-- A code that a reader reads back, whatever follows. -/
theorem of_read (read : List τ → Option (α × List τ))
    (reads : ∀ a rest, read (f a ++ rest) = some (a, rest)) : PrefixCode f := by
  intro a b rest rest' same
  have both := reads a rest
  rw [same, reads b rest'] at both
  cases both
  exact ⟨rfl, rfl⟩

/-- Two words, one after the other. -/
theorem append (first : PrefixCode f) (second : PrefixCode g) :
    PrefixCode fun p : α × β => f p.1 ++ g p.2 := by
  rintro ⟨a, b⟩ ⟨a', b'⟩ rest rest' same
  simp only [List.append_assoc] at same
  obtain ⟨rfl, later⟩ := first _ _ _ _ same
  obtain ⟨rfl, last⟩ := second _ _ _ _ later
  exact ⟨rfl, last⟩

/-- A word behind a mark. -/
theorem cons (code : PrefixCode f) (mark : τ) : PrefixCode fun a => mark :: f a := by
  intro a b rest rest' same
  exact code a b rest rest' (List.cons.inj same).2

/-- A word in front of a mark. -/
theorem concat (code : PrefixCode f) (mark : τ) : PrefixCode fun a => f a ++ [mark] := by
  intro a b rest rest' same
  simp only [List.append_assoc, List.singleton_append] at same
  obtain ⟨rfl, later⟩ := code _ _ _ _ same
  exact ⟨rfl, (List.cons.inj later).2⟩

/-- Words for other things, which the things of the code determine. -/
theorem comp (code : PrefixCode f) {h : γ → α} (injective : Function.Injective h) :
    PrefixCode fun c => f (h c) := by
  intro a b rest rest' same
  obtain ⟨equal, later⟩ := code _ _ _ _ same
  exact ⟨injective equal, later⟩

/-- Words of two codes that never begin alike. -/
theorem sum (first : PrefixCode f) (second : PrefixCode g)
    (apart : ∀ a b rest rest', f a ++ rest ≠ g b ++ rest') : PrefixCode (Sum.elim f g) := by
  rintro (a | b) (a' | b') rest rest' same
  · obtain ⟨rfl, later⟩ := first _ _ _ _ same
    exact ⟨rfl, later⟩
  · exact (apart _ _ _ _ same).elim
  · exact (apart _ _ _ _ same.symm).elim
  · obtain ⟨rfl, later⟩ := second _ _ _ _ same
    exact ⟨rfl, later⟩

/-- A text of words none of which is empty is of these words only. -/
theorem flatMap_injective (code : PrefixCode f) (filled : ∀ a, f a ≠ []) :
    Function.Injective (List.flatMap f) := by
  intro as bs same
  induction as generalizing bs with
  | nil =>
      cases bs with
      | nil => rfl
      | cons b bs =>
          have empty : f b ++ bs.flatMap f = [] := same.symm
          exact absurd (List.append_eq_nil_iff.mp empty).1 (filled b)
  | cons a as ih =>
      cases bs with
      | nil =>
          have empty : f a ++ as.flatMap f = [] := same
          exact absurd (List.append_eq_nil_iff.mp empty).1 (filled a)
      | cons b bs =>
          obtain ⟨rfl, later⟩ := code a b _ _ same
          rw [ih later]

end PrefixCode

/-- Blocks of a head and items, written one after the other, are determined. -/
theorem blocks_injective :
    Function.Injective (List.flatMap fun p : α × List β => Sum.inl p.1 :: p.2.map Sum.inr) := by
  have items (l l' : List β) (rest rest' : List (α ⊕ β)) (ends : ∀ x ∈ rest.head?, x.isLeft = true)
      (ends' : ∀ x ∈ rest'.head?, x.isLeft = true)
      (same : l.map Sum.inr ++ rest = l'.map Sum.inr ++ rest') : l = l' ∧ rest = rest' := by
    induction l generalizing l' with
    | nil =>
        cases l' with
        | nil => exact ⟨rfl, same⟩
        | cons b l' =>
            have head := ends (Sum.inr b) (by rw [← List.nil_append rest]; exact same ▸ rfl)
            cases head
    | cons a l ih =>
        cases l' with
        | nil =>
            have head := ends' (Sum.inr a) (by rw [← List.nil_append rest']; exact same ▸ rfl)
            cases head
        | cons b l' =>
            obtain ⟨here, later⟩ := List.cons.inj same
            obtain ⟨rfl, last⟩ := ih l' later
            exact ⟨by rw [Sum.inr.inj here], last⟩
  have heads (ps : List (α × List β)) :
      ∀ x ∈ (ps.flatMap fun p => Sum.inl p.1 :: p.2.map Sum.inr).head?, x.isLeft = true := by
    cases ps with
    | nil => nofun
    | cons p ps =>
        rintro x head
        cases head
        rfl
  intro ps qs same
  induction ps generalizing qs with
  | nil =>
      cases qs with
      | nil => rfl
      | cons q qs => cases same
  | cons p ps ih =>
      cases qs with
      | nil => cases same
      | cons q qs =>
          obtain ⟨head, later⟩ := List.cons.inj same
          obtain ⟨body, last⟩ := items _ _ _ _ (heads ps) (heads qs) later
          rw [ih last, Prod.ext (Sum.inl.inj head) body]

/-! ## JSON -/

namespace Json

theorem prefixCode_printString : PrefixCode printString := by
  refine PrefixCode.of_read (fun cs => parseString cs.tail) fun s rest => ?_
  rw [printString, List.cons_append, List.tail_cons, List.append_assoc]
  exact parseString_print s rest

/-- An integer, up to a mark that can stand behind it. -/
theorem prefixCode_printInt {mark : Char} (stops : mark = ',' ∨ mark = ']') :
    PrefixCode fun n => printInt n ++ [mark] := by
  intro a b rest rest' same
  have stops (rest : List Char) : Stops (mark :: rest) := by
    rintro c head
    cases head
    exact stops.imp_right Or.inl
  simp only [List.append_assoc, List.singleton_append] at same
  have both := parseNumber_printInt a (stops rest)
  rw [same, parseNumber_printInt b (stops rest')] at both
  obtain ⟨number, rest⟩ := Prod.mk.inj (Option.some.inj both)
  have value := congrArg Number.int? number
  rw [int?_numberOfInt, int?_numberOfInt] at value
  exact ⟨(Option.some.inj value).symm, (List.cons.inj rest).2.symm⟩

def printBool (b : Bool) : List Char := (if b then "true" else "false").toList

theorem prefixCode_printBool : PrefixCode printBool := by
  rintro (_ | _) (_ | _) rest rest' same
  · exact ⟨rfl, List.append_cancel_left same⟩
  · cases same
  · cases same
  · exact ⟨rfl, List.append_cancel_left same⟩

end Json

end UnifiedInfraTopology.Lib
