import Vigil.Json.Reader
import Vigil.Json.Writer
import Vigil.Proofs.Text.Digit

/-!
# Written scalars are read back

What follows a value in a document, if anything does, is a blank, a comma or the end of a container.
In front of such a text a written integer ends where its digits end.

* `readScalar_integer`: an integer that is not too long is read back.
-/

namespace Vigil.Json

open Text

/-- What may follow a value: nothing, a comma, the end of a container, or a blank. -/
def Closes (rest : List Char) : Prop :=
  ∀ c ∈ rest.head?, c = ',' ∨ c = ']' ∨ c = '}' ∨ isSpace c = true

theorem closes_nil : Closes [] := nofun

theorem Closes.of_cons {c : Char} {rest : List Char} (h : c = ',' ∨ c = ']' ∨ c = '}') :
    Closes (c :: rest) := by
  rintro d ⟨⟩
  exact h.imp_right (Or.imp_right .inl)

/-- Blanks may stand in front of what may follow a value. -/
theorem Closes.of_blank {blanks rest : List Char} (hb : ∀ c ∈ blanks, isSpace c = true)
    (h : Closes rest) : Closes (blanks ++ rest) := by
  cases blanks with
  | nil => exact h
  | cons c blanks =>
    rintro d ⟨⟩
    exact .inr (.inr (.inr (hb c List.mem_cons_self)))

/-- What closes a value goes on with no number. -/
theorem Closes.no_number {rest : List Char} (h : Closes rest) :
    rest.takeWhile isAsciiDigit = [] ∧ fraction? rest = none ∧
      Number.readExponent rest = none := by
  cases rest with
  | nil => exact ⟨rfl, rfl, rfl⟩
  | cons c rest =>
    have closing := h c rfl
    simp only [isSpace, Bool.or_eq_true, decide_eq_true_eq, or_assoc] at closing
    rcases closing with rfl | rfl | rfl | rfl | rfl | rfl | rfl <;> exact ⟨rfl, rfl, rfl⟩

/-- The digits of a number are what an integer starts with. -/
theorem integerDigits_decimal (n : Nat) {rest : List Char} (h : Closes rest) :
    integerDigits (decimal n ++ rest) = decimal n := by
  have digits : (decimal n ++ rest).takeWhile isAsciiDigit = decimal n := by
    rw [List.takeWhile_append_of_pos fun c hc => isAsciiDigit_of_mem_decimal hc, h.no_number.1,
      List.append_nil]
  obtain ⟨c, tail, e⟩ := List.exists_cons_of_ne_nil (decimal_ne_nil n)
  rcases Nat.eq_zero_or_pos n with rfl | hn
  · rfl
  · have first := head?_decimal hn
    rw [e] at first digits ⊢
    unfold integerDigits
    split
    · rename_i heq
      rw [List.cons_append, List.cons.injEq] at heq
      exact absurd (congrArg some heq.1) first
    · exact digits

/-- The first character of an integer is a digit or a sign before a digit. -/
theorem integer_head (n : Int) :
    (∃ c tail, integer n = c :: tail ∧ isAsciiDigit c = true) ∨
      ∃ c tail, integer n = '-' :: c :: tail ∧ isAsciiDigit c = true := by
  obtain ⟨c, tail, e⟩ := List.exists_cons_of_ne_nil (decimal_ne_nil n.natAbs)
  have digit : isAsciiDigit c = true :=
    isAsciiDigit_of_mem_decimal (e.symm ▸ List.mem_cons_self)
  rw [integer_eq, e]
  split
  · exact .inr ⟨c, tail, rfl, digit⟩
  · exact .inl ⟨c, tail, rfl, digit⟩

theorem leadingMinus_integer (n : Int) (rest : List Char) :
    leadingMinus (integer n ++ rest) = (decide (n < 0), decimal n.natAbs ++ rest) := by
  rw [integer_eq]
  by_cases hneg : n < 0
  · rw [if_pos hneg, decide_eq_true hneg]
    rfl
  · obtain ⟨c, tail, e⟩ := List.exists_cons_of_ne_nil (decimal_ne_nil n.natAbs)
    have digit : isAsciiDigit c = true :=
      isAsciiDigit_of_mem_decimal (e.symm ▸ List.mem_cons_self)
    rw [if_neg hneg, e, decide_eq_false hneg]
    unfold leadingMinus
    split
    · rename_i heq
      rw [List.cons_append, List.cons.injEq] at heq
      rw [heq.1] at digit
      cases digit
    · rfl

/-- An integer that is not too long is read back as a number. -/
theorem readNumber_integer {n : Int} (hn : Number.tooLongToWrite n = false) {rest : List Char}
    (h : Closes rest) :
    readNumber (some Number.digitLimit) (integer n ++ rest) = .ok (.int n, rest) := by
  have value : (if n < 0 then -(n.natAbs : Int) else n.natAbs) = n := by
    split <;> omega
  obtain ⟨-, fraction, exponent⟩ := h.no_number
  have short : ¬Number.digitLimit < (decimal n.natAbs).length :=
    Nat.not_lt.mpr (length_decimal_le hn)
  unfold readNumber
  rw [leadingMinus_integer]
  dsimp only
  rw [integerDigits_decimal _ h, List.drop_left, fraction]
  simp only [List.isEmpty_eq_false_iff.mpr (decimal_ne_nil _), Option.map_none, Option.getD_none,
    exponent, Option.isNone_none, Bool.and_true, Option.any_some, decide_eq_true_eq, short,
    if_true, if_false, Bool.false_eq_true, digitsValue_decimal, value]

/-- A digit starts no word. -/
theorem afterWord?_of_digit {c : Char} (h : isAsciiDigit c = true) {w : Char} {word s : List Char}
    (hw : isAsciiDigit w = false) : afterWord? (w :: word) (c :: s) = none := by
  have ne : w ≠ c := by
    rintro rfl
    rw [h] at hw
    cases hw
  rw [afterWord?, if_neg ne]

/-- An integer is no word, nor does it start like one. -/
theorem afterWord?_integer (n : Int) (rest : List Char) {w : String × Json} (hw : w ∈ words) :
    afterWord? w.1.toList (integer n ++ rest) = none := by
  rcases integer_head n with ⟨c, tail, e, digit⟩ | ⟨c, tail, e, digit⟩
  · rw [e]
    simp only [words, List.mem_cons, List.not_mem_nil, or_false] at hw
    rcases hw with rfl | rfl | rfl | rfl | rfl | rfl <;> exact afterWord?_of_digit digit rfl
  · rw [e]
    simp only [words, List.mem_cons, List.not_mem_nil, or_false] at hw
    rcases hw with rfl | rfl | rfl | rfl | rfl | rfl
    iterate 5 exact rfl
    exact afterWord?_of_digit digit rfl

/-- **An integer that is not too long is read back.** -/
theorem readScalar_integer {n : Int} (hn : Number.tooLongToWrite n = false) {rest : List Char}
    (h : Closes rest) :
    readScalar (some Number.digitLimit) (integer n ++ rest) = .ok (.int n, rest) := by
  have no_word : (words.findSome? fun w =>
      (afterWord? w.1.toList (integer n ++ rest)).map fun rest => (w.2, rest)) = none := by
    refine List.findSome?_eq_none_iff.mpr fun w hw => ?_
    rw [afterWord?_integer n rest hw, Option.map_none]
  rw [readScalar, no_word]
  exact readNumber_integer hn h

end Vigil.Json
