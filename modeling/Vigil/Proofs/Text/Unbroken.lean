import Vigil.Number.Shortest
import Vigil.Number.Fixed
import Vigil.Proofs.Text.Digit
import Vigil.Text.Column
import Vigil.Text.Line
import Vigil.Text.Loose

/-!
# Lines of printed texts

Texts are printed one after the other, each with a line feed behind it. What stands on the lines of
the output is told text by text: a text without line feeds is a line, and any other one starts with
a line that is its beginning.

* `lines_unlines`: the lines of the output are those of its texts.
* `exists_first_line`: the first line of a text.
* `unbroken_fixed`, `unbroken_int`: numbers hold no line feed.
-/

namespace Vigil.Text

variable {s t : String}

/-- A text without a line feed. -/
def Unbroken (s : String) : Prop := '\n' ∉ s.toList

instance : DecidablePred Unbroken := fun s => inferInstanceAs (Decidable ('\n' ∉ s.toList))

/-! ## Texts without line feeds -/

theorem unbroken_append : Unbroken (s ++ t) ↔ Unbroken s ∧ Unbroken t := by
  simp [Unbroken, not_or]

theorem unbroken_ofList {cs : List Char} : Unbroken (String.ofList cs) ↔ '\n' ∉ cs := by
  rw [Unbroken, String.toList_ofList]

theorem unbroken_toString : Unbroken (toString s) ↔ Unbroken s := Iff.rfl

theorem not_mem_decimal (n : Nat) : '\n' ∉ decimal n := fun h =>
  absurd (isAsciiDigit_of_mem_decimal h) (by decide)

theorem unbroken_nat (n : Nat) : Unbroken (toString n) := unbroken_ofList.mpr (not_mem_decimal n)

theorem unbroken_int (n : Int) : Unbroken (toString n) := by
  cases n with
  | ofNat n => exact unbroken_nat n
  | negSucc n => exact unbroken_append.mpr ⟨by decide, unbroken_nat _⟩

theorem unbroken_padRight {width : Nat} : Unbroken (padRight width s) ↔ Unbroken s := by
  simp [padRight, unbroken_append, unbroken_ofList]

/-- Digits that are cut in two by a point hold no line feed. -/
theorem not_mem_cut {cs : List Char} (h : '\n' ∉ cs) (n : Nat) :
    '\n' ∉ cs.take n ++ '.' :: cs.drop n := by
  simp only [List.mem_append, List.mem_cons, not_or]
  exact ⟨fun ht => h (List.mem_of_mem_take ht), by decide, fun hd => h (List.mem_of_mem_drop hd)⟩

theorem not_mem_zeros (n : Nat) : '\n' ∉ List.replicate n '0' := fun h =>
  absurd (List.eq_of_mem_replicate h) (by decide)

theorem unbroken_fixed (places : Nat) (x : Float) : Unbroken (Number.fixed places x) := by
  have pointed (units : Nat) : Unbroken (Number.pointed places units) :=
    unbroken_ofList.mpr <| not_mem_cut (List.not_mem_append (not_mem_zeros _) (not_mem_decimal _)) _
  unfold Number.fixed
  cases Number.Parts.ofFloat x with
  | nan => exact (by decide : Unbroken "nan")
  | infinite negative =>
    cases negative with
    | false => exact (by decide : Unbroken "inf")
    | true => exact (by decide : Unbroken "-inf")
  | finite negative mantissa exponent =>
    refine unbroken_append.mpr ⟨?_, pointed _⟩
    cases negative with
    | false => exact (by decide : Unbroken "")
    | true => exact (by decide : Unbroken "-")

/-- What has no whole number is told by a word. -/
theorem unbroken_notFinite {x : Float} {reason : Number.NotWhole}
    (h : Number.truncate x = .error reason) : Unbroken (Number.plain.render x) := by
  unfold Number.truncate at h
  unfold Number.Layout.render
  cases hx : Number.Parts.ofFloat x with
  | nan => exact (by decide : Unbroken "nan")
  | infinite negative =>
    cases negative with
    | false => exact (by decide : Unbroken ("" ++ "inf"))
    | true => exact (by decide : Unbroken ("-" ++ "inf"))
  | finite negative mantissa exponent =>
    rw [hx] at h
    cases h

/-! ## Lines -/

/-- What stands behind a line feed is lines of its own. -/
theorem linesFrom_append (line cs rest : List Char) :
    linesFrom line (cs ++ '\n' :: rest) = linesFrom line (cs ++ ['\n']) ++ linesFrom [] rest := by
  induction cs generalizing line with
  | nil => rfl
  | cons c cs ih =>
    simp only [List.cons_append, linesFrom]
    split
    · rw [ih, List.cons_append]
    · exact ih _

/-- What stands before the first line feed is a line. -/
theorem linesFrom_of_unbroken {cs : List Char} (h : '\n' ∉ cs) (line rest : List Char) :
    linesFrom line (cs ++ '\n' :: rest) = (line.reverse ++ cs) :: linesFrom [] rest := by
  induction cs generalizing line with
  | nil => rw [List.nil_append, linesFrom, if_pos rfl, List.append_nil]
  | cons c cs ih =>
    rw [List.mem_cons, not_or] at h
    rw [List.cons_append, linesFrom, if_neg (Ne.symm h.1), ih h.2, List.reverse_cons,
      List.append_assoc]
    rfl

/-- The lines of a text that is printed. -/
def printedLines (s : String) : List String := lines (s ++ "\n")

/-- Texts that are printed one after the other. -/
def unlines : List String → String
  | [] => ""
  | s :: rest => s ++ "\n" ++ unlines rest

/-- **The lines of the output are those of its texts.** -/
theorem lines_unlines (texts : List String) :
    lines (unlines texts) = texts.flatMap printedLines := by
  induction texts with
  | nil => rfl
  | cons s rest ih =>
    rw [List.flatMap_cons, ← ih]
    simp only [unlines, printedLines, lines, String.toList_append, ← List.map_append]
    refine congrArg _ ?_
    rw [List.append_assoc]
    exact linesFrom_append _ _ _

theorem printedLines_of_unbroken (h : Unbroken s) : printedLines s = [s] := by
  rw [printedLines, lines, String.toList_append]
  show (linesFrom [] (s.toList ++ ['\n'])).map String.ofList = _
  rw [linesFrom_of_unbroken h]
  simp [linesFrom]

/-- A text that starts with a line feed starts with an empty line. -/
theorem printedLines_of_break (s : String) : printedLines ("\n" ++ s) = "" :: printedLines s := by
  rw [printedLines, printedLines, lines, lines, String.append_assoc, String.toList_append]
  rfl

/-- What a text starts with up to a line feed at the latest is in front of that. -/
theorem prefix_of_unbroken {p cs rest : List Char} (hp : '\n' ∉ p) (h : p <+: cs ++ '\n' :: rest) :
    p <+: cs := by
  rcases Nat.le_total p.length cs.length with short | long
  · exact List.prefix_of_prefix_length_le h (List.prefix_append _ _) short
  · obtain ⟨more, rfl⟩ := List.prefix_of_prefix_length_le (List.prefix_append _ _) h long
    rw [List.prefix_append_right_inj, List.prefix_cons_iff] at h
    rcases h with rfl | ⟨more', rfl, -⟩
    · exact (List.append_nil cs).symm ▸ List.prefix_rfl
    · exact absurd (List.mem_append_right _ List.mem_cons_self) hp

/-- **A printed text starts with a line** that starts as the text does; it is the only one of a text
without line feeds. -/
theorem exists_first_line (s : String) :
    ∃ first more, printedLines s = first :: more ∧
      (∀ p, Unbroken p → p.toList <+: s.toList → p.toList <+: first.toList) ∧
      (Unbroken s → more = []) := by
  by_cases h : Unbroken s
  · exact ⟨s, [], printedLines_of_unbroken h, fun _ _ hp => hp, fun _ => rfl⟩
  · obtain ⟨cs, rest, e, unbroken⟩ := List.eq_append_cons_of_mem (Decidable.not_not.mp h)
    refine ⟨String.ofList cs, (linesFrom [] (rest ++ ['\n'])).map String.ofList, ?_,
      fun p hp starts => ?_, fun hs => absurd hs h⟩
    · rw [printedLines, lines, String.toList_append, e, List.append_assoc]
      show (linesFrom [] (cs ++ '\n' :: (rest ++ ['\n']))).map String.ofList = _
      rw [linesFrom_of_unbroken unbroken]
      rfl
    · rw [e] at starts
      rw [String.toList_ofList]
      exact prefix_of_unbroken hp starts

end Vigil.Text
