import Vigil.Proofs.Json.Plain
import Vigil.Proofs.Text.Digit

/-!
# Written strings are read back

Every character of a written string is read back as itself, whatever stands for it: the character,
an escape of one letter, an escape of its number, or a pair of these. Halves of pairs are left out:
two of them in a row would be read as one character.

* `readString_quote`: behind its opening quote, a written string is read back with what follows it.
-/

namespace Vigil

namespace Json

open Text

/-! ## Escapes of numbers -/

theorem hexValue?_hexDigit {d : Nat} (h : d < 16) : hexValue? (hexDigit d) = some d := by
  have all : ∀ d : Fin 16, hexValue? (hexDigit d.1) = some d.1 := by decide
  exact all ⟨d, h⟩

/-- Four digits of a number below 0x10000 are the number. -/
theorem hex4?_hexDigit {n : Nat} (h : n < 0x10000) :
    hex4? (hexDigit (n / 4096 % 16)) (hexDigit (n / 256 % 16)) (hexDigit (n / 16 % 16))
      (hexDigit (n % 16)) = some n := by
  have digit (m : Nat) : hexValue? (hexDigit (m % 16)) = some (m % 16) :=
    hexValue?_hexDigit (Nat.mod_lt m (by decide))
  simp only [hex4?, digit, Option.bind_eq_bind, Option.bind_some, Option.pure_def]
  congr 1
  omega

/-- An escape of a number that is no first half is read as it stands. -/
theorem unicodeEscape_unit {n : Nat} (hn : n < 0x10000) (hs : isHighHalf n = false)
    {rest : List Char} (hr : rest ≠ []) :
    unicodeEscape (hexDigits 4 n ++ rest) = .ok (.ofUnit n, rest) := by
  obtain ⟨e, rest, rfl⟩ := List.exists_cons_of_ne_nil hr
  rw [hexDigits_four]
  simp only [List.cons_append, List.nil_append, unicodeEscape, hex4?_hexDigit hn, hs]

/-- Two escapes of the halves of a pair are read as one character. -/
theorem unicodeEscape_pair {high low : Nat} (hh : isHighHalf high = true)
    (hl : isLowHalf low = true) {rest : List Char} (hr : rest ≠ []) :
    unicodeEscape (hexDigits 4 high ++ unitEscape low ++ rest) =
      .ok (.char (joinHalves high low), rest) := by
  have high_lt : high < 0x10000 := by
    simp only [isHighHalf, Bool.and_eq_true, decide_eq_true_eq] at hh
    omega
  have low_lt : low < 0x10000 := by
    simp only [isLowHalf, Bool.and_eq_true, decide_eq_true_eq] at hl
    omega
  obtain ⟨e, rest, rfl⟩ := List.exists_cons_of_ne_nil hr
  rw [unitEscape, hexDigits_four, hexDigits_four]
  simp only [List.cons_append, List.nil_append, unicodeEscape, hex4?_hexDigit high_lt, hh,
    hex4?_hexDigit low_lt, hl, if_true]

/-! ## Characters -/

/-- No character is half of a pair. -/
theorem ofUnit_toNat (c : Char) : CodePoint.ofUnit c.toNat = .char c := by
  have valid : c.toNat < 0xD800 ∨ 0xDFFF < c.toNat ∧ c.toNat < 0x110000 := c.valid
  rw [CodePoint.ofUnit, dif_neg (by omega), Char.ofNat_toNat]

theorem not_isHighHalf_toNat (c : Char) : isHighHalf c.toNat = false := by
  have valid : c.toNat < 0xD800 ∨ 0xDFFF < c.toNat ∧ c.toNat < 0x110000 := c.valid
  simp only [isHighHalf, Bool.and_eq_false_iff, decide_eq_false_iff_not]
  omega

/-- The halves of a character beyond 0x10000 make up the character. -/
theorem joinHalves_toNat {c : Char} (h : ¬c.toNat < 0x10000) :
    joinHalves (0xD800 + (c.toNat - 0x10000) / 0x400) (0xDC00 + (c.toNat - 0x10000) % 0x400) =
      c := by
  have whole : 0x10000 + (0xD800 + (c.toNat - 0x10000) / 0x400 - 0xD800) * 0x400 +
      (0xDC00 + (c.toNat - 0x10000) % 0x400 - 0xDC00) = c.toNat := by omega
  rw [joinHalves, whole, Char.ofNat_toNat]

variable {start fuel : Nat} {done : List CodePoint} {rest : List Char}

/-- An escape of one letter is read as what it stands for. -/
theorem readString_letter {c e : Char} (hu : unescape? e = some c) :
    readString start (fuel + 1) done ('\\' :: e :: rest) =
      readString start fuel (.char c :: done) rest := by
  have hne : e ≠ 'u' := by
    rintro rfl
    cases hu
  rw [readString, if_neg (by decide), if_pos rfl]
  · simp only [hu]
  · exact hne

/-- A written character is read back, if something follows it. -/
theorem readString_escaped {c : Char} {s : List Char} (h : Escaped c s) (hr : rest ≠ []) :
    readString start (fuel + 1) done (s ++ rest) =
      readString start fuel (.char c :: done) rest := by
  cases h with
  | letter _ hu => exact readString_letter hu
  | plain hv hq hb =>
    have low : ¬c.toNat < 32 := Nat.not_lt.mpr hv.1
    simp only [List.singleton_append, readString, hq, hb, low, if_false]
  | unit hn =>
    rw [unitEscape]
    simp only [List.cons_append, readString, Char.reduceEq, if_false, if_true,
      unicodeEscape_unit hn (not_isHighHalf_toNat c) hr, ofUnit_toNat]
  | pair hn =>
    have valid : c.toNat < 0xD800 ∨ 0xDFFF < c.toNat ∧ c.toNat < 0x110000 := c.valid
    have hh : isHighHalf (0xD800 + (c.toNat - 0x10000) / 0x400) = true := by
      simp only [isHighHalf, Bool.and_eq_true, decide_eq_true_eq]
      omega
    have hl : isLowHalf (0xDC00 + (c.toNat - 0x10000) % 0x400) = true := by
      simp only [isLowHalf, Bool.and_eq_true, decide_eq_true_eq]
      omega
    rw [show unitEscape (0xD800 + (c.toNat - 0x10000) / 0x400) =
      '\\' :: 'u' :: hexDigits 4 (0xD800 + (c.toNat - 0x10000) / 0x400) from rfl]
    simp only [List.cons_append, readString, Char.reduceEq, if_false, if_true,
      unicodeEscape_pair hh hl hr, joinHalves_toNat hn]

/-! ## Strings -/

/-- **A written string is read back** behind its opening quote, with what follows it. -/
theorem readString_quote {points : List CodePoint} (hw : ∀ p ∈ points, ∃ c, p = .char c)
    (hf : points.length < fuel) :
    readString start fuel done (points.flatMap escapePoint ++ '"' :: rest) =
      .ok (⟨done.reverse ++ points⟩, rest) := by
  induction points generalizing fuel done with
  | nil =>
    obtain ⟨fuel, rfl⟩ := Nat.exists_eq_succ_of_ne_zero (Nat.ne_of_gt hf)
    simp [readString]
  | cons p points ih =>
    obtain ⟨c, rfl⟩ := hw p List.mem_cons_self
    obtain ⟨fuel, rfl⟩ := Nat.exists_eq_succ_of_ne_zero (Nat.ne_of_gt (Nat.zero_lt_of_lt hf))
    rw [List.flatMap_cons, List.append_assoc, escapePoint,
      readString_escaped (escaped_escapeChar c)
        (List.append_ne_nil_of_right_ne_nil _ (List.cons_ne_nil _ _)),
      ih (fun p hp => hw p (List.mem_cons_of_mem _ hp)) (Nat.lt_of_succ_lt_succ hf),
      List.reverse_cons, List.append_assoc]
    rfl

theorem Escaped.ne_nil {c : Char} {s : List Char} (h : Escaped c s) : s ≠ [] := by
  cases h <;> exact List.cons_ne_nil _ _

/-- Nothing is written for no character. -/
theorem escapePoint_ne_nil (p : CodePoint) : escapePoint p ≠ [] := by
  cases p with
  | half offset => exact List.cons_ne_nil _ _
  | char c => exact (escaped_escapeChar c).ne_nil

theorem length_le_escaped (points : List CodePoint) :
    points.length ≤ (points.flatMap escapePoint).length := by
  induction points with
  | nil => exact Nat.le_refl _
  | cons p points ih =>
    have pos := List.length_pos_iff.mpr (escapePoint_ne_nil p)
    rw [List.flatMap_cons, List.length_append, List.length_cons]
    omega

/-- A written string is an opening quote and what is read back as the string. -/
theorem quote_eq_cons {s : LooseText} (hw : s.Whole) (rest : List Char) :
    ∃ behind, quote s ++ rest = '"' :: behind ∧
      readString (quote s ++ rest).length (quote s ++ rest).length [] behind = .ok (s, rest) := by
  refine ⟨s.points.flatMap escapePoint ++ '"' :: rest, by simp [quote], ?_⟩
  refine readString_quote hw ?_
  have few := length_le_escaped s.points
  simp only [quote, List.cons_append, List.append_assoc, List.length_cons, List.length_append]
  omega

end Json

end Vigil
