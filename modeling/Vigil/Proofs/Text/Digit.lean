import Vigil.Number.Reading
import Vigil.Text.Quoted

/-!
# Digits

What is written in digits is read back: a number in decimal, and the last four hexadecimal digits
of a number.

* `digitsValue_decimal`: the digits of a number write it.
* `hexDigits_four`: four hexadecimal digits, one by one.
-/

namespace Vigil.Text

/-! ## Decimal digits -/

theorem isAsciiDigit_iff (c : Char) : isAsciiDigit c = true ↔ 48 ≤ c.toNat ∧ c.toNat ≤ 57 := by
  rw [isAsciiDigit, Bool.and_eq_true, decide_eq_true_iff, decide_eq_true_iff]
  exact Iff.rfl

theorem isAsciiDigit_of_mem_decimal {n : Nat} {c : Char} (h : c ∈ decimal n) :
    isAsciiDigit c = true := by
  have hd : c.isDigit = true := Nat.isDigit_of_mem_toDigits (by decide) (by decide) h
  simpa [isAsciiDigit, Char.isDigit, Char.le_def] using hd

theorem decimal_ne_nil (n : Nat) : decimal n ≠ [] := Nat.toDigits_ne_nil

/-- The digits of a number write it. -/
theorem digitsValue_decimal (n : Nat) : digitsValue (decimal n) = n := by
  have fold : digitsValue (decimal n) = Nat.ofDigitChars 10 (decimal n) 0 := by
    rw [digitsValue, Nat.ofDigitChars_eq_foldl]
    congr 1
    funext m c
    rw [Nat.mul_comm]
    rfl
  rw [fold]
  exact Nat.ofDigitChars_ten_toDigits

/-- The first digit of a number is not zero unless it is the only one. -/
theorem head?_decimal {n : Nat} (h : 0 < n) : (decimal n).head? ≠ some '0' := by
  induction n using Nat.strongRecOn with
  | _ n ih =>
    rw [decimal, Nat.toDigits_eq_if (by decide)]
    split
    · rename_i hn
      have digit : ∀ d : Fin 10, 0 < d.1 → [d.1.digitChar].head? ≠ some '0' := by decide
      exact digit ⟨n, hn⟩ h
    · have hq := ih (n / 10) (by omega) (by omega)
      obtain ⟨c, rest, e⟩ := List.exists_cons_of_ne_nil (decimal_ne_nil (n / 10))
      rw [e] at hq
      rw [show Nat.toDigits 10 (n / 10) = c :: rest from e]
      exact hq

/-- A number that is not too long has few digits. -/
theorem length_decimal_le {n : Int} (h : Number.tooLongToWrite n = false) :
    (decimal n.natAbs).length ≤ Number.digitLimit := by
  refine (Nat.length_toDigits_le_iff (by decide) (by decide)).mpr ?_
  rw [Number.tooLongToWrite, Nat.pow_eq] at h
  generalize 10 ^ Number.digitLimit = limit at h ⊢
  exact Nat.lt_of_not_le (of_decide_eq_false h)

/-- The text of an integer, by its sign. -/
theorem integer_eq (n : Int) :
    integer n = if n < 0 then '-' :: decimal n.natAbs else decimal n.natAbs := by
  cases n with
  | ofNat n => rfl
  | negSucc n => simp [integer]

/-! ## Hexadecimal digits -/

/-- The last four hexadecimal digits, one by one. -/
theorem hexDigits_four (n : Nat) :
    hexDigits 4 n = [hexDigit (n / 4096 % 16), hexDigit (n / 256 % 16), hexDigit (n / 16 % 16),
      hexDigit (n % 16)] := by
  simp [hexDigits, Nat.div_div_eq_div_mul]

end Vigil.Text
