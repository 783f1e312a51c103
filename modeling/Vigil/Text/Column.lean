/-!
# Columns

Texts filled up with blanks or zeros to a width, counted in characters. A longer text is left
as it is.
-/

namespace Vigil.Text

/-- The text filled up at its right end. -/
def padRight (width : Nat) (s : String) : String :=
  s ++ String.ofList (List.replicate (width - s.length) ' ')

/-- The digits of a number filled up with zeros in front. -/
def zeroPadded (width n : Nat) : String :=
  let digits := toString n
  String.ofList (List.replicate (width - digits.length) '0') ++ digits

/-- The digits of an integer filled up with zeros between the sign and them; the sign counts. -/
def zeroPaddedInt (width : Nat) : Int → String
  | .ofNat n => zeroPadded width n
  | .negSucc n => "-" ++ zeroPadded (width - 1) (n + 1)

end Vigil.Text
