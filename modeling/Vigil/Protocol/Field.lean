import Vigil.Fault.Error

/-!
# Fields of a record

Reading one field of a record by its key. A missing key gives the default. A key with a value of
the wrong kind is a fault, but for keys that may be null.
-/

namespace Vigil.Field

/-- Reads a text. Null counts as missing if `nullable`. -/
def text (fields : List (LooseText × Json)) (key : String) (default : LooseText := "")
    (nullable : Bool := false) : Except FieldFault LooseText :=
  match Json.get? key fields with
  | none => .ok default
  | some (.text s) => .ok s
  | some .null => if nullable then .ok default else .error (.wrongKind key .text .null)
  | some value => .error (.wrongKind key .text value.kind)

/-- Reads a flag. -/
def flag (fields : List (LooseText × Json)) (key : String) (default : Bool := false) :
    Except FieldFault Bool :=
  match Json.get? key fields with
  | none => .ok default
  | some (.bool b) => .ok b
  | some value => .error (.wrongKind key .flag value.kind)

/-- Reads a whole number; a double loses what stands behind its point. Null counts as missing if
`nullable`. -/
def number (fields : List (LooseText × Json)) (key : String) (default : Int := 0)
    (nullable : Bool := false) : Except FieldFault Int :=
  match Json.get? key fields with
  | none => .ok default
  | some (.int n) => .ok n
  | some (.real x) => (Number.truncate x).mapError fun _ => .notFinite key x
  | some .null => if nullable then .ok default else .error (.wrongKind key .number .null)
  | some value => .error (.wrongKind key .number value.kind)

end Vigil.Field
