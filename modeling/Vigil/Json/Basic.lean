import Vigil.Text.Loose

/-!
# Documents

The values of a JSON document. Whole numbers and doubles are different values, and an object keeps
its fields in the order in which their keys first came. Texts and keys can hold halves of surrogate
pairs, since a document can name them.
-/

namespace Vigil

/-- A JSON value. -/
inductive Json where
  | null
  | bool (b : Bool)
  | int (n : Int)
  | real (x : Float)
  | text (s : LooseText)
  | array (items : List Json)
  | object (fields : List (LooseText × Json))
  deriving Inhabited

namespace Json

/-- The kinds of value that error texts tell apart. -/
inductive Kind where
  | null
  | bool
  | int
  | real
  | text
  | array
  | object
  deriving Repr, DecidableEq

/-- The kind of a value. -/
def kind : Json → Kind
  | .null => .null
  | .bool _ => .bool
  | .int _ => .int
  | .real _ => .real
  | .text _ => .text
  | .array _ => .array
  | .object _ => .object

/-- What a kind is called in error texts. -/
def Kind.label : Kind → String
  | .null => "NoneType"
  | .bool => "bool"
  | .int => "int"
  | .real => "float"
  | .text => "str"
  | .array => "list"
  | .object => "dict"

/-- The value of a key. -/
def get? (key : LooseText) : List (LooseText × Json) → Option Json
  | [] => none
  | (k, v) :: rest => if k = key then some v else get? key rest

/-- The fields with a value put under a key: in its place if the key is there, else at the end. -/
def put (key : LooseText) (value : Json) : List (LooseText × Json) → List (LooseText × Json)
  | [] => [(key, value)]
  | (k, v) :: rest => if k = key then (k, value) :: rest else (k, v) :: put key value rest

/-- The fields of an object from its members as they were written: of a repeated key the last
value counts. -/
def fieldsOf (members : List (LooseText × Json)) : List (LooseText × Json) :=
  members.foldl (fun fields m => put m.1 m.2 fields) []

theorem get?_put (key k : LooseText) (value : Json) (fields : List (LooseText × Json)) :
    get? k (put key value fields) = if k = key then some value else get? k fields := by
  induction fields with
  | nil => grind [put, get?]
  | cons f rest ih => grind [put, get?]

end Json

end Vigil
