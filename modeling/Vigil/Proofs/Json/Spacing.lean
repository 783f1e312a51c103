import Vigil.Json.Given

/-!
# The blanks of a written document

The two forms in which documents are written are one text with different blanks: a `Spacing` says
which blanks stand in front of the lines of a container and behind the colon of a field, and
`Spacing.text` is the document with them. What is proved of a text with any blanks holds of both
forms.

* `text_dense`: without blanks it is the compact form.
* `lined`: a line for every field or item, as a file has them.
-/

namespace Vigil.Json

theorem compactItems_cons_cons (v w : Json) (items : List Json) :
    compactItems (v :: w :: items) = compact v ++ ',' :: compactItems (w :: items) := rfl

theorem compactFields_cons_cons (key : LooseText) (v : Json) (f : LooseText × Json)
    (fields : List (LooseText × Json)) :
    compactFields ((key, v) :: f :: fields) =
      quote key ++ ':' :: compact v ++ ',' :: compactFields (f :: fields) := rfl

/-- The blanks in front of the lines of a container at each level, and those behind a colon. -/
structure Spacing where
  line : (level : Nat) → List Char
  colon : List Char
  line_blank : ∀ level, ∀ c ∈ line level, isSpace c = true
  colon_blank : ∀ c ∈ colon, isSpace c = true

namespace Spacing

/-- No blanks. -/
def dense : Spacing := ⟨fun _ => [], [], nofun, nofun⟩

theorem newLine_blank (level : Nat) : ∀ c ∈ Given.newLine level, isSpace c = true := by
  intro c hc
  rcases List.mem_cons.mp hc with rfl | hc
  · rfl
  · rw [List.eq_of_mem_replicate hc]
    rfl

/-- A line for every field or item. -/
def lined : Spacing :=
  ⟨Given.newLine, [' '], newLine_blank, List.forall_mem_singleton.mpr rfl⟩

mutual

/-- A document with the blanks; its last line stands at `level`. -/
def text (o : Spacing) (level : Nat) : Json → List Char
  | .array [] => ['[', ']']
  | .object [] => ['{', '}']
  | .array (value :: rest) =>
    '[' :: (o.line (level + 1) ++ (o.text (level + 1) value ++ o.behindItem level rest))
  | .object ((key, value) :: rest) =>
    '{' :: (o.line (level + 1) ++ (quote key ++ ':' :: (o.colon ++
      (o.text (level + 1) value ++ o.behindField level rest))))
  | value => scalar value

/-- What stands behind an item of an array at `level`: the items that follow it, and the end. -/
def behindItem (o : Spacing) (level : Nat) : List Json → List Char
  | [] => o.line level ++ [']']
  | value :: rest =>
    ',' :: (o.line (level + 1) ++ (o.text (level + 1) value ++ o.behindItem level rest))

/-- What stands behind a field of an object at `level`: the fields that follow it, and the end. -/
def behindField (o : Spacing) (level : Nat) : List (LooseText × Json) → List Char
  | [] => o.line level ++ ['}']
  | (key, value) :: rest =>
    ',' :: (o.line (level + 1) ++ (quote key ++ ':' :: (o.colon ++
      (o.text (level + 1) value ++ o.behindField level rest))))

end

/-! ## The compact form -/

mutual

/-- **Without blanks a document is in compact form.** -/
theorem text_dense (level : Nat) : ∀ value : Json, dense.text level value = compact value
  | .null => rfl
  | .bool true => rfl
  | .bool false => rfl
  | .int _ => rfl
  | .real _ => rfl
  | .text _ => rfl
  | .array [] => rfl
  | .object [] => rfl
  | .array (value :: rest) => by
    show '[' :: (dense.text (level + 1) value ++ dense.behindItem level rest) = _
    rw [text_dense (level + 1) value, behindItem_dense level value rest]
    rfl
  | .object ((key, value) :: rest) => by
    show '{' :: (quote key ++ ':' ::
      (dense.text (level + 1) value ++ dense.behindField level rest)) = _
    rw [text_dense (level + 1) value, behindField_dense level key value rest]
    rfl

theorem behindItem_dense (level : Nat) (before : Json) : ∀ rest : List Json,
    compact before ++ dense.behindItem level rest = compactItems (before :: rest) ++ [']']
  | [] => rfl
  | value :: rest => by
    show compact before ++ ',' :: (dense.text (level + 1) value ++ dense.behindItem level rest) = _
    rw [text_dense (level + 1) value, behindItem_dense level value rest, compactItems_cons_cons]
    simp

theorem behindField_dense (level : Nat) (name : LooseText) (before : Json) :
    ∀ rest : List (LooseText × Json),
      quote name ++ ':' :: (compact before ++ dense.behindField level rest) =
        compactFields ((name, before) :: rest) ++ ['}']
  | [] => by simp [behindField, compactFields, dense]
  | (key, value) :: rest => by
    show quote name ++ ':' :: (compact before ++ ',' ::
      (quote key ++ ':' :: (dense.text (level + 1) value ++ dense.behindField level rest))) = _
    rw [text_dense (level + 1) value, behindField_dense level key value rest,
      compactFields_cons_cons]
    simp

end

end Spacing

end Vigil.Json
