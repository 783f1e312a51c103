import Vigil.Text.Column
import Vigil.Text.Quoted

/-!
# Texts of documents

A document can name, by its number, half of a surrogate pair whose other half is missing. No
character stands for it, yet it is kept, told apart from other halves, written back by its number
and shown by its number where a text is quoted. So the texts of documents are lists of code points,
of which strings are those without halves. UTF-8 has no bytes for a half: a text in which one stands
is torn, and can neither be printed nor be put into a file.

* `ofString_inj`: different strings are different texts.
* `quoted_ofString`: a string is quoted as a string.
* `string_cases`: a text is torn, or it is a string.
-/

namespace Vigil

/-- A character, or half of a surrogate pair that stands alone: 0xD800 and the offset. -/
inductive CodePoint where
  | char (c : Char)
  | half (offset : Fin 0x800)
  deriving Repr, DecidableEq

/-- The code point of a number below 0x10000. -/
def CodePoint.ofUnit (unit : Nat) : CodePoint :=
  if h : 0xD800 ≤ unit ∧ unit < 0xE000 then .half ⟨unit - 0xD800, by omega⟩
  else .char (Char.ofNat unit)

/-- The character in the place of a code point: the replacement character in that of a half. -/
def CodePoint.shown : CodePoint → Char
  | .char c => c
  | .half _ => Char.ofNat 0xFFFD

/-- Whether a code point is a half. -/
def CodePoint.isHalf : CodePoint → Bool
  | .char _ => false
  | .half _ => true

/-- A text in which halves of surrogate pairs may stand alone. -/
structure LooseText where
  points : List CodePoint
  deriving Repr, DecidableEq, Inhabited

/-- Why a text cannot be encoded: the first half in it, where it stands, and how many more halves
stand right behind it. -/
structure TornFault where
  offset : Fin 0x800
  position : Nat
  more : Nat
  deriving Repr, DecidableEq

/-- The fault in words. -/
def TornFault.message (f : TornFault) : String :=
  let code := String.ofList (Text.hexDigits 4 (0xD800 + f.offset))
  let place :=
    if f.more = 0 then "character '\\u" ++ code ++ s!"' in position {f.position}"
    else s!"characters in position {f.position}-{f.position + f.more}"
  s!"'utf-8' codec can't encode {place}: surrogates not allowed"

namespace LooseText

/-- A string as a text. -/
def ofString (s : String) : LooseText := ⟨s.toList.map .char⟩

instance : Coe String LooseText := ⟨ofString⟩

instance : Append LooseText := ⟨fun s t => ⟨s.points ++ t.points⟩⟩

/-- How many code points stand in a text. -/
def length (s : LooseText) : Nat := s.points.length

/-- The text filled up with blanks at its right end. -/
def padRight (width : Nat) (s : LooseText) : LooseText :=
  s ++ ofString (String.ofList (List.replicate (width - s.length) ' '))

/-- The text as a string, with the replacement character for every half. -/
def render (s : LooseText) : String := String.ofList (s.points.map CodePoint.shown)

/-- Half of a surrogate pair stands alone in the text. -/
def Torn (s : LooseText) : Prop := ∃ p ∈ s.points, p.isHalf

instance : DecidablePred Torn := fun s => inferInstanceAs (Decidable (∃ p ∈ s.points, p.isHalf))

/-- The characters of code points of which the first one has this position. -/
def charactersFrom (position : Nat) : List CodePoint → Except TornFault (List Char)
  | [] => .ok []
  | .char c :: rest => (charactersFrom (position + 1) rest).map (c :: ·)
  | .half offset :: rest => .error ⟨offset, position, (rest.takeWhile (·.isHalf)).length⟩

/-- The text as a string, or why it is none. -/
def string (s : LooseText) : Except TornFault String :=
  (charactersFrom 0 s.points).map String.ofList

/-- Whether nothing stands in a text. -/
def isEmpty (s : LooseText) : Bool := s.points.isEmpty

/-- One code point of a quoted text. -/
def quotedPoint (quote : Char) : CodePoint → List Char
  | .char c => Text.quotedChar quote c
  | .half offset => '\\' :: 'u' :: Text.hexDigits 4 (0xD800 + offset)

/-- The text between quotes. -/
def quotedChars (s : LooseText) : List Char :=
  let quote := Text.quoteFor (s.points.map CodePoint.shown)
  quote :: s.points.flatMap (quotedPoint quote) ++ [quote]

/-- The text between quotes, as a string. -/
def quoted (s : LooseText) : String := String.ofList (quotedChars s)

/-! ## Strings among texts -/

theorem map_shown_char (cs : List Char) :
    (cs.map CodePoint.char).map CodePoint.shown = cs := by
  simp [Function.comp_def, CodePoint.shown]

/-- A string is shown as it is. -/
@[simp] theorem render_ofString (s : String) : (ofString s).render = s := by
  simp only [render, ofString, map_shown_char, String.ofList_toList]

/-- Different strings are different texts. -/
@[simp] theorem ofString_inj {s t : String} : ofString s = ofString t ↔ s = t :=
  ⟨fun h => by simpa using congrArg render h, fun h => h ▸ rfl⟩

/-- A string is quoted as a string. -/
theorem quoted_ofString (s : String) : (ofString s).quoted = Text.quotedString s := by
  simp only [quoted, quotedChars, ofString, map_shown_char, Text.quotedString, Text.quoted,
    List.flatMap_map, quotedPoint]

/-- Nothing stands in a string only if it is the empty one. -/
theorem isEmpty_ofString (s : String) : (ofString s).isEmpty = decide (s = "") := by
  rw [Bool.eq_iff_iff]
  simp [isEmpty, ofString]

/-! ## Texts one behind the other -/

theorem points_append (s t : LooseText) : (s ++ t).points = s.points ++ t.points := rfl

theorem render_append (s t : LooseText) : (s ++ t).render = s.render ++ t.render := by
  simp only [render, points_append, List.map_append, String.ofList_append]

/-- A text is filled up as the string in its place is. -/
theorem render_padRight (width : Nat) (s : LooseText) :
    (s.padRight width).render = Text.padRight width s.render := by
  have same : s.render.length = s.length := by
    simp [render, length]
  rw [padRight, render_append, render_ofString, Text.padRight, same]

/-! ## Torn texts -/

theorem torn_append {s t : LooseText} : (s ++ t).Torn ↔ s.Torn ∨ t.Torn := by
  simp only [Torn, points_append, List.mem_append, or_and_right, exists_or]

/-- A string is not torn. -/
theorem not_torn_ofString (s : String) : ¬(ofString s).Torn := by
  rintro ⟨p, hp, half⟩
  obtain ⟨c, -, rfl⟩ := List.mem_map.mp hp
  cases half

/-- Nothing is not torn. -/
theorem not_torn_of_isEmpty {s : LooseText} (h : s.isEmpty) : ¬s.Torn := by
  rintro ⟨p, hp, -⟩
  rw [List.isEmpty_iff.mp h] at hp
  cases hp

theorem torn_padRight {width : Nat} {s : LooseText} : (s.padRight width).Torn ↔ s.Torn := by
  rw [padRight, torn_append, or_iff_left (not_torn_ofString _)]

theorem charactersFrom_cases (position : Nat) (points : List CodePoint) :
    ((∃ p ∈ points, p.isHalf) ∧ ∃ fault, charactersFrom position points = .error fault) ∨
      (¬∃ p ∈ points, p.isHalf) ∧
        charactersFrom position points = .ok (points.map CodePoint.shown) := by
  induction points generalizing position with
  | nil => exact .inr ⟨fun ⟨_, h, _⟩ => (nomatch h), rfl⟩
  | cons p rest ih =>
    cases p with
    | half offset => exact .inl ⟨⟨_, List.mem_cons_self, rfl⟩, _, rfl⟩
    | char c =>
      rcases ih (position + 1) with ⟨⟨q, hq, half⟩, fault, e⟩ | ⟨whole, e⟩
      · refine .inl ⟨⟨q, List.mem_cons_of_mem _ hq, half⟩, fault, ?_⟩
        rw [charactersFrom, e]
        rfl
      · refine .inr ⟨?_, ?_⟩
        · rintro ⟨q, hq, half⟩
          rcases List.mem_cons.mp hq with rfl | hq
          · cases half
          · exact whole ⟨q, hq, half⟩
        · rw [charactersFrom, e]
          rfl

/-- **A text is torn, or it is a string.** -/
theorem string_cases (s : LooseText) :
    (s.Torn ∧ ∃ fault, s.string = .error fault) ∨ ¬s.Torn ∧ s.string = .ok s.render := by
  rcases charactersFrom_cases 0 s.points with ⟨torn, fault, e⟩ | ⟨whole, e⟩
  · refine .inl ⟨torn, fault, ?_⟩
    rw [string, e]
    rfl
  · refine .inr ⟨whole, ?_⟩
    rw [string, e]
    rfl

@[simp] theorem string_ofString (s : String) : (ofString s).string = .ok s := by
  rcases string_cases (ofString s) with ⟨torn, -⟩ | ⟨-, e⟩
  · exact absurd torn (not_torn_ofString s)
  · rw [e, render_ofString]

/-- The first half is the one that is told. -/
example : string ⟨[.char 'a', .half 0, .half 1, .char 'b', .half 2]⟩ = .error ⟨0, 1, 1⟩ := rfl

end LooseText

end Vigil
