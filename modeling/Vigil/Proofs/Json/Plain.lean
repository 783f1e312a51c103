import Vigil.Proofs.Json.Spacing
import Vigil.Proofs.Text.Ascii
import Vigil.Proofs.Text.Digit

/-!
# What a written document looks like

`Plain` singles out the documents that are read back as they are written. The text of a plain
document is made of visible ASCII characters and spaces, and a scan that leaves out its string
literals meets no blank: what separates tokens is a single character.

* `escaped_escapeChar`: the ways in which a character is written.
* `Plain.visible`: every character of the text is visible ASCII or a space.
* `Plain.tight`: no blank stands outside a string literal.
-/

namespace Vigil

/-- No half of a surrogate pair stands alone in a text. -/
def LooseText.Whole (s : LooseText) : Prop := ∀ p ∈ s.points, ∃ c, p = .char c

theorem LooseText.whole_ofString (s : String) : (LooseText.ofString s).Whole := by
  intro p hp
  obtain ⟨c, -, rfl⟩ := List.mem_map.mp hp
  exact ⟨c, rfl⟩

namespace Json

/-- A document whose containers are nested `depth` deep at most, without doubles, halves of pairs,
integers that are too long and repeated keys. -/
inductive Plain : (depth : Nat) → Json → Prop
  | null {d} : Plain d .null
  | bool {d} (b : Bool) : Plain d (.bool b)
  | int {d n} (h : Number.tooLongToWrite n = false) : Plain d (.int n)
  | text {d s} (h : s.Whole) : Plain d (.text s)
  | array {d items} (h : ∀ v ∈ items, Plain d v) : Plain (d + 1) (.array items)
  | object {d fields} (hk : ∀ f ∈ fields, f.1.Whole) (hd : (fields.map Prod.fst).Nodup)
      (hv : ∀ f ∈ fields, Plain d f.2) : Plain (d + 1) (.object fields)

/-! ## What can be written -/

theorem writableItems_of_forall {items : List Json} (h : ∀ v ∈ items, writable v = true) :
    writableItems items = true := by
  induction items with
  | nil => rfl
  | cons v items ih =>
    have rest := ih fun w hw => h w (List.mem_cons_of_mem _ hw)
    exact Bool.and_eq_true_iff.mpr ⟨h v List.mem_cons_self, rest⟩

theorem writableFields_of_forall {fields : List (LooseText × Json)}
    (h : ∀ f ∈ fields, writable f.2 = true) : writableFields fields = true := by
  induction fields with
  | nil => rfl
  | cons f fields ih =>
    have rest := ih fun g hg => h g (List.mem_cons_of_mem _ hg)
    exact Bool.and_eq_true_iff.mpr ⟨h f List.mem_cons_self, rest⟩

/-- A plain document can be written. -/
theorem Plain.writable {d : Nat} {v : Json} (h : Plain d v) : writable v = true := by
  induction h with
  | null | bool | text => rfl
  | int hn => rw [Json.writable, hn, Bool.not_false]
  | array _ ih => exact writableItems_of_forall ih
  | object _ _ _ ih => exact writableFields_of_forall ih

/-! ## The pieces of a text -/

/-- A property of texts that holds of the pieces of a document and of pieces put together. -/
structure Piecewise (P : List Char → Prop) : Prop where
  nil : P []
  append : ∀ {s t}, P s → P t → P (s ++ t)
  mark : ∀ c ∈ ['[', ']', '{', '}', ',', ':'], P [c]
  null : P (scalar .null)
  bool : ∀ b, P (scalar (.bool b))
  integer : ∀ n, P (Text.integer n)
  quote : ∀ s, P (quote s)

namespace Piecewise

variable {P : List Char → Prop}

variable {o : Spacing}

theorem behindItem (h : Piecewise P) (hl : ∀ n, P (o.line n)) {items : List Json}
    (hi : ∀ v ∈ items, ∀ n, P (o.text n v)) (level : Nat) : P (o.behindItem level items) := by
  induction items with
  | nil => exact h.append (hl level) (h.mark ']' (by decide))
  | cons v items ih =>
    have rest := ih fun v hv => hi v (List.mem_cons_of_mem _ hv)
    have value := h.append (hi v List.mem_cons_self (level + 1)) rest
    exact h.append (h.mark ',' (by decide)) (h.append (hl (level + 1)) value)

theorem field (h : Piecewise P) (hc : P o.colon) (key : LooseText) {s : List Char} (hs : P s) :
    P (Json.quote key ++ ':' :: (o.colon ++ s)) :=
  h.append (h.quote key) (h.append (h.mark ':' (by decide)) (h.append hc hs))

theorem behindField (h : Piecewise P) (hl : ∀ n, P (o.line n)) (hc : P o.colon)
    {fields : List (LooseText × Json)} (hf : ∀ f ∈ fields, ∀ n, P (o.text n f.2)) (level : Nat) :
    P (o.behindField level fields) := by
  induction fields with
  | nil => exact h.append (hl level) (h.mark '}' (by decide))
  | cons f fields ih =>
    have rest := ih fun f hm => hf f (List.mem_cons_of_mem _ hm)
    have value := h.append (hf f List.mem_cons_self (level + 1)) rest
    exact h.append (h.mark ',' (by decide)) (h.append (hl (level + 1)) (h.field hc f.1 value))

/-- What holds piece by piece, and of the blanks, holds of a plain document. -/
theorem text (h : Piecewise P) (hl : ∀ n, P (o.line n)) (hc : P o.colon) {d : Nat} {v : Json}
    (hv : Plain d v) (level : Nat) : P (o.text level v) := by
  induction hv generalizing level with
  | null => exact h.null
  | bool b => exact h.bool b
  | int => exact h.integer _
  | text => exact h.quote _
  | @array _ items _ ih =>
    cases items with
    | nil => exact h.append (h.mark '[' (by decide)) (h.mark ']' (by decide))
    | cons v items =>
      have rest := h.behindItem hl (fun v hv => ih v (List.mem_cons_of_mem _ hv)) level
      have value := h.append (ih v List.mem_cons_self (level + 1)) rest
      exact h.append (h.mark '[' (by decide)) (h.append (hl (level + 1)) value)
  | @object _ fields _ _ _ ih =>
    cases fields with
    | nil => exact h.append (h.mark '{' (by decide)) (h.mark '}' (by decide))
    | cons f fields =>
      have rest := h.behindField hl hc (fun f hf => ih f (List.mem_cons_of_mem _ hf)) level
      have value := h.append (ih f List.mem_cons_self (level + 1)) rest
      exact h.append (h.mark '{' (by decide)) (h.append (hl (level + 1)) (h.field hc f.1 value))

/-- What holds piece by piece holds of the compact form of a plain document. -/
theorem compact (h : Piecewise P) {d : Nat} {v : Json} (hv : Plain d v) : P (compact v) := by
  rw [← Spacing.text_dense 0 v]
  exact h.text (fun _ => h.nil) h.nil hv 0

end Piecewise

/-! ## Visible characters -/

/-- A space or a visible ASCII character. -/
def Visible (c : Char) : Prop := 0x20 ≤ c.toNat ∧ c.toNat ≤ 0x7E

instance (c : Char) : Decidable (Visible c) := inferInstanceAs (Decidable (_ ∧ _))

/-- All characters of a text are spaces or visible. -/
def AllVisible (s : List Char) : Prop := ∀ c ∈ s, Visible c

instance (s : List Char) : Decidable (AllVisible s) := List.decidableBAll Visible s

theorem AllVisible.append {s t : List Char} (hs : AllVisible s) (ht : AllVisible t) :
    AllVisible (s ++ t) := fun c hc => (List.mem_append.mp hc).elim (hs c) (ht c)

theorem AllVisible.ascii {s : List Char} (h : AllVisible s) : Text.Ascii s := by
  intro c hc
  have := (h c hc).2
  omega

theorem AllVisible.flatMap {α : Type} {l : List α} {f : α → List Char}
    (h : ∀ a ∈ l, AllVisible (f a)) : AllVisible (l.flatMap f) := by
  intro c hc
  obtain ⟨a, ha, hc⟩ := List.mem_flatMap.mp hc
  exact h a ha c hc

theorem visible_integer (n : Int) : AllVisible (Text.integer n) := by
  have digits : AllVisible (Text.decimal n.natAbs) := fun c hc => by
    have digit := (Text.isAsciiDigit_iff c).mp (Text.isAsciiDigit_of_mem_decimal hc)
    exact ⟨by omega, by omega⟩
  rw [Text.integer_eq]
  split
  · exact .append (s := ['-']) (by decide) digits
  · exact digits

/-- What holds of the sixteen digits holds of the digits of an escape. -/
theorem forall_hexDigits {Q : Char → Prop} (h : ∀ d : Fin 16, Q (Text.hexDigit d)) (n : Nat) :
    ∀ c ∈ Text.hexDigits 4 n, Q c := by
  have digit (m : Nat) : Q (Text.hexDigit (m % 16)) := h ⟨m % 16, Nat.mod_lt m (by decide)⟩
  rw [Text.hexDigits_four]
  simp only [List.forall_mem_cons, digit, List.not_mem_nil, false_implies, implies_true, and_self]

theorem visible_unitEscape (n : Nat) : AllVisible (unitEscape n) :=
  .append (s := ['\\', 'u']) (by decide) (forall_hexDigits (by decide) n)

/-- How a character is written: an escape of one letter, the character itself, an escape of its
number, or escapes of the halves of its pair. -/
inductive Escaped (c : Char) : List Char → Prop
  | letter {e} (hv : Visible e) (hu : unescape? e = some c) : Escaped c ['\\', e]
  | plain (hv : Visible c) (hq : c ≠ '"') (hb : c ≠ '\\') : Escaped c [c]
  | unit (hn : c.toNat < 0x10000) : Escaped c (unitEscape c.toNat)
  | pair (hn : ¬c.toNat < 0x10000) : Escaped c
      (unitEscape (0xD800 + (c.toNat - 0x10000) / 0x400) ++
        unitEscape (0xDC00 + (c.toNat - 0x10000) % 0x400))

/-- Every character is written in one of the ways. -/
theorem escaped_escapeChar (c : Char) : Escaped c (escapeChar c) := by
  by_cases hl : c ∈ ['"', '\\', '\n', '\r', '\t', Char.ofNat 12, Char.ofNat 8]
  · simp only [List.mem_cons, List.not_mem_nil, or_false] at hl
    rcases hl with rfl | rfl | rfl | rfl | rfl | rfl | rfl <;> exact .letter (by decide) rfl
  · simp only [List.mem_cons, not_or] at hl
    obtain ⟨hq, hb, hn, hr, ht, hf, hbs, -⟩ := hl
    rw [escapeChar, if_neg hq, if_neg hb, if_neg hn, if_neg hr, if_neg ht, if_neg hf, if_neg hbs]
    by_cases hv : ' ' ≤ c ∧ c ≤ '~'
    · rw [if_pos hv]
      exact .plain hv hq hb
    · rw [if_neg hv]
      by_cases hn : c.toNat < 0x10000
      · rw [if_pos hn]
        exact .unit hn
      · rw [if_neg hn]
        exact .pair hn

theorem Escaped.visible {c : Char} {s : List Char} (h : Escaped c s) : AllVisible s := by
  cases h with
  | letter hv =>
    refine AllVisible.append (s := ['\\']) (by decide) fun d hd => ?_
    obtain rfl := List.mem_singleton.mp hd
    exact hv
  | plain hv =>
    intro d hd
    obtain rfl := List.mem_singleton.mp hd
    exact hv
  | unit => exact visible_unitEscape _
  | pair => exact .append (visible_unitEscape _) (visible_unitEscape _)

theorem visible_escapePoint (p : CodePoint) : AllVisible (escapePoint p) := by
  cases p with
  | half offset => exact visible_unitEscape _
  | char c => exact (escaped_escapeChar c).visible

theorem visible_quote (s : LooseText) : AllVisible (quote s) :=
  .append (s := ['"']) (by decide)
    (.append (.flatMap fun p _ => visible_escapePoint p) (by decide))

theorem piecewise_visible : Piecewise AllVisible where
  nil := List.forall_mem_nil _
  append := .append
  mark c hc := by
    simp only [List.mem_cons, List.not_mem_nil, or_false] at hc
    rcases hc with rfl | rfl | rfl | rfl | rfl | rfl <;> decide
  null := by decide
  bool b := by cases b <;> decide
  integer := visible_integer
  quote := visible_quote

/-- **The text of a plain document is visible ASCII.** -/
theorem Plain.visible {d : Nat} {v : Json} (h : Plain d v) : AllVisible (compact v) :=
  piecewise_visible.compact h

/-- What is visible or one of some other characters is so piece by piece. -/
theorem piecewise_visible_or (Q : Char → Prop) :
    Piecewise fun s => ∀ c ∈ s, Visible c ∨ Q c where
  nil := List.forall_mem_nil _
  append hs ht := fun c hc => (List.mem_append.mp hc).elim (hs c) (ht c)
  mark c hc := fun d hd => .inl (piecewise_visible.mark c hc d hd)
  null := fun c hc => .inl (piecewise_visible.null c hc)
  bool b := fun c hc => .inl (piecewise_visible.bool b c hc)
  integer n := fun c hc => .inl (visible_integer n c hc)
  quote s := fun c hc => .inl (visible_quote s c hc)

/-- The text of a plain document is in ASCII, whatever its blanks are. -/
theorem Plain.ascii {o : Spacing} {d : Nat} {v : Json} (h : Plain d v) (level : Nat) :
    Text.Ascii (o.text level v) := by
  intro c hc
  have shown := (piecewise_visible_or fun c => isSpace c = true).text
    (fun n c hc => .inr (o.line_blank n c hc)) (fun c hc => .inr (o.colon_blank c hc)) h level c hc
  simp only [isSpace, Bool.or_eq_true, decide_eq_true_eq, or_assoc] at shown
  rcases shown with ⟨-, visible⟩ | rfl | rfl | rfl | rfl
  · omega
  all_goals decide

/-- No carriage return stands in an indented document. -/
theorem Plain.no_return {d : Nat} {v : Json} (h : Plain d v) (level : Nat) :
    '\r' ∉ Spacing.lined.text level v := by
  have shown := (piecewise_visible_or (· = '\n')).text (o := Spacing.lined)
    (fun n c hc => (List.mem_cons.mp hc).elim .inr fun hc => .inl (by
      rw [List.eq_of_mem_replicate hc]
      decide))
    (fun c hc => .inl (by
      rw [List.mem_singleton.mp hc]
      decide)) h level
  intro hr
  have := shown _ hr
  revert this
  decide

/-! ## Outside string literals -/

/-- Where a scan of a text stands: outside string literals, in one, or behind a backslash in one. -/
inductive Scan where
  | outside
  | inside
  | behind
  deriving DecidableEq

/-- The scan takes one character. -/
def Scan.step : Scan → Char → Scan
  | .outside, c => if c = '"' then .inside else .outside
  | .inside, c => if c = '"' then .outside else if c = '\\' then .behind else .inside
  | .behind, _ => .inside

/-- The scan takes a text. -/
def Scan.run (scan : Scan) (s : List Char) : Scan := s.foldl Scan.step scan

/-- The characters that a scan meets outside string literals, opening quotes included. -/
def Scan.unquoted : Scan → List Char → List Char
  | _, [] => []
  | scan, c :: rest =>
    if scan = .outside then c :: unquoted (scan.step c) rest else unquoted (scan.step c) rest

theorem Scan.run_append (scan : Scan) (s t : List Char) :
    scan.run (s ++ t) = (scan.run s).run t := List.foldl_append

theorem Scan.unquoted_append (scan : Scan) (s t : List Char) :
    scan.unquoted (s ++ t) = scan.unquoted s ++ (scan.run s).unquoted t := by
  induction s generalizing scan with
  | nil => rfl
  | cons c s ih =>
    rw [List.cons_append, unquoted, unquoted, ih]
    split <;> rfl

/-- A text that closes its string literals and has no blank outside of them. -/
structure Tight (s : List Char) : Prop where
  closed : Scan.run .outside s = .outside
  solid : ∀ c ∈ Scan.unquoted .outside s, isSpace c = false

theorem Tight.append {s t : List Char} (hs : Tight s) (ht : Tight t) : Tight (s ++ t) where
  closed := by rw [Scan.run_append, hs.closed, ht.closed]
  solid c hc := by
    rw [Scan.unquoted_append, hs.closed] at hc
    exact (List.mem_append.mp hc).elim (hs.solid c) (ht.solid c)

/-- A text without quotes and blanks is tight. -/
theorem Tight.of_forall {s : List Char} (h : ∀ c ∈ s, c ≠ '"' ∧ isSpace c = false) : Tight s := by
  induction s with
  | nil => exact ⟨rfl, nofun⟩
  | cons c s ih =>
    obtain ⟨hq, hc⟩ := h c List.mem_cons_self
    have one : Tight [c] := by
      refine ⟨if_neg hq, fun d hd => ?_⟩
      obtain rfl : d = c := List.mem_singleton.mp hd
      exact hc
    exact one.append (ih fun d hd => h d (List.mem_cons_of_mem _ hd))

/-- A text that is checked to have no quotes and blanks is tight. -/
theorem Tight.of_all {s : List Char} (h : (s.all fun c => c != '"' && !isSpace c) = true) :
    Tight s := .of_forall fun c hc => by
  simpa using List.all_eq_true.mp h c hc

theorem isSpace_of_isAsciiDigit {c : Char} (h : Text.isAsciiDigit c = true) :
    isSpace c = false := by
  simp only [isSpace, Bool.or_eq_false_iff, decide_eq_false_iff_not]
  refine ⟨⟨⟨?_, ?_⟩, ?_⟩, ?_⟩ <;> (rintro rfl; cases h)

theorem tight_integer (n : Int) : Tight (Text.integer n) := by
  have digits : Tight (Text.decimal n.natAbs) := .of_forall fun c hc => by
    have digit := Text.isAsciiDigit_of_mem_decimal hc
    refine ⟨?_, isSpace_of_isAsciiDigit digit⟩
    rintro rfl
    cases digit
  rw [Text.integer_eq]
  split
  · exact .append (s := ['-']) (.of_all rfl) digits
  · exact digits

/-- A text that a scan inside a string literal passes without leaving it. -/
structure Inner (s : List Char) : Prop where
  stays : Scan.run .inside s = .inside
  unseen : Scan.unquoted .inside s = []

theorem Inner.append {s t : List Char} (hs : Inner s) (ht : Inner t) : Inner (s ++ t) where
  stays := by rw [Scan.run_append, hs.stays, ht.stays]
  unseen := by rw [Scan.unquoted_append, hs.stays, hs.unseen, ht.unseen]; rfl

theorem Inner.of_forall {s : List Char} (h : ∀ c ∈ s, c ≠ '"' ∧ c ≠ '\\') : Inner s := by
  induction s with
  | nil => exact ⟨rfl, rfl⟩
  | cons c s ih =>
    obtain ⟨hq, hb⟩ := h c List.mem_cons_self
    have step : Scan.step .inside c = .inside := by rw [Scan.step, if_neg hq, if_neg hb]
    have one : Inner [c] := ⟨step, by rw [Scan.unquoted, step]; rfl⟩
    exact one.append (ih fun d hd => h d (List.mem_cons_of_mem _ hd))

theorem inner_unitEscape (n : Nat) : Inner (unitEscape n) :=
  .append (s := ['\\', 'u']) ⟨rfl, rfl⟩ (.of_forall (forall_hexDigits (by decide) n))

theorem Escaped.inner {c : Char} {s : List Char} (h : Escaped c s) : Inner s := by
  cases h with
  | letter => exact ⟨rfl, rfl⟩
  | plain _ hq hb => exact .of_forall fun d hd => List.mem_singleton.mp hd ▸ ⟨hq, hb⟩
  | unit => exact inner_unitEscape _
  | pair => exact .append (inner_unitEscape _) (inner_unitEscape _)

theorem inner_escapePoint (p : CodePoint) : Inner (escapePoint p) := by
  cases p with
  | half offset => exact inner_unitEscape _
  | char c => exact (escaped_escapeChar c).inner

theorem tight_quote (s : LooseText) : Tight (quote s) := by
  have inner : Inner (s.points.flatMap escapePoint) := by
    induction s.points with
    | nil => exact ⟨rfl, rfl⟩
    | cons p points ih => exact .append (inner_escapePoint p) ih
  have text : quote s = ['"'] ++ (s.points.flatMap escapePoint ++ ['"']) := rfl
  refine ⟨?_, fun c hc => ?_⟩
  · rw [text, Scan.run_append, show Scan.run .outside ['"'] = .inside from rfl, Scan.run_append,
      inner.stays]
    rfl
  · rw [text, Scan.unquoted_append, show Scan.run .outside ['"'] = .inside from rfl,
      Scan.unquoted_append, inner.unseen, inner.stays] at hc
    obtain rfl : c = '"' := List.mem_singleton.mp hc
    rfl

theorem piecewise_tight : Piecewise Tight where
  nil := ⟨rfl, nofun⟩
  append := .append
  mark c hc := by
    simp only [List.mem_cons, List.not_mem_nil, or_false] at hc
    rcases hc with rfl | rfl | rfl | rfl | rfl | rfl <;> exact .of_all rfl
  null := .of_all rfl
  bool b := by cases b <;> exact .of_all rfl
  integer := tight_integer
  quote := tight_quote

/-- **No blank stands outside a string literal** in the text of a plain document. -/
theorem Plain.tight {d : Nat} {v : Json} (h : Plain d v) : Tight (compact v) :=
  piecewise_tight.compact h

end Json

end Vigil
