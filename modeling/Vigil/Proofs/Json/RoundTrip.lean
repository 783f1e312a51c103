import Vigil.Proofs.Json.Members
import Vigil.Proofs.Json.Plain
import Vigil.Proofs.Json.Scalars
import Vigil.Proofs.Json.Strings
import Vigil.Text.Line

/-!
# Written documents are read back

A document is read back as it was written, whatever blanks it was written with, unless it has
something that is written like something else or refused: a double, a half of a pair, an integer
that is too long, a key that is repeated, or more nesting than may be read. `Plain` says that it has
none of these.

* `readValue_text`: a plain value is read back with what follows it.
* `read_text`: a plain document is read back; `read_compact` and `read_lined` are its two forms.
-/

namespace Vigil.Json

/-! ## Where a value starts -/

theorem skip_cons {c : Char} (h : isSpace c = false) (s : List Char) : skip (c :: s) = c :: s := by
  rw [skip, List.dropWhile_cons_of_neg (by simp [h])]

theorem skip_blank {blanks : List Char} (h : ∀ c ∈ blanks, isSpace c = true) (s : List Char) :
    skip (blanks ++ s) = skip s := List.dropWhile_append_of_pos h

/-- A text that starts with no blank and ends no array. -/
def Starts (s : List Char) : Prop := ∃ c tail, s = c :: tail ∧ isSpace c = false ∧ c ≠ ']'

theorem Starts.append {s : List Char} (h : Starts s) (rest : List Char) : Starts (s ++ rest) := by
  obtain ⟨c, tail, rfl, hc⟩ := h
  exact ⟨c, tail ++ rest, rfl, hc⟩

theorem Starts.skip {s : List Char} (h : Starts s) : skip s = s := by
  obtain ⟨c, tail, rfl, hc, -⟩ := h
  exact skip_cons hc tail

theorem starts_integer (n : Int) : Starts (Text.integer n) := by
  rcases integer_head n with ⟨c, tail, e, digit⟩ | ⟨c, tail, e, -⟩
  · refine ⟨c, tail, e, isSpace_of_isAsciiDigit digit, ?_⟩
    rintro rfl
    cases digit
  · exact ⟨'-', c :: tail, e, rfl, by decide⟩

theorem starts_quote (s : LooseText) : Starts (quote s) := ⟨_, _, rfl, rfl, by decide⟩

variable {o : Spacing} {d : Nat}

theorem Plain.starts {v : Json} (h : Plain d v) (level : Nat) : Starts (o.text level v) := by
  cases h with
  | null => exact ⟨_, _, rfl, rfl, by decide⟩
  | bool b => cases b <;> exact ⟨_, _, rfl, rfl, by decide⟩
  | int h => exact starts_integer _
  | text h => exact starts_quote _
  | @array _ items => cases items <;> exact ⟨_, _, rfl, rfl, by decide⟩
  | @object _ fields => cases fields <;> exact ⟨_, _, rfl, rfl, by decide⟩

/-! ## Values -/

/-- Whatever may follow it, a written value is read back, given fuel for its length. -/
def Reads (o : Spacing) (depth level : Nat) (v : Json) : Prop :=
  ∀ (fuel : Nat) (rest : List Char), Closes rest → (o.text level v).length ≤ fuel →
    readValue (some Number.digitLimit) fuel depth (o.text level v ++ rest) = .ok (v, rest)

variable {level : Nat}

theorem text_int (n : Int) : o.text level (.int n) = Text.integer n := rfl

theorem text_text (s : LooseText) : o.text level (.text s) = quote s := rfl

theorem reads_null : Reads o d level .null := by
  rintro (_ | fuel) rest - hf
  · cases hf
  · rfl

theorem reads_bool (b : Bool) : Reads o d level (.bool b) := by
  rintro (_ | fuel) rest - hf
  · cases b <;> cases hf
  · cases b <;> rfl

theorem reads_int {n : Int} (hn : Number.tooLongToWrite n = false) : Reads o d level (.int n) := by
  rintro (_ | fuel) rest hr hf
  · obtain ⟨c, tail, e, -⟩ := starts_integer n
    rw [text_int, e] at hf
    cases hf
  · have plain : ∀ c tail, Text.integer n = c :: tail → c ≠ '"' ∧ c ≠ '{' ∧ c ≠ '[' := by
      intro c tail e
      rcases integer_head n with ⟨c', _, e', digit⟩ | ⟨c', _, e', -⟩
      · obtain ⟨rfl, -⟩ := List.cons.inj (e.symm.trans e')
        refine ⟨?_, ?_, ?_⟩ <;> (rintro rfl; cases digit)
      · obtain ⟨rfl, -⟩ := List.cons.inj (e.symm.trans e')
        decide
    obtain ⟨c, tail, e, -⟩ := starts_integer n
    obtain ⟨hq, ho, ha⟩ := plain c tail e
    have read := readScalar_integer hn hr
    rw [text_int]
    rw [e, List.cons_append] at read ⊢
    simp only [readValue, hq, ho, ha, if_false, read]

theorem reads_text {s : LooseText} (hw : s.Whole) : Reads o d level (.text s) := by
  rintro (_ | fuel) rest - hf
  · rw [text_text, quote] at hf
    cases hf
  · obtain ⟨behind, e, read⟩ := quote_eq_cons hw rest
    rw [text_text]
    rw [e] at read ⊢
    simp only [readValue, if_true, read]

/-! ## Items -/

/-- What stands behind an item may follow it. -/
theorem closes_behindItem (items : List Json) (rest : List Char) :
    Closes (o.behindItem level items ++ rest) := by
  cases items with
  | nil =>
    rw [Spacing.behindItem, List.append_assoc]
    exact .of_blank (o.line_blank level) (.of_cons (.inr (.inl rfl)))
  | cons w items => exact .of_cons (.inl rfl)

/-- Written items are read back to the end of their array. -/
theorem readItems_text {v : Json} {items : List Json}
    (hs : ∀ w ∈ v :: items, Starts (o.text (level + 1) w))
    (hr : ∀ w ∈ v :: items, Reads o d (level + 1) w) (fuel : Nat) (done : List Json)
    (rest : List Char)
    (hf : (o.text (level + 1) v).length + (o.behindItem level items).length ≤ fuel) :
    readItems (some Number.digitLimit) fuel d done
        (o.text (level + 1) v ++ (o.behindItem level items ++ rest)) =
      .ok (.array (done.reverse ++ v :: items), rest) := by
  induction items generalizing v fuel done with
  | nil =>
    simp only [Spacing.behindItem, List.length_append, List.length_cons] at hf
    obtain ⟨fuel, rfl⟩ := Nat.exists_eq_succ_of_ne_zero (show fuel ≠ 0 by omega)
    have read := hr v List.mem_cons_self fuel (o.behindItem level [] ++ rest)
      (closes_behindItem [] rest) (by omega)
    rw [readItems, read]
    simp [Spacing.behindItem, skip_blank (o.line_blank level), skip_cons (c := ']') rfl]
  | cons w items ih =>
    simp only [Spacing.behindItem, List.length_append, List.length_cons] at hf
    obtain ⟨fuel, rfl⟩ := Nat.exists_eq_succ_of_ne_zero (show fuel ≠ 0 by omega)
    have read := hr v List.mem_cons_self fuel (o.behindItem level (w :: items) ++ rest)
      (closes_behindItem (w :: items) rest) (by omega)
    have start := (hs w (List.mem_cons_of_mem _ List.mem_cons_self)).append
      (o.behindItem level items ++ rest)
    rw [readItems, read]
    simp only [Spacing.behindItem, List.cons_append, List.append_assoc, skip_cons (c := ',') rfl,
      skip_blank (o.line_blank (level + 1)), start.skip]
    rw [ih (fun x hx => hs x (List.mem_cons_of_mem _ hx))
      (fun x hx => hr x (List.mem_cons_of_mem _ hx)) _ _ (by omega)]
    simp

theorem reads_array {items : List Json} (hs : ∀ v ∈ items, Starts (o.text (level + 1) v))
    (hr : ∀ v ∈ items, Reads o d (level + 1) v) : Reads o (d + 1) level (.array items) := by
  rintro (_ | fuel) rest - hf
  · cases items <;> simp [Spacing.text] at hf
  · cases items with
    | nil => rfl
    | cons v items =>
      simp only [Spacing.text, List.length_cons, List.length_append] at hf
      have read := readItems_text hs hr fuel [] rest (by omega)
      obtain ⟨c, tail, e, hc, hclose⟩ := (hs v List.mem_cons_self).append
        (o.behindItem level items ++ rest)
      rw [Spacing.text, List.cons_append, List.append_assoc, List.append_assoc, readValue]
      rw [e] at read ⊢
      simp only [Char.reduceEq, if_false, if_true, skip_blank (o.line_blank (level + 1)),
        skip_cons hc]
      split
      · rename_i heq
        exact absurd (List.cons.inj heq).1 hclose
      · exact read

/-! ## Members -/

/-- What stands behind a field may follow its value. -/
theorem closes_behindField (fields : List (LooseText × Json)) (rest : List Char) :
    Closes (o.behindField level fields ++ rest) := by
  cases fields with
  | nil =>
    rw [Spacing.behindField, List.append_assoc]
    exact .of_blank (o.line_blank level) (.of_cons (.inr (.inr rfl)))
  | cons f fields => exact .of_cons (.inl rfl)

/-- A written field is a member. -/
theorem startsMember_text {key : LooseText} {v : Json} (hk : key.Whole)
    (hs : Starts (o.text level v)) (hr : Reads o d level v) {behind : List Char}
    (hb : Closes behind) {fuel : Nat} (hf : (o.text level v).length ≤ fuel) :
    StartsMember (some Number.digitLimit) fuel d
      (quote key ++ ':' :: (o.colon ++ (o.text level v ++ behind))) (key, v) behind := by
  obtain ⟨tail, e, read⟩ := quote_eq_cons hk (':' :: (o.colon ++ (o.text level v ++ behind)))
  refine ⟨tail, _, _, e, read, skip_cons rfl _, ?_⟩
  rw [skip_blank o.colon_blank, (hs.append behind).skip]
  exact hr fuel behind hb hf

/-- Written fields are members, up to the end of their object. -/
theorem startsMembers_text {key : LooseText} {v : Json} {fields : List (LooseText × Json)}
    (hk : ∀ f ∈ (key, v) :: fields, f.1.Whole)
    (hs : ∀ f ∈ (key, v) :: fields, Starts (o.text (level + 1) f.2))
    (hr : ∀ f ∈ (key, v) :: fields, Reads o d (level + 1) f.2) (fuel : Nat) (rest : List Char)
    (hf : (o.text (level + 1) v).length + (o.behindField level fields).length ≤ fuel) :
    StartsMembers (some Number.digitLimit) d fuel (quote key ++
      ':' :: (o.colon ++ (o.text (level + 1) v ++ (o.behindField level fields ++ rest))))
      ((key, v) :: fields) rest := by
  induction fields generalizing key v fuel with
  | nil =>
    simp only [Spacing.behindField, List.length_append, List.length_cons] at hf
    obtain ⟨fuel, rfl⟩ := Nat.exists_eq_succ_of_ne_zero (show fuel ≠ 0 by omega)
    refine .last (startsMember_text (hk _ List.mem_cons_self) (hs _ List.mem_cons_self)
      (hr _ List.mem_cons_self) (closes_behindField [] rest) (by dsimp only; omega)) ?_
    rw [Spacing.behindField, List.append_assoc, skip_blank (o.line_blank level)]
    exact skip_cons rfl _
  | cons f fields ih =>
    obtain ⟨next, w⟩ := f
    simp only [Spacing.behindField, List.length_append, List.length_cons] at hf
    obtain ⟨fuel, rfl⟩ := Nat.exists_eq_succ_of_ne_zero (show fuel ≠ 0 by omega)
    have text : o.behindField level ((next, w) :: fields) ++ rest =
        ',' :: (o.line (level + 1) ++ (quote next ++
          ':' :: (o.colon ++ (o.text (level + 1) w ++ (o.behindField level fields ++ rest))))) := by
      simp [Spacing.behindField]
    have further := ih (fun x hx => hk x (List.mem_cons_of_mem _ hx))
      (fun x hx => hs x (List.mem_cons_of_mem _ hx))
      (fun x hx => hr x (List.mem_cons_of_mem _ hx)) fuel (by omega)
    refine .more (startsMember_text (hk _ List.mem_cons_self) (hs _ List.mem_cons_self)
      (hr _ List.mem_cons_self) (closes_behindField ((next, w) :: fields) rest)
      (by dsimp only; omega)) (by rw [text]; exact skip_cons rfl _) ?_
    rw [skip_blank (o.line_blank (level + 1)), ((starts_quote next).append _).skip]
    exact further

theorem reads_object {fields : List (LooseText × Json)} (hk : ∀ f ∈ fields, f.1.Whole)
    (hd : (fields.map Prod.fst).Nodup) (hs : ∀ f ∈ fields, Starts (o.text (level + 1) f.2))
    (hr : ∀ f ∈ fields, Reads o d (level + 1) f.2) : Reads o (d + 1) level (.object fields) := by
  rintro (_ | fuel) rest - hf
  · cases fields <;> simp [Spacing.text] at hf
  · rw [readValue_object_iff]
    cases fields with
    | nil => exact ⟨_, rfl, .inl ⟨skip_cons rfl _, rfl⟩⟩
    | cons f fields =>
      obtain ⟨key, v⟩ := f
      simp only [Spacing.text, List.length_cons, List.length_append] at hf
      have text : o.text level (.object ((key, v) :: fields)) ++ rest =
          '{' :: (o.line (level + 1) ++ (quote key ++
            ':' :: (o.colon ++ (o.text (level + 1) v ++ (o.behindField level fields ++ rest))))) := by
        simp [Spacing.text]
      have members := startsMembers_text hk hs hr fuel rest (by omega)
      refine ⟨_, text, .inr ⟨(key, v) :: fields, ?_, (fieldsOf_of_nodup hd).symm⟩⟩
      rw [skip_blank (o.line_blank (level + 1)), ((starts_quote key).append _).skip]
      exact members

/-! ## Documents -/

/-- **A plain value is read back**, whatever may follow it. -/
theorem readValue_text {v : Json} (h : Plain d v) (level : Nat) : Reads o d level v := by
  induction h generalizing level with
  | null => exact reads_null
  | bool b => exact reads_bool b
  | int hn => exact reads_int hn
  | text hw => exact reads_text hw
  | array h ih => exact reads_array (fun v hv => (h v hv).starts _) fun v hv => ih v hv _
  | object hk hd hv ih =>
    exact reads_object hk hd (fun f hf => (hv f hf).starts _) fun f hf => ih f hf _

/-- **A plain document is read back**, whatever its blanks are. -/
theorem read_text {v : Json} (h : Plain Limits.standard.depth v) : read (o.text 0 v) = .ok v := by
  have value := readValue_text (o := o) h 0 (2 * (o.text 0 v).length + 2) [] closes_nil (by omega)
  rw [List.append_nil] at value
  have all : readAll .standard (o.text 0 v) = .ok v := by
    rw [readAll, (h.starts 0).skip, show Limits.standard.digits = some Number.digitLimit from rfl,
      value]
    rfl
  have mark : (o.text 0 v).head? ≠ some (Char.ofNat 0xFEFF) := fun e => by
    have ascii := h.ascii 0 _ (List.mem_of_mem_head? e)
    revert ascii
    decide
  rw [read, readWith, if_neg mark, all]

/-- **A plain document in compact form is read back.** -/
theorem read_compact {v : Json} (h : Plain Limits.standard.depth v) : read (compact v) = .ok v := by
  rw [← Spacing.text_dense 0 v]
  exact read_text h

/-- **A plain document with a line for every field or item is read back.** No line end in it is
turned into another one. -/
theorem read_lined {v : Json} (h : Plain Limits.standard.depth v) :
    read (Text.unixLines (Spacing.lined.text 0 v)) = .ok v := by
  rw [Text.unixLines_of_not_mem (h.no_return 0)]
  exact read_text h

end Vigil.Json
