import Vigil.Proofs.Json.Plain

/-!
# What is written of a given value

A given value is a document or holds something that cannot be written. A document is written whole,
with a line for every field or item. What is put on paper of any other value ends where the writer
comes upon the first thing that cannot be written: what stands before it is there.

* `document?`: the document that a value is, if all of it can be written.
* `put_pieces`: a document is written whole, and what follows it behind it.
* `put_stops`: nothing that follows any other value is written.
* `put_fields_stops`: fields are written up to the first that is not a document's, and its beginning.
-/

namespace Vigil.Given

open Json (Spacing)

/-! ## Documents -/

mutual

/-- The document that a value is, nested as deep as the level, if all of it can be written. -/
def document? (level : Nat) : Given → Option Json
  | .null => some .null
  | .bool b => some (.bool b)
  | .int n => if Number.tooLongToWrite n then none else some (.int n)
  | .real x => some (.real x)
  | .text s => some (.text s)
  | .array items =>
    if items.isEmpty || level < depth then (items? (level + 1) items).map .array else none
  | .object fields =>
    if fields.isEmpty || level < depth then (fields? (level + 1) fields).map .object else none
  | .foreign _ => none

/-- The documents that items are, if they all can be written. -/
def items? (level : Nat) : List Given → Option (List Json)
  | [] => some []
  | value :: rest =>
    (document? level value).bind fun doc => (items? level rest).map fun docs => doc :: docs

/-- The documents that fields are, if they all can be written. -/
def fields? (level : Nat) :
    List (Except Mishap LooseText × Given) → Option (List (LooseText × Json))
  | [] => some []
  | (.error _, _) :: _ => none
  | (.ok key, value) :: rest =>
    (document? level value).bind fun doc => (fields? level rest).map fun docs => (key, doc) :: docs

end

/-- The text of items at a level, the first of them behind the lead. -/
def itemsText (level : Nat) : (lead : List Char) → List Json → List Char
  | _, [] => []
  | lead, doc :: docs =>
    lead ++ Spacing.lined.text level doc ++ itemsText level (',' :: newLine level) docs

/-- The text of fields at a level, the first of them behind the lead. -/
def fieldsText (level : Nat) : (lead : List Char) → List (LooseText × Json) → List Char
  | _, [] => []
  | lead, (key, doc) :: docs =>
    lead ++ Json.quote key ++ [':', ' '] ++ Spacing.lined.text level doc ++
      fieldsText level (',' :: newLine level) docs

theorem behindItem_lined (level : Nat) (docs : List Json) :
    Spacing.lined.behindItem level docs =
      itemsText (level + 1) (',' :: newLine (level + 1)) docs ++ newLine level ++ [']'] := by
  induction docs with
  | nil => rfl
  | cons doc docs ih =>
    show ',' :: (newLine (level + 1) ++ (Spacing.lined.text (level + 1) doc ++
      Spacing.lined.behindItem level docs)) = _
    rw [ih]
    simp [itemsText]

theorem behindField_lined (level : Nat) (docs : List (LooseText × Json)) :
    Spacing.lined.behindField level docs =
      fieldsText (level + 1) (',' :: newLine (level + 1)) docs ++ newLine level ++ ['}'] := by
  induction docs with
  | nil => rfl
  | cons entry docs ih =>
    obtain ⟨key, doc⟩ := entry
    show ',' :: (newLine (level + 1) ++ (Json.quote key ++ ':' :: ([' '] ++
      (Spacing.lined.text (level + 1) doc ++ Spacing.lined.behindField level docs)))) = _
    rw [ih]
    simp [fieldsText]

theorem text_array (level : Nat) (doc : Json) (docs : List Json) :
    Spacing.lined.text level (.array (doc :: docs)) =
      itemsText (level + 1) ('[' :: newLine (level + 1)) (doc :: docs) ++ newLine level ++ [']'] := by
  show '[' :: (newLine (level + 1) ++ (Spacing.lined.text (level + 1) doc ++
    Spacing.lined.behindItem level docs)) = _
  rw [behindItem_lined]
  simp [itemsText]

theorem text_object (level : Nat) (entry : LooseText × Json) (docs : List (LooseText × Json)) :
    Spacing.lined.text level (.object (entry :: docs)) =
      '{' :: newLine (level + 1) ++ fieldsText (level + 1) [] (entry :: docs) ++ newLine level ++
        ['}'] := by
  obtain ⟨key, doc⟩ := entry
  show '{' :: (newLine (level + 1) ++ (Json.quote key ++ ':' :: ([' '] ++
    (Spacing.lined.text (level + 1) doc ++ Spacing.lined.behindField level docs)))) = _
  rw [behindField_lined]
  simp [fieldsText]

/-! ## What is put on paper -/

theorem put_ok (s : List Char) (more : List (Except Mishap (List Char))) :
    put (.ok s :: more) = (s ++ (put more).1, (put more).2) := rfl

theorem put_error (why : Mishap) (more : List (Except Mishap (List Char))) :
    put (.error why :: more) = ([], some why) := rfl

/-- Some pieces put a text on paper, and what follows them behind it. -/
def Puts (pieces : List (Except Mishap (List Char))) (text : List Char) : Prop :=
  ∀ more, put (pieces ++ more) = (text ++ (put more).1, (put more).2)

/-- Some pieces put a text on paper and nothing of what follows them, for a reason. -/
def Stops (pieces : List (Except Mishap (List Char))) (text : List Char) (why : Mishap) : Prop :=
  ∀ more, put (pieces ++ more) = (text, some why)

section

variable {p q : List (Except Mishap (List Char))} {s t : List Char} {why : Mishap}

theorem Puts.nil : Puts [] [] := fun _ => rfl

theorem Puts.one (s : List Char) : Puts [.ok s] s := put_ok s

theorem Puts.append (hp : Puts p s) (hq : Puts q t) : Puts (p ++ q) (s ++ t) := fun more => by
  rw [List.append_assoc, hp, hq, List.append_assoc]

theorem Puts.stops (hp : Puts p s) (hq : Stops q t why) : Stops (p ++ q) (s ++ t) why :=
  fun more => by rw [List.append_assoc, hp, hq]

theorem Stops.append (hp : Stops p s why) (q : List (Except Mishap (List Char))) :
    Stops (p ++ q) s why := fun more => by rw [List.append_assoc, hp]

theorem Stops.one (why : Mishap) : Stops [.error why] [] why := put_error why

theorem Puts.put_eq (hp : Puts p s) : put p = (s, none) := by
  have all := hp []
  rwa [List.append_nil, show put [] = ([], none) from rfl, List.append_nil] at all

theorem Stops.put_eq (hp : Stops p s why) : put p = (s, some why) := by
  have all := hp []
  rwa [List.append_nil] at all

end

section

variable {level : Nat} {lead : List Char}

/-- There is room for a container: it is empty, or it is not nested too deep. -/
theorem level_lt_of_room {α : Type} {a : α} {rest : List α}
    (room : ((a :: rest).isEmpty || decide (level < depth)) = true) : level < depth := by
  simpa using room

/-- An array is written whole if its items are. -/
theorem puts_array {items : List Given} {docs : List Json}
    (room : (items.isEmpty || decide (level < depth)) = true)
    (hd : items? (level + 1) items = some docs)
    (inner : Puts (itemPieces (level + 1) ('[' :: newLine (level + 1)) items)
      (itemsText (level + 1) ('[' :: newLine (level + 1)) docs)) :
    Puts (pieces level lead (.array items)) (lead ++ Spacing.lined.text level (.array docs)) := by
  cases items with
  | nil =>
    obtain rfl := Option.some.inj hd
    exact .one _
  | cons value rest =>
    obtain ⟨doc, -, hr⟩ := Option.bind_eq_some_iff.mp hd
    obtain ⟨docs, -, rfl⟩ := Option.map_eq_some_iff.mp hr
    rw [pieces, if_neg (by simp), if_pos (level_lt_of_room room), text_array]
    have whole := ((Puts.one lead).append inner).append (Puts.one (newLine level ++ [']']))
    simpa using whole

/-- An object is written whole if its fields are. -/
theorem puts_object {fields : List (Except Mishap LooseText × Given)}
    {docs : List (LooseText × Json)}
    (room : (fields.isEmpty || decide (level < depth)) = true)
    (hd : fields? (level + 1) fields = some docs)
    (inner : Puts (fieldPieces (level + 1) [] fields) (fieldsText (level + 1) [] docs)) :
    Puts (pieces level lead (.object fields)) (lead ++ Spacing.lined.text level (.object docs)) := by
  cases fields with
  | nil =>
    obtain rfl := Option.some.inj hd
    exact .one _
  | cons field rest =>
    obtain ⟨key | key, value⟩ := field
    · cases hd
    · obtain ⟨doc, -, hr⟩ := Option.bind_eq_some_iff.mp hd
      obtain ⟨docs, -, rfl⟩ := Option.map_eq_some_iff.mp hr
      rw [pieces, if_neg (by simp), if_pos (level_lt_of_room room), text_object]
      have whole := ((Puts.one (lead ++ '{' :: newLine (level + 1))).append inner).append
        (Puts.one (newLine level ++ ['}']))
      simpa using whole

end

mutual

/-- **A document is written whole** behind its lead. -/
theorem put_pieces (level : Nat) (lead : List Char) {doc : Json} : ∀ value : Given,
    document? level value = some doc →
      Puts (pieces level lead value) (lead ++ Spacing.lined.text level doc)
  | .null => fun h => by
    obtain rfl := Option.some.inj h
    exact .one _
  | .bool _ => fun h => by
    obtain rfl := Option.some.inj h
    exact .one _
  | .real _ => fun h => by
    obtain rfl := Option.some.inj h
    exact .one _
  | .text _ => fun h => by
    obtain rfl := Option.some.inj h
    exact .one _
  | .int n => fun h => by
    rw [document?] at h
    split at h
    · cases h
    · rename_i short
      obtain rfl := Option.some.inj h
      rw [pieces, integerPiece, if_neg short]
      exact .one _
  | .array items => fun h => by
    rw [document?] at h
    split at h
    · obtain ⟨docs, hd, rfl⟩ := Option.map_eq_some_iff.mp h
      exact puts_array ‹_› hd (put_itemPieces _ _ items hd)
    · cases h
  | .object fields => fun h => by
    rw [document?] at h
    split at h
    · obtain ⟨docs, hd, rfl⟩ := Option.map_eq_some_iff.mp h
      exact puts_object ‹_› hd (put_fieldPieces _ _ fields hd)
    · cases h
  | .foreign _ => fun h => by
    rw [document?] at h
    cases h

theorem put_itemPieces (level : Nat) (lead : List Char) {docs : List Json} :
    ∀ items : List Given, items? level items = some docs →
      Puts (itemPieces level lead items) (itemsText level lead docs)
  | [] => fun h => by
    obtain rfl := Option.some.inj h
    exact .nil
  | value :: rest => fun h => by
    obtain ⟨doc, hd, more⟩ := Option.bind_eq_some_iff.mp h
    obtain ⟨docs, hr, rfl⟩ := Option.map_eq_some_iff.mp more
    exact (put_pieces level lead value hd).append (put_itemPieces level _ rest hr)

theorem put_fieldPieces (level : Nat) (lead : List Char) {docs : List (LooseText × Json)} :
    ∀ fields : List (Except Mishap LooseText × Given), fields? level fields = some docs →
      Puts (fieldPieces level lead fields) (fieldsText level lead docs)
  | [] => fun h => by
    obtain rfl := Option.some.inj h
    exact .nil
  | (.error _, _) :: _ => fun h => by
    rw [fields?] at h
    cases h
  | (.ok key, value) :: rest => fun h => by
    obtain ⟨doc, hd, more⟩ := Option.bind_eq_some_iff.mp h
    obtain ⟨docs, hr, rfl⟩ := Option.map_eq_some_iff.mp more
    have whole := ((Puts.one (lead ++ Json.quote key ++ [':', ' '])).append
      (put_pieces level [] value hd)).append (put_fieldPieces level (',' :: newLine level) rest hr)
    simpa [fieldPieces, fieldsText] using whole

end

/-! ## What stops the writing -/

/-- A container that is nested too deep ends the writing behind its lead. -/
theorem stops_tooDeep (lead : List Char) : Stops [.ok lead, .error tooDeep] lead tooDeep := by
  have stops := (Puts.one lead).stops (Stops.one tooDeep)
  rwa [List.append_nil] at stops

/-- An array stops the writing if one of its items does, or if it is nested too deep. -/
theorem stops_array {level : Nat} {lead : List Char} {items : List Given}
    (h : document? level (.array items) = none)
    (inner : items? (level + 1) items = none →
      ∃ text why, Stops (itemPieces (level + 1) ('[' :: newLine (level + 1)) items) text why) :
    ∃ text why, Stops (pieces level lead (.array items)) text why := by
  cases items with
  | nil => exact nomatch h
  | cons value rest =>
    rw [pieces, if_neg (by simp)]
    rw [document?] at h
    split at h
    · obtain ⟨text, why, stops⟩ := inner (Option.map_eq_none_iff.mp h)
      rw [if_pos (level_lt_of_room ‹_›)]
      exact ⟨_, _, ((Puts.one lead).stops stops).append _⟩
    · rename_i full
      rw [if_neg fun room => full (by simpa using room)]
      exact ⟨_, _, stops_tooDeep lead⟩

/-- An object stops the writing if one of its fields does, or if it is nested too deep. -/
theorem stops_object {level : Nat} {lead : List Char}
    {fields : List (Except Mishap LooseText × Given)}
    (h : document? level (.object fields) = none)
    (inner : fields? (level + 1) fields = none →
      ∃ text why, Stops (fieldPieces (level + 1) [] fields) text why) :
    ∃ text why, Stops (pieces level lead (.object fields)) text why := by
  cases fields with
  | nil => exact nomatch h
  | cons field rest =>
    rw [pieces, if_neg (by simp)]
    rw [document?] at h
    split at h
    · obtain ⟨text, why, stops⟩ := inner (Option.map_eq_none_iff.mp h)
      rw [if_pos (level_lt_of_room ‹_›)]
      exact ⟨_, _, ((Puts.one _).stops stops).append _⟩
    · rename_i full
      rw [if_neg fun room => full (by simpa using room)]
      exact ⟨_, _, stops_tooDeep lead⟩

mutual

/-- **Nothing that follows any other value is written.** -/
theorem put_stops (level : Nat) (lead : List Char) : ∀ value : Given,
    document? level value = none → ∃ text why, Stops (pieces level lead value) text why
  | .null => fun h => by
    rw [document?] at h
    cases h
  | .bool _ => fun h => by
    rw [document?] at h
    cases h
  | .real _ => fun h => by
    rw [document?] at h
    cases h
  | .text _ => fun h => by
    rw [document?] at h
    cases h
  | .int n => fun h => by
    rw [document?] at h
    split at h
    · rename_i long
      rw [pieces, integerPiece, if_pos long]
      exact ⟨_, _, .one _⟩
    · cases h
  | .array items => fun h => stops_array h (items_stop _ _ items)
  | .object fields => fun h => stops_object h (fields_stop _ _ fields)
  | .foreign why => fun _ => by
    rw [pieces]
    exact ⟨_, _, (Puts.one lead).stops (Stops.one why)⟩

theorem items_stop (level : Nat) (lead : List Char) : ∀ items : List Given,
    items? level items = none → ∃ text why, Stops (itemPieces level lead items) text why
  | [] => fun h => by
    rw [items?] at h
    cases h
  | value :: rest => fun h => by
    rw [items?] at h
    rw [itemPieces]
    cases hd : document? level value with
    | none =>
      obtain ⟨text, why, stops⟩ := put_stops level lead value hd
      exact ⟨_, _, stops.append _⟩
    | some doc =>
      rw [hd, Option.bind_some, Option.map_eq_none_iff] at h
      obtain ⟨text, why, stops⟩ := items_stop level (',' :: newLine level) rest h
      exact ⟨_, _, (put_pieces level lead value hd).stops stops⟩

theorem fields_stop (level : Nat) (lead : List Char) :
    ∀ fields : List (Except Mishap LooseText × Given),
      fields? level fields = none → ∃ text why, Stops (fieldPieces level lead fields) text why
  | [] => fun h => by
    rw [fields?] at h
    cases h
  | (.error why, _) :: _ => fun _ => by
    rw [fieldPieces]
    exact ⟨_, _, .one why⟩
  | (.ok key, value) :: rest => fun h => by
    rw [fields?] at h
    rw [fieldPieces]
    cases hd : document? level value with
    | none =>
      obtain ⟨text, why, stops⟩ := put_stops level [] value hd
      exact ⟨_, _, ((Puts.one _).stops stops).append _⟩
    | some doc =>
      rw [hd, Option.bind_some, Option.map_eq_none_iff] at h
      obtain ⟨text, why, stops⟩ := fields_stop level (',' :: newLine level) rest h
      exact ⟨_, _, ((Puts.one _).append (put_pieces level [] value hd)).stops stops⟩

end

/-- **Fields are written up to the first value that is not a document**, and that as far as it
can be written. -/
theorem put_fields_stops {level : Nat} {key : LooseText} {value : Given} {text : List Char}
    {why : Mishap} (later : List (Except Mishap LooseText × Given))
    (stops : Stops (pieces level [] value) text why) :
    ∀ {before : List (Except Mishap LooseText × Given)} {docs : List (LooseText × Json)}
      (lead : List Char), fields? level before = some docs →
      Stops (fieldPieces level lead (before ++ (.ok key, value) :: later))
        (fieldsText level lead docs ++ (if docs = [] then lead else ',' :: newLine level) ++
          Json.quote key ++ [':', ' '] ++ text) why := by
  intro before
  induction before with
  | nil =>
    intro docs lead hb
    obtain rfl := Option.some.inj hb
    have all := ((Puts.one (lead ++ Json.quote key ++ [':', ' '])).stops stops).append
      (fieldPieces level (',' :: newLine level) later)
    simpa [fieldPieces, fieldsText] using all
  | cons field before ih =>
    intro docs lead hb
    obtain ⟨name | name, value'⟩ := field
    · cases hb
    · obtain ⟨doc, hd, more⟩ := Option.bind_eq_some_iff.mp hb
      obtain ⟨docs, hr, rfl⟩ := Option.map_eq_some_iff.mp more
      have first := (Puts.one (lead ++ Json.quote name ++ [':', ' '])).append
        (put_pieces level [] value' hd)
      have all := first.stops (ih (',' :: newLine level) hr)
      rw [ite_self] at all
      simpa [fieldPieces, fieldsText] using all

/-! ## Documents that are given -/

theorem ofFields_eq_map (fields : List (LooseText × Json)) :
    ofFields fields = fields.map fun f => (.ok f.1, ofJson f.2) := by
  induction fields with
  | nil => rfl
  | cons field rest ih =>
    obtain ⟨key, value⟩ := field
    rw [ofFields, ih, List.map_cons]

/-- Items that each are a document are all of them. -/
theorem items?_ofItems {level : Nat} {items : List Json}
    (h : ∀ v ∈ items, document? level (ofJson v) = some v) :
    items? level (ofItems items) = some items := by
  induction items with
  | nil => rfl
  | cons value rest ih =>
    rw [ofItems, items?, h value List.mem_cons_self,
      ih fun v hv => h v (List.mem_cons_of_mem _ hv)]
    rfl

/-- Fields that each hold a document are all of them. -/
theorem fields?_ofFields {level : Nat} {fields : List (LooseText × Json)}
    (h : ∀ f ∈ fields, document? level (ofJson f.2) = some f.2) :
    fields? level (ofFields fields) = some fields := by
  induction fields with
  | nil => rfl
  | cons field rest ih =>
    obtain ⟨key, value⟩ := field
    rw [ofFields, fields?, h (key, value) List.mem_cons_self,
      ih fun f hf => h f (List.mem_cons_of_mem _ hf)]
    rfl

/-- A plain document is the one that it gives to be written, where there is room for it. -/
theorem document?_ofJson {d : Nat} {doc : Json} (h : Json.Plain d doc) {level : Nat}
    (room : level + d ≤ depth) : document? level (ofJson doc) = some doc := by
  induction h generalizing level with
  | null => rfl
  | bool b => rfl
  | int short => rw [ofJson, document?, if_neg (by simp [short])]
  | text => rfl
  | @array d items _ ih =>
    have inside : level + 1 + d ≤ depth := by omega
    have deep : level < depth := by omega
    rw [ofJson, document?, items?_ofItems fun v hv => ih v hv inside, if_pos (by simp [deep])]
    rfl
  | @object d fields _ _ _ ih =>
    have inside : level + 1 + d ≤ depth := by omega
    have deep : level < depth := by omega
    rw [ofJson, document?, fields?_ofFields fun f hf => ih f hf inside, if_pos (by simp [deep])]
    rfl

/-- **A document is written whole**, with a line for every field or item. -/
theorem indented_eq {value : Given} {doc : Json} (h : document? 0 value = some doc) :
    value.indented = (Spacing.lined.text 0 doc, none) :=
  (put_pieces 0 [] value h).put_eq

end Vigil.Given
