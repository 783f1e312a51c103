import Vigil.Proofs.Console.Printing
import Vigil.Proofs.Protocol.Skipped

/-!
# Sheets of entries

What the console prints of entries is a sheet: a head, a text for every entry, the error of the
entry that was skipped last, and a foot. Here it is told what stands on the lines of a sheet,
whatever the texts of the supervisor hold.

* `Face`: what is shown of an entry, and what its first line tells.
* `Shows`: printed texts show these entries and this warning, line by line.
* `Shows.of_texts`: sheets show what they are made of.
-/

namespace Vigil.Console

open Text

/-! ## Lines -/

/-- The line starts as that of an entry does. -/
def IsEntry (line : String) : Prop := "  - ".toList <+: line.toList

/-- The line starts as the warning does. -/
def IsWarning (line : String) : Prop := "WARNING: ".toList <+: line.toList

instance : DecidablePred IsEntry := fun line =>
  inferInstanceAs (Decidable ("  - ".toList <+: line.toList))

instance : DecidablePred IsWarning := fun line =>
  inferInstanceAs (Decidable ("WARNING: ".toList <+: line.toList))

/-- The line is neither that of an entry nor the warning. -/
def IsFrame (line : String) : Prop := ¬IsEntry line ∧ ¬IsWarning line

instance : DecidablePred IsFrame := fun line =>
  inferInstanceAs (Decidable (¬IsEntry line ∧ ¬IsWarning line))

theorem IsEntry.not_isWarning {line : String} (h : IsEntry line) : ¬IsWarning line := by
  intro hw
  have marks : "  - ".toList <+: "WARNING: ".toList :=
    List.prefix_of_prefix_length_le h hw (by decide)
  revert marks
  decide

/-- What a text starts with, it starts with if more stands behind it. -/
theorem prefix_left {mark s t : String} (h : mark.toList <+: s.toList) :
    mark.toList <+: (s ++ t).toList := by
  rw [String.toList_append]
  exact h.trans (List.prefix_append _ _)

theorem isWarning_warning (fault : ProtocolFault) : IsWarning (warning fault) := by
  have mark : "WARNING: ".toList <+: "WARNING: some entries were skipped: ".toList := by decide
  exact prefix_left mark

/-! ## Entries -/

section Parts

variable {part s t : String}

theorem infix_left (h : part.toList <:+: s.toList) : part.toList <:+: (s ++ t).toList := by
  rw [String.toList_append]
  exact h.trans (List.prefix_append _ _).isInfix

theorem infix_right (h : part.toList <:+: t.toList) : part.toList <:+: (s ++ t).toList := by
  rw [String.toList_append]
  exact h.trans (List.suffix_append _ _).isInfix

theorem infix_padRight {width : Nat} (h : part.toList <:+: s.toList) :
    part.toList <:+: (padRight width s).toList := infix_left h

end Parts

/-- What is shown of an entry that has a row. -/
structure Face where
  text : String
  /-- What the text starts with. -/
  label : String
  /-- The texts of the entry that stand in the label: its id and its name. -/
  named : List String
  /-- The texts of the entry that stand behind it. -/
  beside : List String
  starts : label.toList <+: text.toList
  entry : IsEntry label
  tells : ∀ t ∈ named, t.toList <:+: label.toList
  unbroken_label : (∀ t ∈ named, Unbroken t) → Unbroken label
  unbroken_text : (∀ t ∈ named ++ beside, Unbroken t) → Unbroken text

/-- What the line of an item starts with. -/
def itemLabel (i : Item) : String :=
  s!"  - {padRight 24 i.id.render} : {i.name.render} | "

/-- What stands behind it. -/
def itemRest (i : Item) : String :=
  i.exePath.render ++ (if i.args.isEmpty then "" else " " ++ i.args.render) ++
    s!" | timeout {i.heartbeatTimeout}ms | {watchLabel i.enabled}"

theorem render_itemLine (i : Item) : (itemLine i).render = itemLabel i ++ itemRest i := by
  have args : (if i.args.isEmpty then (LooseText.ofString "") else " " ++ i.args).render =
      if i.args.isEmpty then "" else " " ++ i.args.render := by
    split
    · exact LooseText.render_ofString _
    · rw [LooseText.render_append, LooseText.render_ofString]
  simp only [itemLine, LooseText.render_append, LooseText.render_ofString,
    LooseText.render_padRight, args, itemLabel, itemRest, String.append_assoc]
  rfl

theorem isEntry_itemLabel (i : Item) : IsEntry (itemLabel i) := by
  simp only [IsEntry, itemLabel, String.toList_append, List.append_assoc]
  exact List.prefix_append _ _

theorem unbroken_watchLabel (enabled : Bool) : Unbroken (watchLabel enabled) := by
  cases enabled <;> decide

theorem unbroken_itemLabel {i : Item} (id : Unbroken i.id.render) (name : Unbroken i.name.render) :
    Unbroken (itemLabel i) := by
  simp +decide only [itemLabel, unbroken_append, unbroken_toString, unbroken_padRight, id, name]

theorem unbroken_itemRest {i : Item} (exePath : Unbroken i.exePath.render)
    (args : Unbroken i.args.render) : Unbroken (itemRest i) := by
  have watch := unbroken_watchLabel i.enabled
  unfold itemRest
  split <;>
    simp +decide only [unbroken_append, unbroken_toString, unbroken_int, exePath, args, watch]

/-- What is shown of an item. -/
def itemFace (i : Item) : Face where
  text := (itemLine i).render
  label := itemLabel i
  named := [i.id.render, i.name.render]
  beside := [i.exePath.render, i.args.render]
  starts := by
    rw [render_itemLine]
    exact prefix_left List.prefix_rfl
  entry := isEntry_itemLabel i
  tells := by
    have id : i.id.render.toList <:+: (itemLabel i).toList :=
      infix_left (infix_left (infix_left (infix_right (infix_padRight List.infix_rfl))))
    have name : i.name.render.toList <:+: (itemLabel i).toList :=
      infix_left (infix_right List.infix_rfl)
    exact List.forall_mem_cons.mpr ⟨id, List.forall_mem_singleton.mpr name⟩
  unbroken_label h := unbroken_itemLabel (h _ (by simp)) (h _ (by simp))
  unbroken_text h := by
    rw [render_itemLine]
    exact unbroken_append.mpr ⟨unbroken_itemLabel (h _ (by simp)) (h _ (by simp)),
      unbroken_itemRest (h _ (by simp)) (h _ (by simp))⟩

theorem render_statusLabel (p : ProcessStatus) :
    (statusLabel p).render =
      "  - " ++ padRight 40 (p.name.render ++ " (" ++ p.id.render ++ ")") := by
  simp only [statusLabel, LooseText.render_append, LooseText.render_padRight,
    LooseText.render_ofString]

theorem isEntry_statusLabel (p : ProcessStatus) : IsEntry (statusLabel p).render := by
  rw [render_statusLabel]
  exact prefix_left List.prefix_rfl

theorem unbroken_statusLabel {p : ProcessStatus} (id : Unbroken p.id.render)
    (name : Unbroken p.name.render) : Unbroken (statusLabel p).render := by
  rw [render_statusLabel]
  simp +decide only [unbroken_append, unbroken_padRight, id, name]

theorem unbroken_heartbeatAge {now : Float} {last : Int} {age : String}
    (h : heartbeatAge now last = .ok age) : Unbroken age := by
  unfold heartbeatAge at h
  split at h
  · cases h
    decide
  · split at h
    · cases h
    · cases h
      exact unbroken_append.mpr ⟨unbroken_fixed _ _, by decide⟩

/-- What stands behind the label of a process holds no line feed. -/
theorem statusLine_eq_ok {now : Float} {p : ProcessStatus} {line : LooseText}
    (h : statusLine now p = .ok line) :
    ∃ rest : String, line = statusLabel p ++ rest ∧ Unbroken rest := by
  obtain ⟨age, aged, h⟩ := exists_of_bind h
  cases h
  have process : Unbroken (if p.processId = 0 then "-" else toString p.processId) := by
    split
    · decide
    · exact unbroken_int _
  have alive : Unbroken (if p.isAlive then "ALIVE" else "DEAD") := by split <;> decide
  have heartbeat : Unbroken (if p.isHeartbeatOk then "OK" else "MISSED") := by split <;> decide
  have age := unbroken_heartbeatAge aged
  have watch := unbroken_watchLabel p.enabled
  refine ⟨_, rfl, ?_⟩
  simp +decide only [unbroken_append, unbroken_toString, unbroken_padRight, unbroken_int, process,
    alive, heartbeat, age, watch]

/-- The text of a process starts with its label, and holds no other text of the reply. -/
theorem statusText_label (now : Float) (p : ProcessStatus) :
    ∃ rest, statusText now p = (statusLabel p).render ++ rest ∧ Unbroken rest := by
  unfold statusText
  cases e : statusLine now p with
  | ok line =>
    obtain ⟨rest, rfl, unbroken⟩ := statusLine_eq_ok e
    refine ⟨rest, ?_, unbroken⟩
    show (statusLabel p ++ LooseText.ofString rest).render = _
    rw [LooseText.render_append, LooseText.render_ofString]
  | error m => exact ⟨"", String.append_empty.symm, by decide⟩

/-- What is shown of the status of a process at a time. -/
def statusFace (now : Float) (p : ProcessStatus) : Face where
  text := statusText now p
  label := (statusLabel p).render
  named := [p.id.render, p.name.render]
  beside := []
  starts := by
    obtain ⟨rest, e, -⟩ := statusText_label now p
    rw [e]
    exact prefix_left List.prefix_rfl
  entry := isEntry_statusLabel p
  tells := by
    rw [render_statusLabel]
    have id : p.id.render.toList <:+:
        ("  - " ++ padRight 40 (p.name.render ++ " (" ++ p.id.render ++ ")")).toList :=
      infix_right (infix_padRight (infix_left (infix_right List.infix_rfl)))
    have name : p.name.render.toList <:+:
        ("  - " ++ padRight 40 (p.name.render ++ " (" ++ p.id.render ++ ")")).toList :=
      infix_right (infix_padRight (infix_left (infix_left (infix_left List.infix_rfl))))
    exact List.forall_mem_cons.mpr ⟨id, List.forall_mem_singleton.mpr name⟩
  unbroken_label h := unbroken_statusLabel (h _ (by simp)) (h _ (by simp))
  unbroken_text h := by
    obtain ⟨rest, e, unbroken⟩ := statusText_label now p
    rw [e]
    exact unbroken_append.mpr ⟨unbroken_statusLabel (h _ (by simp)) (h _ (by simp)), unbroken⟩

/-- The first line of an entry is known as one, and starts with the label if the id and the name
hold no line feed. -/
theorem Face.exists_first_line (f : Face) :
    ∃ first more, printedLines f.text = first :: more ∧ IsEntry first ∧
      ((∀ t ∈ f.named, Unbroken t) → f.label.toList <+: first.toList) := by
  obtain ⟨first, more, e, starts, -⟩ := Text.exists_first_line f.text
  exact ⟨first, more, e, starts _ (by decide) (f.entry.trans f.starts),
    fun h => starts _ (f.unbroken_label h) f.starts⟩

/-! ## Sheets -/

/-- The texts show these entries and this warning: their lines are a block for every entry, the
warning, and a frame. -/
structure Shows (texts : List String) (faces : List Face) (skipped : Option ProtocolFault) :
    Prop where
  /-- The blocks stand there in order, and the warning behind them. -/
  layout : ∃ head foot, (∀ line ∈ head ++ foot, IsFrame line) ∧ lines (unlines texts) =
    head ++ (faces.flatMap fun f => printedLines f.text) ++ warnings skipped ++ foot
  /-- A block starts with a line that starts with the label of the entry. -/
  first : ∀ f ∈ faces, ∃ first more, printedLines f.text = first :: more ∧ IsEntry first ∧
    ((∀ t ∈ f.named, Unbroken t) → f.label.toList <+: first.toList)
  /-- Every entry has a line of its own, no other line looks like one, and none like the warning but
  the warning, if none of the texts shown holds a line feed. -/
  exact : (∀ f ∈ faces, ∀ t ∈ f.named ++ f.beside, Unbroken t) →
    (lines (unlines texts)).filter IsEntry = faces.map Face.text ∧
      (lines (unlines texts)).filter IsWarning = warnings skipped

theorem filter_isEntry_frame {frame : List String} (h : ∀ line ∈ frame, IsFrame line) :
    frame.filter IsEntry = [] :=
  List.filter_eq_nil_iff.mpr fun line hl => by simpa using (h line hl).1

theorem filter_isWarning_frame {frame : List String} (h : ∀ line ∈ frame, IsFrame line) :
    frame.filter IsWarning = [] :=
  List.filter_eq_nil_iff.mpr fun line hl => by simpa using (h line hl).2

/-- Blocks of one line each. -/
theorem flatMap_printedLines {faces : List Face}
    (h : ∀ f ∈ faces, ∀ t ∈ f.named ++ f.beside, Unbroken t) :
    (faces.flatMap fun f => printedLines f.text) = faces.map Face.text := by
  induction faces with
  | nil => rfl
  | cons f faces ih =>
    rw [List.forall_mem_cons] at h
    rw [List.flatMap_cons, printedLines_of_unbroken (f.unbroken_text h.1), ih h.2]
    rfl

/-- A head, the texts of the entries, the warning and a foot show the entries and the warning. -/
theorem Shows.of_texts (head foot : List String) (faces : List Face)
    (skipped : Option ProtocolFault)
    (hhead : ∀ line ∈ head.flatMap printedLines, IsFrame line)
    (hfoot : ∀ line ∈ foot.flatMap printedLines, IsFrame line)
    (worded : ∀ fault ∈ skipped, Unbroken fault.message) :
    Shows (head ++ faces.map Face.text ++ warnings skipped ++ foot) faces skipped := by
  have warned : (warnings skipped).flatMap printedLines = warnings skipped := by
    cases skipped with
    | none => rfl
    | some fault =>
      have unbroken : Unbroken (warning fault) := unbroken_append.mpr ⟨by decide, worded fault rfl⟩
      exact (List.flatMap_singleton ..).trans (printedLines_of_unbroken unbroken)
  have layout : lines (unlines (head ++ faces.map Face.text ++ warnings skipped ++ foot)) =
      head.flatMap printedLines ++ (faces.flatMap fun f => printedLines f.text) ++
        warnings skipped ++ foot.flatMap printedLines := by
    rw [lines_unlines, List.flatMap_append, List.flatMap_append, List.flatMap_append, warned,
      List.flatMap_map]
  refine ⟨⟨_, _, List.forall_mem_append.mpr ⟨hhead, hfoot⟩, layout⟩,
    fun f _ => f.exists_first_line, fun h => ?_⟩
  have entries : ∀ line ∈ faces.map Face.text, IsEntry line :=
    List.forall_mem_map.mpr fun f _ => f.entry.trans f.starts
  have warns : ∀ line ∈ warnings skipped, IsWarning line := by
    cases skipped with
    | none => exact List.forall_mem_nil _
    | some fault => exact List.forall_mem_singleton.mpr (isWarning_warning fault)
  have kept : (faces.map Face.text).filter IsEntry = faces.map Face.text :=
    List.filter_eq_self.mpr fun line hl => decide_eq_true (entries line hl)
  have unwarned : (faces.map Face.text).filter IsWarning = [] :=
    List.filter_eq_nil_iff.mpr fun line hl => by simpa using (entries line hl).not_isWarning
  have unlisted : (warnings skipped).filter IsEntry = [] :=
    List.filter_eq_nil_iff.mpr fun line hl => by
      simpa using fun he : IsEntry line => he.not_isWarning (warns line hl)
  have said : (warnings skipped).filter IsWarning = warnings skipped :=
    List.filter_eq_self.mpr fun line hl => decide_eq_true (warns line hl)
  rw [layout, flatMap_printedLines h]
  simp only [List.filter_append, filter_isEntry_frame hhead, filter_isEntry_frame hfoot,
    filter_isWarning_frame hhead, filter_isWarning_frame hfoot, kept, unwarned, unlisted, said,
    List.nil_append, List.append_nil, and_self]

end Vigil.Console
