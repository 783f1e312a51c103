import Vigil.World.Basic

/-!
# Log files and other files

A log handler writes to its file and moves the numbered files beside it. A file that none of these
places leads to is left alone, whatever is logged: going along its path meets what it met before.

* `read_congr`: what is read under a path depends on the places along it alone.
* `elsewhere_file`: a log file away from a path leaves what is under the path alone.
* `read_log`: so does a record, if all handlers do.
-/

namespace Vigil

/-! ## Places along a path -/

namespace FilePath

/-- The places along a path, from where it starts to where it leads. -/
def route (p : FilePath) : List FilePath := p.parts.scanl enter p.start

/-- A place that is another one or below it. -/
def Under (place above : FilePath) : Prop :=
  place.root = above.root ∧ above.parts <+: place.parts

theorem Under.refl (p : FilePath) : p.Under p := ⟨rfl, List.prefix_rfl⟩

/-- A path leads to the last place along it. -/
theorem target_mem_route (p : FilePath) : p.target ∈ p.route := by
  unfold target route
  generalize p.start = here
  induction p.parts generalizing here with
  | nil => simp
  | cons part rest ih =>
    rw [List.scanl_cons, List.foldl_cons]
    exact List.mem_cons_of_mem _ (ih _)

end FilePath

namespace Files

variable {fs after : Files} {p q : FilePath}

/-- The same stands at all places along a path. -/
def SameAlong (q : FilePath) (fs after : Files) : Prop :=
  ∀ place ∈ q.route, after.find? place = fs.find? place

theorem SameAlong.refl (q : FilePath) (fs : Files) : SameAlong q fs fs := fun _ _ => rfl

theorem SameAlong.trans {last : Files} (h : SameAlong q fs after) (h' : SameAlong q after last) :
    SameAlong q fs last := fun place hp => (h' place hp).trans (h place hp)

theorem walk_congr {here : FilePath} {parts : List String}
    (h : ∀ place ∈ parts.scanl FilePath.enter here, after.find? place = fs.find? place) :
    after.walk here parts = fs.walk here parts := by
  induction parts generalizing here with
  | nil => rfl
  | cons part rest ih =>
    rw [List.scanl_cons] at h
    unfold walk
    rw [h here List.mem_cons_self, ih fun place hp => h place (List.mem_cons_of_mem _ hp)]

/-- **What is read under a path depends on the places along it alone.** -/
theorem read_congr (h : SameAlong q fs after) : after.read q = fs.read q := by
  have place : after.place q = fs.place q := by
    unfold Files.place
    rw [walk_congr h]
  unfold read
  rw [place]
  cases hp : fs.place q with
  | error fault => rfl
  | ok last =>
    have final := h q.target q.target_mem_route
    rw [← place_eq_target hp] at final
    simp only [final]

/-! ## Log files -/

/-- A write changes no place but the one it leads to. -/
theorem write_along {content : Bytes} (h : fs.write p content = .ok after)
    (hp : p.target ∉ q.route) : SameAlong q fs after := by
  obtain ⟨place, hplace, -, rfl⟩ := write_ok h
  rw [place_eq_target hplace]
  exact fun other ho => find?_put_of_ne fs _ fun e => hp (e ▸ ho)

/-- What is moved from one place to another stands at no third one. -/
theorem find?_relocate {source target place : FilePath} (hs : ¬place.Under source)
    (ht : ¬place.Under target) : (fs.relocate source target).find? place = fs.find? place := by
  have ne : target ≠ place := fun e => ht (e ▸ .refl _)
  unfold find? relocate erase
  dsimp only
  rw [List.find?_map, Option.map_map, List.find?_filter]
  congr 1
  refine congrArg (fun test => (List.find? test fs.entries).map (·.2)) (funext fun old => ?_)
  -- Nothing comes to the third place or leaves it, since both ends of the move are away from it.
  have stays : (if old.1.root = source.root && source.parts.isPrefixOf old.1.parts then
      (⟨target.root, target.parts ++ old.1.parts.drop source.parts.length⟩ : FilePath)
      else old.1) = place ↔ old.1 = place := by
    split
    · rename_i moved
      rw [Bool.and_eq_true, decide_eq_true_eq, List.isPrefixOf_iff_prefix] at moved
      refine iff_of_false ?_ fun e => hs (e ▸ moved)
      rintro rfl
      exact ht ⟨rfl, List.prefix_append _ _⟩
    · rfl
  simp only [Function.comp_apply, decide_eq_true_eq, stays]
  exact decide_eq_decide.mpr ⟨And.right, fun e => ⟨e ▸ Ne.symm ne, e⟩⟩

/-- Whether all of it was done or not, the same stands at all places along a path. -/
def LeadsAlong (q : FilePath) (fs : Files) : Except Files Files → Prop
  | .ok after | .error after => SameAlong q fs after

theorem LeadsAlong.bind {r : Except Files Files} {f : Files → Except Files Files}
    (h : LeadsAlong q fs r) (hf : ∀ after, LeadsAlong q after (f after)) :
    LeadsAlong q fs (r >>= f) := by
  cases r with
  | error after => exact h
  | ok after =>
    have further := hf after
    show LeadsAlong q fs (f after)
    cases e : f after with
    | ok last =>
      rw [e] at further
      exact h.trans further
    | error last =>
      rw [e] at further
      exact h.trans further

/-- A path that does not come by a place or anything below it. -/
def Avoids (q place : FilePath) : Prop := ∀ visited ∈ q.route, ¬visited.Under place

theorem move_along {source target : FilePath} (hs : Avoids q source) (ht : Avoids q target)
    (fs : Files) : LeadsAlong q fs (fs.move source target) := by
  unfold move
  split
  · exact .refl q fs
  · exact .refl q fs
  · exact .refl q fs
  · exact fun place hp => find?_relocate (hs place hp) (ht place hp)

/-- A path that does not come by a log file or any of its numbered files. -/
structure AvoidsLog (q p : FilePath) : Prop where
  written : p.target ∉ q.route
  aside : Avoids q p
  numbered : ∀ number : Nat, Avoids q (p.withSuffix s!".{number}")

/-- A log file and a file with another name in the same directory are away from each other, if the
other name does not start like that of the log file. -/
theorem AvoidsLog.of_names {name other : String} (hn : name ≠ "..") (ho : other ≠ "..")
    (h : ∀ suffix, other ++ suffix ≠ name) : AvoidsLog ⟨"", [name]⟩ ⟨"", [other]⟩ := by
  have away : ∀ suffix, Avoids ⟨"", [name]⟩ ⟨"", [other ++ suffix]⟩ := by
    intro suffix visited hv
    simp only [FilePath.route, FilePath.start, FilePath.enter, List.scanl_cons, List.scanl_nil,
      if_pos, if_neg hn, List.mem_cons, List.not_mem_nil, or_false, List.nil_append] at hv
    rintro ⟨-, hp⟩
    rcases hv with rfl | rfl
    · exact absurd (List.prefix_nil.mp hp) (List.cons_ne_nil _ _)
    · exact h suffix (List.cons_prefix_cons.mp hp).1
  have aside : Avoids ⟨"", [name]⟩ ⟨"", [other]⟩ := by
    have := away ""
    rwa [String.append_empty] at this
  refine ⟨fun ht => ?_, aside, fun number => away _⟩
  rw [FilePath.target, FilePath.start, List.foldl_cons, List.foldl_nil, FilePath.enter, if_neg ho]
    at ht
  exact aside _ ht (.refl _)

theorem shift_along (h : AvoidsLog q p) (number : Nat) (fs : Files) :
    LeadsAlong q fs (fs.shift p number) := by
  induction number generalizing fs with
  | zero => exact .refl q fs
  | succ number ih => exact .bind (move_along (h.numbered _) (h.numbered _) fs) ih

theorem putAside_along (h : AvoidsLog q p) (backups : Int) (fs : Files) :
    LeadsAlong q fs (fs.putAside p backups) := by
  unfold putAside
  split
  · exact .refl q fs
  · exact .bind (shift_along h _ fs) (move_along h.aside (h.numbered 1))

theorem appendLine_along (h : AvoidsLog q p) (maxBytes backups : Int) (line : LooseText)
    (fs : Files) : SameAlong q fs (fs.appendLine p maxBytes backups line) := by
  have aside : LeadsAlong q fs
      (if 0 < maxBytes && maxBytes ≤ ((fs.read p).toOption.getD []).length + line.length + 1
        then fs.putAside p backups else .ok fs) := by
    split
    · exact putAside_along h backups fs
    · exact .refl q fs
  unfold appendLine
  dsimp only at aside ⊢
  split
  · rename_i after e
    rw [e] at aside
    exact aside
  · rename_i after e
    rw [e] at aside
    refine aside.trans ?_
    split
    · exact .refl q after
    · rename_i text _
      generalize (after.read p).toOption.getD [] ++ Text.encodeUtf8 text.toList ++ [10] = content
      cases hw : after.write p content with
      | error fault => exact .refl q after
      | ok last => exact write_along hw h.written

end Files

namespace Handler

variable {h : Handler} {path : FilePath}

/-- **A handler that writes elsewhere**: what is read under the path is the same after any
record. -/
def Elsewhere (path : FilePath) (h : Handler) : Prop :=
  ∀ (r : Record) (fs : Files), (h.fileEffect r fs).read path = fs.read path

theorem elsewhere_console (path : FilePath) (hs : h.sink = .console) : h.Elsewhere path := by
  intro r fs
  simp only [fileEffect, hs]

/-- **A log file away from a path leaves what is under the path alone**, however often it is put
aside. -/
theorem elsewhere_file {p : FilePath} {maxBytes backups : Int}
    (hs : h.sink = .file p maxBytes backups) (ha : Files.AvoidsLog path p) : h.Elsewhere path := by
  intro r fs
  simp only [fileEffect, hs]
  split
  · split
    · exact Files.read_congr (Files.appendLine_along ha _ _ _ fs)
    · rfl
  · rfl

end Handler

namespace World

variable {w : World} {path : FilePath}

/-- **What is read under a path is the same after a record**, if all handlers write elsewhere. -/
theorem read_keep (h : ∀ handler ∈ w.logging.handlers, handler.Elsewhere path) (r : Record) :
    (w.keep r).files.read path = w.files.read path := by
  have fold : ∀ (handlers : List Handler) (v : World),
      (∀ handler ∈ handlers, handler.Elsewhere path) →
      (handlers.foldl (fun w h => w.pass r h) v).files.read path = v.files.read path := by
    intro handlers
    induction handlers with
    | nil => exact fun v _ => rfl
    | cons handler rest ih =>
      intro v hall
      have one : (v.pass r handler).files.read path = v.files.read path := by
        unfold pass say
        dsimp only
        split <;> exact hall handler List.mem_cons_self r v.files
      rw [List.foldl_cons, ih _ fun h hm => hall h (List.mem_cons_of_mem _ hm), one]
  exact fold w.logging.handlers _ h

theorem read_log (h : ∀ handler ∈ w.logging.handlers, handler.Elsewhere path) (source : Source)
    (level : Int) (message : LooseText) (traced : Bool) :
    (w.log source level message traced).files.read path = w.files.read path :=
  read_keep h _

theorem logging_log (w : World) (source : Source) (level : Int) (message : LooseText)
    (traced : Bool) : (w.log source level message traced).logging = w.logging := by
  obtain ⟨_, _, e⟩ := keep_eq w ⟨source, level, message, w.speaker.thread, w.now, traced⟩
  rw [log, e]

end World

end Vigil
