import Vigil.Fault.Mishap
import Vigil.Files.Path

/-!
# Files

The files and directories a client sees, as a list of places. The roots, the current directory and
the directories above it always exist.

A path leads from place to place: every part but the last must lead to a directory, and two dots
lead back to the directory above. So a path with two dots behind a part that is missing leads
nowhere, although the file it seems to name may be there.

* `place_eq_target`: where a path leads somewhere, that is the place its parts spell.
* `read_write`: what was written under a path is read there.
-/

namespace Vigil

/-- What stands at a place. -/
inductive FileEntry where
  | directory
  | file (content : Bytes)
  deriving Repr, DecidableEq

/-- Why a path cannot be used. -/
inductive PathFault where
  | missing
  /-- A part before the last leads to a file. -/
  | notDirectory
  | isDirectory
  | alreadyExists
  | tooLong
  /-- A NUL stands in it. -/
  | nul
  deriving Repr, DecidableEq

/-- The mishap there is when a path cannot be used. -/
def PathFault.mishap (fault : PathFault) (p : FilePath) : Mishap :=
  match fault with
  | .missing => .os (.at 2 "No such file or directory" p.render true)
  | .notDirectory => .os (.at 20 "Not a directory" p.render)
  | .isDirectory => .os (.at 21 "Is a directory" p.render)
  | .alreadyExists => .os (.at 17 "File exists" p.render)
  | .tooLong => .os (.at 36 "File name too long" p.render)
  | .nul => .nulInPath

/-- The files and directories there are, by place. -/
structure Files where
  entries : List (FilePath × FileEntry) := []
  deriving Repr, DecidableEq

namespace Files

/-! ## Places -/

/-- What stands at a place. -/
def find? (fs : Files) (place : FilePath) : Option FileEntry :=
  if place.isTop then some .directory
  else (fs.entries.find? fun e => e.1 = place).map (·.2)

/-- The files with an entry at a place. -/
def put (fs : Files) (place : FilePath) (e : FileEntry) : Files :=
  ⟨(place, e) :: fs.entries.filter fun old => old.1 ≠ place⟩

/-- The files without what stood at a place. -/
def erase (fs : Files) (place : FilePath) : Files :=
  ⟨fs.entries.filter fun old => old.1 ≠ place⟩

/-- What is put at a place stands there. -/
theorem find?_put_self (fs : Files) (place : FilePath) (e : FileEntry)
    (h : place.isTop = false) : (fs.put place e).find? place = some e := by
  simp [find?, put, h]

/-- What is put at a place changes no other. -/
theorem find?_put_of_ne (fs : Files) {place other : FilePath} (e : FileEntry)
    (h : place ≠ other) : (fs.put place e).find? other = fs.find? other := by
  unfold find? put
  simp only [List.find?_cons, h, decide_false]
  congr 2
  rw [List.find?_filter]
  congr 1
  funext old
  by_cases hold : old.1 = other
  · simp [hold, Ne.symm h]
  · simp [hold]

/-- Where no directory stands is none of the places that are always there. -/
theorem isTop_of_find? {fs : Files} {place : FilePath} (h : fs.find? place ≠ some .directory) :
    place.isTop = false := by
  cases ht : place.isTop with
  | false => rfl
  | true => simp [find?, ht] at h

/-! ## Going along a path -/

/-- The place that parts lead to from a place. Nothing needs to stand at the last one. -/
def walk (fs : Files) (here : FilePath) : List String → Except PathFault FilePath
  | [] => .ok here
  | part :: rest =>
    match fs.find? here with
    | none => .error .missing
    | some (.file _) => .error .notDirectory
    | some .directory =>
      if part.utf8ByteSize ≤ FilePath.longestPart then fs.walk (here.enter part) rest
      else .error .tooLong

/-- The place a path leads to. -/
def place (fs : Files) (p : FilePath) : Except PathFault FilePath :=
  if p.hasNul then .error .nul
  else if p.render.utf8ByteSize ≤ FilePath.longest then fs.walk p.start p.parts
  else .error .tooLong

theorem walk_eq {fs : Files} {here place : FilePath} {parts : List String}
    (h : fs.walk here parts = .ok place) : place = parts.foldl FilePath.enter here := by
  induction parts generalizing here with
  | nil => cases h; rfl
  | cons part rest ih =>
    unfold walk at h
    split at h
    · cases h
    · cases h
    · split at h
      · exact ih h
      · cases h

/-- A path that leads somewhere leads where its parts say. -/
theorem place_eq_target {fs : Files} {p place : FilePath} (h : fs.place p = .ok place) :
    place = p.target := by
  unfold Files.place at h
  split at h
  · cases h
  · split at h
    · exact walk_eq h
    · cases h

/-- A file at the end of a walk is in nobody's way. -/
theorem walk_put {fs : Files} {here place : FilePath} {parts : List String} (e : FileEntry)
    (h : fs.walk here parts = .ok place) (hp : fs.find? place ≠ some .directory) :
    (fs.put place e).walk here parts = .ok place := by
  induction parts generalizing here with
  | nil => exact h
  | cons part rest ih =>
    unfold walk at h ⊢
    split at h
    · cases h
    · cases h
    · rename_i hd
      have hne : place ≠ here := fun heq => hp (heq ▸ hd)
      rw [find?_put_of_ne fs e hne, hd]
      split at h
      · rename_i hl
        simp only [hl, if_true]
        exact ih h
      · cases h

theorem place_put {fs : Files} {p place : FilePath} (e : FileEntry)
    (h : fs.place p = .ok place) (hp : fs.find? place ≠ some .directory) :
    (fs.put place e).place p = .ok place := by
  unfold Files.place at h ⊢
  split at h
  · cases h
  · rename_i hn
    simp only [hn]
    split at h
    · rename_i hl
      simp only [hl, if_true]
      exact walk_put e h hp
    · cases h

/-! ## Files and directories under a path -/

/-- Whether something stands under a path. A path that leads nowhere, or in which a NUL stands, has
nothing under it; a path that is too long is refused. -/
def has (fs : Files) (p : FilePath) : Except PathFault Bool :=
  match fs.place p with
  | .ok place => .ok (fs.find? place).isSome
  | .error .tooLong => .error .tooLong
  | .error _ => .ok false

/-- Whether a directory stands under a path. -/
def hasDirectory (fs : Files) (p : FilePath) : Bool :=
  match fs.place p with
  | .ok place => fs.find? place = some .directory
  | .error _ => false

/-- The content of the file under a path. -/
def read (fs : Files) (p : FilePath) : Except PathFault Bytes :=
  match fs.place p with
  | .error fault => .error fault
  | .ok place =>
    match fs.find? place with
    | some (.file content) => .ok content
    | some .directory => .error .isDirectory
    | none => .error .missing

/-- The files with a new content of the file under a path. -/
def write (fs : Files) (p : FilePath) (content : Bytes) : Except PathFault Files :=
  match fs.place p with
  | .error fault => .error fault
  | .ok place =>
    match fs.find? place with
    | some .directory => .error .isDirectory
    | _ => .ok (fs.put place (.file content))

/-- A write puts a file where its path leads, and no directory stood there. -/
theorem write_ok {fs after : Files} {p : FilePath} {content : Bytes}
    (h : fs.write p content = .ok after) :
    ∃ place, fs.place p = .ok place ∧ fs.find? place ≠ some .directory ∧
      after = fs.put place (.file content) := by
  unfold write at h
  split at h
  · cases h
  · rename_i place hplace
    split at h
    · cases h
    · rename_i hd
      cases h
      exact ⟨place, hplace, hd, rfl⟩

/-- **What was written is read.** -/
theorem read_write {fs after : Files} {p : FilePath} {content : Bytes}
    (h : fs.write p content = .ok after) : after.read p = .ok content := by
  obtain ⟨place, hplace, hd, rfl⟩ := write_ok h
  unfold read
  rw [place_put _ hplace hd]
  simp only [find?_put_self fs place _ (isTop_of_find? hd)]

/-- What was written is there. -/
theorem has_write {fs after : Files} {p : FilePath} {content : Bytes}
    (h : fs.write p content = .ok after) : after.has p = .ok true := by
  obtain ⟨place, hplace, hd, rfl⟩ := write_ok h
  unfold has
  rw [place_put _ hplace hd]
  simp only [find?_put_self fs place _ (isTop_of_find? hd), Option.isSome_some]

/-- The files with a new directory under a path. -/
def makeDirectory (fs : Files) (p : FilePath) : Except PathFault Files :=
  match fs.place p with
  | .error fault => .error fault
  | .ok place =>
    match fs.find? place with
    | some _ => .error .alreadyExists
    | none => .ok (fs.put place .directory)

/-- The files with a directory under a path, new or not, and what went wrong. -/
def ensureDirectory (fs : Files) (p : FilePath) : Files × Option Mishap :=
  match fs.makeDirectory p with
  | .ok fs => (fs, none)
  | .error fault => (fs, if fs.hasDirectory p then none else some (fault.mishap p))

/-- The files with a directory under the first parts of a path, new or not, and what went wrong.
Where the directory cannot be made because one before it is missing, those before it are made
first; what was made stays when a later one fails. -/
def ensureFirst (fs : Files) (p : FilePath) : (count : Nat) → Files × Option Mishap
  | 0 => fs.ensureDirectory (p.first 0)
  | count + 1 =>
    let here := p.first (count + 1)
    match fs.makeDirectory here with
    | .error .missing =>
      match fs.ensureFirst p count with
      | (fs, none) => fs.ensureDirectory here
      | failed => failed
    | _ => fs.ensureDirectory here

/-- The files with a directory under a path and wherever that needs one, and what went wrong. -/
def makeDirectories (fs : Files) (p : FilePath) : Files × Option Mishap :=
  fs.ensureFirst p p.parts.length

end Files

end Vigil
