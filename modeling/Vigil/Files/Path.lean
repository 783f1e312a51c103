/-!
# Paths of files

A path with its empty and its single-dot parts left out. It starts at the root or at the current
directory; two slashes in front, and no more, are a root of their own. Two dots are a part like
others until somebody goes along the path: only then do they lead to the directory above.

A *place* is a path as somebody ends who goes along it: its two dots, if any, stand in front and
lead out of the current directory.
-/

namespace Vigil

/-- A path: its root, empty for the current directory, and its parts. -/
structure FilePath where
  root : String
  parts : List String
  deriving Repr, DecidableEq

namespace FilePath

/-- How many bytes a path can have. -/
def longest : Nat := 4095

/-- How many bytes a part of a path can have. -/
def longestPart : Nat := 255

/-- The parts of a text between slashes. -/
def split (s : String) : List String := s.splitOn "/"

/-- The root a text starts with. -/
def rootOf (s : String) : String :=
  match s.toList with
  | '/' :: '/' :: '/' :: _ => "/"
  | '/' :: '/' :: _ => "//"
  | '/' :: _ => "/"
  | _ => ""

/-- The path a text names. -/
def of (s : String) : FilePath :=
  ⟨rootOf s, (split s).filter fun part => part ≠ "" && part ≠ "."⟩

/-- The text of a path. -/
def render (p : FilePath) : String :=
  if p.root = "" && p.parts.isEmpty then "." else p.root ++ "/".intercalate p.parts

/-- The directory a path stands in. -/
def parent (p : FilePath) : FilePath := { p with parts := p.parts.dropLast }

/-- The path of the first parts. -/
def first (p : FilePath) (count : Nat) : FilePath := { p with parts := p.parts.take count }

/-- The path with a text behind its last part. -/
def withSuffix (p : FilePath) (suffix : String) : FilePath :=
  match p.parts.getLast? with
  | some last => { p with parts := p.parts.dropLast ++ [last ++ suffix] }
  | none => p

/-- Whether a NUL stands in a path. -/
def hasNul (p : FilePath) : Bool := p.render.toList.contains '\x00'

/-! ## Places -/

/-- Whether a place is a root, the current directory or a directory above it. -/
def isTop (p : FilePath) : Bool := p.parts.all (· = "..")

/-- The place above a place. Nothing is above the root. -/
def above (p : FilePath) : FilePath :=
  if p.root = "" && p.isTop then { p with parts := p.parts ++ [".."] } else p.parent

/-- The place a part leads to. -/
def enter (p : FilePath) (part : String) : FilePath :=
  if part = ".." then p.above else { p with parts := p.parts ++ [part] }

/-- The place a path starts at. There is one root only, however many slashes it is written with. -/
def start (p : FilePath) : FilePath := ⟨if p.root = "" then "" else "/", []⟩

/-- The place a path leads to if there is a directory wherever one is needed. -/
def target (p : FilePath) : FilePath := p.parts.foldl enter p.start

/-- A path starts at a place that is always there. -/
theorem isTop_start (p : FilePath) : p.start.isTop = true := rfl

/-- A place with a name of its own is none of those that are always there. -/
theorem isTop_append (p : FilePath) (part : String) (h : part ≠ "..") :
    ({ p with parts := p.parts ++ [part] } : FilePath).isTop = false := by
  simp [isTop, h]

end FilePath

end Vigil
