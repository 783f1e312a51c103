import Vigil.Text.Case

/-!
# Paths of executables

Where an executable stands and what it is called, read off its path alone. A path with a backslash,
or with a colon as its second character, is a Windows path whatever the platform; any other is a
path with slashes. Main definitions: `directoryOf` and `displayName`.
-/

namespace Vigil.Executable

/-- Whether a path is a Windows path. -/
def isWindows (p : List Char) : Bool := p.contains '\\' || p[1]? == some ':'

/-- The separators of a Windows path. -/
def isSeparator (c : Char) : Bool := c = '\\' || c = '/'

/-- How many characters of a text stand before its last separator, this one included. -/
def headLength (separates : Char → Bool) (p : List Char) : Nat :=
  p.length - (p.reverse.takeWhile fun c => !separates c).length

/-- Cuts a path behind its last separator. -/
def cut (separates : Char → Bool) (p : List Char) : List Char × List Char :=
  p.splitAt (headLength separates p)

/-- A head without the separators at its end, unless it has nothing else. -/
def trimHead (separates : Char → Bool) (head : List Char) : List Char :=
  let trimmed := (head.reverse.dropWhile separates).reverse
  if trimmed.isEmpty then head else trimmed

/-- The place of the first separator from `start` on. -/
def separatorFrom? (p : List Char) (start : Nat) : Option Nat :=
  ((p.drop start).findIdx? isSeparator).map (· + start)

/-- The mark of a share that is named in full. -/
def shareMark : List Char := ['\\', '\\', '?', '\\', 'U', 'N', 'C', '\\']

/-- How many characters of a Windows path belong to its drive: a letter and a colon, or a server
and a share with what leads to them. -/
def driveLength (p : List Char) : Nat :=
  let plain := p.map fun c => if c = '/' then '\\' else c
  match plain with
  | '\\' :: '\\' :: _ =>
    let start := if Text.upper (plain.take 8) = shareMark then 8 else 2
    match separatorFrom? p start with
    | none => p.length
    | some server => (separatorFrom? p (server + 1)).getD p.length
  | _ :: ':' :: _ => 2
  | _ => 0

/-- A path cut into its directory and its last part. -/
def split (p : List Char) : List Char × List Char :=
  if isWindows p then
    let (drive, rest) := p.splitAt (driveLength p)
    let (head, tail) := cut isSeparator rest
    (drive ++ trimHead isSeparator head, tail)
  else
    let (head, tail) := cut (· = '/') p
    (trimHead (· = '/') head, tail)

/-- The directory an executable stands in. -/
def directoryOf (p : List Char) : List Char := (split p).1

/-- The last part of a path. -/
def baseName (p : List Char) : List Char := (split p).2

/-- A name without its extension. A point at the very start or the very end starts none; a single
point is no name. -/
def stem (name : List Char) : List Char :=
  if name = ['.'] then []
  else
    let extension := (name.reverse.takeWhile (· ≠ '.')).length
    let point := name.length - extension
    if extension = 0 ∨ point ≤ 1 then name else name.take (point - 1)

/-- The name of a process whose executable gives none. -/
def defaultName : String := "SelfMonitoredProcess"

/-- What an executable is called: the last part of its path without the extension. -/
def displayName (path : String) : String :=
  let name := stem (baseName path.toList)
  if name.isEmpty then defaultName else String.ofList name

end Vigil.Executable
