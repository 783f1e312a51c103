/-!
# Lines

A text as lines, and line ends of other systems turned into the line feed.
-/

namespace Vigil.Text

/-- Turns every carriage return, with the line feed after it if there is one, into a line feed. -/
def unixLines : List Char → List Char
  | [] => []
  | '\r' :: '\n' :: rest => '\n' :: unixLines rest
  | '\r' :: rest => '\n' :: unixLines rest
  | c :: rest => c :: unixLines rest

/-- A text without carriage returns stays as it is. -/
theorem unixLines_of_not_mem {s : List Char} (h : '\r' ∉ s) : unixLines s = s := by
  induction s with
  | nil => rfl
  | cons c s ih =>
    rw [List.mem_cons, not_or] at h
    rw [unixLines, ih h.2]
    · exact fun _ e => absurd e (Ne.symm h.1)
    · exact Ne.symm h.1

/-- The lines of a text, given the line read so far in reverse. What stands behind the last line
feed is a line of its own unless it is empty. -/
def linesFrom (line : List Char) : List Char → List (List Char)
  | [] => if line.isEmpty then [] else [line.reverse]
  | c :: rest => if c = '\n' then line.reverse :: linesFrom [] rest else linesFrom (c :: line) rest

/-- The lines of a text without their line feeds. -/
def lines (s : String) : List String := (linesFrom [] s.toList).map String.ofList

end Vigil.Text
