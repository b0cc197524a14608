/-!
# Lines

A line ends at a newline, which is dropped together with one carriage return before it. What
follows the last newline is a line too, unless it is empty.
-/

namespace CpuCensus.Text

/-- Close a line that is held back to front, without one carriage return at its end. -/
def closeLine : List Char → List Char
  | '\r' :: held => held.reverse
  | held => held.reverse

/-- The lines of a text of which a part of the first line, back to front, is already held. -/
def linesFrom (held : List Char) : List Char → List (List Char)
  | [] => if held.isEmpty then [] else [held.reverse]
  | c :: cs => if c == '\n' then closeLine held :: linesFrom [] cs else linesFrom (c :: held) cs

/-- The lines of a text. -/
def lines (s : String) : List (List Char) := linesFrom [] s.toList

/-- The characters before and after the first occurrence of a character. -/
def splitAtFirst? (mark : Char) : List Char → Option (List Char × List Char)
  | [] => none
  | c :: cs =>
    if c == mark then some ([], cs)
    else (splitAtFirst? mark cs).map fun (before, after) => (c :: before, after)

end CpuCensus.Text
