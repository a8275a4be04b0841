import SubscriptLint.Source.Basic
/-!
# Messages under a source line

A message is shown below the line it is about, with a caret under the column. The line number
stands in a gutter as wide as the number needs.
-/

namespace SubscriptLint.Source

/-- A number of spaces. -/
def spaces (n : Nat) : String := String.ofList (List.replicate n ' ')

/-- The empty gutter of a line, as wide as the line number and the space behind it. -/
def gutter (line : Nat) : String := spaces ((toString line).length + 1)

/-- The row that shows a line. -/
def sourceRow (s : Source) (line : Nat) : String :=
  toString line ++ " | " ++ s.line line

/-- The row that has a caret under a column. -/
def caretRow (p : Position) : String :=
  gutter p.line ++ "| " ++ spaces (p.col - 1) ++ "^"

/-- A message of some kind at a position. -/
def message (s : Source) (p : Position) (kind text : String) : String :=
  if p.line = 0 ∨ s.lineCount < p.line then
    s.file ++ ": line " ++ toString p.line ++ " does not exist"
  else
    "\n".intercalate
      ["", "--> " ++ s.file ++ ":" ++ toString p.line ++ ":" ++ toString p.col,
        gutter p.line ++ "|", s.sourceRow p.line, caretRow p, kind ++ ": " ++ text]

end SubscriptLint.Source
