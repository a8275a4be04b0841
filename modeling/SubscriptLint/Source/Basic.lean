import SubscriptLint.Text.Bytes
import SubscriptLint.Text.Escape
/-!
# Source texts

The text of a file, its lines, and the correspondence between byte offsets and positions. Lines
are separated by newline characters alone; lines and columns count from one, columns in bytes.
-/

namespace SubscriptLint

/-- A line and a column, both counted from one. -/
structure Position where
  line : Nat
  col : Nat
  deriving DecidableEq, Repr, Inhabited

/-- A range of byte offsets. Nothing says that it lies within a text. -/
structure Span where
  start : Nat
  stop : Nat
  deriving DecidableEq, Repr, Inhabited

/-- A range of byte offsets together with the position at which it begins. -/
structure Region extends Span where
  begins : Position
  deriving DecidableEq, Repr, Inhabited

/-- The number of bytes from which on a text is too large to be a source: its offsets, and the
numbers of its lines and columns, have to fit in 32 bits. -/
def Source.limit : Nat := 0xFFFFFFFF

/-- The text of one file, which is smaller than the limit. -/
structure Source where
  file : String
  contents : String
  fits : contents.utf8ByteSize < Source.limit

namespace Source

/-- The source with the given contents, if they are not too large. -/
def ofContents? (file contents : String) : Option Source :=
  if h : contents.utf8ByteSize < limit then some ⟨file, contents, h⟩ else none

/-- The offsets just behind the newlines of a text that begins at offset `at`. -/
def startsFrom (offset : Nat) : List Char → List Nat
  | [] => []
  | c :: cs =>
    let next := offset + c.utf8Size
    if c = '\n' then next :: startsFrom next cs else startsFrom next cs

/-- The offsets at which the lines begin. -/
def lineStarts (s : Source) : List Nat :=
  0 :: startsFrom 0 s.contents.toList

/-- The number of lines. -/
def lineCount (s : Source) : Nat := s.lineStarts.length

/-- The text in a range, which fails unless the range is one between characters of the source. -/
def text? (s : Source) (span : Span) : Option String :=
  (Text.slice? s.contents.toList span.start span.stop).map String.ofList

/-- The range of a line without the newline that ends it. -/
def lineSpan? (s : Source) (line : Nat) : Option Span :=
  if line = 0 then none
  else s.lineStarts[line - 1]?.map fun start =>
    ⟨start, (s.lineStarts[line]?.map (· - 1)).getD s.contents.utf8ByteSize⟩

/-- A text without the carriage returns at its end. -/
def trimReturns (cs : List Char) : List Char :=
  (cs.reverse.dropWhile (· = '\r')).reverse

/-- The text of a line without what ends it, and the empty text for a line that is not there. -/
def line (s : Source) (n : Nat) : String :=
  match (s.lineSpan? n).bind s.text? with
  | some text => String.ofList (trimReturns text.toList)
  | none => ""

/-- The position of an offset: its line is the last one that begins at or before it. -/
def position (s : Source) (offset : Nat) : Position :=
  let before := s.lineStarts.takeWhile (· ≤ offset)
  ⟨before.length, offset - before.getLast?.getD 0 + 1⟩

/-- The position of an offset, unless its column is too large to fit in 32 bits. -/
def position? (s : Source) (offset : Nat) : Option Position :=
  let p := s.position offset
  if p.col ≤ limit then some p else none

/-- A range of the source with the position at which it begins. -/
def region (s : Source) (span : Span) : Region := ⟨span, s.position span.start⟩

/-- A region in a listing: the position of its beginning, its offsets and an excerpt of its
text. -/
def showRegion? (s : Source) (r : Region) : Option String := do
  let text ← s.text? r.toSpan
  let numbers := [r.begins.line, r.begins.col, r.start, r.stop].map toString
  return ":".intercalate numbers ++ ", \"" ++ Text.excerpt text.toList ++ "\""

end Source

end SubscriptLint
