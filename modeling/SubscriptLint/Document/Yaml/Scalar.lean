import SubscriptLint.Document.Yaml.Glyph
import SubscriptLint.Text.Digits
/-!
# YAML scalars

Scanning of plain and quoted scalars. A scalar may go over several lines; where it does, a single
break counts as a space and every further one as itself.
-/

namespace SubscriptLint.Yaml

/-- The spaces and breaks behind the last visible character of a scalar, in reverse. Spaces count
until the first break comes. -/
structure Gap where
  spaces : List Char := []
  /-- A break has come. -/
  broken : Bool := false
  /-- The first break, unless it was escaped. -/
  first : Option Char := none
  further : List Char := []

namespace Gap

/-- The gap with one more space. -/
def space (g : Gap) (c : Char) : Gap :=
  if g.broken then g else { g with spaces := c :: g.spaces }

/-- The gap with one more break. -/
def lineBreak (g : Gap) (c : Char) : Gap :=
  if g.broken then { g with further := c :: g.further }
  else { broken := true, first := some c }

/-- What a gap contributes to its scalar, in reverse. -/
def text (g : Gap) : List Char :=
  if g.broken then
    match g.first with
    | some '\n' => if g.further.isEmpty then [' '] else g.further
    | some c => g.further ++ [c]
    | none => g.further
  else g.spaces

end Gap

/-- A scanned scalar and what follows it. -/
structure Scanned where
  text : String
  /-- The scalar was followed by a break. -/
  broken : Bool
  rest : List Glyph

/-- The characters that end a plain scalar inside a flow collection. -/
def flowMarks : List Char := [',', '[', ']', '\x7b', '\x7d']

/-- Goes on scanning a plain scalar, with its characters so far in reverse. Outside of flow
collections its lines have to be indented. -/
def plainFrom (flow : Bool) (indent : Int) (done : List Char) (gap : Gap) (inGap : Bool) :
    List Glyph → Except Halt Scanned
  | [] => .ok ⟨String.ofList done.reverse, gap.broken, []⟩
  | g :: gs =>
    if isSpace g.char then
      if gap.broken && g.mark.col < indent && g.char = '\t' then
        .error ⟨.tabInWord, .plainScalar, g :: gs⟩
      else plainFrom flow indent done (gap.space g.char) true gs
    else if isBreak g.char then plainFrom flow indent done (gap.lineBreak g.char) true gs
    else
      let endsGap :=
        inGap && (g.char = '#' || (!flow && g.mark.col < indent) || documentMark (g :: gs))
      if !endsGap && flow && g.char = ':' && oneAhead ('?' :: flowMarks) gs then
        .error ⟨.colonInWord, .plainScalar, g :: gs⟩
      else if endsGap || (g.char = ':' && gapAhead gs) || (flow && flowMarks.contains g.char) then
        .ok ⟨String.ofList done.reverse, gap.broken, g :: gs⟩
      else plainFrom flow indent (g.char :: (gap.text ++ done)) {} false gs

/-- The character that an escape stands for. -/
def escaped? (c : Char) : Option Char :=
  [('0', '\x00'), ('a', '\x07'), ('b', '\x08'), ('t', '\t'), ('\t', '\t'), ('n', '\n'),
    ('v', '\x0b'), ('f', '\x0c'), ('r', '\r'), ('e', '\x1b'), (' ', ' '), ('"', '"'), ('/', '/'),
    ('\\', '\\'), ('N', '\u0085'), ('_', '\u00a0'), ('L', '\u2028'), ('P', '\u2029')].lookup c

/-- The number of digits of a code point behind an escape. -/
def codeLength? (c : Char) : Option Nat :=
  [('x', 2), ('u', 4), ('U', 8)].lookup c

/-- The character with a code point. -/
def character? (n : Nat) : Option Char :=
  if h : n.isValidChar then some (Char.ofNatAux n h) else none

/-- What the next character of a scalar in double quotes belongs to. -/
inductive DoubleState
  | content
  /-- An escape, which begins at the given text. -/
  | escape (start : List Glyph)
  /-- A code point of which so many digits are missing and that has this value so far. The digits
  begin at the given text. -/
  | code (start : List Glyph) (missing value : Nat)

/-- Goes on scanning a scalar in double quotes, with its characters so far in reverse. -/
def doubleFrom (done : List Char) (gap : Gap) : DoubleState → List Glyph → Except Halt Scanned
  | .content, [] => .error ⟨.endInQuotes, .quotes, []⟩
  | .content, g :: gs =>
    if documentMark (g :: gs) then .error ⟨.documentMark, .quotes, g :: gs⟩
    else if isSpace g.char then doubleFrom done (gap.space g.char) .content gs
    else if isBreak g.char then doubleFrom done (gap.lineBreak g.char) .content gs
    else if g.char = '"' then .ok ⟨String.ofList (gap.text ++ done).reverse, false, gs⟩
    else if g.char = '\\' then doubleFrom (gap.text ++ done) {} (.escape (g :: gs)) gs
    else doubleFrom (g.char :: (gap.text ++ done)) {} .content gs
  | .escape start, [] => .error ⟨.unknownEscape, .escape, start⟩
  | .escape start, g :: gs =>
    if isBreak g.char then doubleFrom done { broken := true } .content gs
    else
      match escaped? g.char, codeLength? g.char with
      | some c, _ => doubleFrom (c :: done) {} .content gs
      | none, some n => doubleFrom done {} (.code gs n 0) gs
      | none, none => .error ⟨.unknownEscape, .escape, start⟩
  | .code start _ _, [] => .error ⟨.noHexDigit, .escape, start⟩
  | .code start missing value, g :: gs =>
    match Text.hexDigit? g.char with
    | none => .error ⟨.noHexDigit, .escape, start⟩
    | some d =>
      let value := value * 16 + d
      if missing ≠ 1 then doubleFrom done {} (.code start (missing - 1) value) gs
      else
        match character? value with
        | some c => doubleFrom (c :: done) {} .content gs
        | none => .error ⟨.noCharacter, .escape, start⟩

/-- Goes on scanning a scalar in single quotes, with its characters so far in reverse. A quote that
was read may be the first of two. -/
def singleFrom (done : List Char) (gap : Gap) (quoted : Bool) :
    List Glyph → Except Halt Scanned
  | [] =>
    if quoted then .ok ⟨String.ofList (gap.text ++ done).reverse, false, []⟩
    else .error ⟨.endInQuotes, .quotes, []⟩
  | g :: gs =>
    if quoted then
      if g.char = '\x27' then singleFrom ('\x27' :: (gap.text ++ done)) {} false gs
      else .ok ⟨String.ofList (gap.text ++ done).reverse, false, g :: gs⟩
    else if documentMark (g :: gs) then .error ⟨.documentMark, .quotes, g :: gs⟩
    else if isSpace g.char then singleFrom done (gap.space g.char) false gs
    else if isBreak g.char then singleFrom done (gap.lineBreak g.char) false gs
    else if g.char = '\x27' then singleFrom done gap true gs
    else singleFrom (g.char :: (gap.text ++ done)) {} false gs

end SubscriptLint.Yaml
