import SubscriptLint.Document.Yaml.Scalar
import SubscriptLint.Document.Yaml.Tag
/-!
# Block scalars

Scalars whose lines stand below their mark and are indented. Their lines are kept as they are or
folded into each other, and the breaks behind the last line are kept, cut down to one, or left out.
-/

namespace SubscriptLint.Yaml

/-- What becomes of the breaks behind the last line of a block scalar. -/
inductive Chomping
  | strip
  | clip
  | keep
  deriving DecidableEq

/-- What stands behind the mark of a block scalar. -/
structure BlockHeader where
  chomping : Chomping := .clip
  /-- By how much the lines are indented, if it is said. -/
  increment : Option Nat := none

/-- The chomping that a character stands for. -/
def chomping? : Char → Option Chomping
  | '+' => some .keep
  | '-' => some .strip
  | _ => none

/-- The indentation at the beginning of a text, if a digit stands there, and what follows it. None
is not one. -/
def increment (gs : List Glyph) : Except Halt (Option Nat × List Glyph) :=
  match gs with
  | [] => .ok (none, [])
  | g :: rest =>
    if !g.char.isDigit then .ok (none, gs)
    else if g.char = '0' then .error ⟨.noIndentation, .blockScalar, gs⟩
    else .ok (some (g.char.toNat - '0'.toNat), rest)

/-- The chomping at the beginning of a text, if it is said, and what follows it. -/
def chomping (gs : List Glyph) : Option Chomping × List Glyph :=
  match gs with
  | [] => (none, [])
  | g :: rest =>
    match chomping? g.char with
    | some c => (some c, rest)
    | none => (none, gs)

/-- The header of a block scalar, and what follows it on its line. A chomping and an indentation
may stand there in any order. -/
def blockHeader (gs : List Glyph) : Except Halt (BlockHeader × List Glyph) := do
  match chomping gs with
  | (some c, rest) =>
    let (n, rest) ← increment rest
    return (⟨c, n⟩, rest)
  | (none, _) =>
    match ← increment gs with
    | (some n, rest) => return (⟨(chomping rest).1.getD .clip, some n⟩, (chomping rest).2)
    | (none, _) => return ({}, gs)

/-- The deepest column that the spaces before the first line of a block scalar lead to, where the
indentation is not said. No tab may stand among them. -/
def deepest (column : Nat) : List Glyph → Except Halt Nat
  | [] => .ok column
  | g :: gs =>
    if g.char = ' ' then deepest column gs
    else if g.char = '\t' then .error ⟨.tabInBlock, .blockScalar, g :: gs⟩
    else if isBreak g.char then deepest (max column g.mark.col) gs
    else .ok (max column g.mark.col)

/-- What was scanned of a block scalar, its characters in reverse. -/
structure BlockText where
  done : List Char := []
  /-- The break behind the last line. -/
  last : Option Char := none
  /-- The breaks of the empty lines since then, in reverse. -/
  empty : List Char := []
  /-- The last line begins with a space. -/
  spaced : Bool := false

namespace BlockText

/-- The text with the beginning of a further line. Two folded lines that do not begin with a space
are one line, unless there are empty lines between them. -/
def beginLine (t : BlockText) (folded : Bool) (c : Char) : BlockText :=
  let joined := folded && t.last = some '\n' && !t.spaced && !isSpace c
  let between :=
    if joined then if t.empty.isEmpty then [' '] else t.empty
    else t.empty ++ t.last.toList
  { done := c :: (between ++ t.done), spaced := isSpace c }

/-- The whole text, with the breaks behind its last line as the chomping says. -/
def finish (t : BlockText) (chomping : Chomping) : String :=
  let behind := match chomping with
    | .strip => []
    | .clip => t.last.toList
    | .keep => t.empty ++ t.last.toList
  String.ofList (behind ++ t.done).reverse

end BlockText

/-- Goes on scanning a block scalar whose lines are indented to a column. -/
def blockFrom (folded : Bool) (chomping : Chomping) (indent : Nat) (t : BlockText)
    (inLine : Bool) : List Glyph → Except Halt Scanned
  | [] => .ok ⟨t.finish chomping, true, []⟩
  | g :: gs =>
    if inLine then
      if isBreak g.char then
        blockFrom folded chomping indent { t with last := some g.char } false gs
      else blockFrom folded chomping indent { t with done := g.char :: t.done } true gs
    else if g.mark.col < indent && g.char = ' ' then blockFrom folded chomping indent t false gs
    else if g.mark.col < indent && g.char = '\t' then .error ⟨.tabInBlock, .blockScalar, g :: gs⟩
    else if isBreak g.char then
      blockFrom folded chomping indent { t with empty := g.char :: t.empty } false gs
    else if g.mark.col = indent then
      blockFrom folded chomping indent (t.beginLine folded g.char) true gs
    else .ok ⟨t.finish chomping, true, g :: gs⟩

/-- Scans a block scalar behind its mark, inside a block collection with an indentation. -/
def blockScalar (folded : Bool) (outer : Int) (gs : List Glyph) : Except Halt Scanned := do
  let (header, rest) ← blockHeader gs
  let rest ← restAfterLine .blockScalar rest
  let indent ← match header.increment with
    | some n => pure (outer.toNat + n)
    | none => (deepest 0 rest).map fun column => max column (max (outer + 1).toNat 1)
  blockFrom folded header.chomping indent {} false rest

end SubscriptLint.Yaml
