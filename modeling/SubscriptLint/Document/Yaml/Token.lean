import SubscriptLint.Document.Yaml.BlockScalar
/-!
# YAML tokens

The pieces of a YAML text. Block collections have no brackets: they begin where the indentation
grows and end where it shrinks again, and both get a token of their own. That a scalar or a flow
collection is a key is only known at the colon behind it, so keys are marked in hindsight. Scanning
stops at the first fault, and the tokens before it are kept as far as they cannot change any more.
-/

namespace SubscriptLint.Yaml

/-- How a scalar is written, as far as it tells what the scalar may stand for. -/
inductive ScalarStyle
  | plain
  /-- A block scalar whose lines are kept as they are. -/
  | literal
  /-- Between quotes or folded. -/
  | text
  deriving DecidableEq

/-- A piece of a YAML text. -/
inductive Piece
  | directive (directive : Directive)
  | documentStart
  | documentEnd
  | blockList
  | blockMap
  | blockEnd
  | openList
  | closeList
  | openMap
  | closeMap
  | entry
  | comma
  | key
  | value
  | anchor (name : String)
  | alias (name : String)
  | tag (tag : Tag)
  | scalar (text : String) (style : ScalarStyle)
  | textEnd
  deriving DecidableEq

/-- A piece with the marks where it begins and where it ends. -/
structure Token where
  piece : Piece
  start : Mark
  stop : Mark

/-- The tokens of a text, and what is wrong behind them. -/
structure TokenText where
  tokens : List Token
  fault : Option Fault

/-- A place in the text that turns out to be a key if a colon follows soon enough. -/
structure KeyPlace where
  /-- The number of flow collections that are open around it. -/
  level : Nat
  /-- Nothing but a key can stand there. -/
  required : Bool
  /-- The number of tokens before it. -/
  place : Nat
  mark : Mark
  offset : Nat

/-- The state of scanning. -/
structure Scan where
  rest : List Glyph
  /-- What would follow the text. -/
  stop : Glyph
  /-- The tokens so far, the last one first. -/
  tokens : List Token := []
  count : Nat := 0
  /-- The indentation of the innermost block collection, and those of the ones around it. -/
  indent : Int := -1
  outer : List Int := []
  /-- The number of flow collections that are open. -/
  flow : Nat := 0
  /-- A key may begin here. -/
  keyAllowed : Bool := true
  /-- The places that may be keys, at most one inside the same flow collections, the innermost
  first. -/
  keys : List KeyPlace := []
  /-- The end of the text was reached. -/
  ended : Bool := false

namespace Scan

/-- The longest distance in bytes between the beginning of a key and its colon. -/
def keyReach : Nat := 1024

/-- The glyph at which scanning goes on. -/
def ahead (s : Scan) : Glyph := s.rest.headD s.stop

/-- The mark at which scanning goes on. -/
def mark (s : Scan) : Mark := s.ahead.mark

/-- The tokens in front of which no key can be marked any more. -/
def known (s : Scan) : List Token :=
  s.tokens.reverse.take ((s.keys.map KeyPlace.place).foldl min s.count)

/-- Fails where scanning goes on. -/
def fail {α : Type} (s : Scan) (trouble : Trouble) (during : Option (Activity × Mark)) :
    Except Fault α :=
  .error (.trouble trouble s.mark during)

/-- Fails where scanning goes on because a key has no colon. -/
def failKey {α : Type} (s : Scan) (k : KeyPlace) : Except Fault α :=
  s.fail .noColon (some (.simpleKey, k.mark))

/-- What was scanned from a mark on. -/
def scanned {α : Type} (s : Scan) (start : Mark) : Except Halt α → Except Fault α
  | .ok found => .ok found
  | .error h =>
    .error (.trouble h.trouble (Glyph.markOf s.stop.mark h.rest) (some (h.activity, start)))

/-- The state with a token inserted so that a number of tokens comes before it. -/
def insertAt (s : Scan) (place : Nat) (t : Token) : Scan :=
  let behind := s.count - place
  { s with
    tokens := s.tokens.take behind ++ t :: s.tokens.drop behind
    count := s.count + 1 }

/-- The state with a token added. -/
def push (s : Scan) (t : Token) : Scan :=
  { s with tokens := t :: s.tokens, count := s.count + 1 }

/-- The state with a piece added that takes nothing from the text. -/
def pushEmpty (s : Scan) (p : Piece) : Scan := s.push ⟨p, s.mark, s.mark⟩

/-- The state with a piece added that reaches to the rest of the text. -/
def pushUpTo (s : Scan) (p : Piece) (rest : List Glyph) : Scan :=
  { s.push ⟨p, s.mark, Glyph.markOf s.stop.mark rest⟩ with rest := rest }

/-- Spaces, comments and breaks are passed over, and so is the mark of the encoding at the
beginning of a line. With what follows comes whether a key may begin there. -/
def skipGap (flow : Bool) (keyAllowed comment : Bool) : List Glyph → Bool × List Glyph
  | [] => (keyAllowed, [])
  | g :: gs =>
    if isBreak g.char then skipGap flow (keyAllowed || !flow) false gs
    else if comment then skipGap flow keyAllowed true gs
    else if g.char = ' ' || ((flow || !keyAllowed) && g.char = '\t') then
      skipGap flow keyAllowed false gs
    else if g.char = '#' then skipGap flow keyAllowed true gs
    else if g.mark.col = 0 && g.char = encodingMark then skipGap flow keyAllowed false gs
    else (keyAllowed, g :: gs)

/-- Whether a place can no longer be a key when scanning has come to a glyph. -/
def isStale (k : KeyPlace) (g : Glyph) : Bool :=
  k.mark.line < g.mark.line || k.offset + keyReach < g.offset

/-- Gives up places that can no longer be keys. It fails if one of them had to be. -/
def dropStale (s : Scan) : Except Fault Scan :=
  match s.keys.find? fun k => isStale k s.ahead && k.required with
  | some k => s.failKey k
  | none => .ok { s with keys := s.keys.filter fun k => !isStale k s.ahead }

/-- The innermost place that may be a key, if it is inside all open flow collections, and the other
places. -/
def ownKey (s : Scan) : Option KeyPlace × List KeyPlace :=
  match s.keys with
  | [] => (none, [])
  | k :: ks => if k.level = s.flow then (some k, ks) else (none, k :: ks)

/-- Gives up the innermost place that may be a key. It fails if it had to be. -/
def dropKey (s : Scan) : Except Fault Scan :=
  match s.ownKey with
  | (some k, ks) => if k.required then s.failKey k else .ok { s with keys := ks }
  | (none, _) => .ok s

/-- Remembers that a key may begin here. -/
def rememberKey (s : Scan) : Except Fault Scan :=
  if s.keyAllowed then do
    let s ← s.dropKey
    let required := s.flow = 0 && s.indent = s.mark.col
    let place : KeyPlace := ⟨s.flow, required, s.count, s.mark, s.ahead.offset⟩
    return { s with keys := place :: s.keys }
  else .ok s

/-- Ends the block collections that are indented more deeply than a column. -/
def unindent (col : Int) (s : Scan) : Scan :=
  if s.flow = 0 then
    let closed := (s.indent :: s.outer).takeWhile (· > col)
    let left := (s.indent :: s.outer).dropWhile (· > col)
    { closed.foldl (fun s _ => s.pushEmpty .blockEnd) s with
      indent := left.headD (-1)
      outer := left.tail }
  else s

/-- Begins a block collection at a mark and before a token, if it is indented more deeply. -/
def beginBlock (s : Scan) (mark : Mark) (place : Nat) (p : Piece) : Scan :=
  if s.flow = 0 && s.indent < mark.col then
    { s.insertAt place ⟨p, mark, mark⟩ with
      indent := mark.col
      outer := s.indent :: s.outer }
  else s

/-- Scans the mark of a document. -/
def documentToken (s : Scan) (p : Piece) (rest : List Glyph) : Except Fault Scan := do
  let s ← (s.unindent (-1)).dropKey
  return { s.pushUpTo p rest with keyAllowed := false }

/-- Scans the beginning of a flow collection. -/
def openFlow (s : Scan) (p : Piece) (rest : List Glyph) : Except Fault Scan := do
  let s ← s.rememberKey
  return { s.pushUpTo p rest with flow := s.flow + 1, keyAllowed := true }

/-- Scans the end of a flow collection. -/
def closeFlow (s : Scan) (p : Piece) (rest : List Glyph) : Except Fault Scan := do
  let s ← s.dropKey
  return { s.pushUpTo p rest with flow := s.flow - 1, keyAllowed := false }

/-- Scans a comma. -/
def comma (s : Scan) (rest : List Glyph) : Except Fault Scan := do
  let s ← s.dropKey
  return { s.pushUpTo .comma rest with keyAllowed := true }

/-- Fails if no key may begin here, where that matters. -/
def needKeyAllowed (s : Scan) (trouble : Trouble) : Except Fault Unit :=
  if s.flow = 0 && !s.keyAllowed then s.fail trouble none else .ok ()

/-- Scans the dash of a list entry. -/
def entry (s : Scan) (rest : List Glyph) : Except Fault Scan := do
  s.needKeyAllowed .entryNotAllowed
  let s ← (s.beginBlock s.mark s.count .blockList).dropKey
  return { s.pushUpTo .entry rest with keyAllowed := true }

/-- Scans the question mark of a key. -/
def explicitKey (s : Scan) (rest : List Glyph) : Except Fault Scan := do
  s.needKeyAllowed .keyNotAllowed
  let s ← (s.beginBlock s.mark s.count .blockMap).dropKey
  return { s.pushUpTo .key rest with keyAllowed := s.flow = 0 }

/-- Scans a colon. What may be a key now is one. -/
def value (s : Scan) (rest : List Glyph) : Except Fault Scan :=
  match s.ownKey with
  | (some k, ks) =>
    let s := (s.insertAt k.place ⟨.key, k.mark, k.mark⟩).beginBlock k.mark k.place .blockMap
    .ok { s.pushUpTo .value rest with keys := ks, keyAllowed := false }
  | (none, _) => do
    s.needKeyAllowed .valueNotAllowed
    let s := s.beginBlock s.mark s.count .blockMap
    return { s.pushUpTo .value rest with keyAllowed := s.flow = 0 }

/-- Scans a directive, which begins here. The rest of its line is passed over. -/
def directive (s : Scan) (rest : List Glyph) : Except Fault Scan := do
  let s ← (s.unindent (-1)).dropKey
  let found ← s.scanned s.mark (Yaml.directive rest)
  return { s.pushUpTo (.directive found.directive) found.behind with
    keyAllowed := false
    rest := found.rest }

/-- Scans what may stand before a value or in place of it. -/
def marking {α : Type} (s : Scan) (piece : α → Piece) (found : Except Halt (α × List Glyph)) :
    Except Fault Scan := do
  let s ← s.rememberKey
  let (value, rest) ← s.scanned s.mark found
  return { s.pushUpTo (piece value) rest with keyAllowed := false }

/-- Scans a scalar that may be a key. -/
def scalar (s : Scan) (style : ScalarStyle) (found : Except Halt Scanned) : Except Fault Scan := do
  let s ← s.rememberKey
  let found ← s.scanned s.mark found
  return { s.pushUpTo (.scalar found.text style) found.rest with keyAllowed := found.broken }

/-- Scans a block scalar, which is never a key. -/
def blockScalar (s : Scan) (style : ScalarStyle) (found : Except Halt Scanned) :
    Except Fault Scan := do
  let s ← s.dropKey
  let found ← s.scanned s.mark found
  return { s.pushUpTo (.scalar found.text style) found.rest with keyAllowed := true }

/-- The characters that no plain scalar begins with. -/
def indicators : List Char :=
  ['-', '?', ':', ',', '[', ']', '\x7b', '\x7d', '#', '&', '*', '!', '|', '>', '\x27', '"', '%',
    '@', '\x60']

/-- Whether a plain scalar begins at a glyph. -/
def beginsPlain (flow : Bool) (g : Glyph) (gs : List Glyph) : Bool :=
  !indicators.contains g.char || (g.char = '-' && !oneAhead [' ', '\t'] gs)
    || (!flow && (g.char = '?' || g.char = ':') && !gapAhead gs)

/-- Scans the next token, which begins at a glyph. -/
def next (s : Scan) (g : Glyph) (gs : List Glyph) : Except Fault Scan :=
  let flow := s.flow != 0
  if g.mark.col = 0 && g.char = '%' then s.directive gs
  else if documentMark (g :: gs) then
    s.documentToken (if g.char = '-' then .documentStart else .documentEnd) (gs.drop 2)
  else if g.char = '[' then s.openFlow .openList gs
  else if g.char = '\x7b' then s.openFlow .openMap gs
  else if g.char = ']' then s.closeFlow .closeList gs
  else if g.char = '\x7d' then s.closeFlow .closeMap gs
  else if g.char = ',' then s.comma gs
  else if g.char = '-' && gapAhead gs then s.entry gs
  else if g.char = '?' && (flow || gapAhead gs) then s.explicitKey gs
  else if g.char = ':' && (flow || gapAhead gs) then s.value gs
  else if g.char = '*' then s.marking .alias (anchorName .alias gs)
  else if g.char = '&' then s.marking .anchor (anchorName .anchor gs)
  else if g.char = '!' then s.marking .tag (tag flow gs)
  else if g.char = '|' && !flow then s.blockScalar .literal (Yaml.blockScalar false s.indent gs)
  else if g.char = '>' && !flow then s.blockScalar .text (Yaml.blockScalar true s.indent gs)
  else if g.char = '\x27' then s.scalar .text (singleFrom [] {} false gs)
  else if g.char = '"' then s.scalar .text (doubleFrom [] {} .content gs)
  else if !isSpace g.char && !isBreak g.char && beginsPlain flow g gs then
    s.scalar .plain (plainFrom flow (s.indent + 1) [] {} false (g :: gs))
  else s.fail .noTokenBegins (some (.token, g.mark))

/-- Scans the end of the text, which counts as the beginning of a line. -/
def finish (s : Scan) : Except Fault Scan := do
  let m := s.stop.mark
  let mark := if m.col = 0 then m else ⟨m.line + 1, 0⟩
  let s := { s with rest := [], stop := { s.stop with mark := mark } }
  let s ← (s.unindent (-1)).dropKey
  return { s.pushEmpty .textEnd with ended := true }

/-- Scans one token more. The column in which it begins, or in which the text ends, ends the block
collections that are indented more deeply. Places that may be keys are given up as soon as that can
be told. -/
def step (s : Scan) : Except Fault Scan := do
  let (keyAllowed, rest) := skipGap (s.flow != 0) s.keyAllowed false s.rest
  let s ← { s with keyAllowed := keyAllowed, rest := rest }.dropStale
  let s := s.unindent s.mark.col
  let s ← match rest with
    | [] => s.finish
    | g :: gs => s.next g gs
  s.dropStale

/-- Scans the whole text. Every token takes at least one glyph, so no more steps are needed than
there are glyphs, and one for the end. -/
def run : Nat → Scan → TokenText
  | 0, s => ⟨s.known, none⟩
  | steps + 1, s =>
    match s.step with
    | .error fault => ⟨s.known, some fault⟩
    | .ok t => if t.ended then ⟨t.tokens.reverse, none⟩ else run steps t

end Scan

/-- The tokens of a text. -/
def tokens (t : GlyphText) : TokenText :=
  Scan.run (t.glyphs.length + 1) { rest := t.glyphs, stop := t.stop }

end SubscriptLint.Yaml
