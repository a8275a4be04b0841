import SubscriptLint.Document.Yaml.Fault
/-!
# Glyphs of YAML

The characters of a YAML text with their marks. Indentation carries meaning there, so scanning
needs to know where each character stands.
-/

namespace SubscriptLint.Yaml

/-- Whether a character ends a line. -/
def isBreak (c : Char) : Bool := c = '\n' || c = '\u2028' || c = '\u2029'

/-- Whether a character is a space within a line. -/
def isSpace (c : Char) : Bool := c = ' ' || c = '\t'

/-- Whether a character may occur in a YAML text at all. -/
def isAllowed (c : Char) : Bool :=
  let n := c.toNat
  n = 0x09 || n = 0x0A || n = 0x0D || (0x20 ≤ n && n ≤ 0x7E) || n = 0x85
    || (0xA0 ≤ n && n ≤ 0xD7FF) || (0xE000 ≤ n && n ≤ 0xFFFD) || 0x10000 ≤ n

/-- The mark of the encoding, which is passed over where a line begins with it. -/
def encodingMark : Char := '\ufeff'

/-- The offset of the first character that must not occur in a text that begins at an offset. -/
def controlOffset? (offset : Nat) : List Char → Option Nat
  | [] => none
  | c :: cs => if isAllowed c then controlOffset? (offset + c.utf8Size) cs else some offset

/-- The glyphs of characters that begin at a line, a column and an offset, behind those that are
done, which are in reverse. What ends a line is made a newline character, unless it is one of the
two separators of lines and paragraphs. -/
def glyphsOnto (done : List Glyph) (line col offset : Nat) : List Char → GlyphText
  | [] => ⟨done.reverse, ⟨'\x00', ⟨line, col⟩, offset⟩⟩
  | '\r' :: '\n' :: cs => glyphsOnto (⟨'\n', ⟨line, col⟩, offset⟩ :: done) (line + 1) 0 (offset + 2) cs
  | c :: cs =>
    let read := if c = '\r' || c = '\u0085' then '\n' else c
    let done := ⟨read, ⟨line, col⟩, offset⟩ :: done
    if isBreak read then glyphsOnto done (line + 1) 0 (offset + c.utf8Size) cs
    else glyphsOnto done line (col + 1) (offset + c.utf8Size) cs

/-- The glyphs of a text, unless it has a character that must not occur. -/
def glyphs (text : String) : Except Fault GlyphText :=
  match controlOffset? 0 text.toList with
  | some offset => .error (.control offset)
  | none => .ok (glyphsOnto [] 0 0 0 text.toList)

/-- Whether a text is at its end or goes on with a space or a break. -/
def gapAhead : List Glyph → Bool
  | [] => true
  | g :: _ => isSpace g.char || isBreak g.char

/-- Whether a text goes on with one of the given characters. -/
def oneAhead (cs : List Char) : List Glyph → Bool
  | [] => false
  | g :: _ => cs.contains g.char

/-- Whether a mark that begins or ends a document stands here. -/
def documentMark : List Glyph → Bool
  | a :: b :: c :: rest =>
    a.mark.col = 0 && a.char = b.char && b.char = c.char && (a.char = '-' || a.char = '.')
      && gapAhead rest
  | _ => false

/-- Why scanning comes to a halt in a piece of a text. -/
structure Halt where
  trouble : Trouble
  activity : Activity
  /-- What was not scanned. -/
  rest : List Glyph

end SubscriptLint.Yaml
