import SubscriptLint.Document.Json.Fault
/-!
# Glyphs of JSON

The characters of a JSON text with their marks. Faults may be noticed between the bytes of a
character, so there are marks behind single bytes too.
-/

namespace SubscriptLint.Json

/-- Whether a character may stand between tokens. -/
def isSpace (c : Char) : Bool := c = ' ' || c = '\n' || c = '\t' || c = '\r'

/-- The glyphs of characters that begin at a line, a column and an offset, behind those that are
done, which are in reverse. -/
def glyphsOnto (done : List Glyph) (line col offset : Nat) : List Char → GlyphText
  | [] => ⟨done.reverse, ⟨'\x00', ⟨line, col⟩, offset⟩⟩
  | c :: cs =>
    let size := c.utf8Size
    let done := ⟨c, ⟨line, col⟩, offset⟩ :: done
    if c = '\n' then glyphsOnto done (line + 1) 0 (offset + size) cs
    else glyphsOnto done line (col + size) (offset + size) cs

/-- The glyphs of a text. -/
def glyphs (text : String) : GlyphText := glyphsOnto [] 1 0 0 text.toList

/-- The mark behind the first byte of a glyph. -/
def behindByte (g : Glyph) : Mark :=
  if g.char = '\n' then ⟨g.mark.line + 1, 0⟩ else ⟨g.mark.line, g.mark.col + 1⟩

/-- The mark behind the first byte of a text, or its end. -/
def behindFirstByte (stop : Mark) : List Glyph → Mark
  | [] => stop
  | g :: _ => behindByte g

/-- The mark behind so many bytes of a text, if it has them. -/
def behindBytes? (stop : Mark) : Nat → List Glyph → Option Mark
  | 0, gs => some (Glyph.markOf stop gs)
  | _ + 1, [] => none
  | n + 1, g :: gs =>
    let size := g.char.utf8Size
    if size ≤ n + 1 then behindBytes? stop (n + 1 - size) gs
    else some ⟨g.mark.line, g.mark.col + n + 1⟩

end SubscriptLint.Json
