/-!
# Marks

Places in the text of a document. Messages name them by line and column, and each format counts
these in its own way; scanning keeps them with the characters.
-/

namespace SubscriptLint

/-- A line and a column of a document, as its format counts them. -/
structure Mark where
  line : Nat
  col : Nat
  deriving DecidableEq, Repr, Inhabited

namespace Mark

/-- The words for a mark whose line and column count as they are shown. -/
def words (m : Mark) : String := "line " ++ toString m.line ++ " column " ++ toString m.col

end Mark

/-- A character of a document, where it stands, and the number of bytes before it. -/
structure Glyph where
  char : Char
  mark : Mark
  offset : Nat
  deriving Inhabited

/-- The glyphs of a document, and the one that would come next. -/
structure GlyphText where
  glyphs : List Glyph
  stop : Glyph

namespace Glyph

/-- The mark at which a text goes on. Behind its last glyph it ends at `stop`. -/
def markOf (stop : Mark) : List Glyph → Mark
  | [] => stop
  | g :: _ => g.mark

/-- The characters at the beginning of a text that pass a test. -/
def charsWhile (p : Char → Bool) (gs : List Glyph) : List Char :=
  (gs.takeWhile fun g => p g.char).map Glyph.char

/-- What follows the characters at the beginning of a text that pass a test. -/
def dropChars (p : Char → Bool) (gs : List Glyph) : List Glyph :=
  gs.dropWhile fun g => p g.char

theorem length_dropChars_le {p : Char → Bool} (gs : List Glyph) :
    (dropChars p gs).length ≤ gs.length :=
  (List.dropWhile_sublist _).length_le

end Glyph

end SubscriptLint
