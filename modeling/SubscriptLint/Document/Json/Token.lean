import SubscriptLint.Document.Json.Number
import SubscriptLint.Document.Json.Quoted
/-!
# JSON tokens

The pieces of a JSON text: marks of lists and maps, and values that have no parts. Scanning stops
at the first piece that is malformed, which is kept with what is wrong with it. Every piece knows
what comes next, since a fault may be noticed there.
-/

namespace SubscriptLint.Json

/-- What stands behind a piece, apart from spaces. -/
structure Outlook where
  /-- The next character, if there is one. -/
  char : Option Char
  /-- Where it stands. -/
  mark : Mark
  /-- Where it ends. -/
  behind : Mark
  /-- Where the spaces behind it end. -/
  further : Mark

namespace Outlook

/-- What stands at the beginning of a text. -/
def ofText (stop : Mark) (gs : List Glyph) : Outlook :=
  match Glyph.dropChars isSpace gs with
  | [] => ⟨none, stop, stop, stop⟩
  | g :: rest =>
    ⟨some g.char, g.mark, Glyph.markOf stop rest,
      Glyph.markOf stop (Glyph.dropChars isSpace rest)⟩

/-- Where one stands who leaves a list: behind its end, or where the next item begins. -/
def leavingList (o : Outlook) : Mark :=
  if o.char = some ']' then o.behind else if o.char = some ',' then o.further else o.mark

/-- Where one stands who leaves a map: behind its end, or where it goes on. -/
def leavingMap (o : Outlook) : Mark :=
  if o.char = some '\x7d' then o.behind else o.mark

end Outlook

/-- A piece of a JSON text. -/
inductive Piece
  | openList
  | closeList
  | openMap
  | closeMap
  | comma
  | colon
  | string (value : Except Fault String)
  /-- A value without parts that is no string. -/
  | scalar (value : Except Fault Scalar)
  /-- A malformed piece, and whether it begins with a quote. -/
  | bad (faults : Faults) (quoted : Bool)

/-- A piece with the marks where it begins, where its first byte ends, and where it ends itself. -/
structure Token where
  piece : Piece
  start : Mark
  first : Mark
  stop : Mark
  outlook : Outlook

/-- What follows a word. -/
def wordRest (stop : Mark) : List Char → List Glyph → Except Fault (List Glyph)
  | [], gs => .ok gs
  | _ :: _, [] => .error ⟨.endInValue, stop⟩
  | c :: cs, g :: gs =>
    if g.char = c then wordRest stop cs gs else .error ⟨.noWord, behindByte g⟩

/-- A value that is written as a word, of which the first letter was read. -/
def wordPiece (stop : Mark) (value : Scalar) (letters : List Char) (gs : List Glyph) :
    Piece × List Glyph :=
  match wordRest stop letters gs with
  | .ok rest => (.scalar (.ok value), rest)
  | .error f => (.bad (.both f) false, [])

/-- A string behind its opening quote. -/
def stringPiece (stop : Mark) (gs : List Glyph) : Piece × List Glyph :=
  match passString stop gs, readString stop [] gs with
  | .ok rest, value => (.string value, rest)
  | .error passed, .error read => (.bad ⟨read, passed⟩ true, [])
  | .error passed, .ok _ => (.bad (.both passed) true, [])

/-- A number. -/
def numberPiece (stop : Mark) (gs : List Glyph) : Piece × List Glyph :=
  match number stop gs with
  | .ok (value, rest) => (.scalar value, rest)
  | .error faults => (.bad faults false, [])

/-- The piece that begins with a glyph, and what follows it. -/
def piece (stop : Mark) (g : Glyph) (gs : List Glyph) : Piece × List Glyph :=
  match g.char with
  | '[' => (.openList, gs)
  | ']' => (.closeList, gs)
  | '\x7b' => (.openMap, gs)
  | '\x7d' => (.closeMap, gs)
  | ',' => (.comma, gs)
  | ':' => (.colon, gs)
  | 'n' => wordPiece stop .null ['u', 'l', 'l'] gs
  | 't' => wordPiece stop (.bool true) ['r', 'u', 'e'] gs
  | 'f' => wordPiece stop (.bool false) ['a', 'l', 's', 'e'] gs
  | '"' => stringPiece stop gs
  | c =>
    if c = '-' || c.isDigit then numberPiece stop (g :: gs)
    else (.bad (.both ⟨.noValue, behindByte g⟩) false, [])

theorem wordRest_le {stop : Mark} {cs : List Char} {gs rest : List Glyph}
    (h : wordRest stop cs gs = .ok rest) : rest.length ≤ gs.length := by
  fun_induction wordRest stop cs gs with
  | case1 => simp_all
  | case2 => simp at h
  | case3 _ _ _ ih =>
    have := ih h
    simp only [List.length_cons]
    omega
  | case4 => simp at h

theorem wordPiece_le (stop : Mark) (value : Scalar) (letters : List Char) (gs : List Glyph) :
    (wordPiece stop value letters gs).2.length ≤ gs.length := by
  unfold wordPiece
  split
  · next h => exact wordRest_le h
  · simp

theorem stringPiece_le (stop : Mark) (gs : List Glyph) :
    (stringPiece stop gs).2.length ≤ gs.length := by
  unfold stringPiece
  split
  · next h => exact Nat.le_of_lt (passString_shorter h)
  · simp
  · simp

theorem numberPiece_shorter (stop : Mark) (g : Glyph) (gs : List Glyph) :
    (numberPiece stop (g :: gs)).2.length < (g :: gs).length := by
  unfold numberPiece
  split
  · next h => exact number_shorter h
  · simp

/-- Every piece takes something from the text. -/
theorem piece_shorter (stop : Mark) (g : Glyph) (gs : List Glyph) :
    (piece stop g gs).2.length < (g :: gs).length := by
  have hw := fun value letters => Nat.lt_succ_of_le (wordPiece_le stop value letters gs)
  unfold piece
  split
  case h_7 => exact hw _ _
  case h_8 => exact hw _ _
  case h_9 => exact hw _ _
  case h_10 => exact Nat.lt_succ_of_le (stringPiece_le stop gs)
  case h_11 =>
    split
    · exact numberPiece_shorter stop g gs
    · simp
  all_goals simp

/-- The tokens of a text, up to the first that is malformed. -/
def tokens (stop : Mark) (gs : List Glyph) : List Token :=
  match _spaced : Glyph.dropChars isSpace gs with
  | [] => []
  | g :: rest =>
    let found := piece stop g rest
    let token : Token :=
      ⟨found.1, g.mark, behindByte g, Glyph.markOf stop found.2, .ofText stop found.2⟩
    match found.1 with
    | .bad .. => [token]
    | _ => token :: tokens stop found.2
termination_by gs.length
decreasing_by
  have := piece_shorter stop g rest
  have := Glyph.length_dropChars_le (p := isSpace) gs
  rw [_spaced] at this
  omega

end SubscriptLint.Json
