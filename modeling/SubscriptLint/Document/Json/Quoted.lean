import SubscriptLint.Document.Json.Glyph
import SubscriptLint.Text.Digits
/-!
# JSON strings

What stands between the quotes of a string. Passing over a string asks less of it than reading it
does: the two halves of a character that takes two code units need not come together.
-/

namespace SubscriptLint.Json

/-- The character behind a backslash, for the escapes of a single character. -/
def escaped? (c : Char) : Option Char :=
  if c = '"' ∨ c = '\\' ∨ c = '/' then some c
  else if c = 'b' then some '\x08'
  else if c = 'f' then some '\x0c'
  else if c = 'n' then some '\n'
  else if c = 'r' then some '\r'
  else if c = 't' then some '\t'
  else none

/-- The number of digits of a code unit. -/
def codeLength : Nat := 4

/-- The code unit that four glyphs are the digits of. -/
def codeUnit? (a b c d : Glyph) : Option Nat :=
  Text.numberOf? 16 [a.char, b.char, c.char, d.char]

/-- The fault of a text that should go on with the digits of a code unit. -/
def codeFault (stop : Mark) (gs : List Glyph) : Fault :=
  match behindBytes? stop codeLength gs with
  | some mark => ⟨.wrongEscape, mark⟩
  | none => ⟨.endInString, stop⟩

/-- What follows a string behind its opening quote. -/
def passString (stop : Mark) : List Glyph → Except Fault (List Glyph)
  | [] => .error ⟨.endInString, stop⟩
  | g :: gs =>
    if g.char = '"' then .ok gs
    else if g.char = '\\' then
      match gs with
      | [] => .error ⟨.endInString, stop⟩
      | e :: rest =>
        if e.char = 'u' then
          match rest with
          | a :: b :: c :: d :: more =>
            match codeUnit? a b c d with
            | some _ => passString stop more
            | none => .error (codeFault stop rest)
          | _ => .error (codeFault stop rest)
        else if (escaped? e.char).isSome then passString stop rest
        else .error ⟨.wrongEscape, behindByte e⟩
    else if g.char.toNat < 0x20 then .error ⟨.control, g.mark⟩
    else passString stop gs

/-- Whether a code unit is the first half of a character. -/
def isFirstHalf (n : Nat) : Bool := 0xD800 ≤ n && n < 0xDC00

/-- Whether a code unit is the second half of a character. -/
def isSecondHalf (n : Nat) : Bool := 0xDC00 ≤ n && n < 0xE000

/-- The character with two halves. -/
def joinHalves (first second : Nat) : Char :=
  Char.ofNat (0x10000 + (first - 0xD800) * 0x400 + (second - 0xDC00))

/-- The second half of a character, which has to come behind its first half. -/
def secondHalf (stop : Mark) : List Glyph → Except Fault Nat
  | [] => .error ⟨.endInString, stop⟩
  | x :: gs =>
    if x.char ≠ '\\' then .error ⟨.halfWithoutEscape, behindByte x⟩
    else
      match gs with
      | [] => .error ⟨.endInString, stop⟩
      | u :: rest =>
        if u.char ≠ 'u' then .error ⟨.halfWithoutEscape, behindByte u⟩
        else
          match rest with
          | a :: b :: c :: d :: more =>
            match codeUnit? a b c d with
            | some n =>
              if isSecondHalf n then .ok n else .error ⟨.loneHalf, Glyph.markOf stop more⟩
            | none => .error (codeFault stop rest)
          | _ => .error (codeFault stop rest)

/-- The text of a string behind its opening quote, with its characters so far in reverse. -/
def readString (stop : Mark) (done : List Char) : List Glyph → Except Fault String
  | [] => .error ⟨.endInString, stop⟩
  | g :: gs =>
    if g.char = '"' then .ok (String.ofList done.reverse)
    else if g.char = '\\' then
      match gs with
      | [] => .error ⟨.endInString, stop⟩
      | e :: rest =>
        if e.char = 'u' then
          match rest with
          | a :: b :: c :: d :: more =>
            match codeUnit? a b c d with
            | none => .error (codeFault stop rest)
            | some n =>
              if isSecondHalf n then .error ⟨.loneHalf, Glyph.markOf stop more⟩
              else if isFirstHalf n then
                match secondHalf stop more, more with
                | .error f, _ => .error f
                | .ok m, _ :: _ :: _ :: _ :: _ :: _ :: behind =>
                  readString stop (joinHalves n m :: done) behind
                | .ok _, _ => .error ⟨.endInString, stop⟩
              else readString stop (Char.ofNat n :: done) more
          | _ => .error (codeFault stop rest)
        else
          match escaped? e.char with
          | some c => readString stop (c :: done) rest
          | none => .error ⟨.wrongEscape, behindByte e⟩
    else if g.char.toNat < 0x20 then .error ⟨.control, behindByte g⟩
    else readString stop (g.char :: done) gs

/-- A string takes something from the text. -/
theorem passString_shorter {stop : Mark} {gs rest : List Glyph}
    (h : passString stop gs = .ok rest) : rest.length < gs.length := by
  match gs with
  | [] => simp [passString] at h
  | g :: gs =>
    have shorter {more : List Glyph} (le : more.length ≤ gs.length)
        (h : passString stop more = .ok rest) : rest.length < (g :: gs).length := by
      have := passString_shorter h
      simp only [List.length_cons]
      omega
    rw [passString.eq_def] at h
    simp only at h
    split at h
    · simp_all
    split at h
    · split at h
      · simp at h
      split at h
      · split at h
        · split at h
          · exact shorter (by simp only [List.length_cons]; omega) h
          · simp at h
        · simp at h
      · split at h
        · exact shorter (by simp only [List.length_cons]; omega) h
        · simp at h
    · split at h
      · simp at h
      · exact shorter (Nat.le_refl _) h
termination_by gs.length
decreasing_by
  simp_all only [List.length_cons]
  omega

end SubscriptLint.Json
