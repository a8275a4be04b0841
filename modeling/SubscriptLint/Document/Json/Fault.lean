import SubscriptLint.Document.Mark
/-!
# Faults of JSON texts

What is wrong with a malformed text, and where. Lines count from one, columns are the bytes since
the beginning of the line.
-/

namespace SubscriptLint.Json

/-- What is wrong with a text. -/
inductive Cause
  | endInList
  | endInMap
  | endInString
  | endInValue
  | noColon
  | noCommaInList
  | noCommaInMap
  | noWord
  | noValue
  | keyNotString
  | wrongEscape
  | wrongNumber
  | numberTooLarge
  | control
  /-- The second half of a character of two code units is missing, or comes first. -/
  | loneHalf
  /-- The first half of a character of two code units is followed by no code unit. -/
  | halfWithoutEscape
  | commaBeforeEnd
  | moreBehind
  deriving DecidableEq, Repr

namespace Cause

/-- The wording of a cause. -/
def words : Cause → String
  | endInList => "EOF while parsing a list"
  | endInMap => "EOF while parsing an object"
  | endInString => "EOF while parsing a string"
  | endInValue => "EOF while parsing a value"
  | noColon => "expected `:`"
  | noCommaInList => "expected `,` or `]`"
  | noCommaInMap => "expected `,` or `\x7d`"
  | noWord => "expected ident"
  | noValue => "expected value"
  | keyNotString => "key must be a string"
  | wrongEscape => "invalid escape"
  | wrongNumber => "invalid number"
  | numberTooLarge => "number out of range"
  | control => "control character (\\u0000-\\u001F) found while parsing a string"
  | loneHalf => "lone leading surrogate in hex escape"
  | halfWithoutEscape => "unexpected end of hex escape"
  | commaBeforeEnd => "trailing comma"
  | moreBehind => "trailing characters"

end Cause

/-- What is wrong with a text, and where that is noticed. -/
structure Fault where
  cause : Cause
  mark : Mark
  deriving DecidableEq, Repr

/-- The wording of a fault. -/
def Fault.message (f : Fault) : String := f.cause.words ++ " at " ++ f.mark.words

/-- What is wrong with a piece of a text for one who reads it, and for one who passes over it. -/
structure Faults where
  read : Fault
  passed : Fault

/-- A fault that does not depend on what is done with the piece. -/
def Faults.both (f : Fault) : Faults := ⟨f, f⟩

end SubscriptLint.Json
