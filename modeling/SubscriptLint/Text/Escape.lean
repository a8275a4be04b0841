import SubscriptLint.Text.Extender
import SubscriptLint.Text.Hidden
/-!
# Escaped text

How a text is shown inside double quotes in messages and listings: the quotes and the characters
that could not be seen there are written as escapes, all other characters stay.
-/

namespace SubscriptLint.Text

/-- Which characters are escaped, apart from those that always are. -/
structure EscapeStyle where
  /-- The single quotation mark. -/
  singleQuote : Bool
  /-- Characters that are shown together with the one before them. -/
  extenders : Bool
  deriving DecidableEq, Repr

/-- The digits of a number in base sixteen, small letters, without leading zeros. -/
def hexDigits (n : Nat) : List Char :=
  Nat.toDigits 16 n

/-- The written form of one character. -/
def escapeChar (style : EscapeStyle) (c : Char) : List Char :=
  if c = '\t' then ['\\', 't']
  else if c = '\n' then ['\\', 'n']
  else if c = '\r' then ['\\', 'r']
  else if c = '\x00' then ['\\', '0']
  else if c = '\\' then ['\\', '\\']
  else if c = '"' then ['\\', '"']
  else if c = '\x27' ∧ style.singleQuote then ['\\', '\x27']
  else if isHidden c ∨ (style.extenders ∧ isExtender c) then
    ['\\', 'u', '\x7b'] ++ hexDigits c.toNat ++ ['\x7d']
  else [c]

/-- A text in double quotes, as names and found values are shown in messages. -/
def quoted (s : String) : String :=
  String.ofList ('"' :: s.toList.flatMap (escapeChar ⟨false, true⟩) ++ ['"'])

/-- The written form of a piece of a text. At its beginning there is nothing that an extending
character could be shown with, so it is escaped there and nowhere else. -/
def escapePiece : List Char → List Char
  | [] => []
  | c :: cs => escapeChar ⟨true, true⟩ c ++ cs.flatMap (escapeChar ⟨true, false⟩)

/-- The longest excerpt shown of an escaped text, in characters. -/
def excerptLimit : Nat := 32

/-- The beginning of a text in escaped form; three dots say that something is left out. -/
def excerpt (cs : List Char) : String :=
  let escaped := escapePiece cs
  if escaped.length ≤ excerptLimit then String.ofList escaped
  else String.ofList (escaped.take excerptLimit) ++ "..."

end SubscriptLint.Text
