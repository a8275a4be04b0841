import SubscriptLint.Document.Mark
/-!
# Faults of YAML texts

What is wrong with a malformed text, where, and what was being read there. Lines and columns count
from zero, columns in characters; in messages they count from one, and the very first place is
not told.
-/

namespace SubscriptLint.Yaml

/-- What is wrong at a place of a text. -/
inductive Trouble
  | noTokenBegins
  | noColon
  | entryNotAllowed
  | keyNotAllowed
  | valueNotAllowed
  | unknownDirective
  | lineGoesOn
  | namelessDirective
  | oddDirective
  | noVersionPoint
  | longVersion
  | noVersion
  | noSpace
  | noGap
  | noName
  | noAngle
  | noExclamation
  | emptyTag
  | noEscapedByte
  | wrongFirstByte
  | wrongFurtherByte
  | noIndentation
  | tabInBlock
  | documentMark
  | endInQuotes
  | unknownEscape
  | noHexDigit
  | noCharacter
  | colonInWord
  | tabInWord
  | noDocumentStart
  | unknownHandle
  | noContent
  | noDash
  | noKey
  | noListEnd
  | noMapEnd
  | secondVersion
  | foreignVersion
  | secondHandle
  deriving DecidableEq, Repr

namespace Trouble

/-- The wording of a trouble. -/
def words : Trouble → String
  | noTokenBegins => "found character that cannot start any token"
  | noColon => "could not find expected ':'"
  | entryNotAllowed => "block sequence entries are not allowed in this context"
  | keyNotAllowed => "mapping keys are not allowed in this context"
  | valueNotAllowed => "mapping values are not allowed in this context"
  | unknownDirective => "found unknown directive name"
  | lineGoesOn => "did not find expected comment or line break"
  | namelessDirective => "could not find expected directive name"
  | oddDirective => "found unexpected non-alphabetical character"
  | noVersionPoint => "did not find expected digit or '.' character"
  | longVersion => "found extremely long version number"
  | noVersion => "did not find expected version number"
  | noSpace => "did not find expected whitespace"
  | noGap => "did not find expected whitespace or line break"
  | noName => "did not find expected alphabetic or numeric character"
  | noAngle => "did not find the expected '>'"
  | noExclamation => "did not find expected '!'"
  | emptyTag => "did not find expected tag URI"
  | noEscapedByte => "did not find URI escaped octet"
  | wrongFirstByte => "found an incorrect leading UTF-8 octet"
  | wrongFurtherByte => "found an incorrect trailing UTF-8 octet"
  | noIndentation => "found an indentation indicator equal to 0"
  | tabInBlock => "found a tab character where an indentation space is expected"
  | documentMark => "found unexpected document indicator"
  | endInQuotes => "found unexpected end of stream"
  | unknownEscape => "found unknown escape character"
  | noHexDigit => "did not find expected hexadecimal number"
  | noCharacter => "found invalid Unicode character escape code"
  | colonInWord => "found unexpected ':'"
  | tabInWord => "found a tab character that violates indentation"
  | noDocumentStart => "did not find expected <document start>"
  | unknownHandle => "found undefined tag handle"
  | noContent => "did not find expected node content"
  | noDash => "did not find expected '-' indicator"
  | noKey => "did not find expected key"
  | noListEnd => "did not find expected ',' or ']'"
  | noMapEnd => "did not find expected ',' or '\x7d'"
  | secondVersion => "found duplicate %YAML directive"
  | foreignVersion => "found incompatible YAML document"
  | secondHandle => "found duplicate %TAG directive"

end Trouble

/-- What was being read when trouble was met. -/
inductive Activity
  | token
  | simpleKey
  | directive
  | version
  | handle
  | directiveHandle
  | directiveHandleEnd
  | directiveTag
  | anchor
  | alias
  | tag
  | tagText
  | blockScalar
  | quotes
  | escape
  | plainScalar
  | node
  | blockNode
  | flowNode
  | blockList
  | blockMap
  | flowList
  | flowMap
  deriving DecidableEq, Repr

namespace Activity

/-- The wording of an activity. -/
def words : Activity → String
  | token => "while scanning for the next token"
  | simpleKey => "while scanning a simple key"
  | directive => "while scanning a directive"
  | version => "while scanning a %YAML directive"
  | handle => "while scanning a %TAG directive"
  | directiveHandle => "while scanning a tag directive"
  | directiveHandleEnd => "while parsing a tag directive"
  | directiveTag => "while parsing a %TAG directive"
  | anchor => "while scanning an anchor"
  | .alias => "while scanning an alias"
  | tag => "while scanning a tag"
  | tagText => "while parsing a tag"
  | blockScalar => "while scanning a block scalar"
  | quotes => "while scanning a quoted scalar"
  | escape => "while parsing a quoted scalar"
  | plainScalar => "while scanning a plain scalar"
  | node => "while parsing a node"
  | blockNode => "while parsing a block node"
  | flowNode => "while parsing a flow node"
  | blockList => "while parsing a block collection"
  | blockMap => "while parsing a block mapping"
  | flowList => "while parsing a flow sequence"
  | flowMap => "while parsing a flow mapping"

end Activity

/-- The words for a place behind what they are about. The very first place has none. -/
def placeWords (m : Mark) : String :=
  if m = ⟨0, 0⟩ then "" else " at " ++ (Mark.mk (m.line + 1) (m.col + 1)).words

/-- What is wrong with a text. -/
inductive Fault
  | trouble (kind : Trouble) (mark : Mark) (during : Option (Activity × Mark))
  /-- A character that must not occur, behind so many bytes. -/
  | control (offset : Nat)
  | unknownAnchor (mark : Mark)
  | secondDocument
  | tooManyAliases
  deriving DecidableEq, Repr

namespace Fault

/-- The words for what was being read. Its place is told unless it is that of the trouble. -/
def activityWords (mark : Mark) : Option (Activity × Mark) → String
  | none => ""
  | some (activity, start) =>
    ", " ++ activity.words ++ if start = mark then "" else placeWords start

/-- The wording of a fault. -/
def message : Fault → String
  | .trouble kind mark during => kind.words ++ placeWords mark ++ activityWords mark during
  | .control offset =>
    "control characters are not allowed"
      ++ if offset = 0 then "" else " at position " ++ toString offset
  | .unknownAnchor mark => "unknown anchor" ++ placeWords mark
  | .secondDocument =>
    "deserializing from YAML containing more than one document is not supported"
  | .tooManyAliases => "repetition limit exceeded"

end Fault

end SubscriptLint.Yaml
