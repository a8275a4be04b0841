import SubscriptLint.Document.Node
import SubscriptLint.Document.Yaml.Glyph
import SubscriptLint.Text.Digits
/-!
# Anchors, tags and directives

The marks that stand before a value and name it or its type, and the lines before a document that
say how tags are read.
-/

namespace SubscriptLint.Yaml

/-- The bytes of a tag or of a part of one. -/
abbrev TagBytes := List UInt8

/-- A tag as it is written: a handle, which stands for the beginning of the tag, and the rest. A
tag without a handle is written out. -/
structure Tag where
  handle : String
  suffix : TagBytes
  deriving DecidableEq

/-- What a line before a document says. -/
inductive Directive
  /-- The version of the format. -/
  | version (major minor : Nat)
  /-- What a handle stands for. -/
  | handle (name : String) (start : TagBytes)
  deriving DecidableEq

/-- A text without the spaces at its beginning. -/
def dropSpaces (gs : List Glyph) : List Glyph := Glyph.dropChars isSpace gs

/-- What follows a line of which nothing but spaces and a comment are left. -/
def restAfterLine (activity : Activity) (gs : List Glyph) : Except Halt (List Glyph) :=
  let gs := dropSpaces gs
  let gs := if oneAhead ['#'] gs then Glyph.dropChars (fun c => !isBreak c) gs else gs
  match gs with
  | [] => .ok []
  | g :: rest => if isBreak g.char then .ok rest else .error ⟨.lineGoesOn, activity, gs⟩

/-- Whether a character may stand in the name of an anchor, a handle or a directive. -/
def isWordChar (c : Char) : Bool :=
  c.isAlphanum || c = '_' || c = '-'

/-- The word at the beginning of a text, and what follows it. -/
def word (gs : List Glyph) : String × List Glyph :=
  (String.ofList (Glyph.charsWhile isWordChar gs), Glyph.dropChars isWordChar gs)

/-- The characters that may follow the name of an anchor. -/
def anchorEnds : List Char := ['?', ':', ',', ']', '\x7d', '%', '@', '\x60']

/-- The name of an anchor or an alias, and what follows it. -/
def anchorName (activity : Activity) (gs : List Glyph) : Except Halt (String × List Glyph) :=
  let (name, rest) := word gs
  if !name.isEmpty && (gapAhead rest || oneAhead anchorEnds rest) then .ok (name, rest)
  else .error ⟨.noName, activity, rest⟩

/-- The characters that may stand in a tag, apart from those of words. -/
def tagMarks : List Char :=
  [';', '/', '?', ':', '@', '&', '=', '+', '$', '.', '!', '~', '*', '\x27', '(', ')']

/-- Whether a character stands for itself in a tag. Some do only in a tag between angles. -/
def isTagChar (angled : Bool) (c : Char) : Bool :=
  isWordChar c || tagMarks.contains c || (angled && [',', '[', ']'].contains c)

/-- The number of bytes of a character that begins with a byte. -/
def byteCount? (octet : Nat) : Option Nat :=
  if octet < 0x80 then some 1
  else if octet < 0xC0 then none
  else if octet < 0xE0 then some 2
  else if octet < 0xF0 then some 3
  else if octet < 0xF8 then some 4
  else none

/-- The byte that a percent sign and two digits stand for. -/
def escapedByte? (percent a b : Glyph) : Option Nat :=
  if percent.char = '%' then Text.numberOf? 16 [a.char, b.char] else none

/-- How many bytes of a character have to follow a byte, where so many are missing. -/
def missingBehind (missing octet : Nat) : Except Trouble Nat :=
  if missing = 0 then
    match byteCount? octet with
    | some n => .ok (n - 1)
    | none => .error .wrongFirstByte
  else if octet / 64 = 2 then .ok (missing - 1)
  else .error .wrongFurtherByte

/-- The bytes of a tag, and what follows it. A percent sign stands before the two digits of a byte,
and `missing` bytes of a character have to follow in this way. -/
def tagBytes (activity : Activity) (angled : Bool) (missing : Nat) :
    List Glyph → Except Halt (TagBytes × List Glyph)
  | [] => if missing = 0 then .ok ([], []) else .error ⟨.noEscapedByte, activity, []⟩
  | g :: gs =>
    if g.char = '%' || missing ≠ 0 then
      match gs with
      | a :: b :: rest =>
        match escapedByte? g a b with
        | none => .error ⟨.noEscapedByte, activity, g :: gs⟩
        | some octet =>
          match missingBehind missing octet with
          | .error trouble => .error ⟨trouble, activity, g :: gs⟩
          | .ok missing => do
            let (bytes, rest) ← tagBytes activity angled missing rest
            return (octet.toUInt8 :: bytes, rest)
      | _ => .error ⟨.noEscapedByte, activity, g :: gs⟩
    else if isTagChar angled g.char then do
      let (bytes, rest) ← tagBytes activity angled 0 gs
      return (g.char.toNat.toUInt8 :: bytes, rest)
    else .ok ([], g :: gs)

/-- Bytes as they count in a tag, which a zero ends. -/
def countingBytes (bytes : TagBytes) : TagBytes := bytes.takeWhile (· ≠ 0)

/-- The bytes of a tag that must not be empty, and what follows it. -/
def someTagBytes (activity : Activity) (angled : Bool) (gs : List Glyph) :
    Except Halt (TagBytes × List Glyph) := do
  let (bytes, rest) ← tagBytes activity angled 0 gs
  if bytes.isEmpty then throw ⟨.emptyTag, activity, rest⟩
  return (countingBytes bytes, rest)

/-- The tag behind an exclamation mark, and what follows it. -/
def tagBehind (gs : List Glyph) : Except Halt (Tag × List Glyph) :=
  if oneAhead ['<'] gs then do
    let (suffix, rest) ← someTagBytes .tagText true (gs.drop 1)
    if oneAhead ['>'] rest then return (⟨"", suffix⟩, rest.drop 1)
    throw ⟨.noAngle, .tag, rest⟩
  else
    let (name, rest) := word gs
    if oneAhead ['!'] rest then do
      let (suffix, rest) ← someTagBytes .tagText false (rest.drop 1)
      return (⟨"!" ++ name ++ "!", suffix⟩, rest)
    else do
      let (more, rest) ← tagBytes .tagText false 0 rest
      let suffix := countingBytes (name.toUTF8.toList ++ more)
      return (if suffix.isEmpty then ⟨"", "!".toUTF8.toList⟩ else ⟨"!", suffix⟩, rest)

/-- The tag behind an exclamation mark, where a space or a break follows it. In a flow collection a
comma may follow too. -/
def tag (flow : Bool) (gs : List Glyph) : Except Halt (Tag × List Glyph) := do
  let (tag, rest) ← tagBehind gs
  if gapAhead rest || (flow && oneAhead [','] rest) then return (tag, rest)
  throw ⟨.noGap, .tag, rest⟩

/-- The most digits that a number of a version has. -/
def versionDigits : Nat := 9

/-- A number of a version, and what follows it. -/
def versionNumber (gs : List Glyph) : Except Halt (Nat × List Glyph) :=
  let digits := Glyph.charsWhile Char.isDigit gs
  if digits.isEmpty then .error ⟨.noVersion, .version, gs⟩
  else if versionDigits < digits.length then
    .error ⟨.longVersion, .version, gs.drop versionDigits⟩
  else .ok (Text.decimalValue digits, Glyph.dropChars Char.isDigit gs)

/-- The handle that a directive is about, and what follows it. -/
def directiveHandle (gs : List Glyph) : Except Halt (String × List Glyph) :=
  if oneAhead ['!'] gs then
    let (name, rest) := word (gs.drop 1)
    if oneAhead ['!'] rest then .ok ("!" ++ name ++ "!", rest.drop 1)
    else if name.isEmpty then .ok ("!", rest)
    else .error ⟨.noExclamation, .directiveHandleEnd, rest⟩
  else .error ⟨.noExclamation, .directiveHandle, gs⟩

/-- What a directive of the given name says, and what follows it. -/
def directiveValue (name : String) (gs : List Glyph) : Except Halt (Directive × List Glyph) :=
  match name with
  | "YAML" => do
    let (major, rest) ← versionNumber (dropSpaces gs)
    if !oneAhead ['.'] rest then throw ⟨.noVersionPoint, .version, rest⟩
    let (minor, rest) ← versionNumber (rest.drop 1)
    return (.version major minor, rest)
  | "TAG" => do
    let (handle, rest) ← directiveHandle (dropSpaces gs)
    if !oneAhead [' ', '\t'] rest then throw ⟨.noSpace, .handle, rest⟩
    let (start, rest) ← someTagBytes .directiveTag true (dropSpaces rest)
    if !gapAhead rest then throw ⟨.noGap, .handle, rest⟩
    return (.handle handle start, rest)
  | _ => .error ⟨.unknownDirective, .directive, gs⟩

/-- A directive behind its percent sign. -/
structure ScannedDirective where
  directive : Directive
  /-- What follows the directive on its line. -/
  behind : List Glyph
  /-- What follows the line. -/
  rest : List Glyph

/-- The directive behind a percent sign. -/
def directive (gs : List Glyph) : Except Halt ScannedDirective := do
  let (name, rest) := word gs
  if name.isEmpty then throw ⟨.namelessDirective, .directive, rest⟩
  if !gapAhead rest then throw ⟨.oddDirective, .directive, rest⟩
  let (directive, behind) ← directiveValue name rest
  return ⟨directive, behind, ← restAfterLine .directive behind⟩

/-- The beginning of the tags that have a meaning in every document. -/
def coreTags : TagBytes := "tag:yaml.org,2002:".toUTF8.toList

/-- The tags with a meaning that values of any document may have. -/
def coreMeanings : List (TagBytes × ValueTag) :=
  [("bool", .truth), ("int", .integer), ("float", .decimal), ("null", .null)].map fun t =>
    (coreTags ++ t.1.toUTF8.toList, t.2)

/-- The name of a tag of the document's own: what stands behind its exclamation mark, or the mark
itself where nothing does. -/
def ownName? : TagBytes → Option TagBytes
  | [0x21] => some [0x21]
  | 0x21 :: name => some name
  | _ => none

/-- What a tag says. A tag that begins with an exclamation mark is one of the document's own. -/
def tagMeaning (bytes : TagBytes) : ValueTag :=
  match ownName? bytes with
  | some name =>
    match String.fromUTF8? ⟨name.toArray⟩ with
    | some name => .variant name
    | none => .obscure
  | none => (coreMeanings.lookup bytes).getD .foreign

end SubscriptLint.Yaml
