import SubscriptLint.Document.BareWord
import SubscriptLint.Text.Escape
/-!
# Faults of documents

Why a document is refused: its text is malformed, or a value has not the shape that its place
asks for. Such a fault knows where it was noticed and how one gets there from the whole document.
All wording is in `ReadError.message`.
-/

namespace SubscriptLint

/-- The format of a document. -/
inductive Format
  | json
  | yaml
  deriving DecidableEq, Repr

/-- What a place in a document asks for. -/
inductive Expectation
  | text
  | boolean
  | sequence
  | unit
  /-- A record, by its name. -/
  | record (name : String)
  /-- The part of an expression behind the word that says what kind of expression it is. -/
  | body
  /-- The choice between named variants. -/
  | choice
  | fieldName
  | variantName
  /-- A number that counts so many variants from zero. -/
  | variantNumber (count : Nat)
  /-- A tag that names a variant. -/
  | variantTag
  | anything
  /-- What a tag asks for. -/
  | truthWord
  | integerWord
  | decimalWord
  | nullWord
  deriving DecidableEq, Repr

namespace Expectation

/-- The words for what is expected. -/
def words : Expectation → String
  | text => "a string"
  | boolean => "a boolean"
  | sequence => "a sequence"
  | unit => "unit"
  | record name => "struct " ++ name
  | body => "struct variant"
  | choice => "string or map"
  | fieldName => "field identifier"
  | variantName => "variant identifier"
  | variantNumber count => "variant index 0 <= i < " ++ toString count
  | variantTag => "a YAML tag starting with '!'"
  | anything => "any value"
  | truthWord => "a boolean"
  | integerWord => "an integer"
  | decimalWord => "a float"
  | nullWord => "null"

/-- What a tag asks for. -/
def ofTag : ValueTag → Expectation
  | .truth => truthWord
  | .integer => integerWord
  | .decimal => decimalWord
  | .null => nullWord
  | .variant _ | .obscure | .foreign => anything

end Expectation

/-- What is found where something else is expected. -/
inductive Found
  | null
  | map
  | sequence
  | boolean (value : Bool)
  | integer (value : Int)
  /-- An integer that fits in 128 bits only. -/
  | wide (value : Int)
  | decimal (shown : String)
  | text (value : String)
  deriving DecidableEq, Repr

namespace Found

/-- The words for what is found in a document of some format. -/
def words (format : Format) : Found → String
  | null =>
    match format with
    | .json => "null"
    | .yaml => "unit value"
  | map => "map"
  | sequence => "sequence"
  | boolean value => "boolean `" ++ (if value then "true" else "false") ++ "`"
  | integer value => "integer `" ++ toString value ++ "`"
  | wide value => "integer `" ++ toString value ++ (if 0 ≤ value then "` as u128" else "` as i128")
  | decimal shown => "floating point `" ++ shown ++ "`"
  | text value => "string " ++ Text.quoted value

/-- What a scalar is found to be. -/
def ofScalar : Scalar → Found
  | .null => null
  | .bool value => boolean value
  | .natural value => integer value
  | .negative magnitude => integer (-(magnitude : Int))
  | .wide value => wide value
  | .decimal shown => decimal shown
  | .text value => text value
  | .plain word => text word

end Found

/-- Why a value has not the shape that its place asks for. -/
inductive ShapeError
  | blankTypeName
  | unqualifiedClass (name : String)
  | missingField (name : String)
  | duplicateField (name : String)
  | unknownField (name : String) (known : List String)
  | unknownVariant (name : String) (known : List String)
  | wrongType (found : Found) (expected : Expectation)
  | wrongValue (found : Found) (expected : Expectation)
  /-- A record given as a list that ends before a field that is required. -/
  | tooShort (length : Nat) (record : String) (fields : Nat)
  /-- A record given as a list that goes on behind its last field. -/
  | tooLong (length : Nat) (fields : Nat)
  /-- A choice given as a map that has not exactly one key. -/
  | manyChoices
  /-- An expression that does not say of what kind it is. -/
  | noKind
  /-- A variant of the document's own where no variant can stand. -/
  | variantInside
  deriving DecidableEq, Repr

namespace ShapeError

/-- Names as they are listed after "expected". -/
def listing (names : List String) : String :=
  match names.map fun name => "`" ++ name ++ "`" with
  | [] => "there are no fields"
  | [a] => "expected " ++ a
  | [a, b] => "expected " ++ a ++ " or " ++ b
  | many => "expected one of " ++ ", ".intercalate many

/-- The wording of an error in a document of some format. -/
def message (format : Format) : ShapeError → String
  | blankTypeName => "type name must not be empty"
  | unqualifiedClass name =>
    "class name `" ++ name ++ "` must be fully qualified with a leading `\\`"
  | missingField name => "missing field `" ++ name ++ "`"
  | duplicateField name => "duplicate field `" ++ name ++ "`"
  | unknownField name known => "unknown field `" ++ name ++ "`, " ++ listing known
  | unknownVariant name known => "unknown variant `" ++ name ++ "`, " ++ listing known
  | wrongType found expected =>
    "invalid type: " ++ found.words format ++ ", expected " ++ expected.words
  | wrongValue found expected =>
    "invalid value: " ++ found.words format ++ ", expected " ++ expected.words
  | tooShort length record fields =>
    "invalid length " ++ toString length ++ ", expected struct " ++ record ++ " with "
      ++ toString fields ++ " elements"
  | tooLong length fields =>
    "invalid length " ++ toString length ++ ", expected " ++ toString fields
      ++ " elements in sequence"
  | manyChoices => "invalid value: map, expected map with a single key"
  | noKind => "no variant of enum ExprKindDecl found in flattened data"
  | variantInside => "untagged and internally tagged enums do not support enum input"

end ShapeError

/-- A step from a value of a document to one of its parts. -/
inductive TrailStep
  /-- To an item of a list, counted from zero. -/
  | item (index : Nat)
  /-- To the value of a key. -/
  | entry (key : String)
  /-- To the value of a key that is no word. -/
  | nameless
  deriving DecidableEq, Repr

namespace TrailStep

/-- The words for the whole document. -/
def root : String := "."

/-- The words for a name below what a trail leads to. -/
def below (trail : Option String) (name : String) : String :=
  match trail with
  | none => name
  | some trail => trail ++ "." ++ name

/-- The words for a trail with one more step. -/
def extend (trail : Option String) : TrailStep → Option String
  | item index => some (trail.getD root ++ "[" ++ toString index ++ "]")
  | entry key => some (below trail key)
  | nameless => some (below trail "?")

/-- The words for a trail from the whole document. -/
def trailWords (steps : List TrailStep) : String := (steps.foldl extend none).getD root

end TrailStep

/-- What is wrong where a document cannot be read. -/
inductive ReadFault
  | malformed (fault : SyntaxFault)
  /-- Lists and maps are nested too deeply. -/
  | tooDeep
  | shape (error : ShapeError)
  deriving DecidableEq, Repr

/-- Why a document cannot be read. -/
structure ReadError where
  fault : ReadFault
  /-- Where the fault was noticed, unless that is left to what contains the value. -/
  mark : Option Mark
  /-- The steps to the value with the fault. -/
  trail : List TrailStep
  deriving DecidableEq, Repr

namespace ReadError

/-- A fault, noticed at a mark if there is one. -/
def noticed (fault : ReadFault) (mark : Option Mark) : ReadError := ⟨fault, mark, []⟩

/-- A fault of a value as a whole: if it was not noticed before, it is so at the mark. -/
def noticedBy (e : ReadError) (mark : Option Mark) : ReadError :=
  match e.mark with
  | none => { e with mark := mark }
  | some _ => e

/-- A fault of a part of a value. If it was noticed in the part, one more step leads there; else it
is noticed when the part was left. -/
def outOf (e : ReadError) (part : Node) (step : TrailStep) : ReadError :=
  match e.mark with
  | none => { e with mark := part.marks?.map Marks.behind }
  | some _ => { e with trail := step :: e.trail }

/-- The words for a mark behind a message. -/
def markWords (format : Format) (mark : Option Mark) : String :=
  match format, mark with
  | .json, some m => " at " ++ m.words
  | .yaml, some m => Yaml.placeWords m
  | _, none => ""

/-- The words for a trail before a message. -/
def trailWords (format : Format) (e : ReadError) : String :=
  match format, e.mark with
  | .yaml, some _ =>
    let trail := TrailStep.trailWords e.trail
    if trail = TrailStep.root then "" else trail ++ ": "
  | _, _ => ""

/-- The wording of an error in a document of some format. -/
def message (format : Format) (e : ReadError) : String :=
  match e.fault with
  | .malformed fault => fault.message
  | .tooDeep => "recursion limit exceeded" ++ markWords format e.mark
  | .shape error => e.trailWords format ++ error.message format ++ markWords format e.mark

end ReadError

end SubscriptLint
