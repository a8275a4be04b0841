import SubscriptLint.Document.Json.Fault
import SubscriptLint.Document.Yaml.Fault
/-!
# Documents as trees

The tree of a document, as far as the document could be read, with the marks of its values. A
malformed text is read up to the point where it breaks, and the break has its place in the tree;
so the first fault of a document is found by going through its tree in order.
-/

namespace SubscriptLint

/-- What is wrong with the text of a document. -/
inductive SyntaxFault
  | json (fault : Json.Fault)
  | yaml (fault : Yaml.Fault)
  deriving DecidableEq, Repr

/-- The wording of a fault. -/
def SyntaxFault.message : SyntaxFault → String
  | json fault => fault.message
  | yaml fault => fault.message

/-- Why a value breaks off or cannot be read: what is wrong with it depends on what is done with
it. -/
structure Break where
  /-- It is read. -/
  read : SyntaxFault
  /-- It is passed over. -/
  passed : SyntaxFault
  /-- It is read as one of several variants. -/
  chosen : SyntaxFault
  /-- All that is asked of it was read, and it has to end. -/
  closed : SyntaxFault
  deriving DecidableEq, Repr

/-- A break that does not depend on what is done with the value. -/
def Break.always (f : SyntaxFault) : Break := ⟨f, f, f, f⟩

/-- Where faults of a value are noticed. -/
structure Marks where
  /-- Before anything of it is read. -/
  start : Mark
  /-- When it is seen what it is. -/
  seen : Mark
  /-- When it was read to its end. -/
  finish : Mark
  /-- When what contains it is left behind it. -/
  behind : Mark
  deriving DecidableEq, Repr

/-- A value without parts. -/
inductive Scalar
  | null
  | bool (value : Bool)
  /-- An integer without a minus sign that fits in 64 bits. -/
  | natural (value : Nat)
  /-- An integer with a minus sign that fits in 64 bits, by its magnitude, which may be zero. -/
  | negative (magnitude : Nat)
  /-- An integer that fits in 128 bits only. -/
  | wide (value : Int)
  /-- A number that is no integer, as it is shown. -/
  | decimal (shown : String)
  | text (value : String)
  /-- A bare word that has no type before it is known what is expected. -/
  | plain (word : String)
  deriving DecidableEq, Repr

namespace Scalar

/-- The greatest integer that fits in 64 bits without a sign. -/
def greatestNatural : Nat := 0xFFFFFFFFFFFFFFFF

/-- The greatest magnitude of a negative integer that fits in 64 bits with its sign. -/
def greatestNegative : Nat := 0x8000000000000000

end Scalar

/-- What a tag says of the value behind it. -/
inductive ValueTag
  | truth
  | integer
  | decimal
  | null
  /-- The value belongs to a variant of the document's own. -/
  | variant (name : String)
  /-- A tag of the document's own that is no text. -/
  | obscure
  /-- Nothing that matters. -/
  | foreign
  deriving DecidableEq, Repr

/-- A value in a document. One that was made up from others has no marks. -/
inductive Node
  | scalar (value : Scalar) (marks : Option Marks)
  /-- A list, and why it breaks off, if it does. -/
  | list (items : List Node) (cut : Option Break) (marks : Option Marks)
  /-- Keys with their values, and why they break off, if they do. -/
  | map (entries : List (Node × Node)) (cut : Option Break) (marks : Option Marks)
  | tagged (tag : ValueTag) (value : Node)
  /-- A value that stands elsewhere in the document. -/
  | alias (value : Node) (marks : Option Marks)
  /-- A value that can be passed over but not read. -/
  | unreadable (cut : Break) (marks : Option Marks)
  /-- What could not be read. -/
  | broken (cut : Break) (marks : Option Marks)

namespace Node

/-- The most lists and maps that stand inside each other in a document that is read. -/
def deepest : Nat := 128

/-- A value without its tag. -/
def untagged : Node → Node
  | tagged _ value => value
  | n => n

/-- The marks of a value, if it has some. -/
def marks? : Node → Option Marks
  | scalar _ marks => marks
  | list _ _ marks => marks
  | map _ _ marks => marks
  | tagged _ value => value.marks?
  | .alias _ marks => marks
  | unreadable _ marks => marks
  | broken _ marks => marks

mutual

/-- The first break in a value. What stands elsewhere is not looked at. -/
def break? : Node → Option Break
  | list items cut _ => (breakIn? items).or cut
  | map entries cut _ => (breakInEntries? entries).or cut
  | tagged _ value => break? value
  | broken cut _ => some cut
  | _ => none

/-- The first break in one of several values. -/
def breakIn? : List Node → Option Break
  | [] => none
  | n :: ns => (break? n).or (breakIn? ns)

/-- The first break in one of several keys and values. -/
def breakInEntries? : List (Node × Node) → Option Break
  | [] => none
  | (key, value) :: rest => (break? key).or ((break? value).or (breakInEntries? rest))

end

end Node

end SubscriptLint
