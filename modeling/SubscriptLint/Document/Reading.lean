import SubscriptLint.Document.Error
/-!
# Reading

What it is to read a value: it may fail, and only so many aliases may be followed in a document.
A fault is noticed at one of the marks of a value, or else by what contains it.
-/

namespace SubscriptLint

/-- A reading of values. The state is the number of aliases that may still be followed. -/
abbrev Reading (α : Type) := StateT Nat (Except ReadError) α

namespace Reading

variable {α : Type}

/-- A reading with its fault, if it fails, given more precisely. -/
def withFault (r : Reading α) (f : ReadError → ReadError) : Reading α :=
  fun aliases => (r.run aliases).mapError f

/-- Fails with a fault of the text. -/
def malformed (fault : SyntaxFault) : Reading α := throw (.noticed (.malformed fault) none)

/-- Fails with a fault of a JSON text. -/
def malformedJson (cause : Json.Cause) (mark : Option Mark) : Reading α :=
  malformed (.json ⟨cause, mark.getD default⟩)

/-- Fails with a fault of shape, which is noticed at a mark or by what contains the value. -/
def misshapen (error : ShapeError) (mark : Option Mark) : Reading α :=
  throw (.noticed (.shape error) mark)

/-- A result, unless the value that it comes from breaks off. -/
def unlessCut (cut : Option Break) (result : α) : Reading α :=
  match cut with
  | none => pure result
  | some b => malformed b.read

/-- The depth that is left inside a list or a map. -/
def enter (depth : Nat) (marks : Option Marks) : Reading Nat :=
  match depth with
  | 0 => throw (.noticed .tooDeep (marks.map Marks.start))
  | inner + 1 => pure inner

end Reading

namespace Node

variable {α : Type}

/-- Reading a part of a value, to which a step leads. -/
def asPart (n : Node) (step : TrailStep) (r : Reading α) : Reading α :=
  r.withFault (·.outOf n step)

/-- Reading all of a value: what was not noticed at one of its parts is so at its end. -/
def asWhole (n : Node) (r : Reading α) : Reading α :=
  r.withFault (·.noticedBy (n.marks?.map Marks.finish))

/-- Where it is seen what a value is. -/
def seen (n : Node) : Option Mark := n.marks?.map Marks.seen

/-- The value that an alias stands for. -/
def target : Node → Node
  | .alias value _ => value
  | n => n

/-- Where an alias is seen. -/
def aliasMark : Node → Option Mark
  | .alias _ marks => marks.map Marks.seen
  | _ => none

/-- The value that an alias stands for, as long as aliases may be followed. -/
def follow : Node → Reading Node
  | .alias value _ => do
    match ← get with
    | 0 => Reading.malformed (.yaml .tooManyAliases)
    | left + 1 =>
      set left
      return value
  | n => return n

/-- Passes over a value. -/
def passOver (n : Node) : Reading Unit :=
  match n.break? with
  | none => return ()
  | some b => Reading.malformed b.passed

/-- The step to the value of a key. Only a word is a name. -/
def keyStep : Node → TrailStep
  | .scalar (.text key) _ => .entry key
  | .scalar (.plain word) _ => .entry word
  | .tagged _ (.scalar (.text key) _) => .entry key
  | .tagged _ (.scalar (.plain word) _) => .entry word
  | _ => .nameless

/-- The words of a scalar, and whether they are bare. -/
def wordsOf : Scalar → String × Bool
  | .plain word => (word, true)
  | .text value => (value, false)
  | _ => ("", false)

/-- A scalar with the type that it has by itself. -/
def typed : Scalar → Scalar
  | .plain word => BareWord.value word
  | s => s

/-- The value that a scalar has by its tag, or what is wrong with it. -/
def typedBy (tag : ValueTag) (s : Scalar) : Except ShapeError Scalar :=
  let (word, bare) := wordsOf s
  match BareWord.taggedValue? tag bare word with
  | some value => .ok value
  | none => .error (.wrongValue (.text word) (.ofTag tag))

/-- The fault of a value that is not what is expected. -/
def mismatch (expected : Expectation) : Node → Reading α
  | .scalar s marks =>
    Reading.misshapen (.wrongType (.ofScalar (typed s)) expected) (marks.map Marks.seen)
  | .tagged tag (.scalar s marks) =>
    let error := match typedBy tag s with
      | .ok value => .wrongType (.ofScalar value) expected
      | .error error => error
    Reading.misshapen error (marks.map Marks.seen)
  | .tagged _ value => value.mismatch expected
  | .alias value _ => value.mismatch expected
  | .list _ _ marks => Reading.misshapen (.wrongType .sequence expected) (marks.map Marks.seen)
  | .map _ _ marks => Reading.misshapen (.wrongType .map expected) (marks.map Marks.seen)
  | .unreadable cut _ => Reading.malformed cut.read
  | .broken cut _ => Reading.malformed cut.read

end Node

end SubscriptLint
