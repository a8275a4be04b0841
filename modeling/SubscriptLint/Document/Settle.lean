import SubscriptLint.Document.Reading
/-!
# Settled values

Some values are read to their end before anyone knows what they stand for. Such a value is
settled: its bare words take the types that they have by themselves, nothing in it is left that
could not be read, and it has no marks any more.
-/

namespace SubscriptLint

namespace Node

/-- A scalar that was read to its end, which is no integer of 128 bits. -/
def settleScalar (value : Scalar) (mark : Option Mark) : Reading Node :=
  match value with
  | .wide n => Reading.misshapen (.wrongType (.wide n) .anything) mark
  | value => return .scalar value none

mutual

/-- A value without its marks, with its bare words typed. It fails on what has no value, and where
lists and maps are nested more deeply than is left. -/
def settle (depth : Nat) : Node → Reading Node
  | .scalar value marks => settleScalar (typed value) (marks.map Marks.seen)
  | .tagged (.variant _) value => Reading.misshapen .variantInside value.seen
  | .tagged tag (.scalar value marks) =>
    match typedBy tag value with
    | .ok value => settleScalar value (marks.map Marks.seen)
    | .error error => Reading.misshapen error (marks.map Marks.seen)
  | .tagged _ value => settle depth value
  | .alias value marks => do
    let _ ← (Node.alias value marks).follow
    settle depth value
  | .unreadable cut _ => Reading.malformed cut.read
  | .broken cut _ => Reading.malformed cut.read
  | .list items cut marks => do
    let inner ← Reading.enter depth marks
    let items ← settleItems inner 0 items
    Reading.unlessCut cut (.list items none none)
  | .map entries cut marks => do
    let inner ← Reading.enter depth marks
    let entries ← settleEntries inner entries
    Reading.unlessCut cut (.map entries none none)

/-- Settles items one after the other, the first of which has a number. -/
def settleItems (depth number : Nat) : List Node → Reading (List Node)
  | [] => return []
  | n :: ns => do
    let settled ← n.asPart (.item number) (settle depth n)
    let others ← settleItems depth (number + 1) ns
    return settled :: others

/-- Settles keys and values one after the other. -/
def settleEntries (depth : Nat) : List (Node × Node) → Reading (List (Node × Node))
  | [] => return []
  | (key, value) :: rest => do
    let settledKey ← settle depth key
    let settledValue ← value.asPart key.keyStep (settle depth value)
    let others ← settleEntries depth rest
    return (settledKey, settledValue) :: others

end

end Node

end SubscriptLint
