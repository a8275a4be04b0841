import SubscriptLint.Tree.Module
/-!
# Listings of trees

The form in which a laid out tree is listed: the name of each node with its fields between braces.
A listing shows an excerpt of every node's text, so it fails where a place does not fit the
source.
-/

namespace SubscriptLint

namespace Bracket

/-- The bracket of an access in a listing; an unclosed one has none. -/
def listing (bracket : Bracket) (closed : Bool) : String :=
  if closed then
    match bracket with
    | square => "Some(Square)"
    | curly => "Some(Curly)"
  else "None"

end Bracket

namespace Expr

/-- A node in a listing: its name, its fields with their values, and its number. -/
def listNode? (source : Source) (place : Place) (name : String)
    (fields : List (String × String)) : Option String := do
  let span ← source.showRegion? place.region
  let all := ("span", span) :: fields ++ [("eidx", toString place.number)]
  return name ++ " \x7b " ++ ", ".intercalate (all.map fun f => f.1 ++ ": " ++ f.2) ++ " \x7d"

mutual

/-- The listing of a tree. -/
def listing? (source : Source) : Expr Place → Option String
  | var place _ => listNode? source place "Var" []
  | literal place _ => listNode? source place "Literal" []
  | access place container index bracket closed => do
    let container ← listingOption? source container
    let index ← listingOption? source index
    listNode? source place "Access"
      [("container", container), ("index", index), ("bracket", bracket.listing closed)]
  | assign place target value => do
    let target ← listing? source target
    let value ← listing? source value
    listNode? source place "Assign" [("target", target), ("value", value)]
  | call place callee args => do
    let args ← listingList? source args
    listNode? source place "Call"
      [("callee", Text.quoted callee), ("args", "[" ++ ", ".intercalate args ++ "]")]
  | property place object name => do
    let object ← listing? source object
    listNode? source place "Property" [("object", object), ("name", Text.quoted name)]

/-- The listing of a part that may be missing. -/
def listingOption? (source : Source) : Option (Expr Place) → Option String
  | none => some "None"
  | some e => do
    let text ← listing? source e
    return "Some(" ++ text ++ ")"

/-- The listings of several trees. -/
def listingList? (source : Source) : List (Expr Place) → Option (List String)
  | [] => some []
  | e :: es => do
    let text ← listing? source e
    let texts ← listingList? source es
    return text :: texts

end

end Expr

end SubscriptLint
