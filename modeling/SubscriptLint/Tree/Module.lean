import SubscriptLint.Source.Basic
import SubscriptLint.Tree.Expr
/-!
# Modules

A module is a file as it was laid out: its text and its statements, every expression of which has
a place. Nothing says that a hand-made module has sensible places; a laid out one has.
-/

namespace SubscriptLint

/-- Where an expression stands: its region of the text and its number in the module. -/
structure Place where
  region : Region
  number : Nat
  deriving DecidableEq, Repr, Inhabited

namespace Place

/-- The range of the text. -/
def span (p : Place) : Span := p.region.toSpan

end Place

/-- A file with its statements. -/
structure Module where
  number : Nat
  source : Source
  statements : List (Expr Place)
  exprCount : Nat

namespace Module

/-- The path of the file. -/
def file (m : Module) : String := m.source.file

/-- All expressions of the statements in the order of the text. -/
def visits (m : Module) : List (Visit Place) := Expr.visitsList m.statements

end Module

/-- A subscript together with its surroundings. -/
structure Access where
  place : Place
  container : Option (Expr Place)
  index : Option (Expr Place)
  /-- The bracket, unless the closing one is missing. -/
  bracket : Option Bracket
  /-- The access is the target of an assignment. -/
  target : Bool

namespace Access

/-- The access that was met on a walk, if the expression is one. -/
def ofVisit? (v : Visit Place) : Option Access :=
  match v.expr with
  | .access place container index bracket closed =>
    some ⟨place, container, index, if closed then some bracket else none, v.target⟩
  | _ => none

/-- Whether the access adds an element: the target of an assignment without an index. -/
def isPush (a : Access) : Bool := a.target && a.index.isNone

end Access

namespace Module

/-- All subscripts of the statements in the order of the text. -/
def accesses (m : Module) : List Access := m.visits.filterMap Access.ofVisit?

end Module

end SubscriptLint
