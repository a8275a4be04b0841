import SubscriptLint.Facts.Oracle
import SubscriptLint.Hierarchy.Catalog
import SubscriptLint.Text.Blank
import SubscriptLint.Tree.Expr
/-!
# Blueprints

A blueprint describes a project without its text: the statements of every file as trees, noted
with what is known about the types of their expressions, and the declared classes.
-/

namespace SubscriptLint

/-- What is known about the types of one expression. -/
structure TypeNote where
  /-- The resolved types; absent if nothing is known. -/
  types : Option TypeSet := none
  /-- A part of the type is unknown. -/
  partly : Bool := false
  /-- The types that the scope suggests, if they differ. -/
  inferred : Option TypeSet := none

namespace TypeNote

/-- The resolved type that a note stands for. -/
def resolved? (n : TypeNote) : Option Resolved :=
  match n.types with
  | some types => some ⟨types, n.partly⟩
  | none => if n.partly then some ⟨∅, true⟩ else none

end TypeNote

/-- A file of a project. -/
structure FileBlueprint where
  path : String
  statements : List (Expr TypeNote) := []

/-- A project. -/
structure Blueprint where
  classes : List ClassDecl := []
  files : List FileBlueprint := []

namespace Expr

variable {α : Type}

/-- Whether the node itself is a variable without a name. -/
def isNameless : Expr α → Bool
  | var _ name => Text.isBlankText name
  | _ => false

/-- Whether a tree has a variable without a name. -/
def hasNameless (e : Expr α) : Bool := (e.visits false).any fun v => v.expr.isNameless

end Expr

end SubscriptLint
