import SubscriptLint.Facts.SideTable
import SubscriptLint.Names.TypeSet
/-!
# Type facts

What is known about the types of expressions. Expressions are addressed by the number of their
module and their own number in it. An `Oracle` answers questions; a `TypeTable` is the recorded
knowledge that an oracle may answer from.
-/

namespace SubscriptLint

/-- The resolved type of one expression. -/
structure Resolved where
  /-- The types that have a name. -/
  types : TypeSet
  /-- A part of the type has no name. -/
  partly : Bool := false

namespace Resolved

/-- The resolved types, if nothing of them is unknown; no types otherwise. -/
def certain : Option Resolved → TypeSet
  | some r => if r.partly then ∅ else r.types
  | none => ∅

end Resolved

/-- Answers to questions about the types of expressions. -/
structure Oracle where
  /-- The resolved type of an expression, if there is any information on it. -/
  resolve : Nat → Nat → Option Resolved
  /-- The types that the surrounding scope suggests. They are asked for where an element is
  pushed, since the resolved type of a container is `array` there in any case. -/
  infer : Nat → Nat → TypeSet

namespace Oracle

/-- The oracle whose inference knows no more than the resolved types. -/
def ofResolve (resolve : Nat → Nat → Option Resolved) : Oracle where
  resolve := resolve
  infer module expr := Resolved.certain (resolve module expr)

end Oracle

/-- Recorded knowledge about the types of expressions. -/
structure TypeTable where
  resolved : SideTable Resolved := ∅
  inferred : SideTable TypeSet := ∅

namespace TypeTable

instance : Inhabited TypeTable := ⟨{}⟩

/-- The table with room for the expressions of a module. -/
def reserve (t : TypeTable) (module count : Nat) : TypeTable :=
  ⟨t.resolved.reserve module count, t.inferred.reserve module count⟩

/-- The table with the resolved type of an expression recorded. -/
def setResolved (t : TypeTable) (module expr : Nat) (r : Resolved) : TypeTable :=
  { t with resolved := t.resolved.set module expr r }

/-- The table with the inferred types of an expression recorded. -/
def setInferred (t : TypeTable) (module expr : Nat) (types : TypeSet) : TypeTable :=
  { t with inferred := t.inferred.set module expr types }

/-- The table with the resolved type of an expression recorded, if there can be a slot for it. -/
def setResolved? (t : TypeTable) (module expr : Nat) (r : Resolved) : Option TypeTable :=
  (t.resolved.set? module expr r).map fun resolved => { t with resolved := resolved }

/-- The table with the inferred types of an expression recorded, if there can be a slot for it. -/
def setInferred? (t : TypeTable) (module expr : Nat) (types : TypeSet) : Option TypeTable :=
  (t.inferred.set? module expr types).map fun inferred => { t with inferred := inferred }

/-- Answers from the table. Inference falls back on the resolved types. -/
def oracle (t : TypeTable) : Oracle where
  resolve := t.resolved.get?
  infer module expr :=
    (t.inferred.get? module expr).getD (Resolved.certain (t.resolved.get? module expr))

end TypeTable

end SubscriptLint
