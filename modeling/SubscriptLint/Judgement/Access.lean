import SubscriptLint.Facts.Oracle
import SubscriptLint.Judgement.Verdict
import SubscriptLint.Tree.Module
/-!
# Verdicts on subscripts in their surroundings

Where the types of a container come from: from what is resolved for it, or from the scope where
an element is pushed, and the verdict that follows.
-/

namespace SubscriptLint.Access

/-- The types of the container of an access. Where an element is pushed they are the ones that
the scope suggests, provided that such accesses are to be looked into. -/
def containerTypes (a : Access) (oracle : Oracle) (inferPush : Bool) (module : Nat)
    (container : Expr Place) : TypeSet :=
  if inferPush && a.isPush then oracle.infer module container.note.number
  else Resolved.certain (oracle.resolve module container.note.number)

/-- The verdict on the container of an access. -/
def verdict (a : Access) (oracle : Oracle) (catalog : Catalog) (inferPush : Bool)
    (module : Nat) : Verdict :=
  match a.container with
  | some container => catalog.verdict (a.containerTypes oracle inferPush module container)
  | none => .inconclusive

end SubscriptLint.Access
