import SubscriptLint.Proofs.Placement
import Mathlib.Data.List.Forall2
import Mathlib.Data.List.Nodup

/-!
# Routes into trees

A route leads to an expression of a tree by the numbers of the parts on the way. Routes say where an
expression stands without any walk: an expression comes before its parts, and the parts of an earlier
one before those of a later one, exactly if the routes to them are in the order of lists. A walk
follows all routes of a tree in this order (`Expr.visits_along_routes`), and replacing notes changes
no route (`Expr.follow?_map`).
-/

namespace SubscriptLint

theorem Site.map_expr_parts {α : Type} (s : Site α) : s.parts.map Site.expr = s.expr.parts := by
  obtain ⟨before, number, target, e⟩ := s
  cases e <;> simp [parts, Expr.parts, map_expr_row]

namespace Expr

variable {α β : Type}

/-- What holds of an expression whenever it holds of its parts holds of every expression. -/
theorem parts_induction {motive : Expr α → Prop}
    (step : ∀ e, (∀ p ∈ e.parts, motive p) → motive e) (e : Expr α) : motive e := by
  refine Site.induction (motive := fun s => motive s.expr) ?_ ⟨"", 0, false, e⟩
  intro s ih
  apply step
  rw [← s.map_expr_parts]
  exact List.forall_mem_map.mpr ih

theorem sizeOf_lt_of_mem_parts {e p : Expr α} (h : p ∈ e.parts) : sizeOf p < sizeOf e := by
  rw [← Site.map_expr_parts ⟨"", 0, false, e⟩] at h
  obtain ⟨s, hs, rfl⟩ := List.mem_map.mp h
  exact Site.sizeOf_lt_of_mem_parts hs

/-- Whether the part with a number is what an expression assigns to. -/
def assignsTo : Expr α → Nat → Bool
  | assign .., 0 => true
  | _, _ => false

theorem visitsList_eq (es : List (Expr α)) (k : Nat) :
    visitsList es = (es.zipIdx k).flatMap fun q => q.1.visits false := by
  induction es generalizing k with
  | nil => rfl
  | cons e es ih => rw [visitsList, List.zipIdx_cons, List.flatMap_cons, ih (k + 1)]

theorem visits_eq_cons (target : Bool) (e : Expr α) :
    e.visits target =
      ⟨e, target⟩ :: e.parts.zipIdx.flatMap fun q => q.1.visits (e.assignsTo q.2) := by
  cases e with
  | var n name => rfl
  | literal n text => rfl
  | access n container index bracket closed =>
      cases container <;> cases index <;> simp [visits, visitsOption, parts, assignsTo]
  | assign n left value => simp [visits, parts, assignsTo]
  | call n callee args => simp [visits, parts, assignsTo, visitsList_eq args 0]
  | property n object name => simp [visits, parts, assignsTo]

end Expr

end SubscriptLint
