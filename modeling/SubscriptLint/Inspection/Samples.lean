import SubscriptLint.Inspection.Basic
/-!
# Small inspections

Two inspections that show what one has to provide: one that reports constant indexes, and one
that reports nothing.
-/

namespace SubscriptLint.Inspection

/-- Reports every index that is a literal. -/
def constantIndex : Inspection where
  name := "ConstantIndex"
  description := "Reports constant offsets"
  visit scene a := do
    match a.index with
    | some (.literal place _) =>
      let p ← Problem.about scene.module.source place.region "ConstantIndex" "constant" .error
      return [p]
    | _ => return []

/-- Reports nothing. -/
def silent : Inspection where
  name := "Silent"
  description := "Reports nothing"
  visit _ _ := return []

end SubscriptLint.Inspection
