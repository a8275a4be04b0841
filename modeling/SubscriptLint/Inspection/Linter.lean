import SubscriptLint.Inspection.Subscripts
import SubscriptLint.Project.Build
/-!
# Linters

A linter runs its inspections over modules: module by module, and in each one inspection after
the other in the order in which they were added.
-/

namespace SubscriptLint

/-- Inspections with the options they run under. The inspection of subscripts comes first. -/
structure Linter where
  inspections : List Inspection := [Subscripts.inspection]
  options : Options := {}

namespace Linter

/-- The linter with one more inspection. -/
def add (l : Linter) (i : Inspection) : Linter :=
  { l with inspections := l.inspections ++ [i] }

/-- The names of the inspections, in the order in which they run. -/
def names (l : Linter) : List String := l.inspections.map Inspection.name

/-- The problems of a module. -/
def checkModule (l : Linter) (m : Module) (oracle : Oracle) (catalog : Catalog) :
    Except SpanFault (List Problem) := do
  let enabled := l.inspections.filter fun i => l.options.isEnabled i.name
  let found ← enabled.mapM fun i => i.run ⟨m, oracle, catalog, l.options⟩
  return found.flatten

/-- The problems of all modules of a project. -/
def checkProject (l : Linter) (p : Project) : Except SpanFault (List Problem) := do
  let found ← p.modules.mapM fun m => l.checkModule m p.types.oracle p.classes
  return found.flatten

end Linter

end SubscriptLint
