import SubscriptLint.Facts.Oracle
import SubscriptLint.Hierarchy.Catalog
import SubscriptLint.Inspection.Options
import SubscriptLint.Report.Problem
import SubscriptLint.Tree.Module
/-!
# Inspections

An inspection looks at one subscript after the other and reports problems. It fails only where a
hand-made tree has places that do not fit its source.
-/

namespace SubscriptLint

/-- What an inspection may consult while it looks at the subscripts of a module. -/
structure Scene where
  module : Module
  oracle : Oracle
  catalog : Catalog
  options : Options

/-- A check on subscripts. -/
structure Inspection where
  /-- The name by which reports refer to the inspection and options leave it out. -/
  name : String
  description : String
  /-- The problems of one subscript, in order. -/
  visit : Scene → Access → Except SpanFault (List Problem)

namespace Inspection

/-- The problems of all subscripts of a module, in the order of the text. -/
def run (i : Inspection) (scene : Scene) : Except SpanFault (List Problem) := do
  let found ← scene.module.accesses.mapM (i.visit scene)
  return found.flatten

end Inspection

end SubscriptLint
