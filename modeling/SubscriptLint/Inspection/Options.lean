/-!
# Options

What a linter checks and what it leaves out.
-/

namespace SubscriptLint

/-- The options of a linter. -/
structure Options where
  /-- Report curly brackets, and do not look further into an access that has them. -/
  promoteSquareBrackets : Bool := true
  /-- Compare index types with the types that the container accepts. -/
  checkIndexTypes : Bool := true
  /-- Ask the scope for the types of a container to which an element is pushed. -/
  analyzeArrayPush : Bool := true
  /-- The names of the inspections to leave out. -/
  disabled : List String := []
  deriving DecidableEq, Repr, Inhabited

namespace Options

/-- Whether an inspection is to be run. -/
def isEnabled (o : Options) (inspection : String) : Bool :=
  !o.disabled.contains inspection

end Options

end SubscriptLint
