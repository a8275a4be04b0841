import SubscriptLint.Document.Reader
import SubscriptLint.Inspection.Options
import SubscriptLint.Report.Problem
/-!
# Options in documents

How options and severities are read from the values of a document.
-/

namespace SubscriptLint

/-- The severities by their names in documents. -/
def Severity.variants : List (String × Severity) :=
  [Severity.weakWarning, .warning, .error].map fun s => (s.tag, s)

namespace Options

/-- The fields of options. None of them is required. -/
def shape (depth : Nat) : RecordShape Options where
  name := "InspectionOptions"
  strict := true
  fields := [
    { name := "promote_square_brackets"
      read := fun n o => do return { o with promoteSquareBrackets := ← n.readBool } },
    { name := "check_index_types"
      read := fun n o => do return { o with checkIndexTypes := ← n.readBool } },
    { name := "analyze_array_push"
      read := fun n o => do return { o with analyzeArrayPush := ← n.readBool } },
    { name := "disabled"
      read := fun n o => do
        return { o with disabled := ← n.readList (fun _ => Node.readText) depth } }]

/-- Reads options. -/
def read (regime : Regime) (depth : Nat) (n : Node) : Reading Options :=
  n.readRecord shape regime {} depth

end Options

end SubscriptLint
