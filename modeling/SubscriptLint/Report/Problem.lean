import SubscriptLint.Source.Basic
/-!
# Problems

What an inspection reports: a message with its severity, the piece of source text that it is
about, and possibly a fix. Applying a fix is left to whoever receives it.
-/

namespace SubscriptLint

/-- How much a problem matters. -/
inductive Severity
  /-- Hints on style. -/
  | weakWarning
  | warning
  | error
  deriving DecidableEq, Repr, Inhabited

namespace Severity

/-- The words for a severity in messages. -/
def words : Severity → String
  | weakWarning => "weak warning"
  | warning => "warning"
  | error => "error"

/-- The name of a severity in documents. -/
def tag : Severity → String
  | weakWarning => "weak_warning"
  | warning => "warning"
  | error => "error"

end Severity

/-- The replacement of a range of the source text. -/
structure TextEdit where
  span : Span
  replacement : String
  deriving DecidableEq, Repr

/-- A fix that is offered with a problem. -/
structure QuickFix where
  name : String
  edits : List TextEdit
  deriving DecidableEq, Repr

/-- A reported problem. -/
structure Problem where
  inspection : String
  message : String
  severity : Severity
  file : String
  /-- The source text that the problem is about. -/
  anchor : String
  start : Position
  stop : Position
  fix : Option QuickFix := none
  deriving DecidableEq, Repr

/-- A span that is not a range between characters of its source. -/
structure SpanFault where
  span : Span
  deriving DecidableEq, Repr

namespace Source

/-- The text in a range, with the range as the fault if it does not fit the source. -/
def textAt (s : Source) (span : Span) : Except SpanFault String :=
  match s.text? span with
  | some text => .ok text
  | none => .error ⟨span⟩

end Source

namespace Problem

/-- A problem about a region of a source. -/
def about (source : Source) (region : Region) (inspection message : String)
    (severity : Severity) : Except SpanFault Problem := do
  let anchor ← source.textAt region.toSpan
  return {
    inspection, message, severity, anchor
    file := source.file
    start := region.begins
    stop := source.position region.stop }

/-- The one-line form of a problem. -/
def text (p : Problem) : String :=
  p.file ++ ":" ++ toString p.start.line ++ ":" ++ toString p.start.col ++ ": "
    ++ p.severity.words ++ ": " ++ p.message ++ " [" ++ p.inspection ++ "]"

instance : ToString Problem := ⟨text⟩

end Problem

end SubscriptLint
