import SubscriptLint.Inspection.Basic
import SubscriptLint.Judgement.Access
import SubscriptLint.Judgement.IndexTypes
/-!
# The inspection of subscripts

For every subscript, the types of the container decide whether subscripts are supported at all
and, if they are, which index types are accepted; the types of the index are compared with those.
Curly brackets are reported first, with a fix that makes them square.
-/

namespace SubscriptLint.Subscripts

/-- The name of the inspection. -/
def name : String := "OffsetOperationsInspection"

/-- The message on curly brackets. -/
def useSquareBrackets : String :=
  "Using [ ] instead of \x7b \x7d makes possible to analyze this expression."

/-- The message on a container that may not support subscripts. -/
def noSupport (container : String) (types : TypeSet) : String :=
  "'" ++ container
    ++ "' may not support offset operations (or its type not annotated properly: "
    ++ types.text ++ ")."

/-- The message on an index that may be of a type that is not accepted. -/
def invalidIndex (found accepted : TypeSet) : String :=
  "Resolved index type (" ++ found.text ++ ") is incompatible with possible " ++ accepted.text
    ++ ". Probably just proper type hinting needed."

/-- The fix that makes the brackets of an access square. The opening one is the first curly
bracket behind the container, the closing one the last character of the access. -/
def bracketFix? (source : Source) (access container : Span) : Option QuickFix := do
  let chars := source.contents.toList
  let behind ← Text.slice? chars container.stop access.stop
  let gap := behind.takeWhile (· ≠ Bracket.curly.opening)
  if gap.length = behind.length then failure
  let opening := container.stop + Text.width gap
  let closing := access.stop - 1
  if closing ≤ opening then failure
  if Text.slice? chars closing access.stop ≠ some [Bracket.curly.closing] then failure
  return {
    name := "Use [ ] for offset access"
    edits :=
      [⟨⟨opening, opening + 1⟩, Bracket.square.opening.toString⟩,
        ⟨⟨closing, closing + 1⟩, Bracket.square.closing.toString⟩] }

/-- The problem of curly brackets. -/
def reportBrackets (source : Source) (access container : Region) :
    Except SpanFault (List Problem) := do
  let p ← Problem.about source access name useSquareBrackets .weakWarning
  return [{ p with fix := bracketFix? source access.toSpan container.toSpan }]

/-- The problem of a container that may not support subscripts. -/
def reportContainer (source : Source) (access container : Region) (reported : TypeSet) :
    Except SpanFault (List Problem) := do
  let shown ← source.textAt container.toSpan
  let p ← Problem.about source access name (noSupport shown reported) .warning
  return [p]

/-- The problem of an index that may be of a type that is not accepted, if it may be. -/
def checkIndex (scene : Scene) (index : Place) (accepted : TypeSet) :
    Except SpanFault (List Problem) := do
  match scene.oracle.resolve scene.module.number index.number with
  | none => return []
  | some resolved =>
    let found := resolved.types.incompatible accepted
    if found.isEmpty then return []
    else
      let p ← Problem.about scene.module.source index.region name (invalidIndex found accepted)
        .warning
      return [p]

/-- The problems of one subscript. One without a container or without its closing bracket is
still being written and has none. -/
def visit (scene : Scene) (a : Access) : Except SpanFault (List Problem) := do
  match a.container, a.bracket with
  | some container, some bracket =>
    let source := scene.module.source
    if bracket = .curly ∧ scene.options.promoteSquareBrackets then
      reportBrackets source a.place.region container.note.region
    else
      match a.verdict scene.oracle scene.catalog scene.options.analyzeArrayPush
          scene.module.number with
      | .unsupported reported =>
        if reported.isEmpty then return []
        else reportContainer source a.place.region container.note.region reported
      | .supported accepted =>
        match a.index with
        | some index =>
          if accepted.isEmpty || !scene.options.checkIndexTypes then return []
          else checkIndex scene index.note accepted
        | none => return []
  | _, _ => return []

/-- The inspection of subscripts. -/
def inspection : Inspection where
  name := name
  description :=
    "Reports offset access on values that may not support it and indexes of incompatible types"
  visit := visit

end SubscriptLint.Subscripts
