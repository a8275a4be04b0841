import SubscriptLint.Document.Blueprints
import SubscriptLint.Document.Json.Tree
import SubscriptLint.Document.OptionRecord
import SubscriptLint.Document.Yaml.Anchor
import SubscriptLint.Project.Build
/-!
# Documents

A document is a text in one of two formats. Reading it yields a value of the domain or the first
fault of the text.
-/

namespace SubscriptLint

/-- A text to be read in some format. -/
structure Document where
  format : Format
  text : String

/-- Why a document is refused. -/
structure DocumentError where
  format : Format
  error : ReadError
  deriving DecidableEq, Repr

namespace Document

/-- The number of lists and maps that may be nested in a document. -/
def depthLimit : Format → Nat
  | .json => Node.deepest - 1
  | .yaml => Node.deepest

/-- How freely values of a document may stand for one another. -/
def regime : Format → Regime
  | .json => .typed
  | .yaml => .bare

/-- A document as far as its text can be read. -/
def parsed (d : Document) : Parsed :=
  match d.format with
  | .json => Json.read d.text
  | .yaml => Yaml.read d.text

/-- Reads a document as one value. What is wrong behind that value comes last. -/
def read {α : Type} (reader : Regime → Nat → Node → Reading α) (d : Document) :
    Except DocumentError α :=
  let p := d.parsed
  let reading : Reading α := do
    let value ← reader (regime d.format) (depthLimit d.format) p.root
    match p.behind with
    | some fault => Reading.malformed fault
    | none => return value
  (reading.run' p.aliases).mapError fun e => ⟨d.format, e⟩

/-- Reads a catalog of classes. -/
def catalog (d : Document) : Except DocumentError Catalog := d.read Catalog.read

/-- Reads the blueprint of a project. -/
def blueprint (d : Document) : Except DocumentError Blueprint := d.read Blueprint.read

/-- Reads options. -/
def options (d : Document) : Except DocumentError Options := d.read Options.read

end Document

namespace DocumentError

/-- The wording of a document error. -/
def message (e : DocumentError) : String := e.error.message e.format

end DocumentError

end SubscriptLint
