import SubscriptLint.Document.Classes
import SubscriptLint.Document.Settle
import SubscriptLint.Project.Blueprint
/-!
# Blueprints in documents

How expressions, files and projects are read from the values of a document. An expression is a
map in which one key says of what kind it is; that key may come before or after the notes on
types, so the values behind keys of other names are settled before they are looked at.
-/

namespace SubscriptLint

/-- The kinds of brackets by the words for them. -/
def Bracket.variants : List (String × Bracket) :=
  [Bracket.square, .curly].map fun b => (b.word, b)

namespace Expr

/-- The words that say of what kind an expression is. -/
def kindWords : List String := ["var", "literal", "access", "assign", "call", "property"]

/-- What was read of an expression before its kind is known. -/
structure Record where
  types : Option (Option TypeSet) := none
  partly : Option Bool := none
  inferred : Option (Option TypeSet) := none
  /-- The first key that says of what kind the expression is, with its value. -/
  body : Option (String × Node) := none

namespace Record

/-- What is noted on the type of the expression. -/
def note (r : Record) : TypeNote :=
  ⟨r.types.getD none, r.partly.getD false, r.inferred.getD none⟩

/-- The record with a value that is neither a type nor a word on types. -/
def keep (r : Record) (key : Node) (value : Node) : Record :=
  match r.body, key with
  | none, .scalar (.text k) _ => if kindWords.contains k then { r with body := some (k, value) } else r
  | _, _ => r

/-- Refuses a key that was read before. -/
def once {α : Type} (name : String) (key : Node) : Option α → Reading Unit
  | some _ => Reading.misshapen (.duplicateField name) (key.marks?.map Marks.behind)
  | none => return ()

/-- A key with a bare word taken as a text. Of other values only a number may be a key. -/
def readKey (n : Node) : Reading Node := do
  let n ← n.follow
  match n.untagged with
  | .scalar (.plain word) _ => return .scalar (.text word) none
  | .scalar (.text key) _ => return .scalar (.text key) none
  | .scalar (.natural i) _ => return .scalar (.natural i) none
  | _ => n.mismatch .fieldName

/-- Reads keys with their values. What is noted on types is read at once, all else is settled. -/
def readEntries (depth : Nat) : List (Node × Node) → Record → Reading Record
  | [], r => return r
  | (key, value) :: rest, r => do
    let name ← readKey key
    let step := key.keyStep
    match name with
    | .scalar (.text "types") _ =>
      once "types" key r.types
      let types ← value.asPart step (value.readOption (TypeSet.read depth))
      readEntries depth rest { r with types := some types }
    | .scalar (.text "unknown") _ =>
      once "unknown" key r.partly
      let partly ← value.asPart step value.readBool
      readEntries depth rest { r with partly := some partly }
    | .scalar (.text "inferred") _ =>
      once "inferred" key r.inferred
      let inferred ← value.asPart step (value.readOption (TypeSet.read depth))
      readEntries depth rest { r with inferred := some inferred }
    | _ =>
      let settled ← value.asPart step (value.settle depth)
      readEntries depth rest (r.keep name settled)

end Record

/-- Reads an expression inside another one. -/
abbrev PartReader := Node → Reading (Expr TypeNote)

/-- The parts of an access of which fields are being read. -/
structure AccessRecord where
  container : Option (Expr TypeNote) := none
  index : Option (Expr TypeNote) := none
  bracket : Bracket := .square
  unterminated : Bool := false

/-- The fields of an access. -/
def accessShape (part : PartReader) : RecordShape AccessRecord where
  name := "variant ExprKindDecl::Access"
  expected := .body
  fields := [
    { name := "container"
      read := fun n r => do return { r with container := ← n.readOption part } },
    { name := "index"
      read := fun n r => do return { r with index := ← n.readOption part } },
    { name := "bracket"
      read := fun n r => do
        return { r with bracket := ← n.readChoice Bracket.variants .settled 0 } },
    { name := "unterminated"
      read := fun n r => do return { r with unterminated := ← n.readBool } }]

/-- The parts of an assignment of which fields are being read. -/
structure AssignRecord where
  target : Option (Expr TypeNote) := none
  value : Option (Expr TypeNote) := none

/-- The fields of an assignment. -/
def assignShape (part : PartReader) : RecordShape AssignRecord where
  name := "variant ExprKindDecl::Assign"
  expected := .body
  fields := [
    { name := "target", required := true
      read := fun n r => do return { r with target := some (← part n) } },
    { name := "value", required := true
      read := fun n r => do return { r with value := some (← part n) } }]

/-- The parts of a call of which fields are being read. -/
structure CallRecord where
  callee : String := ""
  args : List (Expr TypeNote) := []

/-- The fields of a call. -/
def callShape (part : PartReader) (depth : Nat) : RecordShape CallRecord where
  name := "variant ExprKindDecl::Call"
  expected := .body
  fields := [
    { name := "callee", required := true
      read := fun n r => do return { r with callee := ← n.readText } },
    { name := "args"
      read := fun n r => do return { r with args := ← n.readList (fun _ => part) depth } }]

/-- The parts of a property of which fields are being read. -/
structure PropertyRecord where
  object : Option (Expr TypeNote) := none
  name : String := ""

/-- The fields of a property. -/
def propertyShape (part : PartReader) : RecordShape PropertyRecord where
  name := "variant ExprKindDecl::Property"
  expected := .body
  fields := [
    { name := "object", required := true
      read := fun n r => do return { r with object := some (← part n) } },
    { name := "name", required := true
      read := fun n r => do return { r with name := ← n.readText } }]

/-- Reads what stands behind the word for the kind of an expression. -/
def readBody (part : PartReader) (depth : Nat) (note : TypeNote) (kind : String) (body : Node) :
    Reading (Expr TypeNote) := do
  match kind with
  | "var" => return var note (← body.readText)
  | "literal" => return literal note (← body.readText)
  | "access" =>
    let r ← (accessShape part).read .settled {} body
    return access note r.container r.index r.bracket (!r.unterminated)
  | "assign" =>
    match ← (assignShape part).read .settled {} body with
    | ⟨some target, some value⟩ => return assign note target value
    | ⟨none, _⟩ => Reading.misshapen (.missingField "target") none
    | ⟨_, none⟩ => Reading.misshapen (.missingField "value") none
  | "call" =>
    let r ← (callShape part depth).read .settled {} body
    return call note r.callee r.args
  | "property" =>
    match ← (propertyShape part).read .settled {} body with
    | ⟨some object, name⟩ => return property note object name
    | ⟨none, _⟩ => Reading.misshapen (.missingField "object") none
  | _ => Reading.misshapen .noKind none

/-- Reads an expression. Its parts are looked at when its whole text was read. -/
def read (depth : Nat) (n : Node) : Reading (Expr TypeNote) := do
  let n ← n.follow
  n.asWhole do
    match depth, n.untagged with
    | 0, .map _ _ marks => throw (.noticed .tooDeep (marks.map Marks.start))
    | inner + 1, .map entries cut _ =>
      let r ← Record.readEntries inner entries {}
      Reading.unlessCut cut ()
      match r.body with
      | some (kind, body) => readBody (read inner) inner r.note kind body
      | none => Reading.misshapen .noKind none
    | _, .scalar (.plain "") _ => Reading.misshapen .noKind none
    | _, _ => n.mismatch (.record "ExprDecl")

end Expr

namespace FileBlueprint

/-- The fields of a file. -/
def shape (depth : Nat) : RecordShape FileBlueprint where
  name := "FileDecl"
  fields := [
    { name := "path", required := true
      read := fun n r => do return { r with path := ← n.readText } },
    { name := "statements"
      read := fun n r => do return { r with statements := ← n.readList Expr.read depth } }]

/-- Reads a file. -/
def read (regime : Regime) (depth : Nat) (n : Node) : Reading FileBlueprint :=
  n.readRecord shape regime { path := "" } depth

end FileBlueprint

namespace Blueprint

/-- The fields of a project. -/
def shape (regime : Regime) (depth : Nat) : RecordShape Blueprint where
  name := "ProjectDecl"
  strict := true
  fields := [
    { name := "classes"
      read := fun n r => do
        return { r with classes := ← n.readList (ClassDecl.read regime) depth } },
    { name := "files"
      read := fun n r => do
        return { r with files := ← n.readList (FileBlueprint.read regime) depth } }]

/-- Reads a project. -/
def read (regime : Regime) (depth : Nat) (n : Node) : Reading Blueprint :=
  n.readRecord (shape regime) regime {} depth

end Blueprint

end SubscriptLint
