import SubscriptLint.Project.Blueprint
import SubscriptLint.Project.Layout
/-!
# Projects

A project is what a blueprint is built into: modules with their texts, the table of type facts
and the catalog of classes. A blueprint is refused if two files have one path, if a variable has
no name, or if a text would be too large; the first file at fault decides.
-/

namespace SubscriptLint

/-- Why a blueprint is refused. -/
inductive BuildError
  | duplicateFile (path : String)
  | namelessVariable (path : String) (statement : Nat)
  | tooLarge (path : String) (bytes : Nat)
  deriving DecidableEq, Repr

namespace BuildError

/-- What failed, and why, each as a sentence. -/
def messages : BuildError → List String
  | duplicateFile path => ["Duplicate file `" ++ path ++ "` in project"]
  | namelessVariable path statement =>
    ["Failed to load " ++ path,
      path ++ ": statement " ++ toString statement ++ ": variable name must not be empty"]
  | tooLarge path bytes =>
    ["Failed to load " ++ path, path ++ " is too large (" ++ toString bytes ++ " bytes)"]

end BuildError

/-- Modules with what is known about their types and classes. -/
structure Project where
  modules : List Module
  types : TypeTable
  classes : Catalog

namespace TypeTable

/-- The table with what is noted at one place recorded. -/
def record (t : TypeTable) (module : Nat) (p : Placed TypeNote) : TypeTable :=
  let t := match p.note.resolved? with
    | some r => t.setResolved module p.slot.number r
    | none => t
  match p.note.inferred with
  | some types => t.setInferred module p.slot.number types
  | none => t

end TypeTable

namespace FileBlueprint

/-- The first statement that has a variable without a name. -/
def namelessStatement? (f : FileBlueprint) : Option Nat :=
  f.statements.findIdx? Expr.hasNameless

/-- The statements with their slots, and the draft they were written to. -/
def layOut (f : FileBlueprint) : List (Expr (Placed TypeNote)) × Draft :=
  ((Expr.layOutStatements f.statements).run {}).run

/-- Writes the file out as a module, and records what is noted about its expressions. -/
def build (f : FileBlueprint) (number : Nat) (types : TypeTable) :
    Except BuildError (Module × TypeTable) :=
  match f.namelessStatement? with
  | some statement => .error (.namelessVariable f.path statement)
  | none =>
    let placed := f.layOut.1
    let draft := f.layOut.2
    match Source.ofContents? f.path draft.text with
    | none => .error (.tooLarge f.path draft.text.utf8ByteSize)
    | some source =>
      let notes := (Expr.visitsList placed).map fun v => v.expr.note
      let types := notes.foldl (fun t p => t.record number p) (types.reserve number draft.next)
      let statements := Expr.mapList (fun p => source.place p.slot) placed
      .ok (⟨number, source, statements, draft.next⟩, types)

/-- Builds files one after the other. The paths of earlier files must not be used again. -/
def buildAll : List FileBlueprint → List String → Nat → TypeTable →
    Except BuildError (List Module × TypeTable)
  | [], _, _, types => .ok ([], types)
  | f :: fs, paths, number, types => do
    if f.path ∈ paths then throw (.duplicateFile f.path)
    let (module, types) ← f.build number types
    let (modules, types) ← buildAll fs (f.path :: paths) (number + 1) types
    return (module :: modules, types)

end FileBlueprint

namespace Blueprint

/-- Builds the project that a blueprint describes. -/
def build (b : Blueprint) : Except BuildError Project := do
  let (modules, types) ← FileBlueprint.buildAll b.files [] 0 {}
  return ⟨modules, types, .ofList b.classes⟩

end Blueprint

namespace Project

/-- The module of a file. -/
def module? (p : Project) (path : String) : Option Module :=
  p.modules.find? fun m => m.file = path

end Project

end SubscriptLint
