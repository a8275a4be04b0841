import SubscriptLint.Document.Reader
import SubscriptLint.Hierarchy.Catalog
import SubscriptLint.Text.Blank
/-!
# Classes in documents

How type names, type sets, methods, classes and catalogs are read from the values of a document.
-/

namespace SubscriptLint

/-- Reads the name of a class: a separator and something behind it. -/
def ClassName.read (n : Node) : Reading ClassName := do
  let text ← n.readText
  if ClassName.isQualified text then return ⟨text⟩
  else Reading.misshapen (.unqualifiedClass text) none

/-- Reads the name of a type, which must not be blank. -/
def TypeName.read (n : Node) : Reading TypeName := do
  let text ← n.readText
  if Text.isBlankText text then Reading.misshapen .blankTypeName none
  return .ofText text

/-- Reads a set of types from the list of their names. -/
def TypeSet.read (depth : Nat) (n : Node) : Reading TypeSet := do
  let types ← n.readList (fun _ => TypeName.read) depth
  return .ofList types

/-- The kinds of classes by the words for them. -/
def ClassKind.variants : List (String × ClassKind) :=
  [ClassKind.ordinary, .interface, .trait].map fun k => (k.word, k)

namespace Parameter

/-- A parameter of which fields are being read. -/
structure Record where
  name : String := ""
  types : Option TypeSet := none

/-- The fields of a parameter. -/
def shape (depth : Nat) : RecordShape Record where
  name := "ParameterDecl"
  fields := [
    { name := "name", required := true
      read := fun n r => do return { r with name := ← n.readText } },
    { name := "types"
      read := fun n r => do return { r with types := ← n.readOption (TypeSet.read depth) } }]

/-- Reads a parameter. -/
def read (regime : Regime) (depth : Nat) (n : Node) : Reading Parameter := do
  let r ← n.readRecord shape regime {} depth
  return ⟨r.name, r.types⟩

end Parameter

namespace Method

/-- The fields of a method. -/
def shape (regime : Regime) (depth : Nat) : RecordShape Method where
  name := "MethodDecl"
  fields := [
    { name := "name", required := true
      read := fun n r => do return { r with name := ← n.readText } },
    { name := "parameters"
      read := fun n r => do
        return { r with parameters := ← n.readList (Parameter.read regime) depth } }]

/-- Reads a method. -/
def read (regime : Regime) (depth : Nat) (n : Node) : Reading Method :=
  n.readRecord (shape regime) regime ⟨"", []⟩ depth

end Method

namespace ClassDecl

/-- Reads a list of class names. -/
def readNames (depth : Nat) (n : Node) : Reading (List ClassName) :=
  n.readList (fun _ => ClassName.read) depth

/-- The fields of a class declaration. -/
def shape (regime : Regime) (depth : Nat) : RecordShape ClassDecl where
  name := "ClassLike"
  fields := [
    { name := "name", required := true
      read := fun n r => do return { r with name := ← ClassName.read n } },
    { name := "kind"
      read := fun n r => do
        return { r with kind := ← n.readChoice ClassKind.variants regime depth } },
    { name := "extends"
      read := fun n r => do return { r with parents := ← readNames depth n } },
    { name := "implements"
      read := fun n r => do return { r with interfaces := ← readNames depth n } },
    { name := "uses"
      read := fun n r => do return { r with traits := ← readNames depth n } },
    { name := "methods"
      read := fun n r => do
        return { r with methods := ← n.readList (Method.read regime) depth } }]

/-- Reads a class declaration. -/
def read (regime : Regime) (depth : Nat) (n : Node) : Reading ClassDecl :=
  n.readRecord (shape regime) regime { name := ⟨""⟩ } depth

end ClassDecl

namespace Catalog

/-- The fields of a catalog. -/
def shape (regime : Regime) (depth : Nat) : RecordShape (List ClassDecl) where
  name := "ClassIndexFile"
  fields := [
    { name := "classes"
      read := fun n _ => n.readList (ClassDecl.read regime) depth }]

/-- Reads a catalog. -/
def read (regime : Regime) (depth : Nat) (n : Node) : Reading Catalog := do
  let classes ← n.readRecord (shape regime) regime [] depth
  return .ofList classes

end Catalog

end SubscriptLint
