import SubscriptLint.Document.Load
/-!
# Files

Reading documents from files. What a file holds is told by its extension, which is looked at only
when the file was read.
-/

namespace SubscriptLint

/-- Why a file cannot be read. -/
inductive FileFault
  | notFound
  | isDirectory
  | notDirectory
  | denied
  | notText
  | tooLong
  | zeroCharacter
  deriving DecidableEq, Repr

namespace FileFault

/-- The wording of a fault. -/
def message : FileFault → String
  | notFound => "No such file or directory (os error 2)"
  | isDirectory => "Is a directory (os error 21)"
  | notDirectory => "Not a directory (os error 20)"
  | denied => "Permission denied (os error 13)"
  | notText => "stream did not contain valid UTF-8"
  | tooLong => "File name too long (os error 36)"
  | zeroCharacter => "file name contained an unexpected NUL byte"

end FileFault

/-- How files are read: the text of a path, or why there is none. -/
abbrev FileReader := String → Except FileFault String

/-- What a file is meant to hold. -/
inductive FileRole
  | project
  | classes
  | options
  deriving DecidableEq, Repr

namespace FileRole

/-- The words for a file in messages. -/
def words : FileRole → String
  | project => "project file"
  | classes => "class directory"
  | options => "options file"

end FileRole

/-- Why a file cannot be loaded. -/
inductive LoadError
  | unreadable (path : String) (fault : FileFault)
  | unsupported (role : FileRole) (path : String)
  | document (error : DocumentError)
  | build (error : BuildError)
  deriving DecidableEq, Repr

namespace LoadError

/-- What failed, and why, each as a sentence. -/
def messages : LoadError → List String
  | unreadable path fault => ["Failed to read " ++ path, fault.message]
  | unsupported role path =>
    ["Unsupported " ++ role.words ++ " `" ++ path ++ "`. Must be json or yaml."]
  | document error => [error.message]
  | build error => error.messages

end LoadError

/-- The extension of a path: what stands behind the last point of the file name, unless that point
is the first character of the name. -/
def extension? (path : String) : Option String :=
  let name := (path.toList.reverse.takeWhile (· ≠ '/')).reverse
  let ending := (name.reverse.takeWhile (· ≠ '.')).reverse
  if ending.length + 1 < name.length then some (String.ofList ending) else none

/-- The formats by their extensions. Case counts. -/
def Format.ofExtension? : String → Option Format
  | "json" => some .json
  | "yaml" => some .yaml
  | "yml" => some .yaml
  | _ => none

namespace FileReader

/-- Loads the document of a file. -/
def document (files : FileReader) (role : FileRole) (path : String) :
    Except LoadError Document := do
  let text ← (files path).mapError (.unreadable path)
  match (extension? path).bind Format.ofExtension? with
  | some format => return ⟨format, text⟩
  | none => throw (.unsupported role path)

/-- Loads a project. -/
def project (files : FileReader) (path : String) : Except LoadError Project := do
  let d ← files.document .project path
  let blueprint ← d.blueprint.mapError .document
  blueprint.build.mapError .build

/-- Loads a catalog of classes. -/
def catalog (files : FileReader) (path : String) : Except LoadError Catalog := do
  let d ← files.document .classes path
  d.catalog.mapError .document

/-- Loads options. -/
def options (files : FileReader) (path : String) : Except LoadError Options := do
  let d ← files.document .options path
  d.options.mapError .document

end FileReader

/-- The files below a directory, by the steps that lead to them. -/
structure FileTree where
  files : List (List String × String)

namespace FileTree

/-- Whether there is a directory where the given steps lead. -/
def hasDirectory (t : FileTree) (steps : List String) : Bool :=
  t.files.any fun f => steps.isPrefixOf f.1 && steps.length < f.1.length

/-- Whether a step stays in the directory it starts from. -/
def isIdle (step : String) : Bool :=
  step = "" || step = "."

/-- Follows steps above the tree, of which nothing is known except that the way up leads to
directories. -/
def followOutside (steps : List String) : FileFault :=
  if steps.all fun step => isIdle step || step = ".." then .isDirectory else .notFound

/-- The most bytes that one step of a path may have. -/
def longestStep : Nat := 255

/-- The most bytes that a path may have. -/
def longestPath : Nat := 4095

/-- Follows the remaining steps of a path from a directory of the tree. -/
def follow (t : FileTree) : List String → List String → Except FileFault String
  | _, [] => .error .isDirectory
  | here, step :: rest =>
    if isIdle step then t.follow here rest
    else if step = ".." then
      if here.isEmpty then .error (followOutside rest) else t.follow here.dropLast rest
    else if longestStep < step.utf8ByteSize then .error .tooLong
    else
      let next := here ++ [step]
      match t.files.lookup next with
      | some text => if rest.isEmpty then .ok text else .error .notDirectory
      | none => if t.hasDirectory next then t.follow next rest else .error .notFound

/-- Reads a path. It starts from the directory of the tree, unless it begins with a stroke: then it
starts from the top, outside the tree. -/
def read (t : FileTree) : FileReader := fun path =>
  if path.toList.contains '\x00' then .error .zeroCharacter
  else if path.isEmpty then .error .notFound
  else if longestPath < path.utf8ByteSize then .error .tooLong
  else if path.toList.head? = some '/' then .error (followOutside (path.splitOn "/"))
  else t.follow [] (path.splitOn "/")

/-- The tree of files with the given paths and texts. -/
def ofList (files : List (String × String)) : FileTree :=
  ⟨files.map fun f => ((f.1.splitOn "/").filter fun step => step ≠ "" ∧ step ≠ ".", f.2)⟩

end FileTree

end SubscriptLint
