import SubscriptLint.CommandLine.Command
import SubscriptLint.CommandLine.Files
import SubscriptLint.Inspection.Linter
import SubscriptLint.Report.Printer
import SubscriptLint.Source.Message
/-!
# Running commands

What the program writes and with which code it ends, as a function of its arguments and of the
files that it reads.
-/

namespace SubscriptLint

/-- What a run of the program leaves. -/
structure Outcome where
  exitCode : UInt8
  output : String
  errors : String
  deriving DecidableEq, Repr

/-- Why a command fails. -/
inductive CommandError
  | load (error : LoadError)
  | span (fault : SpanFault)
  | problems (count : Nat)

namespace CommandError

/-- What failed, and why, each as a sentence. -/
def messages : CommandError → List String
  | load error => error.messages
  | span _ => ["a place does not fit its source"]
  | problems count => [toString count ++ " problem(s) found"]

/-- A text with all its lines indented. -/
def indented (text : String) : String :=
  "    " ++ "\n    ".intercalate (text.splitOn "\n")

/-- The report of an error: what failed, and indented below it why. -/
def report (e : CommandError) : String :=
  match e.messages with
  | [] => ""
  | [what] => "Error: " ++ what ++ "\n"
  | what :: why =>
    "Error: " ++ what ++ "\n\nCaused by:\n" ++ "\n".intercalate (why.map indented) ++ "\n"

end CommandError

namespace Outcome

/-- A run that wrote its output and did not fail. -/
def done (output : String) : Outcome := ⟨0, output, ""⟩

/-- A run that failed when it had written something. -/
def failed (output : String) (e : CommandError) : Outcome := ⟨1, output, e.report⟩

/-- A run that ended because of its arguments. -/
def misused : Outcome := ⟨2, "", "error: invalid arguments\n"⟩

end Outcome

namespace Problem

/-- A problem as it is shown, below its line if that is asked for and the file is known. -/
def shown (project : Project) (context : Bool) (p : Problem) : String :=
  match project.module? p.file with
  | some m => if context then m.source.message p.start p.severity.words p.message else p.text
  | none => p.text

end Problem

namespace AnalyzeCommand

/-- Loads the project with the further classes, and then the options. -/
def load (c : AnalyzeCommand) (files : FileReader) : Except LoadError (Project × Options) := do
  let project ← files.project c.project
  let catalogs ← c.classes.mapM files.catalog
  let project := { project with classes := catalogs.foldl Catalog.merge project.classes }
  match c.options with
  | some path => return (project, ← files.options path)
  | none => return (project, {})

/-- Problems as the command asks for them. -/
def write (c : AnalyzeCommand) (project : Project) (problems : List Problem) : String :=
  match c.form with
  | .text => String.join (problems.map fun p => p.shown project c.context ++ "\n")
  | .json => Problem.listing problems ++ "\n"

/-- Runs the command. -/
def run (c : AnalyzeCommand) (files : FileReader) : Outcome :=
  match c.load files with
  | .error e => .failed "" (.load e)
  | .ok (project, options) =>
    match Linter.checkProject { options := options } project with
    | .error fault => .failed "" (.span fault)
    | .ok problems =>
      let output := c.write project problems
      if c.failOnProblems && !problems.isEmpty then .failed output (.problems problems.length)
      else .done output

end AnalyzeCommand

namespace Project

/-- The texts of all modules, each below the path of its file. -/
def rendered (p : Project) : String :=
  String.join (p.modules.map fun m => "// " ++ m.file ++ "\n" ++ m.source.contents)

end Project

namespace Command

/-- Runs a command. -/
def run (files : FileReader) : Command → Outcome
  | analyze c => c.run files
  | render path =>
    match files.project path with
    | .error e => .failed "" (.load e)
    | .ok project => .done project.rendered

end Command

namespace Request

/-- Does what is asked for. -/
def run (files : FileReader) : Request → Outcome
  | command c => c.run files
  | help topic => .done topic.page.text
  | version => .done versionLine

/-- Runs the program with its arguments. -/
def runArgs (files : FileReader) (args : List String) : Outcome :=
  match ofArgs? args with
  | some r => r.run files
  | none => .misused

end Request

end SubscriptLint
