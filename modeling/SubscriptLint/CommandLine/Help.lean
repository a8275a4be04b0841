/-!
# Help

The pages that tell how the program is used. A page says what a command is for and how it is
called, and explains its parts in sections. The explanations of a section stand below each other.
-/

namespace SubscriptLint

/-- A part of a command line: how it is given, and what it is for. -/
structure HelpRow where
  given : String
  meaning : String
  deriving DecidableEq, Repr

namespace HelpRow

/-- The columns that the longest of some parts takes. -/
def width (rows : List HelpRow) : Nat :=
  rows.foldl (fun widest row => max widest row.given.length) 0

/-- The line for a part, in a section whose parts take a number of columns. -/
def line (width : Nat) (row : HelpRow) : String :=
  let gap := List.replicate (width - row.given.length) ' '
  "  " ++ row.given ++ String.ofList gap ++ "  " ++ row.meaning ++ "\n"

end HelpRow

/-- A section of a page: parts of a kind. -/
structure HelpSection where
  title : String
  rows : List HelpRow
  deriving DecidableEq, Repr

/-- The text of a section. -/
def HelpSection.text (s : HelpSection) : String :=
  s.title ++ ":\n" ++ String.join (s.rows.map (HelpRow.line (HelpRow.width s.rows)))

/-- A page of help. -/
structure HelpPage where
  about : String
  /-- How the command is called, behind the name of the program. -/
  usage : String
  sections : List HelpSection
  deriving DecidableEq, Repr

namespace HelpPage

/-- The name by which the program is called. -/
def program : String := "offset-inspect"

/-- The text of a page. -/
def text (p : HelpPage) : String :=
  p.about ++ "\n\nUsage: " ++ program ++ " " ++ p.usage ++ "\n"
    ++ String.join (p.sections.map fun s => "\n" ++ s.text)

end HelpPage

/-- What help can be asked for. -/
inductive HelpTopic
  /-- The program as a whole. -/
  | program
  | analyze
  | render
  /-- Help itself. -/
  | help
  deriving DecidableEq, Repr

namespace HelpTopic

/-- What the option that asks for help is for. -/
def helpRow : HelpRow := ⟨"-h, --help", "Print help"⟩

/-- What the commands are for. -/
def about : HelpTopic → String
  | program => "Type-driven offset access inspection for PHP syntax trees"
  | analyze => "Report offset access problems in a project"
  | render => "Print the source text of a project's files"
  | help => "Print this message or the help of the given subcommand(s)"

/-- How the commands are called, behind the name of the program. -/
def usage : HelpTopic → String
  | program => "<COMMAND>"
  | analyze => "analyze [OPTIONS] <project.yaml>"
  | render => "render <PROJECT>"
  | help => "help [COMMAND]..."

/-- The parts of the commands. -/
def sections : HelpTopic → List HelpSection
  | program =>
    [⟨"Commands",
        [⟨"analyze", analyze.about⟩, ⟨"render", render.about⟩, ⟨"help", help.about⟩]⟩,
      ⟨"Options", [helpRow, ⟨"-V, --version", "Print version"⟩]⟩]
  | analyze =>
    [⟨"Arguments", [⟨"<project.yaml>", "Project fixture. json or yaml"⟩]⟩,
      ⟨"Options",
        [⟨"    --classes <classes.yaml>", "Additional class declarations. json or yaml"⟩,
          ⟨"-o, --options <options.yaml>", "Inspection options. json or yaml"⟩,
          ⟨"-f, --format <FORMAT>",
            "Output format [default: text] [possible values: text, json]"⟩,
          ⟨"-c, --context", "Show the source line of each problem"⟩,
          ⟨"    --fail-on-problems", "Exit with an error if any problem is reported"⟩,
          helpRow]⟩]
  | render =>
    [⟨"Arguments", [⟨"<PROJECT>", "Project fixture. json or yaml"⟩]⟩, ⟨"Options", [helpRow]⟩]
  | help => [⟨"Arguments", [⟨"[COMMAND]...", "Print help for the subcommand(s)"⟩]⟩]

/-- The page on a topic. -/
def page (t : HelpTopic) : HelpPage := ⟨t.about, t.usage, t.sections⟩

/-- The topic that the words behind the command for help name. -/
def ofWords? : List String → Option HelpTopic
  | [] => some program
  | ["analyze"] => some analyze
  | ["render"] => some render
  | ["help"] => some help
  | _ => none

end HelpTopic

/-- The line that tells the version of the program. -/
def versionLine : String := "offset-inspector 0.1.0\n"

end SubscriptLint
