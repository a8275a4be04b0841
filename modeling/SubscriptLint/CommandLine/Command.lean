import SubscriptLint.CommandLine.Help
/-!
# Commands

The commands that the program knows, and how they are read from its arguments. Options may stand
anywhere behind the name of a command; all but one of them may be given only once. Arguments are
read in their order, and nothing counts any more behind the one that asks for help.
-/

namespace SubscriptLint

/-- The form in which problems are written. -/
inductive OutputForm
  | text
  | json
  deriving DecidableEq, Repr, Inhabited

/-- What the analysis of a project is asked to do. -/
structure AnalyzeCommand where
  project : String
  /-- Files with further classes. -/
  classes : List String
  options : Option String
  form : OutputForm
  /-- Problems are shown below the lines that they are about. -/
  context : Bool
  failOnProblems : Bool
  deriving DecidableEq, Repr

/-- A command. -/
inductive Command
  | analyze (command : AnalyzeCommand)
  | render (project : String)
  deriving DecidableEq, Repr

/-- What the program is asked for. -/
inductive Request
  | command (command : Command)
  | help (topic : HelpTopic)
  | version
  deriving DecidableEq, Repr

/-- What one argument, or an argument with the value behind it, means. -/
inductive Argument
  | value (option text : String)
  | flag (name : String)
  | positional (text : String)
  deriving DecidableEq, Repr

namespace Argument

/-- The options that have a value, by their long names. -/
def valueOptions : List String := ["classes", "options", "format"]

/-- The options without a value, by their long names. -/
def flags : List String := ["context", "fail-on-problems", "help"]

/-- The argument that asks for help. -/
def help : Argument := flag "help"

/-- The long names of the options that have a short one. -/
def longName? : Char → Option String
  | 'o' => some "options"
  | 'f' => some "format"
  | 'c' => some "context"
  | 'h' => some "help"
  | _ => none

/-- Whether an argument stands for itself and not for an option. -/
def isPlain (arg : List Char) : Bool :=
  match arg with
  | '-' :: _ :: _ => false
  | _ => true

/-- The options of a group of short names. The last one may have its value behind it, or in the
next argument, of which `true` says that it was taken. -/
def ofShort (next : Option String) : List Char → Option (List Argument × Bool)
  | [] => some ([], false)
  | c :: cs => do
    let name ← longName? c
    if valueOptions.contains name then
      match cs with
      | [] =>
        let text ← next
        if isPlain text.toList then return ([value name text], true) else failure
      | '=' :: text => return ([value name (String.ofList text)], false)
      | text => return ([value name (String.ofList text)], false)
    else if flag name = help then return ([help], false)
    else
      let (rest, taken) ← ofShort next cs
      return (flag name :: rest, taken)

/-- The option of a long name, which may have its value behind an equals sign. -/
def ofLong (next : Option String) (arg : List Char) : Option (List Argument × Bool) := do
  let name := String.ofList (arg.takeWhile (· ≠ '='))
  let attached := arg.dropWhile (· ≠ '=')
  if valueOptions.contains name then
    match attached with
    | [] =>
      let text ← next
      if isPlain text.toList then return ([value name text], true) else failure
    | _ :: text => return ([value name (String.ofList text)], false)
  else if flags.contains name && attached.isEmpty then return ([flag name], false)
  else failure

/-- What was found, and behind it what the others mean unless it asks for help. -/
def beforeHelp (found : List Argument) (others : Option (List Argument)) :
    Option (List Argument) :=
  if help ∈ found then some found else others.map (found ++ ·)

/-- Reads arguments up to the one that asks for help. Behind two dashes nothing is an option. -/
def readAll : List String → Bool → Option (List Argument)
  | [], _ => some []
  | arg :: rest, skip => do
    if skip then readAll rest false
    else
      match arg.toList with
      | ['-', '-'] => return rest.map positional
      | '-' :: '-' :: long =>
        let (found, taken) ← ofLong rest.head? long
        beforeHelp found (readAll rest taken)
      | '-' :: c :: short =>
        let (found, taken) ← ofShort rest.head? (c :: short)
        beforeHelp found (readAll rest taken)
      | _ =>
        let others ← readAll rest false
        return positional arg :: others

/-- The values given for an option. -/
def valuesOf (name : String) (args : List Argument) : List String :=
  args.filterMap fun
    | value option text => if option = name then some text else none
    | _ => none

/-- The positional arguments. -/
def positionals (args : List Argument) : List String :=
  args.filterMap fun
    | positional text => some text
    | _ => none

/-- The value given for an option that may be given once. -/
def valueOf? (name : String) (args : List Argument) : Option (Option String) :=
  match valuesOf name args with
  | [] => some none
  | [text] => some (some text)
  | _ => none

/-- Whether a flag is given, which it may be once. -/
def flagOf? (name : String) (args : List Argument) : Option Bool :=
  match args.count (flag name) with
  | 0 => some false
  | 1 => some true
  | _ => none

end Argument

/-- The forms of output by their names. -/
def OutputForm.ofName? : String → Option OutputForm
  | "text" => some .text
  | "json" => some .json
  | _ => none

namespace Request

/-- Reads what is asked of the analysis from the arguments behind its name. -/
def analyze? (args : List String) : Option Request := do
  let args ← Argument.readAll args false
  let options ← Argument.valueOf? "options" args
  let form ← match ← Argument.valueOf? "format" args with
    | none => some .text
    | some name => OutputForm.ofName? name
  let context ← Argument.flagOf? "context" args
  let failOnProblems ← Argument.flagOf? "fail-on-problems" args
  let classes := Argument.valuesOf "classes" args
  match Argument.positionals args, args.contains Argument.help with
  | [], true | [_], true => return .help .analyze
  | [project], false =>
    return .command (.analyze { project, classes, options, form, context, failOnProblems })
  | _, _ => failure

/-- Reads what is asked of rendering from the arguments behind its name. It has no options but the
one that asks for help. -/
def render? (args : List String) : Option Request := do
  match ← Argument.readAll args false with
  | [.positional project] => return .command (.render project)
  | [.flag "help"] | [.positional _, .flag "help"] => return .help .render
  | _ => failure

/-- Reads what is asked of the program as a whole from its first argument. -/
def option? (arg : String) : Option Request :=
  match arg.toList with
  | '-' :: 'h' :: _ => some (.help .program)
  | '-' :: 'V' :: _ => some .version
  | _ =>
    if arg = "--help" then some (.help .program)
    else if arg = "--version" then some .version
    else none

/-- Reads what is asked for, if the arguments make sense. -/
def ofArgs? : List String → Option Request
  | "analyze" :: args => analyze? args
  | "render" :: args => render? args
  | "help" :: words => (HelpTopic.ofWords? words).map .help
  | arg :: _ => option? arg
  | [] => none

end Request

/-- The files that a command may read. -/
def Command.paths : Command → List String
  | .analyze c => c.project :: c.classes ++ c.options.toList
  | .render project => [project]

/-- The files that may be read to do what is asked for. -/
def Request.paths : Request → List String
  | .command c => c.paths
  | .help _ | .version => []

end SubscriptLint
