import SubscriptLint.Report.Problem
/-!
# Problems as JSON

The written form of values as JSON over several lines, two spaces for each level, and the value
that a problem is written as.
-/

namespace SubscriptLint

namespace Json

/-- A number in base sixteen with four digits. -/
def fourDigits (n : Nat) : List Char :=
  let digits := Nat.toDigits 16 n
  List.replicate (4 - digits.length) '0' ++ digits

/-- The written form of a character in a string. -/
def escape (c : Char) : List Char :=
  if c = '"' then ['\\', '"']
  else if c = '\\' then ['\\', '\\']
  else if c = '\x08' then ['\\', 'b']
  else if c = '\x0c' then ['\\', 'f']
  else if c = '\n' then ['\\', 'n']
  else if c = '\r' then ['\\', 'r']
  else if c = '\t' then ['\\', 't']
  else if c.toNat < 0x20 then '\\' :: 'u' :: fourDigits c.toNat
  else [c]

/-- The written form of a string. -/
def quote (s : String) : String :=
  String.ofList ('"' :: s.toList.flatMap escape ++ ['"'])

/-- A new line at a level. -/
def newline (level : Nat) : String :=
  String.ofList ('\n' :: List.replicate (2 * level) ' ')

/-- A value that is written as JSON. -/
inductive Value
  | natural (value : Nat)
  | text (value : String)
  | list (items : List Value)
  | map (entries : List (String × Value))

namespace Value

mutual

/-- The written form of a value at a level. -/
def pretty (level : Nat) : Value → String
  | natural value => toString value
  | text value => quote value
  | list [] => "[]"
  | list (v :: vs) =>
    "[" ++ newline (level + 1) ++ pretty (level + 1) v ++ prettyItems (level + 1) vs
      ++ newline level ++ "]"
  | map [] => "\x7b\x7d"
  | map ((key, value) :: rest) =>
    "\x7b" ++ newline (level + 1) ++ quote key ++ ": " ++ pretty (level + 1) value
      ++ prettyEntries (level + 1) rest ++ newline level ++ "\x7d"

/-- The written form of the items behind the first one. -/
def prettyItems (level : Nat) : List Value → String
  | [] => ""
  | v :: vs => "," ++ newline level ++ pretty level v ++ prettyItems level vs

/-- The written form of the keys and values behind the first ones. -/
def prettyEntries (level : Nat) : List (String × Value) → String
  | [] => ""
  | (key, value) :: rest =>
    "," ++ newline level ++ quote key ++ ": " ++ pretty level value ++ prettyEntries level rest

end

end Value

end Json

/-- An edit as a JSON value. -/
def TextEdit.toJson (e : TextEdit) : Json.Value :=
  .map [("start", .natural e.span.start), ("end", .natural e.span.stop),
    ("replacement", .text e.replacement)]

/-- A fix as a JSON value. -/
def QuickFix.toJson (f : QuickFix) : Json.Value :=
  .map [("name", .text f.name), ("edits", .list (f.edits.map TextEdit.toJson))]

/-- A problem as a JSON value. -/
def Problem.toJson (p : Problem) : Json.Value :=
  .map ([("inspection", .text p.inspection), ("message", .text p.message),
    ("severity", .text p.severity.tag), ("file", .text p.file), ("anchor", .text p.anchor),
    ("line", .natural p.start.line), ("col", .natural p.start.col),
    ("end_line", .natural p.stop.line), ("end_col", .natural p.stop.col)]
    ++ (p.fix.map fun f => ("fix", f.toJson)).toList)

/-- Problems as they are written as JSON. -/
def Problem.listing (ps : List Problem) : String :=
  (Json.Value.list (ps.map Problem.toJson)).pretty 0

end SubscriptLint
