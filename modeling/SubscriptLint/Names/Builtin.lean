import SubscriptLint.Text.Ascii
/-!
# Built-in types

The closed vocabulary of built-in types. Each has one canonical spelling and may have others;
all are read without regard to the case of ASCII letters (`ofSpelling?_spelling`).
-/

namespace SubscriptLint

/-- A built-in type. The order of the constructors is the order of the types. -/
inductive Builtin
  | integer
  | float
  | string
  | boolean
  | array
  | null
  | callable
  | mixed
  | object
  | void
  | resource
  | iterable
  /-- The type without values, of expressions that never yield. -/
  | never
  deriving DecidableEq, Repr, Inhabited, Ord

namespace Builtin

/-- The canonical spelling, in which a built-in type is always shown. -/
def spelling : Builtin → String
  | integer => "integer"
  | float => "float"
  | string => "string"
  | boolean => "boolean"
  | array => "array"
  | null => "null"
  | callable => "callable"
  | mixed => "mixed"
  | object => "object"
  | void => "void"
  | resource => "resource"
  | iterable => "iterable"
  | never => "never"

/-- Every spelling of every built-in type, in small letters. -/
def spellings : List (String × Builtin) :=
  [("int", integer), ("integer", integer),
    ("float", float), ("double", float), ("real", float),
    ("string", string),
    ("bool", boolean), ("boolean", boolean), ("false", boolean), ("true", boolean),
    ("array", array), ("null", null), ("callable", callable), ("mixed", mixed),
    ("object", object), ("void", void), ("resource", resource), ("iterable", iterable),
    ("never", never), ("empty", never)]

/-- The built-in type that a text spells, if it spells one. Blanks around it are not accepted. -/
def ofSpelling? (text : String) : Option Builtin :=
  spellings.lookup (Text.fold text)

instance : ToString Builtin := ⟨spelling⟩

/-- The canonical spelling is a spelling. -/
theorem ofSpelling?_spelling (b : Builtin) : ofSpelling? b.spelling = some b := by
  cases b <;> decide +kernel

end Builtin

end SubscriptLint
