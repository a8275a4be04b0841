/-!
# Expression trees

Expressions of a program, each carrying a note. A described expression is noted with what is
known of its type, a laid out expression with its place in the text; the shape is the same.
-/

namespace SubscriptLint

/-- The kind of bracket around an index. -/
inductive Bracket
  | square
  | curly
  deriving DecidableEq, Repr, Inhabited

namespace Bracket

/-- The opening character. -/
def opening : Bracket → Char
  | square => '['
  | curly => '\x7b'

/-- The closing character. -/
def closing : Bracket → Char
  | square => ']'
  | curly => '\x7d'

/-- The word for a kind of bracket. -/
def word : Bracket → String
  | square => "square"
  | curly => "curly"

end Bracket

/-- An expression with a note at every node. -/
inductive Expr (α : Type)
  | var (note : α) (name : String)
  | literal (note : α) (text : String)
  /-- A subscript; either side may be missing, and so may the closing bracket. -/
  | access (note : α) (container index : Option (Expr α)) (bracket : Bracket) (closed : Bool)
  | assign (note : α) (target value : Expr α)
  | call (note : α) (callee : String) (args : List (Expr α))
  | property (note : α) (object : Expr α) (name : String)

namespace Expr

variable {α β : Type}

/-- The note of the outermost node. -/
def note : Expr α → α
  | var n _ => n
  | literal n _ => n
  | access n .. => n
  | assign n .. => n
  | call n .. => n
  | property n .. => n

mutual

/-- The tree with every note replaced. -/
def map (f : α → β) : Expr α → Expr β
  | var n name => var (f n) name
  | literal n text => literal (f n) text
  | access n container index bracket closed =>
    access (f n) (mapOption f container) (mapOption f index) bracket closed
  | assign n target value => assign (f n) (map f target) (map f value)
  | call n callee args => call (f n) callee (mapList f args)
  | property n object name => property (f n) (map f object) name

/-- The tree with every note replaced, if there is one. -/
def mapOption (f : α → β) : Option (Expr α) → Option (Expr β)
  | none => none
  | some e => some (map f e)

/-- The trees with every note replaced. -/
def mapList (f : α → β) : List (Expr α) → List (Expr β)
  | [] => []
  | e :: es => map f e :: mapList f es

end

mutual

/-- The text of an expression. -/
def render : Expr α → String
  | var _ name => name
  | literal _ text => text
  | access _ container index bracket closed =>
    renderOption container ++ bracket.opening.toString ++ renderOption index
      ++ if closed then bracket.closing.toString else ""
  | assign _ target value => render target ++ " = " ++ render value
  | call _ callee args => callee ++ "(" ++ renderList args ++ ")"
  | property _ object name => render object ++ "->" ++ name

/-- The text of an expression, or none. -/
def renderOption : Option (Expr α) → String
  | none => ""
  | some e => render e

/-- The texts of expressions, with commas between them. -/
def renderList : List (Expr α) → String
  | [] => ""
  | e :: es => render e ++ renderRest es

/-- The texts of the expressions after the first, each behind a comma. -/
def renderRest : List (Expr α) → String
  | [] => ""
  | e :: es => ", " ++ render e ++ renderRest es

end

end Expr

/-- An expression met on a walk, and whether it is the target of an assignment. -/
structure Visit (α : Type) where
  expr : Expr α
  target : Bool

namespace Expr

variable {α : Type}

mutual

/-- All expressions of a tree, each before its parts and the parts in the order of the text. -/
def visits (target : Bool) : Expr α → List (Visit α)
  | var n name => [⟨var n name, target⟩]
  | literal n text => [⟨literal n text, target⟩]
  | access n container index bracket closed =>
    ⟨access n container index bracket closed, target⟩ ::
      (visitsOption container ++ visitsOption index)
  | assign n left value => ⟨assign n left value, target⟩ :: (visits true left ++ visits false value)
  | call n callee args => ⟨call n callee args, target⟩ :: visitsList args
  | property n object name => ⟨property n object name, target⟩ :: visits false object

/-- All expressions of a tree, if there is one. -/
def visitsOption : Option (Expr α) → List (Visit α)
  | none => []
  | some e => visits false e

/-- All expressions of several trees. -/
def visitsList : List (Expr α) → List (Visit α)
  | [] => []
  | e :: es => visits false e ++ visitsList es

end

end Expr

end SubscriptLint
