import SubscriptLint.Document.Node
/-!
# Parsed documents

What is known of a document when its text was gone through: its tree, and what is wrong behind it.
-/

namespace SubscriptLint

/-- The tree of a document. -/
structure Parsed where
  root : Node
  /-- What is wrong behind the outermost value. -/
  behind : Option SyntaxFault
  /-- The number of aliases that may be followed. -/
  aliases : Nat

end SubscriptLint
