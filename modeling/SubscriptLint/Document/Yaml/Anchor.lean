import SubscriptLint.Document.Parsed
import SubscriptLint.Document.Yaml.Tree
/-!
# Anchors

How the tree of a text becomes a document, in which aliases stand for the values with their anchors.
An anchor may be given again, and may be given to a value that contains an alias of it.
-/

namespace SubscriptLint.Yaml

/-- The marks of a value that begins at a mark, inside a value that begins at another one, if there
is one. -/
def marksAt (mark : Mark) (outer : Option Mark) : Marks := ⟨mark, mark, mark, outer.getD mark⟩

/-- A fault that does not depend on what is done with the value. -/
def breakAt (fault : Fault) : Break := .always (.yaml fault)

/-- A scalar with its tag. A literal scalar may stand for a truth value as a plain one does, if its
tag says so. -/
def scalarNode (tag : Option ValueTag) (text : String) (style : ScalarStyle) (marks : Marks) :
    Node :=
  let bare := style = .plain || (style = .literal && tag = some .truth && !text.isEmpty)
  let n : Node := .scalar (if bare then .plain text else .text text) (some marks)
  match tag with
  | some tag => .tagged tag n
  | none => n

/-- A list or a map with its tag. -/
def collectionNode (tag : Option ValueTag) (n : Node) : Node :=
  match tag with
  | some tag => .tagged tag n
  | none => n

/-- What stands for the values of anchors, by their numbers. -/
abbrev Copies := List (Nat × Node)

/-- What stands for an alias. Where it is not known, nothing can be read. -/
def Copies.get (copies : Copies) (number : Nat) : Node :=
  (copies.lookup number).getD (.unreadable (breakAt .tooManyAliases) none)

namespace Tree

mutual

/-- The document of a tree inside a value that begins at a mark, with copies in place of its
aliases. -/
def node (copies : Copies) (outer : Option Mark) : Tree → Node
  | .scalar o text style => scalarNode o.tag text style (marksAt o.mark outer)
  | .list o items cut =>
    collectionNode o.tag
      (.list (nodes copies o.mark items) (cut.map breakAt) (some (marksAt o.mark outer)))
  | .map o entries cut =>
    collectionNode o.tag
      (.map (nodeEntries copies o.mark entries) (cut.map breakAt) (some (marksAt o.mark outer)))
  | .alias number mark => .alias (copies.get number) (some (marksAt mark outer))
  | .broken fault => .broken (breakAt fault) none

/-- The documents of the items of a list. -/
def nodes (copies : Copies) (outer : Mark) : List Tree → List Node
  | [] => []
  | t :: ts => node copies (some outer) t :: nodes copies outer ts

/-- The documents of the keys and values of a map. -/
def nodeEntries (copies : Copies) (outer : Mark) : List (Tree × Tree) → List (Node × Node)
  | [] => []
  | (key, value) :: rest =>
    (node copies (some outer) key, node copies (some outer) value)
      :: nodeEntries copies outer rest

end

/-- A tree by its number, if it has one. -/
def numbered (o : Opening) (t : Tree) : List (Nat × Tree) := (o.anchor.map (·, t)).toList

mutual

/-- The values with anchors, by their numbers, a value before its parts. -/
def anchored : Tree → List (Nat × Tree)
  | .scalar o text style => numbered o (.scalar o text style)
  | .list o items cut => numbered o (.list o items cut) ++ anchoredAll items
  | .map o entries cut => numbered o (.map o entries cut) ++ anchoredEntries entries
  | .alias .. => []
  | .broken _ => []

/-- The values with anchors in a list. -/
def anchoredAll : List Tree → List (Nat × Tree)
  | [] => []
  | t :: ts => anchored t ++ anchoredAll ts

/-- The values with anchors among keys and values. -/
def anchoredEntries : List (Tree × Tree) → List (Nat × Tree)
  | [] => []
  | (key, value) :: rest => anchored key ++ anchored value ++ anchoredEntries rest

end

mutual

/-- The numbers of the values that are taken again. -/
def aliased : Tree → List Nat
  | .scalar .. => []
  | .list _ items _ => aliasedAll items
  | .map _ entries _ => aliasedEntries entries
  | .alias number _ => [number]
  | .broken _ => []

/-- The numbers of the values that are taken again in a list. -/
def aliasedAll : List Tree → List Nat
  | [] => []
  | t :: ts => aliased t ++ aliasedAll ts

/-- The numbers of the values that are taken again among keys and values. -/
def aliasedEntries : List (Tree × Tree) → List Nat
  | [] => []
  | (key, value) :: rest => aliased key ++ aliased value ++ aliasedEntries rest

end

/-- The copies of values with anchors, where an alias inside a copy is followed so many times. -/
def copies (anchors : List (Nat × Tree)) : Nat → Copies
  | 0 => []
  | rounds + 1 =>
    let inner := copies anchors rounds
    anchors.map fun a => (a.1, a.2.node inner none)

/-- The values that are taken again, by their numbers. Of two values with one number the later one
comes first. -/
def repeated (t : Tree) : List (Nat × Tree) :=
  let numbers := t.aliased.eraseDups
  (t.anchored.filter fun a => numbers.contains a.1).reverse

/-- The document of a tree. Of two values with one number the later one counts. An alias is followed
inside a copy until the document would be nested too deeply to be read. -/
def document (t : Tree) : Node :=
  t.node (copies t.repeated (Node.deepest + 1)) none

end Tree

/-- For each event of a document so many aliases may be followed. -/
def aliasesForEvent : Nat := 100

/-- A document of which nothing can be read. -/
def unread (fault : Fault) : Parsed := ⟨.broken (breakAt fault) none, none, 0⟩

/-- Reads a YAML text with one document or none. -/
def read (text : String) : Parsed :=
  match glyphs text with
  | .error fault => unread fault
  | .ok t =>
    let tokens := tokens t
    let events := tellDocument tokens
    let grown := events.tree
    let behind := (behindDocument tokens.fault events.rest).map SyntaxFault.yaml
    ⟨grown.tree.document, behind, aliasesForEvent * grown.events⟩

end SubscriptLint.Yaml
