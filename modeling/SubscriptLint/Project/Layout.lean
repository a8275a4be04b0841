import SubscriptLint.Tree.Module
/-!
# Layout

Writing described expressions out as text. Every expression gets its slot on the way: the next
free number when it is begun, and the range of what is written until it is done. Offsets are kept
in 32 bits while the text still grows; only when it is complete is it known whether they fit.
-/

namespace SubscriptLint

/-- What has been written so far, and the number of the next expression. -/
structure Draft where
  text : String := ""
  next : Nat := 0

/-- Where an expression was written: its range, with offsets of 32 bits, and its number. -/
structure Slot where
  span : Span
  number : Nat

/-- A note together with the slot that its expression was given. -/
structure Placed (α : Type) where
  slot : Slot
  note : α

/-- The place of a slot in the source that the text has become. -/
def Source.place (s : Source) (slot : Slot) : Place := ⟨s.region slot.span, slot.number⟩

namespace Draft

/-- The offset at which writing goes on, of which 32 bits are kept. -/
def offset (d : Draft) : Nat := d.text.utf8ByteSize % UInt32.size

/-- Writes a text. -/
def write (text : String) : StateM Draft Unit :=
  modify fun d => { d with text := d.text ++ text }

/-- Takes the next number for an expression that begins here. -/
def start : StateM Draft Slot :=
  modifyGet fun d => (⟨⟨d.offset, d.offset⟩, d.next⟩, { d with next := d.next + 1 })

/-- The slot of an expression that was begun and ends here. -/
def finish (begun : Slot) : StateM Draft Slot := do
  return { begun with span := { begun.span with stop := (← get).offset } }

end Draft

namespace Expr

variable {α : Type}

mutual

/-- Writes an expression out. -/
def layOut : Expr α → StateM Draft (Expr (Placed α))
  | var note name => do
    let begun ← Draft.start
    Draft.write name
    return var ⟨← Draft.finish begun, note⟩ name
  | literal note text => do
    let begun ← Draft.start
    Draft.write text
    return literal ⟨← Draft.finish begun, note⟩ text
  | access note container index bracket closed => do
    let begun ← Draft.start
    let container ← layOutOption container
    Draft.write bracket.opening.toString
    let index ← layOutOption index
    Draft.write (if closed then bracket.closing.toString else "")
    return access ⟨← Draft.finish begun, note⟩ container index bracket closed
  | assign note target value => do
    let begun ← Draft.start
    let target ← layOut target
    Draft.write " = "
    let value ← layOut value
    return assign ⟨← Draft.finish begun, note⟩ target value
  | call note callee args => do
    let begun ← Draft.start
    Draft.write callee
    Draft.write "("
    let args ← layOutList args
    Draft.write ")"
    return call ⟨← Draft.finish begun, note⟩ callee args
  | property note object name => do
    let begun ← Draft.start
    let object ← layOut object
    Draft.write "->"
    Draft.write name
    return property ⟨← Draft.finish begun, note⟩ object name

/-- Writes a part out that may be missing. -/
def layOutOption : Option (Expr α) → StateM Draft (Option (Expr (Placed α)))
  | none => pure none
  | some e => do
    let e ← layOut e
    return some e

/-- Writes arguments out, with commas between them. -/
def layOutList : List (Expr α) → StateM Draft (List (Expr (Placed α)))
  | [] => pure []
  | e :: es => do
    let e ← layOut e
    let es ← layOutRest es
    return e :: es

/-- Writes further arguments out, each behind a comma. -/
def layOutRest : List (Expr α) → StateM Draft (List (Expr (Placed α)))
  | [] => pure []
  | e :: es => do
    Draft.write ", "
    let e ← layOut e
    let es ← layOutRest es
    return e :: es

end

/-- What ends a statement. -/
def terminator : String := ";\n"

/-- Writes statements out, each on a line of its own. -/
def layOutStatements : List (Expr α) → StateM Draft (List (Expr (Placed α)))
  | [] => pure []
  | e :: es => do
    let e ← layOut e
    Draft.write terminator
    let es ← layOutStatements es
    return e :: es

/-- The text of statements, each on a line of its own. -/
def renderStatements (es : List (Expr α)) : String :=
  String.join (es.map fun e => render e ++ terminator)

end Expr

end SubscriptLint
