import SubscriptLint.Text.Ascii
import SubscriptLint.Text.Bytes
/-!
# Class names

Names of classes, interfaces and traits. A name keeps the spelling in which it was written, and
two names are the same if their keys agree: the case of ASCII letters does not count.
-/

namespace SubscriptLint

/-- A class name in the spelling in which it was written. -/
structure ClassName where
  text : String
  deriving Repr, Inhabited

namespace ClassName

/-- What a class name is compared by: its text in small letters. -/
def key (name : ClassName) : String :=
  Text.fold name.text

/-- Names are equal if their keys are. -/
instance : BEq ClassName := ⟨fun a b => a.key == b.key⟩

/-- Names are ordered by the code points of their keys. -/
instance : Ord ClassName := ⟨fun a b => compare a.key b.key⟩

instance : ToString ClassName := ⟨text⟩

theorem beq_iff {a b : ClassName} : (a == b) = true ↔ a.key = b.key := by
  change (a.key == b.key) = true ↔ _
  exact beq_iff_eq

instance : EquivBEq ClassName where
  rfl := beq_iff.2 rfl
  symm h := beq_iff.2 (beq_iff.1 h).symm
  trans h h' := beq_iff.2 ((beq_iff.1 h).trans (beq_iff.1 h'))

/-- What a name gives to a hasher: its bytes, the ASCII capitals among them made small. -/
def bytes (name : ClassName) : List UInt8 :=
  (Text.bytes name.text).map Text.smallByte

/-- Names are hashed by their bytes, one after the other. -/
instance : Hashable ClassName := ⟨fun a => hash a.bytes⟩

/-- The mark that begins every class name. -/
def separator : Char := '\\'

/-- Whether a text is a class name that a declaration may use: a separator and something more. -/
def isQualified (text : String) : Bool :=
  match text.toList with
  | c :: _ :: _ => c == separator
  | _ => false

end ClassName

end SubscriptLint
