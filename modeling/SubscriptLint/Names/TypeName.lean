import SubscriptLint.Names.Builtin
import SubscriptLint.Names.ClassName
import SubscriptLint.Text.Blank
/-!
# Type names

A type name is a built-in type, a class name or some other word. `TypeName.ofText` sorts raw
texts into the three kinds. Names are compared by their keys, which drop the case of class names
and nothing else.
-/

namespace SubscriptLint

/-- The name of a type as it is reported for an expression. -/
inductive TypeName
  | builtin (type : Builtin)
  | classLike (name : ClassName)
  /-- An unqualified word outside the built-in vocabulary, such as `self`. -/
  | other (text : String)
  deriving Repr, Inhabited

/-- What a type name is compared by. -/
inductive TypeKey
  | builtin (type : Builtin)
  | classLike (folded : String)
  | other (text : String)
  deriving DecidableEq, Repr

namespace TypeName

/-- The key of a type name. -/
def key : TypeName → TypeKey
  | builtin b => .builtin b
  | classLike c => .classLike c.key
  | other t => .other t

instance : BEq TypeName := ⟨fun a b => a.key == b.key⟩

theorem beq_iff {a b : TypeName} : (a == b) = true ↔ a.key = b.key := by
  change (a.key == b.key) = true ↔ _
  exact beq_iff_eq

/-- Sorts a raw text, without the blanks around it. A built-in spelling counts as one also behind
a single leading separator; any other text that begins with a separator names a class. -/
def ofText (raw : String) : TypeName :=
  let text := Text.trim raw
  match text.toList with
  | c :: rest =>
    if c = ClassName.separator then
      if rest.contains ClassName.separator then .classLike ⟨text⟩
      else
        match Builtin.ofSpelling? (String.ofList rest) with
        | some b => .builtin b
        | none => .classLike ⟨text⟩
    else
      match Builtin.ofSpelling? text with
      | some b => .builtin b
      | none => .other text
  | [] => .other text

/-- The shown form of a type name: canonical for built-in types, else as it was written. -/
def text : TypeName → String
  | builtin b => b.spelling
  | classLike c => c.text
  | other t => t

instance : ToString TypeName := ⟨text⟩

/-- Whether the name is that of a class, an interface or a trait. -/
def isClassLike : TypeName → Bool
  | classLike _ => true
  | _ => false

/-- The class name, if the type name is one. -/
def className? : TypeName → Option ClassName
  | classLike c => some c
  | _ => none

/-- Whether the name is that of the given built-in type. -/
def isBuiltin (name : TypeName) (b : Builtin) : Bool :=
  name == .builtin b

theorem eq_builtin_of_key {t : TypeName} {b : Builtin} (h : t.key = .builtin b) :
    t = .builtin b := by
  cases t with
  | builtin c => exact congrArg builtin (TypeKey.builtin.inj h)
  | classLike name => cases h
  | other word => cases h

theorem exists_classLike_of_key {t : TypeName} {folded : String} (h : t.key = .classLike folded) :
    ∃ name, t = .classLike name ∧ name.key = folded := by
  cases t with
  | builtin b => cases h
  | classLike name => exact ⟨name, rfl, TypeKey.classLike.inj h⟩
  | other word => cases h

theorem className?_eq_some_iff {t : TypeName} {name : ClassName} :
    t.className? = some name ↔ t = .classLike name := by
  cases t with
  | builtin b => exact ⟨nofun, nofun⟩
  | classLike name' =>
    constructor
    · intro h
      rw [Option.some.inj h]
    · intro h
      rw [className?, classLike.inj h]
  | other word => exact ⟨nofun, nofun⟩

end TypeName

end SubscriptLint
