import SubscriptLint.Hierarchy.Inherited
import SubscriptLint.Judgement.Candidates
/-!
# Verdicts on containers

Whether a container supports subscripts, and the index types it accepts if it does. Arrays and
strings are indexed by strings and integers; a class supports subscripts through its accessor
methods, its own or inherited ones.
-/

namespace SubscriptLint

/-- The outcome of judging the container of a subscript. -/
inductive Verdict
  /-- Subscripts are supported. Without accepted types the index is not to be checked. -/
  | supported (accepted : TypeSet)
  /-- Subscripts may not be supported, because of the reported types. -/
  | unsupported (reported : TypeSet)

namespace Verdict

/-- The verdict on a container of which nothing is known. -/
def inconclusive : Verdict := supported ∅

/-- Whether the verdict is the one on a container of which nothing is known. -/
def isInconclusive : Verdict → Bool
  | supported accepted => accepted.isEmpty
  | unsupported _ => false

/-- Whether the verdict says that subscripts are supported. -/
def isSupported : Verdict → Bool
  | supported _ => true
  | unsupported _ => false

/-- The types that the verdict names. -/
def types : Verdict → TypeSet
  | supported accepted => accepted
  | unsupported reported => reported

end Verdict

/-- The types that index arrays, strings and magic accessors. -/
def regularIndexTypes : TypeSet := .ofBuiltins [.string, .integer]

namespace ClassDecl

/-- The methods that stand for subscripts on an object, in the order in which they are tried. -/
def subscriptMethods : List String := ["offsetSet", "offsetGet"]

/-- The methods that stand for properties; the first one found lends regular subscripts. -/
def propertyMethods : List String := ["__get", "__set"]

end ClassDecl

namespace Catalog

/-- The index types that a declaration accepts, if it supports subscripts. They are those of the
first parameters of its subscript methods; a method without parameters adds none. -/
def indexTypesOf? (cat : Catalog) (d : ClassDecl) : Option (List TypeName) :=
  match ClassDecl.subscriptMethods.filterMap (cat.findMethod? d) with
  | [] =>
    (ClassDecl.propertyMethods.findSome? (cat.findMethod? d)).map fun _ =>
      regularIndexTypes.members
  | methods => some <| methods.flatMap fun m => m.firstAccepted?.elim [] TypeSet.members

/-- The index types that the declarations of a class name accept, if one supports subscripts. -/
def classIndexTypes? (cat : Catalog) (name : ClassName) : Option TypeSet :=
  match (cat.declarations name).filterMap cat.indexTypesOf? with
  | [] => none
  | lists => some (.ofList lists.flatten)

theorem classIndexTypes?_eq (cat : Catalog) (name : ClassName) :
    cat.classIndexTypes? name =
      let lists := (cat.declarations name).filterMap cat.indexTypesOf?
      if lists = [] then none else some (.ofList lists.flatten) := by
  unfold classIndexTypes?
  cases (cat.declarations name).filterMap cat.indexTypesOf? <;> rfl

end Catalog

/-- What one candidate says about a container. -/
inductive Bearing
  /-- The type has no subscripts, which settles the matter. -/
  | refuses
  /-- The type is a class that does not support subscripts as far as is known. -/
  | silent
  /-- The type supports subscripts with indexes of the given types. -/
  | accepts (types : TypeSet)

namespace Catalog

/-- What a candidate says about a container. -/
def bearing (cat : Catalog) : TypeName → Bearing
  | .builtin .array => .accepts regularIndexTypes
  | .builtin .string => .accepts regularIndexTypes
  | .classLike name =>
    match cat.classIndexTypes? name with
    | some types => .accepts types
    | none => .silent
  | _ => .refuses

/-- Goes through candidates, with the index types accepted so far if any candidate supports
subscripts. One candidate that refuses settles the verdict. -/
def weigh (cat : Catalog) (all : TypeSet) : List TypeName → Option TypeSet → Verdict
  | [], some accepted => .supported accepted
  | [], none => .unsupported all
  | t :: ts, accepted =>
    match cat.bearing t with
    | .refuses => .unsupported all
    | .silent => cat.weigh all ts accepted
    | .accepts types => cat.weigh all ts (some ((accepted.getD ∅).union types))

/-- The verdict on a container that may be of any of the given types. -/
def verdict (cat : Catalog) (types : TypeSet) : Verdict :=
  match types.candidates? with
  | none => .inconclusive
  | some candidates => cat.weigh candidates candidates.members none

end Catalog

end SubscriptLint
