import SubscriptLint.Names.TypeSet
/-!
# Class declarations

Declarations of classes, interfaces and traits, with the methods they declare themselves and the
names of their direct supertypes.
-/

namespace SubscriptLint

/-- A parameter of a method. An untyped parameter has no types. -/
structure Parameter where
  name : String
  types : Option TypeSet

namespace Parameter

/-- The types that a parameter accepts. An untyped parameter, or one with an empty list of types,
accepts anything. -/
def accepted (p : Parameter) : TypeSet :=
  match p.types with
  | some types => if types.isEmpty then .ofBuiltins [.mixed] else types
  | none => .ofBuiltins [.mixed]

end Parameter

/-- A method as it is declared. -/
structure Method where
  name : String
  parameters : List Parameter

namespace Method

/-- The types that the first parameter accepts, if the method has parameters. -/
def firstAccepted? (m : Method) : Option TypeSet :=
  m.parameters.head?.map Parameter.accepted

end Method

/-- What kind of class-like declaration it is. -/
inductive ClassKind
  | ordinary
  | interface
  | trait
  deriving DecidableEq, Repr, Inhabited

namespace ClassKind

/-- The word for a kind. -/
def word : ClassKind → String
  | .ordinary => "class"
  | .interface => "interface"
  | .trait => "trait"

end ClassKind

/-- A declaration of a class, an interface or a trait. -/
structure ClassDecl where
  name : ClassName
  kind : ClassKind := .ordinary
  parents : List ClassName := []
  interfaces : List ClassName := []
  traits : List ClassName := []
  methods : List Method := []

namespace ClassDecl

/-- The first method declared here under a name. The case of ASCII letters does not count. -/
def ownMethod? (c : ClassDecl) (method : String) : Option Method :=
  c.methods.find? fun m => Text.alike m.name method

/-- The direct supertypes: traits, then parents, then interfaces. -/
def supertypes (c : ClassDecl) : List ClassName :=
  c.traits ++ c.parents ++ c.interfaces

end ClassDecl

end SubscriptLint
