import SubscriptLint.Names.TypeSet
/-!
# Index types against a container

The comparison of the types an index may have with those a container accepts. It goes by name:
`object` stands for any class and `mixed` for anything, and class hierarchies are not consulted.
-/

namespace SubscriptLint.TypeSet

/-- The possible index types that a container does not accept, in order. An index that may be
`mixed` or `null` is taken to be covered by what the author meant. -/
def incompatible (possible accepted : TypeSet) : TypeSet :=
  let anyObject := accepted.containsBuiltin .object
  let anyValue := accepted.containsBuiltin .mixed
  possible.filter fun t =>
    !(t.isBuiltin .mixed || t.isBuiltin .null || accepted.contains t
      || (anyObject && t.isClassLike) || anyValue)

end SubscriptLint.TypeSet
