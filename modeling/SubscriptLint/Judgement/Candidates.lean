import SubscriptLint.Names.TypeSet
/-!
# Candidate types of a container

Before a container is judged, the types that say nothing about subscripts are taken out of what
is known of it. What remains are its candidates; with none left the container is not judged.
-/

namespace SubscriptLint.TypeSet

/-- The built-in types that are passed over: a guard, or nothing at all, is expected there. -/
def passedOver : List Builtin := [.null, .object, .never]

/-- The set with `callable` replaced by what a callable value may be: an array or a string. -/
def openCallable (types : TypeSet) : TypeSet :=
  match types.erase? (.builtin .callable) with
  | some rest => rest.insertMany [.builtin .array, .builtin .string]
  | none => types

/-- The types a container is judged by. There are none if it may be anything, if it is exactly an
integer or a string, as the key of a loop is, or if all its types are passed over. -/
def candidates? (types : TypeSet) : Option TypeSet :=
  if types.containsBuiltin .mixed then none
  else if types.isExactly [.integer, .string] then none
  else
    let kept := types.openCallable.filter fun t => !passedOver.any t.isBuiltin
    if kept.isEmpty then none else some kept

/-- The candidates are what is not passed over. There are some whenever a container is judged. -/
theorem kept_of_candidates? {types candidates : TypeSet}
    (h : types.candidates? = some candidates) :
    (types.openCallable.filter fun t => !passedOver.any t.isBuiltin) = candidates ∧
      candidates.isEmpty = false := by
  unfold candidates? at h
  split at h
  · cases h
  · split at h
    · cases h
    · simp only [Option.ite_none_left_eq_some, Bool.not_eq_true] at h
      obtain ⟨hne, heq⟩ := h
      have hkept := Option.some.inj heq
      exact ⟨hkept, hkept ▸ hne⟩

end SubscriptLint.TypeSet
