import SubscriptLint.Proofs.CandidateTypes

/-!
# The classes behind a verdict

A verdict depends on a catalog through the index types of the classes that the container may be of,
and through nothing else (`Catalog.verdict_congr`). Whatever is put in the place of `callable` is no
class, so the classes among the candidates are those that were known of the container.
-/

namespace SubscriptLint

namespace TypeSet

variable {s types candidates : TypeSet} {name : ClassName}

/-- The classes that members of the set name, in order. -/
def classNames (s : TypeSet) : List ClassName := s.members.filterMap TypeName.className?

theorem mem_classNames (h : .classLike name ∈ s.members) : name ∈ s.classNames :=
  List.mem_filterMap.mpr ⟨_, h, rfl⟩

/-- A class among the candidates is one that was known of the container. -/
theorem mem_classNames_of_candidates? (hc : types.candidates? = some candidates)
    (h : .classLike name ∈ candidates.members) : name ∈ types.classNames := by
  rw [(candidatesOf hc).members_eq, List.mem_append] at h
  rcases h with h | h
  · exact mem_classNames (List.mem_of_mem_filter h)
  · rcases mem_openings h with h | h <;> cases h

end TypeSet

namespace Catalog

variable {cat other : Catalog}

/-- What a type says about a container is told by the index types of the class that it names. -/
theorem bearing_congr {t : TypeName}
    (h : ∀ name, t = .classLike name → other.classIndexTypes? name = cat.classIndexTypes? name) :
    other.bearing t = cat.bearing t := by
  cases t with
  | classLike name => rw [bearing, bearing, h name rfl]
  | builtin b => cases b <;> rfl
  | other word => rfl

theorem judged_congr {types : TypeSet}
    (h : ∀ name ∈ types.classNames, other.classIndexTypes? name = cat.classIndexTypes? name) :
    other.judged types = cat.judged types := by
  rw [judged, judged]
  cases hc : types.candidates? with
  | none => rfl
  | some candidates =>
      have hbearings :
          candidates.members.map other.bearing = candidates.members.map cat.bearing := by
        apply List.map_congr_left
        intro t ht
        apply bearing_congr
        rintro name rfl
        exact h name (TypeSet.mem_classNames_of_candidates? hc ht)
      simp only [hbearings]

/-- The verdicts of two catalogs that accept the same index types for the classes of a container are
equal, down to the order of the types that are named. -/
theorem verdict_congr {types : TypeSet}
    (h : ∀ name ∈ types.classNames, other.classIndexTypes? name = cat.classIndexTypes? name) :
    other.verdict types = cat.verdict types :=
  calc
    other.verdict types = other.judged types := other.verdict_eq_judged types
    _ = cat.judged types := judged_congr h
    _ = cat.verdict types := (cat.verdict_eq_judged types).symm

end Catalog

end SubscriptLint
