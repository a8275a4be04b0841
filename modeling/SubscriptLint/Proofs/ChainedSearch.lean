import SubscriptLint.Hierarchy.Inherited

/-!
# Searches one after the other

A search through names is the search through the first of them, followed by the search through the
others if the first has found nothing (`Catalog.search_append`). The keys that the first search has
looked up are seen in the second one, wherever in the hierarchy they were met.
-/

namespace SubscriptLint

namespace Search

/-- A search that goes on with another one if it finds nothing. -/
def andThen (first rest : Search) : Search :=
  match first.found with
  | some _ => first
  | none => ⟨rest.found, first.expanded ++ rest.expanded⟩

/-- The keys that are seen after a search, the last one first. -/
def seenAfter (s : Search) (seen : List String) : List String :=
  (s.expanded.map ClassName.key).reverse ++ seen

theorem andThen_of_found {first : Search} {m : Method} (h : first.found = some m) (rest : Search) :
    first.andThen rest = first := by
  simp only [andThen, h]

theorem andThen_of_lacking {first : Search} (h : first.found = none) (rest : Search) :
    first.andThen rest = ⟨rest.found, first.expanded ++ rest.expanded⟩ := by
  simp only [andThen, h]

theorem empty_andThen (rest : Search) : (⟨none, []⟩ : Search).andThen rest = rest := rfl

/-- What is looked up in front of a search comes in front of what goes on with it, too. -/
theorem cons_andThen (name : ClassName) (first rest : Search) :
    Search.andThen ⟨first.found, name :: first.expanded⟩ rest =
      ⟨(first.andThen rest).found, name :: (first.andThen rest).expanded⟩ := by
  cases hfound : first.found with
  | some m =>
      rw [andThen_of_found hfound, andThen_of_found rfl, hfound]
  | none =>
      rw [andThen_of_lacking hfound, andThen_of_lacking rfl, List.cons_append]

theorem seenAfter_cons (name : ClassName) (found : Option Method) (expanded : List ClassName)
    (seen : List String) :
    seenAfter ⟨found, name :: expanded⟩ seen = seenAfter ⟨found, expanded⟩ (name.key :: seen) := by
  simp only [seenAfter, List.map_cons, List.reverse_cons, List.append_assoc, List.singleton_append]

theorem mem_seenAfter_of_mem {s : Search} {seen : List String} {k : String} (h : k ∈ seen) :
    k ∈ s.seenAfter seen :=
  List.mem_append_right _ h

end Search

namespace Catalog

variable {cat : Catalog} {method : String} {seen : List String}

/-- A search through names goes through the first ones, and through the others if it has found
nothing by then. -/
theorem search_append (cat : Catalog) (method : String) (seen : List String)
    (first rest : List ClassName) :
    cat.search method seen (first ++ rest) =
      (cat.search method seen first).andThen
        (cat.search method ((cat.search method seen first).seenAfter seen) rest) := by
  induction seen, first using search.induct cat method with
  | case1 seen =>
      rw [search_nil, Search.empty_andThen]
      rfl
  | case2 seen name names hknown ih =>
      rw [List.cons_append, search_cons_of_seen hknown, search_cons_of_seen hknown]
      exact ih
  | case3 seen name names hfresh m hm =>
      rw [List.cons_append, search_cons_of_found hfresh hm, search_cons_of_found hfresh hm]
      rfl
  | case4 seen name names hfresh hm ih =>
      rw [List.cons_append, search_cons_of_lacking hfresh hm, search_cons_of_lacking hfresh hm]
      simp only
      rw [← List.append_assoc, ih, Search.cons_andThen, Search.seenAfter_cons]

/-- A search that finds nothing has seen all its names. -/
theorem mem_seenAfter_of_search_eq_none {names : List ClassName}
    (h : (cat.search method seen names).found = none) {n : ClassName} (hn : n ∈ names) :
    n.key ∈ (cat.search method seen names).seenAfter seen := by
  induction seen, names using search.induct cat method with
  | case1 seen => exact absurd hn List.not_mem_nil
  | case2 seen name rest hknown ih =>
      rw [search_cons_of_seen hknown] at h ⊢
      rcases List.mem_cons.mp hn with rfl | hn
      · exact Search.mem_seenAfter_of_mem hknown
      · exact ih h hn
  | case3 seen name rest hfresh m hm =>
      rw [search_cons_of_found hfresh hm] at h
      cases h
  | case4 seen name rest hfresh hm ih =>
      rw [search_cons_of_lacking hfresh hm] at h ⊢
      rw [Search.seenAfter_cons]
      rcases List.mem_cons.mp hn with rfl | hn
      · exact Search.mem_seenAfter_of_mem List.mem_cons_self
      · exact ih h (List.mem_append_right _ hn)

/-- Names that were seen are passed over. -/
theorem search_append_of_seen {first : List ClassName} (h : ∀ n ∈ first, n.key ∈ seen)
    (rest : List ClassName) :
    cat.search method seen (first ++ rest) = cat.search method seen rest := by
  induction first with
  | nil => rfl
  | cons n ns ih =>
      rw [List.cons_append, search_cons_of_seen (h n List.mem_cons_self)]
      exact ih fun m hm => h m (List.mem_cons_of_mem _ hm)

end Catalog

end SubscriptLint
