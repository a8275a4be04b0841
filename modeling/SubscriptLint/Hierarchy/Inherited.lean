import SubscriptLint.Hierarchy.Catalog
/-!
# Inherited methods

The search for a method on a class and, if the class does not declare it, on its supertypes. The
search keeps a stack of names to look at and the keys of the names already seen; every name is
looked up at most once, so it ends on cyclic hierarchies too.
-/

namespace SubscriptLint

/-- What a search through the supertypes found, and the names it looked up on the way, in order. -/
structure Search where
  found : Option Method
  expanded : List ClassName

namespace Catalog

/-- The number of declared names that have not been seen. It bounds what a search has yet to do. -/
def unseen (cat : Catalog) (seen : List String) : Nat :=
  cat.buckets.countP fun b => b.key ∉ seen

theorem unseen_cons_le (cat : Catalog) (k : String) (seen : List String) :
    cat.unseen (k :: seen) ≤ cat.unseen seen := by
  apply List.countP_mono_left
  intro b _ h
  simp only [List.mem_cons, not_or, decide_eq_true_eq] at h ⊢
  exact h.2

theorem unseen_cons_lt {cat : Catalog} {name : ClassName} {seen : List String}
    (fresh : name.key ∉ seen) (declared : cat.declarations name ≠ []) :
    cat.unseen (name.key :: seen) < cat.unseen seen := by
  have hmem : ∃ b ∈ cat.buckets, b.key = name.key := by
    apply Classical.byContradiction
    intro h
    apply declared
    apply Bucket.lookup_eq_nil_of_not_mem
    simpa [List.mem_map] using h
  obtain ⟨b, hb, hk⟩ := hmem
  obtain ⟨before, after, hsplit⟩ := List.append_of_mem hb
  have hle (bs : List Bucket) :
      bs.countP (fun b => b.key ∉ name.key :: seen) ≤ bs.countP (fun b => b.key ∉ seen) := by
    apply List.countP_mono_left
    intro b _ h
    simp only [List.mem_cons, not_or, decide_eq_true_eq] at h ⊢
    exact h.2
  have h₁ := hle before
  have h₂ := hle after
  simp only [unseen, hsplit, List.countP_append, List.countP_cons, hk, fresh, List.mem_cons,
    true_or, not_true_eq_false, not_false_eq_true, decide_true, decide_false]
  simp only [List.mem_cons] at h₁ h₂
  simp only [if_true, Bool.false_eq_true, if_false]
  omega

/-- Looks the pending names up one after the other. A name that was seen is passed over. The
first declaration of the name that declares the method decides; if none does, the supertypes of
its declarations come before the rest of the pending names, those of the last declaration
first. -/
def search (cat : Catalog) (method : String) (seen : List String) (pending : List ClassName) :
    Search :=
  match pending with
  | [] => ⟨none, []⟩
  | name :: rest =>
    if _known : name.key ∈ seen then cat.search method seen rest
    else
      match (cat.declarations name).findSome? fun d => d.ownMethod? method with
      | some m => ⟨some m, [name]⟩
      | none =>
        let next := cat.search method (name.key :: seen)
          ((cat.declarations name).reverse.flatMap ClassDecl.supertypes ++ rest)
        ⟨next.found, name :: next.expanded⟩
termination_by (cat.unseen seen, pending.length)
decreasing_by
  · exact Prod.Lex.right _ (by simp)
  · by_cases declared : cat.declarations name = []
    · rcases Nat.lt_or_eq_of_le (cat.unseen_cons_le name.key seen) with h | h
      · exact Prod.Lex.left _ _ h
      · rw [h]
        exact Prod.Lex.right _ (by simp [declared])
    · exact Prod.Lex.left _ _ (unseen_cons_lt _known declared)

@[simp] theorem search_nil (cat : Catalog) (method : String) (seen : List String) :
    cat.search method seen [] = ⟨none, []⟩ := by
  rw [search]

theorem search_cons_of_seen {cat : Catalog} {name : ClassName} {seen : List String}
    (known : name.key ∈ seen) (method : String) (rest : List ClassName) :
    cat.search method seen (name :: rest) = cat.search method seen rest := by
  rw [search, dif_pos known]

theorem search_cons_of_found {cat : Catalog} {name : ClassName} {seen : List String}
    {method : String} {m : Method} (fresh : name.key ∉ seen)
    (found : ((cat.declarations name).findSome? fun d => d.ownMethod? method) = some m)
    (rest : List ClassName) :
    cat.search method seen (name :: rest) = ⟨some m, [name]⟩ := by
  rw [search, dif_neg fresh]
  simp only [found]

theorem search_cons_of_lacking {cat : Catalog} {name : ClassName} {seen : List String}
    {method : String} (fresh : name.key ∉ seen)
    (lacking : ((cat.declarations name).findSome? fun d => d.ownMethod? method) = none)
    (rest : List ClassName) :
    cat.search method seen (name :: rest) =
      let next := cat.search method (name.key :: seen)
        ((cat.declarations name).reverse.flatMap ClassDecl.supertypes ++ rest)
      ⟨next.found, name :: next.expanded⟩ := by
  rw [search, dif_neg fresh]
  simp only [lacking]

/-- The search through the supertypes of a class. The class itself counts as seen. -/
def searchAbove (cat : Catalog) (c : ClassDecl) (method : String) : Search :=
  cat.search method [c.name.key] c.supertypes

/-- The method that a class has under a name: its own or, failing that, an inherited one. -/
def findMethod? (cat : Catalog) (c : ClassDecl) (method : String) : Option Method :=
  match c.ownMethod? method with
  | some m => some m
  | none => (cat.searchAbove c method).found

/-- A class has its own method, or else what the search above it finds. -/
theorem findMethod?_eq_own_or_above (cat : Catalog) (c : ClassDecl) (method : String) :
    cat.findMethod? c method = (c.ownMethod? method).or (cat.searchAbove c method).found := by
  rw [findMethod?]
  cases c.ownMethod? method <;> rfl

end Catalog

end SubscriptLint
