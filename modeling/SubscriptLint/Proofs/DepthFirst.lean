import SubscriptLint.Proofs.ChainedSearch

/-!
# Depth-first search

Where no name is declared twice, the search with its stack of pending names finds what a recursive
climb finds that finishes all names above one name before it goes on to the next
(`Catalog.findMethod?_eq_depthFirst?`). The pending names are what the climb has yet to come back to.
-/

namespace SubscriptLint

/-- What a climb found, and the keys of the names it has visited by then, the last one first. -/
structure Climb where
  found : Option Method
  visited : List String

namespace Catalog

/-- Visits names one after the other, each with everything above it before the next. A name that was
visited is passed over, and one that is not declared leads nowhere. -/
def climb (cat : Catalog) (method : String) (visited : List String) (names : List ClassName) :
    { r : Climb // cat.unseen r.visited ≤ cat.unseen visited } :=
  match names with
  | [] => ⟨⟨none, visited⟩, Nat.le_refl _⟩
  | name :: rest =>
    if _known : name.key ∈ visited then cat.climb method visited rest
    else
      match _declared : cat.declarations name with
      | [] =>
        let beside := cat.climb method (name.key :: visited) rest
        ⟨beside.1, Nat.le_trans beside.2 (cat.unseen_cons_le ..)⟩
      | d :: _ =>
        match d.ownMethod? method with
        | some m => ⟨⟨some m, name.key :: visited⟩, cat.unseen_cons_le ..⟩
        | none =>
          let above := cat.climb method (name.key :: visited) d.supertypes
          have habove := Nat.le_trans above.2 (cat.unseen_cons_le ..)
          match above.1.found with
          | some _ => ⟨above.1, habove⟩
          | none =>
            let beside := cat.climb method above.1.visited rest
            ⟨beside.1, Nat.le_trans beside.2 habove⟩
termination_by (cat.unseen visited, names.length)
decreasing_by
  · exact Prod.Lex.right _ (by simp)
  · rcases Nat.lt_or_eq_of_le (cat.unseen_cons_le name.key visited) with h | h
    · exact Prod.Lex.left _ _ h
    · rw [h]
      exact Prod.Lex.right _ (by simp)
  · exact Prod.Lex.left _ _ (unseen_cons_lt _known (by simp [_declared]))
  · have hlt : cat.unseen (name.key :: visited) < cat.unseen visited :=
      unseen_cons_lt _known (by simp [_declared])
    exact Prod.Lex.left _ _ (Nat.lt_of_le_of_lt above.2 hlt)

/-- The method that a class has under a name: the first one of its own or, failing that, the first
one that a climb through its supertypes finds. The class itself counts as visited. -/
def depthFirst? (cat : Catalog) (c : ClassDecl) (method : String) : Option Method :=
  match c.ownMethod? method with
  | some m => some m
  | none => (cat.climb method [c.name.key] c.supertypes).1.found

/-- No name is declared twice. -/
def DeclaredOnce (cat : Catalog) : Prop :=
  ∀ name, (cat.declarations name).length ≤ 1

theorem declaredOnce_iff {cat : Catalog} :
    cat.DeclaredOnce ↔ (cat.buckets.all fun b => b.later.isEmpty) = true := by
  rw [List.all_eq_true]
  constructor
  · intro h b hb
    have hlength : b.declarations.length ≤ 1 := by
      rw [← Bucket.lookup_of_mem cat.distinct hb]
      exact h b.first.name
    rw [Bucket.declarations, List.length_cons] at hlength
    rw [List.isEmpty_iff_length_eq_zero]
    omega
  · intro h name
    by_cases hname : name.key ∈ cat.buckets.map Bucket.key
    · obtain ⟨b, hb, hk⟩ := List.mem_map.mp hname
      have hlater := List.isEmpty_iff.mp (h b hb)
      rw [declarations, ← hk, Bucket.lookup_of_mem cat.distinct hb, Bucket.declarations, hlater]
      exact Nat.le_refl 1
    · rw [declarations, Bucket.lookup_eq_nil_of_not_mem hname]
      exact Nat.zero_le 1

instance (cat : Catalog) : Decidable cat.DeclaredOnce := decidable_of_iff _ declaredOnce_iff.symm

variable {cat : Catalog} {method : String} {visited : List String} {name : ClassName}
  {rest : List ClassName} {d : ClassDecl} {later : List ClassDecl}

@[simp] theorem climb_nil : (cat.climb method visited []).1 = ⟨none, visited⟩ := by
  rw [climb]

theorem climb_cons_of_known (known : name.key ∈ visited) :
    (cat.climb method visited (name :: rest)).1 = (cat.climb method visited rest).1 := by
  rw [climb, dif_pos known]

theorem climb_cons_of_undeclared (fresh : name.key ∉ visited)
    (undeclared : cat.declarations name = []) :
    (cat.climb method visited (name :: rest)).1 =
      (cat.climb method (name.key :: visited) rest).1 := by
  rw [climb, dif_neg fresh]
  split <;> simp_all

theorem climb_cons_of_own {m : Method} (fresh : name.key ∉ visited)
    (declared : cat.declarations name = d :: later) (own : d.ownMethod? method = some m) :
    (cat.climb method visited (name :: rest)).1 = ⟨some m, name.key :: visited⟩ := by
  rw [climb, dif_neg fresh]
  split <;> simp_all

theorem climb_cons_of_above {m : Method} (fresh : name.key ∉ visited)
    (declared : cat.declarations name = d :: later) (lacking : d.ownMethod? method = none)
    (above : (cat.climb method (name.key :: visited) d.supertypes).1.found = some m) :
    (cat.climb method visited (name :: rest)).1 =
      (cat.climb method (name.key :: visited) d.supertypes).1 := by
  rw [climb, dif_neg fresh]
  split <;> simp_all

theorem climb_cons_of_beside (fresh : name.key ∉ visited)
    (declared : cat.declarations name = d :: later) (lacking : d.ownMethod? method = none)
    (above : (cat.climb method (name.key :: visited) d.supertypes).1.found = none) :
    (cat.climb method visited (name :: rest)).1 =
      (cat.climb method (cat.climb method (name.key :: visited) d.supertypes).1.visited rest).1 := by
  rw [climb, dif_neg fresh]
  split
  · simp_all
  · next heq =>
      obtain ⟨rfl, -⟩ := List.cons.inj (heq.symm.trans declared)
      simp only [lacking]
      split <;> simp_all

end Catalog

namespace Search

/-- What a search has come to by its end, told as a climb. -/
def asClimb (s : Search) (seen : List String) : Climb := ⟨s.found, s.seenAfter seen⟩

theorem asClimb_cons (name : ClassName) (s : Search) (seen : List String) :
    asClimb ⟨s.found, name :: s.expanded⟩ seen = s.asClimb (name.key :: seen) := by
  rw [asClimb, seenAfter_cons]
  rfl

/-- A search that goes on sees what the first part has looked up, and then the rest. -/
theorem asClimb_andThen_of_lacking {first : Search} (h : first.found = none) (rest : Search)
    (seen : List String) :
    (first.andThen rest).asClimb seen = rest.asClimb (first.seenAfter seen) := by
  simp only [andThen_of_lacking h, asClimb, seenAfter, List.map_append, List.reverse_append,
    List.append_assoc]

end Search

namespace Catalog

variable {cat : Catalog} {method : String} {visited : List String} {name : ClassName}
  {rest : List ClassName} {d : ClassDecl} {later : List ClassDecl}

theorem DeclaredOnce.declarations_eq (once : cat.DeclaredOnce)
    (declared : cat.declarations name = d :: later) : cat.declarations name = [d] := by
  have hlength := once name
  rw [declared, List.length_cons] at hlength
  have hlater : later = [] := List.eq_nil_of_length_eq_zero (by omega)
  rw [declared, hlater]

/-- The supertypes of a name that lacks the method are searched first, then the rest of the pending
names, past all that was looked up by then. -/
theorem asClimb_search_cons (fresh : name.key ∉ visited) (declared : cat.declarations name = [d])
    (lacking : d.ownMethod? method = none) :
    (cat.search method visited (name :: rest)).asClimb visited =
      ((cat.search method (name.key :: visited) d.supertypes).andThen
        (cat.search method
          ((cat.search method (name.key :: visited) d.supertypes).seenAfter (name.key :: visited))
          rest)).asClimb (name.key :: visited) := by
  have hlacking : ((cat.declarations name).findSome? fun d => d.ownMethod? method) = none := by
    simp only [declared, List.findSome?_cons, lacking, List.findSome?_nil]
  have hsupertypes : (cat.declarations name).reverse.flatMap ClassDecl.supertypes = d.supertypes := by
    rw [declared]
    exact List.flatMap_singleton ..
  rw [search_cons_of_lacking fresh hlacking, Search.asClimb_cons, hsupertypes, search_append]

/-- The climb and the search find the same and have visited the same names by then, so that either
may be broken off and gone on with as the other. -/
theorem climb_eq_search (once : cat.DeclaredOnce) (method : String) (visited : List String)
    (names : List ClassName) :
    (cat.climb method visited names).1 = (cat.search method visited names).asClimb visited := by
  induction visited, names using climb.induct cat method with
  | case1 visited =>
      rw [climb_nil, search_nil]
      rfl
  | case2 visited name rest hknown ih =>
      rw [climb_cons_of_known hknown, search_cons_of_seen hknown]
      exact ih
  | case3 visited name rest hfresh hnone ih =>
      have hlacking : ((cat.declarations name).findSome? fun d => d.ownMethod? method) = none := by
        rw [hnone]
        rfl
      rw [climb_cons_of_undeclared hfresh hnone, search_cons_of_lacking hfresh hlacking, hnone,
        Search.asClimb_cons]
      exact ih
  | case4 visited name rest hfresh d later hd m hm =>
      have hfound : ((cat.declarations name).findSome? fun d => d.ownMethod? method) = some m := by
        rw [hd, List.findSome?_cons, hm]
      rw [climb_cons_of_own hfresh hd hm, search_cons_of_found hfresh hfound]
      rfl
  | case5 visited name rest hfresh d later hd hm above _ m habove ih =>
      rw [climb_cons_of_above hfresh hd hm habove,
        asClimb_search_cons hfresh (once.declarations_eq hd) hm, ih]
      -- The search finds what the climb finds, so nothing of the rest is looked at.
      have hfound : (cat.search method (name.key :: visited) d.supertypes).found = some m := by
        rw [ih] at habove
        exact habove
      rw [Search.andThen_of_found hfound]
  | case6 visited name rest hfresh d later hd hm above _ habove ihAbove ihBeside _ =>
      have hnone : (cat.search method (name.key :: visited) d.supertypes).found = none := by
        rw [ihAbove] at habove
        exact habove
      rw [climb_cons_of_beside hfresh hd hm habove,
        asClimb_search_cons hfresh (once.declarations_eq hd) hm,
        Search.asClimb_andThen_of_lacking hnone, ihBeside, ihAbove]
      rfl

/-- Where no name is declared twice, the method that a class has is the one that is found
depth-first. -/
theorem findMethod?_eq_depthFirst? (once : cat.DeclaredOnce) (c : ClassDecl) (method : String) :
    cat.findMethod? c method = cat.depthFirst? c method := by
  rw [findMethod?, depthFirst?, climb_eq_search once]
  rfl

/-- A class with a trait, a parent and an interface. -/
def diamondClass : ClassDecl :=
  { name := ⟨"\\A"⟩, traits := [⟨"\\T"⟩], parents := [⟨"\\B"⟩], interfaces := [⟨"\\I"⟩] }

/-- The trait leads to the parent, which has the class itself as an interface. A method is declared
above the parent as well as above the class. -/
def diamondSample : Catalog :=
  .ofList
    [diamondClass, { name := ⟨"\\T"⟩, parents := [⟨"\\b"⟩] },
      { name := ⟨"\\B"⟩, parents := [⟨"\\Unknown"⟩], interfaces := [⟨"\\a"⟩, ⟨"\\J"⟩] },
      { name := ⟨"\\J"⟩, methods := [⟨"GET", []⟩] }, { name := ⟨"\\I"⟩, methods := [⟨"Get", []⟩] }]

/-- The search comes to what is above the parent through the trait, as the climb does. -/
theorem diamondSample_depthFirst :
    diamondSample.DeclaredOnce ∧
      diamondSample.findMethod? diamondClass "get" = diamondSample.depthFirst? diamondClass "get" ∧
      (diamondSample.findMethod? diamondClass "get").map Method.name = some "GET" := by
  have honce : diamondSample.DeclaredOnce := by decide
  refine ⟨honce, findMethod?_eq_depthFirst? honce diamondClass "get", ?_⟩
  change (diamondSample.search "get" ["\\a"] [⟨"\\T"⟩, ⟨"\\B"⟩, ⟨"\\I"⟩]).found.map Method.name = _
  rw [search_cons_of_lacking (by decide) rfl]
  change (diamondSample.search "get" ["\\t", "\\a"] [⟨"\\b"⟩, ⟨"\\B"⟩, ⟨"\\I"⟩]).found.map _ = _
  rw [search_cons_of_lacking (by decide) rfl]
  change (diamondSample.search "get" ["\\b", "\\t", "\\a"]
    [⟨"\\Unknown"⟩, ⟨"\\a"⟩, ⟨"\\J"⟩, ⟨"\\B"⟩, ⟨"\\I"⟩]).found.map _ = _
  rw [search_cons_of_lacking (by decide) rfl]
  change (diamondSample.search "get" ["\\unknown", "\\b", "\\t", "\\a"]
    [⟨"\\a"⟩, ⟨"\\J"⟩, ⟨"\\B"⟩, ⟨"\\I"⟩]).found.map _ = _
  rw [search_cons_of_seen (by decide), search_cons_of_found (by decide) rfl]
  rfl

end Catalog

end SubscriptLint
