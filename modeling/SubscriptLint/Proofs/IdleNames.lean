import SubscriptLint.Proofs.ChainedSearch
import SubscriptLint.Proofs.InheritedSearch

/-!
# Idle names

A search gains nothing from a name whose declarations all lack the method and have no supertypes but
such as are seen. It may count as seen from the beginning (`Catalog.found_search_of_idle`). Whatever
was looked up in vain is idle by then. So each of several names finds what it would find on its own,
although the searches through the ones before it have left their marks
(`Catalog.found_search_flatMap`).
-/

namespace SubscriptLint.Catalog

/-- No declaration of the name has the method, and all their supertypes are among the seen ones. -/
def Idle (cat : Catalog) (method : String) (seen : List String) (name : ClassName) : Prop :=
  ∀ d ∈ cat.declarations name, d.ownMethod? method = none ∧ ∀ s ∈ d.supertypes, s.key ∈ seen

variable {cat : Catalog} {method : String} {seen wider : List String} {name n : ClassName}
  {names : List ClassName}

theorem Idle.mono (h : cat.Idle method seen name) (hsub : ∀ k ∈ seen, k ∈ wider) :
    cat.Idle method wider name := by
  intro d hd
  obtain ⟨hown, habove⟩ := h d hd
  exact ⟨hown, fun s hs => hsub _ (habove s hs)⟩

theorem Idle.findSome?_eq_none (h : cat.Idle method seen name) :
    ((cat.declarations name).findSome? fun d => d.ownMethod? method) = none :=
  List.findSome?_eq_none_iff.mpr fun d hd => (h d hd).1

/-- It makes no difference to what is found whether idle names count as seen. -/
theorem found_search_of_idle (hsub : ∀ k ∈ seen, k ∈ wider)
    (hidle : ∀ n, cat.Leads seen names n → n.key ∈ wider → cat.Idle method wider n) :
    (cat.search method wider names).found = (cat.search method seen names).found := by
  induction seen, names using search.induct cat method generalizing wider with
  | case1 seen => rw [search_nil, search_nil]
  | case2 seen name rest hknown ih =>
      rw [search_cons_of_seen hknown, search_cons_of_seen (hsub _ hknown)]
      exact ih hsub fun n hn => hidle n ((leads_cons_of_seen hknown).mpr hn)
  | case3 seen name rest hfresh m hm =>
      have hname : name.key ∉ wider := by
        intro hmem
        have hnone := (hidle name (.given List.mem_cons_self hfresh) hmem).findSome?_eq_none
        rw [hnone] at hm
        cases hm
      rw [search_cons_of_found hfresh hm, search_cons_of_found hname hm]
  | case4 seen name rest hfresh hm ih =>
      rw [search_cons_of_lacking hfresh hm]
      by_cases hname : name.key ∈ wider
      · -- The name is passed over, and so would be all that it makes pending otherwise.
        have hskip : ∀ s ∈ (cat.declarations name).reverse.flatMap ClassDecl.supertypes,
            s.key ∈ wider := by
          intro s hs
          obtain ⟨d, hd, hs⟩ := mem_supertypes_iff.mp hs
          exact (hidle name (.given List.mem_cons_self hfresh) hname d hd).2 s hs
        rw [search_cons_of_seen hname, ← search_append_of_seen hskip]
        apply ih
        · intro k hk
          rcases List.mem_cons.mp hk with rfl | hk
          · exact hname
          · exact hsub k hk
        · intro n hn hmem
          exact hidle n (leads_of_leads_supertypes hfresh hn) hmem
      · rw [search_cons_of_lacking hname hm]
        apply ih
        · exact fun k hk => List.mem_cons.mpr ((List.mem_cons.mp hk).imp_right (hsub k))
        · intro n hn hmem
          have hne : n.key ≠ name.key := List.ne_of_not_mem_cons hn.key_not_mem
          have hmem : n.key ∈ wider := (List.mem_cons.mp hmem).resolve_left hne
          apply (hidle n (leads_of_leads_supertypes hfresh hn) hmem).mono
          exact fun k hk => List.mem_cons_of_mem _ hk

/-- What a search looks up in vain is idle when the search is over. -/
theorem idle_of_mem_expanded (h : (cat.search method seen names).found = none)
    (hn : n ∈ (cat.search method seen names).expanded) :
    cat.Idle method ((cat.search method seen names).seenAfter seen) n := by
  induction seen, names using search.induct cat method with
  | case1 seen =>
      rw [search_nil] at hn
      exact absurd hn List.not_mem_nil
  | case2 seen name rest hknown ih =>
      rw [search_cons_of_seen hknown] at h hn ⊢
      exact ih h hn
  | case3 seen name rest hfresh m hm =>
      rw [search_cons_of_found hfresh hm] at h
      cases h
  | case4 seen name rest hfresh hm ih =>
      rw [search_cons_of_lacking hfresh hm] at h hn ⊢
      rw [Search.seenAfter_cons]
      rcases List.mem_cons.mp hn with rfl | hn
      · intro d hd
        refine ⟨List.findSome?_eq_none_iff.mp hm d hd, fun s hs => ?_⟩
        apply mem_seenAfter_of_search_eq_none h
        exact List.mem_append_left _ (mem_supertypes_iff.mpr ⟨d, hd, hs⟩)
      · exact ih h hn

/-- Two searches in a row find what the first one finds or else what the second one finds, which
may as well know nothing of the first. -/
theorem found_search_append (cat : Catalog) (method : String) (seen : List String)
    (first rest : List ClassName) :
    (cat.search method seen (first ++ rest)).found =
      (cat.search method seen first).found.or (cat.search method seen rest).found := by
  rw [search_append]
  cases hfound : (cat.search method seen first).found with
  | some m => rw [Search.andThen_of_found hfound, hfound, Option.some_or]
  | none =>
      rw [Search.andThen_of_lacking hfound, Option.none_or]
      apply found_search_of_idle
      · exact fun k hk => Search.mem_seenAfter_of_mem hk
      · intro n hn hmem
        have hexpanded := (List.mem_append.mp hmem).resolve_right hn.key_not_mem
        obtain ⟨n', hn', hkey⟩ := List.mem_map.mp (List.mem_reverse.mp hexpanded)
        intro d hd
        rw [← declarations_congr hkey] at hd
        exact idle_of_mem_expanded hfound hn' d hd

/-- A search through lists of names finds what the first one of them finds that finds anything. -/
theorem found_search_flatMap {α : Type} (cat : Catalog) (method : String) (seen : List String)
    (xs : List α) (f : α → List ClassName) :
    (cat.search method seen (xs.flatMap f)).found =
      xs.findSome? fun x => (cat.search method seen (f x)).found := by
  induction xs with
  | nil => rw [List.flatMap_nil, search_nil, List.findSome?_nil]
  | cons x xs ih =>
      rw [List.flatMap_cons, found_search_append, ih, List.findSome?_cons]
      cases (cat.search method seen (f x)).found <;> rfl

end SubscriptLint.Catalog
