import SubscriptLint.Proofs.Assembly

/-!
# The rounds of a search

A search takes one pending name a round. Looking it up can leave more names pending than before, so
their number alone bounds nothing. The supertypes that are yet to become pending count as well: a
name is looked up once, in whatever spelling it comes up again, so that those of a declaration
become pending once. Every round uses up one of the names counted, and the search ends on every
hierarchy (`Catalog.inherited_search_ends`).
-/

namespace SubscriptLint

/-- A search between two rounds: the keys seen, the names pending, and the names looked up so far,
the last one first. -/
structure SearchState where
  seen : List String
  pending : List ClassName
  expanded : List ClassName

namespace SearchState

/-- The search through the supertypes of a class before the first round. -/
def start (c : ClassDecl) : SearchState := ⟨[c.name.key], c.supertypes, []⟩

/-- What comes of a search from here on, with what was looked up before. -/
def outcome (cat : Catalog) (method : String) (s : SearchState) : Search :=
  let rest := cat.search method s.seen s.pending
  ⟨rest.found, s.expanded.reverse ++ rest.expanded⟩

end SearchState

namespace Catalog

/-- One round, which takes the first of the pending names. The search goes on from another state, or
it ends: with the method, or because nothing is pending. -/
def round (cat : Catalog) (method : String) (s : SearchState) : SearchState ⊕ Search :=
  match s.pending with
  | [] => .inr ⟨none, s.expanded.reverse⟩
  | name :: rest =>
    if name.key ∈ s.seen then .inl { s with pending := rest }
    else
      match (cat.declarations name).findSome? fun d => d.ownMethod? method with
      | some m => .inr ⟨some m, (name :: s.expanded).reverse⟩
      | none =>
        .inl
          { seen := name.key :: s.seen
            pending := (cat.declarations name).reverse.flatMap ClassDecl.supertypes ++ rest
            expanded := name :: s.expanded }

/-- What the search has come to if it ends within a number of rounds. -/
def outcomeWithin? (cat : Catalog) (method : String) : Nat → SearchState → Option Search
  | 0, _ => none
  | rounds + 1, s =>
    match cat.round method s with
    | .inl next => cat.outcomeWithin? method rounds next
    | .inr ended => some ended

/-- The number of supertypes that are declared of names that were not seen. -/
def unseenSupertypes (cat : Catalog) (seen : List String) : Nat :=
  ((cat.listing.filter fun d => d.name.key ∉ seen).flatMap ClassDecl.supertypes).length

/-- The rounds that a search can still take: one for each name that is pending or may become so, and
one to notice that there is none. -/
def roundsLeft (cat : Catalog) (s : SearchState) : Nat :=
  s.pending.length + cat.unseenSupertypes s.seen + 1

variable {cat : Catalog} {method : String} {s next : SearchState}

theorem length_supertypes_filter (ds : List ClassDecl) {k : String} {seen : List String}
    (fresh : k ∉ seen) :
    ((ds.filter fun d => d.name.key ∉ seen).flatMap ClassDecl.supertypes).length =
      ((ds.filter fun d => d.name.key = k).flatMap ClassDecl.supertypes).length +
        ((ds.filter fun d => d.name.key ∉ k :: seen).flatMap ClassDecl.supertypes).length := by
  induction ds with
  | nil => rfl
  | cons d ds ih =>
      by_cases hk : d.name.key = k
      · simp [hk, fresh] at ih ⊢
        omega
      · by_cases hseen : d.name.key ∈ seen <;> simp [hk, hseen] at ih ⊢ <;> omega

/-- What becomes pending when a name is looked up does not become so again. -/
theorem unseenSupertypes_of_fresh {name : ClassName} {seen : List String}
    (fresh : name.key ∉ seen) :
    cat.unseenSupertypes seen =
      ((cat.declarations name).reverse.flatMap ClassDecl.supertypes).length +
        cat.unseenSupertypes (name.key :: seen) := by
  have hperm := (cat.declarations name).reverse_perm.flatMap_right ClassDecl.supertypes
  rw [hperm.length_eq, ← filter_listing]
  exact length_supertypes_filter cat.listing fresh

/-- A round that goes on uses up one of the rounds left, and the search comes to the same. -/
theorem round_goes_on (h : cat.round method s = .inl next) :
    cat.roundsLeft s = cat.roundsLeft next + 1 ∧
      next.outcome cat method = s.outcome cat method := by
  obtain ⟨seen, pending, expanded⟩ := s
  cases pending with
  | nil => cases h
  | cons name rest =>
      by_cases known : name.key ∈ seen
      · simp only [round, if_pos known, Sum.inl.injEq] at h
        subst h
        refine ⟨?_, ?_⟩
        · simp only [roundsLeft, List.length_cons]
          omega
        · simp only [SearchState.outcome, search_cons_of_seen known]
      · cases hm : (cat.declarations name).findSome? fun d => d.ownMethod? method with
        | some m => simp only [round, if_neg known, hm, reduceCtorEq] at h
        | none =>
            simp only [round, if_neg known, hm, Sum.inl.injEq] at h
            subst h
            refine ⟨?_, ?_⟩
            · simp only [roundsLeft, List.length_cons, List.length_append,
                unseenSupertypes_of_fresh known]
              omega
            · simp only [SearchState.outcome, search_cons_of_lacking known hm, List.reverse_cons,
                List.append_assoc, List.singleton_append]

/-- A round that ends the search ends it with what the search comes to. -/
theorem round_ends {ended : Search} (h : cat.round method s = .inr ended) :
    ended = s.outcome cat method := by
  obtain ⟨seen, pending, expanded⟩ := s
  cases pending with
  | nil =>
      simp only [round, Sum.inr.injEq] at h
      simp only [← h, SearchState.outcome, search_nil, List.append_nil]
  | cons name rest =>
      by_cases known : name.key ∈ seen
      · simp only [round, if_pos known, reduceCtorEq] at h
      · cases hm : (cat.declarations name).findSome? fun d => d.ownMethod? method with
        | some m =>
            simp only [round, if_neg known, hm, Sum.inr.injEq] at h
            simp only [← h, SearchState.outcome, search_cons_of_found known hm, List.reverse_cons]
        | none => simp only [round, if_neg known, hm, reduceCtorEq] at h

/-- A search ends within the rounds that are left, wherever it stands. -/
theorem outcomeWithin?_eq_outcome {rounds : Nat} (h : cat.roundsLeft s ≤ rounds) :
    cat.outcomeWithin? method rounds s = some (s.outcome cat method) := by
  induction rounds generalizing s with
  | zero => exact absurd h (Nat.not_succ_le_zero _)
  | succ rounds ih =>
      rw [outcomeWithin?]
      cases hround : cat.round method s with
      | inl next =>
          obtain ⟨hleft, houtcome⟩ := round_goes_on hround
          have hnext : cat.roundsLeft next ≤ rounds := by omega
          rw [← houtcome]
          exact ih hnext
      | inr ended => exact congrArg some (round_ends hround)

/-- Whatever number of rounds is tried, a search that has ended has come to what it comes to. -/
theorem outcome_of_outcomeWithin? {rounds : Nat} {ended : Search}
    (h : cat.outcomeWithin? method rounds s = some ended) : s.outcome cat method = ended := by
  induction rounds generalizing s with
  | zero => cases h
  | succ rounds ih =>
      rw [outcomeWithin?] at h
      cases hround : cat.round method s with
      | inl next =>
          rw [hround] at h
          exact (round_goes_on hround).2 ▸ ih h
      | inr result =>
          rw [hround] at h
          exact (round_ends hround).symm.trans (Option.some.inj h)

/-- Running a search for a number of rounds tells what is inherited. -/
theorem found_searchAbove_of_outcomeWithin? {c : ClassDecl} {found : Option Method} (rounds : Nat)
    (h : (cat.outcomeWithin? method rounds (.start c)).map Search.found = some found) :
    (cat.searchAbove c method).found = found := by
  obtain ⟨ended, hended, rfl⟩ := Option.map_eq_some_iff.mp h
  exact congrArg Search.found (outcome_of_outcomeWithin? hended)

/-- A name that was seen is not looked up. -/
theorem key_not_mem_of_mem_expanded {seen : List String} {names : List ClassName} {n : ClassName}
    (hn : n ∈ (cat.search method seen names).expanded) : n.key ∉ seen := by
  induction seen, names using search.induct cat method with
  | case1 seen =>
      rw [search_nil] at hn
      exact absurd hn List.not_mem_nil
  | case2 seen name rest hknown ih =>
      rw [search_cons_of_seen hknown] at hn
      exact ih hn
  | case3 seen name rest hfresh m hm =>
      rw [search_cons_of_found hfresh hm] at hn
      exact List.mem_singleton.mp hn ▸ hfresh
  | case4 seen name rest hfresh hm ih =>
      rw [search_cons_of_lacking hfresh hm] at hn
      rcases List.mem_cons.mp hn with rfl | hn
      · exact hfresh
      · exact fun hseen => ih hn (List.mem_cons_of_mem _ hseen)

/-- No name is looked up twice, in one spelling or another. -/
theorem nodup_keys_expanded (cat : Catalog) (method : String) (seen : List String)
    (names : List ClassName) :
    ((cat.search method seen names).expanded.map ClassName.key).Nodup := by
  induction seen, names using search.induct cat method with
  | case1 seen =>
      rw [search_nil]
      exact List.nodup_nil
  | case2 seen name rest hknown ih =>
      rw [search_cons_of_seen hknown]
      exact ih
  | case3 seen name rest hfresh m hm =>
      rw [search_cons_of_found hfresh hm]
      exact List.pairwise_singleton ..
  | case4 seen name rest hfresh hm ih =>
      rw [search_cons_of_lacking hfresh hm]
      refine List.nodup_cons.mpr ⟨?_, ih⟩
      intro hmem
      obtain ⟨n, hn, hkey⟩ := List.mem_map.mp hmem
      exact key_not_mem_of_mem_expanded hn (hkey ▸ List.mem_cons_self)

/-- The search behind a method that is inherited ends on every hierarchy, within a number of rounds
that is known beforehand. It looks no name up twice, and never that of the class it starts from. -/
theorem inherited_search_ends (cat : Catalog) (c : ClassDecl) (method : String) :
    cat.outcomeWithin? method (cat.roundsLeft (.start c)) (.start c) =
        some (cat.searchAbove c method) ∧
      ((cat.searchAbove c method).expanded.map ClassName.key).Nodup ∧
      c.name.key ∉ (cat.searchAbove c method).expanded.map ClassName.key ∧
      cat.findMethod? c method = (c.ownMethod? method).or (cat.searchAbove c method).found := by
  refine ⟨outcomeWithin?_eq_outcome (Nat.le_refl _), nodup_keys_expanded .., ?_,
    cat.findMethod?_eq_own_or_above c method⟩
  intro hmem
  obtain ⟨n, hn, hkey⟩ := List.mem_map.mp hmem
  exact key_not_mem_of_mem_expanded hn (hkey ▸ List.mem_cons_self)

/-- Two classes extend each other, one of them twice. It is looked up once, and the class itself is
not. -/
example :
    ((ofList [{ name := ⟨"A"⟩, parents := [⟨"B"⟩, ⟨"b"⟩] },
        { name := ⟨"B"⟩, parents := [⟨"a"⟩] }]).outcomeWithin? "get" 4
      (.start { name := ⟨"A"⟩, parents := [⟨"B"⟩, ⟨"b"⟩] })).map
        (fun s => (s.found.isSome, s.expanded.map ClassName.text)) = some (false, ["B"]) := by
  decide

end Catalog

end SubscriptLint
