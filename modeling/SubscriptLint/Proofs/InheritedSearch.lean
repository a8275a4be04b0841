import SubscriptLint.Hierarchy.Inherited

/-!
# The search for inherited methods

A search finds a method exactly if some declaration that supertypes lead to declares one, however
often names are declared and whatever cycles they form. The invariant of the search relates two
sets of names: those the pending names lead to past the names already seen, and the same after one
name was looked up. They differ by that name alone.
-/

namespace SubscriptLint.Catalog

/-- The names that given names lead to: the names themselves, and the supertypes of all
declarations of every name on the way. Names with a key in `avoided` are neither passed nor
reached. -/
inductive Leads (cat : Catalog) (avoided : List String) (names : List ClassName) :
    ClassName → Prop
  | given {n : ClassName} (hn : n ∈ names) (ha : n.key ∉ avoided) : Leads cat avoided names n
  | above {n n' : ClassName} {d : ClassDecl} (hn : Leads cat avoided names n)
      (hd : d ∈ cat.declarations n) (hs : n' ∈ d.supertypes) (ha : n'.key ∉ avoided) :
      Leads cat avoided names n'

/-- The method is one that the class offers under a name: it is declared by the class, or by a
declaration of a name that the supertypes of the class lead to without the class itself. -/
def Offers (cat : Catalog) (c : ClassDecl) (method : String) (x : Method) : Prop :=
  Text.alike x.name method = true ∧
    (x ∈ c.methods ∨
      ∃ n, cat.Leads [c.name.key] c.supertypes n ∧ ∃ d ∈ cat.declarations n, x ∈ d.methods)

variable {cat : Catalog} {method : String} {seen : List String} {name n : ClassName}
  {names rest : List ClassName}

/-- Names that are the same have the same declarations. -/
theorem declarations_congr {a b : ClassName} (h : a.key = b.key) :
    cat.declarations a = cat.declarations b :=
  congrArg (Bucket.lookup cat.buckets) h

theorem not_leads_nil : ¬cat.Leads seen [] n := by
  intro h
  induction h with
  | given hn _ => exact absurd hn List.not_mem_nil
  | above _ _ _ _ ih => exact ih

/-- Names that were seen lead nowhere. -/
theorem leads_cons_of_seen (hname : name.key ∈ seen) :
    cat.Leads seen (name :: rest) n ↔ cat.Leads seen rest n := by
  constructor
  · intro h
    induction h with
    | given hn ha =>
        rcases List.mem_cons.mp hn with rfl | hn
        · exact absurd hname ha
        · exact .given hn ha
    | above _ hd hs ha ih => exact .above ih hd hs ha
  · intro h
    induction h with
    | given hn ha => exact .given (List.mem_cons_of_mem _ hn) ha
    | above _ hd hs ha ih => exact .above ih hd hs ha

theorem mem_supertypes_iff :
    n ∈ (cat.declarations name).reverse.flatMap ClassDecl.supertypes ↔
      ∃ d ∈ cat.declarations name, n ∈ d.supertypes := by
  simp only [List.mem_flatMap, List.mem_reverse]

/-- Looking a name up leads nowhere that the name itself did not lead to. -/
theorem leads_of_leads_supertypes (hname : name.key ∉ seen)
    (h : cat.Leads (name.key :: seen)
      ((cat.declarations name).reverse.flatMap ClassDecl.supertypes ++ rest) n) :
    cat.Leads seen (name :: rest) n := by
  induction h with
  | given hn ha =>
      have ha := fun hmem => ha (List.mem_cons_of_mem _ hmem)
      rcases List.mem_append.mp hn with hn | hn
      · obtain ⟨d, hd, hs⟩ := mem_supertypes_iff.mp hn
        exact .above (.given List.mem_cons_self hname) hd hs ha
      · exact .given (List.mem_cons_of_mem _ hn) ha
  | above _ hd hs ha ih => exact .above ih hd hs fun hmem => ha (List.mem_cons_of_mem _ hmem)

/-- Looking a name up loses no other name. A name that was reached through it is reached from its
supertypes, which are pending from then on. -/
theorem key_eq_or_leads_supertypes (h : cat.Leads seen (name :: rest) n) :
    n.key = name.key ∨
      cat.Leads (name.key :: seen)
        ((cat.declarations name).reverse.flatMap ClassDecl.supertypes ++ rest) n := by
  have hfresh : ∀ {m : ClassName}, m.key ≠ name.key → m.key ∉ seen → m.key ∉ name.key :: seen :=
    fun hne ha hmem => (List.mem_cons.mp hmem).elim hne ha
  induction h with
  | @given m hn ha =>
      by_cases hm : m.key = name.key
      · exact Or.inl hm
      · rcases List.mem_cons.mp hn with rfl | hn
        · exact absurd rfl hm
        · exact Or.inr (.given (List.mem_append_right _ hn) (hfresh hm ha))
  | @above k m d _ hd hs ha ih =>
      by_cases hm : m.key = name.key
      · exact Or.inl hm
      · right
        -- A supertype of the name itself is pending now; the others are reached as before.
        rcases ih with hk | hk
        · rw [declarations_congr hk] at hd
          have hmem := mem_supertypes_iff.mpr ⟨d, hd, hs⟩
          exact .given (List.mem_append_left _ hmem) (hfresh hm ha)
        · exact .above hk hd hs (hfresh hm ha)

theorem Leads.key_not_mem {avoided : List String} (h : cat.Leads avoided names n) :
    n.key ∉ avoided := by
  cases h with
  | given _ ha => exact ha
  | above _ _ _ ha => exact ha

/-- The supertypes of a declaration lead nowhere that the declared name does not lead to. -/
theorem Leads.of_supertypes {avoided : List String} {d : ClassDecl} {n' : ClassName}
    (hn : cat.Leads [] names n) (hd : d ∈ cat.declarations n)
    (h : cat.Leads avoided d.supertypes n') : cat.Leads [] names n' := by
  induction h with
  | given hs _ => exact .above hn hd hs List.not_mem_nil
  | above _ hd hs _ ih => exact .above ih hd hs List.not_mem_nil

/-- Names with these keys have no supertypes with others. -/
def Closed (cat : Catalog) (keys : List String) : Prop :=
  ∀ b ∈ cat.buckets, b.key ∈ keys → ∀ d ∈ b.declarations, ∀ s ∈ d.supertypes, s.key ∈ keys

instance (cat : Catalog) (keys : List String) : Decidable (cat.Closed keys) :=
  inferInstanceAs (Decidable (∀ b ∈ cat.buckets, _))

/-- Names with keys of a closed list lead only to such names. -/
theorem Closed.key_mem_of_leads {keys avoided : List String} (hclosed : cat.Closed keys)
    (hnames : ∀ n ∈ names, n.key ∈ keys) (h : cat.Leads avoided names n) : n.key ∈ keys := by
  induction h with
  | given hn _ => exact hnames _ hn
  | above _ hd hs _ ih =>
      obtain ⟨b, hb, hkey, hd⟩ := exists_bucket_of_mem_declarations hd
      exact hclosed b hb (hkey ▸ ih) _ hd _ hs

/-- What a search finds is declared where the pending names lead to. -/
theorem leads_of_search_eq_some {x : Method} (h : (cat.search method seen names).found = some x) :
    ∃ n, cat.Leads seen names n ∧ ∃ d ∈ cat.declarations n, d.ownMethod? method = some x := by
  induction seen, names using search.induct cat method with
  | case1 seen =>
      rw [search_nil] at h
      cases h
  | case2 seen name rest hknown ih =>
      rw [search_cons_of_seen hknown] at h
      obtain ⟨n, hn, hd⟩ := ih h
      exact ⟨n, (leads_cons_of_seen hknown).mpr hn, hd⟩
  | case3 seen name rest hfresh m hm =>
      rw [search_cons_of_found hfresh hm] at h
      obtain ⟨d, hd, heq⟩ := List.exists_of_findSome?_eq_some hm
      exact ⟨name, .given List.mem_cons_self hfresh, d, hd, heq.trans h⟩
  | case4 seen name rest hfresh hm ih =>
      rw [search_cons_of_lacking hfresh hm] at h
      obtain ⟨n, hn, hd⟩ := ih h
      exact ⟨n, leads_of_leads_supertypes hfresh hn, hd⟩

/-- A search that finds nothing has looked up every name that the pending names lead to. -/
theorem ownMethod?_of_search_eq_none (h : (cat.search method seen names).found = none)
    (hn : cat.Leads seen names n) {d : ClassDecl} (hd : d ∈ cat.declarations n) :
    d.ownMethod? method = none := by
  induction seen, names using search.induct cat method with
  | case1 seen => exact absurd hn not_leads_nil
  | case2 seen name rest hknown ih =>
      rw [search_cons_of_seen hknown] at h
      exact ih h ((leads_cons_of_seen hknown).mp hn)
  | case3 seen name rest hfresh m hm =>
      rw [search_cons_of_found hfresh hm] at h
      cases h
  | case4 seen name rest hfresh hm ih =>
      rw [search_cons_of_lacking hfresh hm] at h
      -- No declaration of the name has the method; all other names are left to the search.
      rcases key_eq_or_leads_supertypes hn with hk | hn
      · rw [declarations_congr hk] at hd
        exact List.findSome?_eq_none_iff.mp hm d hd
      · exact ih h hn

/-- A search reads the declarations of the names that the pending names lead to, and no others. -/
theorem search_eq_of_leads {other : Catalog}
    (h : ∀ n, cat.Leads seen names n → other.declarations n = cat.declarations n) :
    other.search method seen names = cat.search method seen names := by
  induction seen, names using search.induct cat method with
  | case1 seen => rw [search_nil, search_nil]
  | case2 seen name rest hknown ih =>
      rw [search_cons_of_seen hknown, search_cons_of_seen hknown]
      exact ih fun n hn => h n ((leads_cons_of_seen hknown).mpr hn)
  | case3 seen name rest hfresh m hm =>
      have hname := h name (.given List.mem_cons_self hfresh)
      rw [search_cons_of_found hfresh hm, search_cons_of_found hfresh (hname ▸ hm)]
  | case4 seen name rest hfresh hm ih =>
      have hname := h name (.given List.mem_cons_self hfresh)
      rw [search_cons_of_lacking hfresh hm, search_cons_of_lacking hfresh (hname ▸ hm), hname,
        ih fun n hn => h n (leads_of_leads_supertypes hfresh hn)]

theorem ownMethod?_eq_none_iff {d : ClassDecl} :
    d.ownMethod? method = none ↔ ∀ x ∈ d.methods, ¬Text.alike x.name method = true :=
  List.find?_eq_none

theorem alike_of_ownMethod? {d : ClassDecl} {x : Method} (h : d.ownMethod? method = some x) :
    Text.alike x.name method = true ∧ x ∈ d.methods := by
  unfold ClassDecl.ownMethod? at h
  have halike := List.find?_some h
  exact ⟨halike, List.mem_of_find?_eq_some h⟩

/-- No method is found exactly where none is offered. -/
theorem findMethod?_eq_none_iff {c : ClassDecl} :
    cat.findMethod? c method = none ↔ ∀ x, ¬cat.Offers c method x := by
  unfold findMethod?
  cases hown : c.ownMethod? method with
  | some x =>
      obtain ⟨halike, hmem⟩ := alike_of_ownMethod? hown
      exact iff_of_false nofun fun h => h x ⟨halike, Or.inl hmem⟩
  | none =>
      constructor
      · rintro hnone x ⟨halike, hx | ⟨n, hn, d, hd, hx⟩⟩
        · exact ownMethod?_eq_none_iff.mp hown x hx halike
        · exact ownMethod?_eq_none_iff.mp (ownMethod?_of_search_eq_none hnone hn hd) x hx halike
      · intro h
        apply Option.eq_none_iff_forall_not_mem.mpr
        intro x hx
        obtain ⟨n, hn, d, hd, heq⟩ := leads_of_search_eq_some hx
        obtain ⟨halike, hmem⟩ := alike_of_ownMethod? heq
        exact h x ⟨halike, Or.inr ⟨n, hn, d, hd, hmem⟩⟩

/-- A class that offers a method has one found, and what is found is offered. -/
theorem findMethod?_isSome_iff_offers (cat : Catalog) (c : ClassDecl) (method : String) :
    ((cat.findMethod? c method).isSome ↔ ∃ x, cat.Offers c method x) ∧
      ∀ x ∈ cat.findMethod? c method, cat.Offers c method x := by
  have hsound : ∀ x ∈ cat.findMethod? c method, cat.Offers c method x := by
    intro x hx
    unfold findMethod? at hx
    cases hown : c.ownMethod? method with
    | some y =>
        rw [hown] at hx
        cases hx
        obtain ⟨halike, hmem⟩ := alike_of_ownMethod? hown
        exact ⟨halike, Or.inl hmem⟩
    | none =>
        rw [hown] at hx
        obtain ⟨n, hn, d, hd, heq⟩ := leads_of_search_eq_some hx
        obtain ⟨halike, hmem⟩ := alike_of_ownMethod? heq
        exact ⟨halike, Or.inr ⟨n, hn, d, hd, hmem⟩⟩
  refine ⟨⟨?_, ?_⟩, hsound⟩
  · intro h
    obtain ⟨x, hx⟩ := Option.isSome_iff_exists.mp h
    exact ⟨x, hsound x hx⟩
  · rintro ⟨x, halike, hwhere⟩
    apply Option.isSome_iff_ne_none.mpr
    intro hnone
    unfold findMethod? at hnone
    cases hown : c.ownMethod? method with
    | some y =>
        rw [hown] at hnone
        cases hnone
    | none =>
        rw [hown] at hnone
        rcases hwhere with hx | ⟨n, hn, d, hd, hx⟩
        · exact ownMethod?_eq_none_iff.mp hown x hx halike
        · exact ownMethod?_eq_none_iff.mp (ownMethod?_of_search_eq_none hnone hn hd) x hx halike

/-- The class is its own ancestor, and the second declaration of its parent has the method. -/
example :
    (findMethod? (ofList [{ name := ⟨"B"⟩, parents := [⟨"a"⟩] },
        { name := ⟨"b"⟩, methods := [⟨"get", []⟩] }])
      { name := ⟨"A"⟩, parents := [⟨"B"⟩] } "GET").isSome = true := by
  cbv

end SubscriptLint.Catalog
