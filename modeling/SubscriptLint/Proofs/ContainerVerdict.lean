import SubscriptLint.Proofs.Analysis
import SubscriptLint.Proofs.InheritedSearch

/-!
# What a container supports

The verdict on a container as a matter of its candidates alone, in whatever order they and the
declarations of their classes are gone through (`Catalog.verdict_justified`). Whether a class
supports subscripts is told by the methods that its declarations offer; which index types it
accepts is told declaration by declaration, since only a declaration without methods for subscripts
falls back on its methods for properties.
-/

namespace SubscriptLint

/-- The types that can have subscripts at all. -/
inductive TypeName.Indexable : TypeName → Prop
  | array : Indexable (.builtin .array)
  | string : Indexable (.builtin .string)
  | classLike (name : ClassName) : Indexable (.classLike name)

/-- A parameter accepts the types that it lists, or `mixed` if it lists none. -/
def Parameter.Accepts (p : Parameter) (t : TypeName) : Prop :=
  (∃ types, p.types = some types ∧ t ∈ types) ∨
    ((∀ types, p.types = some types → types.members = []) ∧ t.key = .builtin .mixed)

/-- The type is one by which arrays and strings are indexed. -/
def TypeName.IsRegularIndex (t : TypeName) : Prop :=
  t.key = .builtin .string ∨ t.key = .builtin .integer

namespace Catalog

/-- A declaration supports subscripts if it has one of four methods, its own or an inherited one. -/
def Subscriptable (cat : Catalog) (d : ClassDecl) : Prop :=
  ∃ method ∈ ["offsetSet", "offsetGet", "__get", "__set"], ∃ x, cat.Offers d method x

/-- The types that a declaration accepts as indexes. -/
inductive Accepts (cat : Catalog) (d : ClassDecl) (t : TypeName) : Prop
  /-- The first parameter of a method for subscripts accepts the type. -/
  | parameter {method : String} {x : Method} {p : Parameter}
      (hmethod : method ∈ ["offsetSet", "offsetGet"]) (hx : cat.findMethod? d method = some x)
      (hp : x.parameters.head? = some p) (ht : p.Accepts t)
  /-- There are methods for properties, and none for subscripts. -/
  | property {method : String} {x : Method}
      (hnone : ∀ method ∈ ["offsetSet", "offsetGet"], ∀ x, ¬cat.Offers d method x)
      (hmethod : method ∈ ["__get", "__set"]) (hx : cat.Offers d method x)
      (ht : t.IsRegularIndex)

/-- The candidates that support subscripts: a class does if one of its declarations does. -/
inductive Supports (cat : Catalog) : TypeName → Prop
  | array : Supports cat (.builtin .array)
  | string : Supports cat (.builtin .string)
  | classLike {name : ClassName} {d : ClassDecl} (hd : d ∈ cat.declarations name)
      (h : cat.Subscriptable d) : Supports cat (.classLike name)

/-- The types that a candidate accepts as indexes: a class accepts what any of its declarations
does. -/
inductive Admits (cat : Catalog) : TypeName → TypeName → Prop
  | array {t : TypeName} (ht : t.IsRegularIndex) : Admits cat (.builtin .array) t
  | string {t : TypeName} (ht : t.IsRegularIndex) : Admits cat (.builtin .string) t
  | classLike {name : ClassName} {d : ClassDecl} {t : TypeName} (hd : d ∈ cat.declarations name)
      (ht : cat.Accepts d t) : Admits cat (.classLike name) t

/-- What the verdict on a container has to be. -/
structure Justifies (cat : Catalog) (types : TypeSet) (v : Verdict) : Prop where
  /-- Nothing is known of a container without candidates. -/
  inconclusive : types.candidates? = none → v = .supported ∅
  /-- One candidate that cannot have subscripts is enough. -/
  refused : ∀ c, types.candidates? = some c → (∃ t ∈ c.members, ¬t.Indexable) → v = .unsupported c
  /-- One candidate that supports subscripts is enough if all can have them. The accepted types are
  those of all such candidates. -/
  supported : ∀ c, types.candidates? = some c → (∀ t ∈ c.members, t.Indexable) →
    (∃ t ∈ c.members, cat.Supports t) →
      ∃ accepted, v = .supported accepted ∧
        ∀ u, u ∈ accepted ↔ ∃ t ∈ c.members, cat.Admits t u
  /-- Some candidate has to support subscripts. -/
  unsupported : ∀ c, types.candidates? = some c → (∀ t ∈ c.members, ¬cat.Supports t) →
    v = .unsupported c

end Catalog

theorem mem_regularIndexTypes {t : TypeName} : t ∈ regularIndexTypes ↔ t.IsRegularIndex := by
  simp [regularIndexTypes, TypeSet.ofBuiltins, TypeSet.mem_ofList, TypeName.key,
    TypeName.IsRegularIndex]

theorem Parameter.mem_accepted_iff {p : Parameter} {t : TypeName} :
    t ∈ p.accepted ↔ p.Accepts t := by
  have hmixed : t ∈ TypeSet.ofBuiltins [.mixed] ↔ t.key = .builtin .mixed := by
    simp [TypeSet.ofBuiltins, TypeSet.mem_ofList, TypeName.key]
  unfold accepted Accepts
  cases p.types with
  | none => simp [hmixed]
  | some types =>
      cases hempty : types.members with
      | nil => simp [TypeSet.isEmpty, hempty, hmixed, TypeSet.mem_iff_exists]
      | cons u us => simp [TypeSet.isEmpty, hempty]

namespace Catalog

variable {cat : Catalog} {d : ClassDecl} {name : ClassName} {t u : TypeName}

theorem offers_of_findMethod? {method : String} {x : Method}
    (h : cat.findMethod? d method = some x) : ∃ y, cat.Offers d method y := by
  by_contra hnone
  rw [findMethod?_eq_none_iff.mpr (not_exists.mp hnone)] at h
  cases h

theorem findMethod?_of_offers {method : String} {y : Method} (h : cat.Offers d method y) :
    ∃ x, cat.findMethod? d method = some x := by
  rw [← Option.ne_none_iff_exists', Ne, findMethod?_eq_none_iff]
  exact fun hnone => hnone y h

/-- Without methods for subscripts, those for properties are looked for. -/
theorem indexTypesOf?_of_forall_none
    (h : ∀ method ∈ ClassDecl.subscriptMethods, cat.findMethod? d method = none) :
    cat.indexTypesOf? d = (ClassDecl.propertyMethods.findSome? (cat.findMethod? d)).map
      fun _ => regularIndexTypes.members := by
  rw [indexTypesOf?, List.filterMap_eq_nil_iff.mpr h]

theorem indexTypesOf?_of_found {method : String} {x : Method}
    (hmethod : method ∈ ClassDecl.subscriptMethods) (hx : cat.findMethod? d method = some x) :
    cat.indexTypesOf? d = some ((ClassDecl.subscriptMethods.filterMap (cat.findMethod? d)).flatMap
      fun m => m.firstAccepted?.elim [] TypeSet.members) := by
  have hmem := List.mem_filterMap.mpr ⟨method, hmethod, hx⟩
  rw [indexTypesOf?]
  cases hfound : ClassDecl.subscriptMethods.filterMap (cat.findMethod? d) with
  | nil =>
      rw [hfound] at hmem
      cases hmem
  | cons m ms => rfl

/-- A declaration either has a method for subscripts, or none of them is found. -/
theorem found_or_forall_none (cat : Catalog) (d : ClassDecl) :
    (∃ method ∈ ClassDecl.subscriptMethods, ∃ x, cat.findMethod? d method = some x) ∨
      ∀ method ∈ ClassDecl.subscriptMethods, cat.findMethod? d method = none := by
  by_cases h : ∃ method ∈ ClassDecl.subscriptMethods, ∃ x, cat.findMethod? d method = some x
  · exact Or.inl h
  · right
    intro method hmethod
    by_contra hne
    exact h ⟨method, hmethod, Option.ne_none_iff_exists'.mp hne⟩

/-- A declaration has index types exactly if it supports subscripts. -/
theorem exists_indexTypesOf?_iff :
    (∃ types, cat.indexTypesOf? d = some types) ↔ cat.Subscriptable d := by
  rcases cat.found_or_forall_none d with ⟨method, hmethod, x, hx⟩ | hnone
  · have hoffers := offers_of_findMethod? hx
    exact iff_of_true ⟨_, indexTypesOf?_of_found hmethod hx⟩
      ⟨method, List.mem_append_left ClassDecl.propertyMethods hmethod, hoffers⟩
  · rw [indexTypesOf?_of_forall_none hnone]
    constructor
    · rintro ⟨types, h⟩
      obtain ⟨x, hx, -⟩ := Option.map_eq_some_iff.mp h
      obtain ⟨method, hmethod, hfound⟩ := List.exists_of_findSome?_eq_some hx
      exact ⟨method, List.mem_append_right ClassDecl.subscriptMethods hmethod,
        offers_of_findMethod? hfound⟩
    · rintro ⟨method, hmethod, y, hy⟩
      obtain ⟨x, hx⟩ := findMethod?_of_offers hy
      rcases List.mem_append.mp (show method ∈ ClassDecl.subscriptMethods ++ _ from hmethod) with
        hmethod | hmethod
      · rw [hnone method hmethod] at hx
        cases hx
      · have hsome : (ClassDecl.propertyMethods.findSome? (cat.findMethod? d)).isSome :=
          List.findSome?_isSome_iff.mpr ⟨method, hmethod, hx ▸ rfl⟩
        obtain ⟨z, hz⟩ := Option.isSome_iff_exists.mp hsome
        exact ⟨_, by rw [hz, Option.map_some]⟩

/-- The index types of a declaration are those that it accepts. -/
theorem mem_indexTypesOf?_iff {types : List TypeName} (h : cat.indexTypesOf? d = some types) :
    (∃ u ∈ types, t.key = u.key) ↔ cat.Accepts d t := by
  rcases cat.found_or_forall_none d with ⟨method, hmethod, x, hx⟩ | hnone
  · rw [indexTypesOf?_of_found hmethod hx] at h
    obtain rfl := Option.some.inj h
    constructor
    · rintro ⟨u, hu, hkey⟩
      obtain ⟨y, hy, hu⟩ := List.mem_flatMap.mp hu
      obtain ⟨method', hmethod', hy⟩ := List.mem_filterMap.mp hy
      cases hp : y.parameters.head? with
      | none => simp [Method.firstAccepted?, hp] at hu
      | some p =>
          simp only [Method.firstAccepted?, hp, Option.map_some, Option.elim_some] at hu
          exact .parameter hmethod' hy hp
            (Parameter.mem_accepted_iff.mp (TypeSet.mem_iff_exists.mpr ⟨u, hu, hkey⟩))
    · rintro (⟨hmethod', hy, hp, ht⟩ | ⟨hno, -, -, -⟩)
      · obtain ⟨u, hu, hkey⟩ := TypeSet.mem_iff_exists.mp (Parameter.mem_accepted_iff.mpr ht)
        refine ⟨u, List.mem_flatMap.mpr ⟨_, List.mem_filterMap.mpr ⟨_, hmethod', hy⟩, ?_⟩, hkey⟩
        simpa only [Method.firstAccepted?, hp, Option.map_some, Option.elim_some] using hu
      · obtain ⟨y, hy⟩ := offers_of_findMethod? hx
        exact absurd hy (hno method hmethod y)
  · rw [indexTypesOf?_of_forall_none hnone] at h
    obtain ⟨x, hx, rfl⟩ := Option.map_eq_some_iff.mp h
    rw [← TypeSet.mem_iff_exists, mem_regularIndexTypes]
    constructor
    · intro ht
      obtain ⟨method, hmethod, hfound⟩ := List.exists_of_findSome?_eq_some hx
      obtain ⟨y, hy⟩ := offers_of_findMethod? hfound
      exact .property (fun m hm => findMethod?_eq_none_iff.mp (hnone m hm)) hmethod hy ht
    · rintro (⟨hmethod, hy, -, -⟩ | ⟨-, -, -, ht⟩)
      · rw [hnone _ hmethod] at hy
        cases hy
      · exact ht

/-- A declaration that accepts some type supports subscripts. -/
theorem Accepts.subscriptable (h : cat.Accepts d t) : cat.Subscriptable d := by
  cases h with
  | parameter hmethod hx hp ht =>
      exact ⟨_, List.mem_append_left ClassDecl.propertyMethods hmethod, offers_of_findMethod? hx⟩
  | property hnone hmethod hx ht =>
      exact ⟨_, List.mem_append_right ClassDecl.subscriptMethods hmethod, _, hx⟩

/-- A class has index types exactly if one of its declarations supports subscripts. -/
theorem exists_classIndexTypes?_iff :
    (∃ types, cat.classIndexTypes? name = some types) ↔
      ∃ d ∈ cat.declarations name, cat.Subscriptable d := by
  constructor
  · rintro ⟨types, h⟩
    rw [classIndexTypes?_eq, Option.ite_none_left_eq_some] at h
    obtain ⟨l, hl⟩ := List.exists_mem_of_ne_nil _ h.1
    obtain ⟨d, hd, hl⟩ := List.mem_filterMap.mp hl
    exact ⟨d, hd, exists_indexTypesOf?_iff.mp ⟨l, hl⟩⟩
  · rintro ⟨d, hd, hsub⟩
    obtain ⟨l, hl⟩ := exists_indexTypesOf?_iff.mpr hsub
    have hmem := List.mem_filterMap.mpr ⟨d, hd, hl⟩
    rw [classIndexTypes?_eq]
    exact ⟨_, if_neg (List.ne_nil_of_mem hmem)⟩

/-- The index types of a class are those that its declarations accept. -/
theorem mem_classIndexTypes?_iff {types : TypeSet} (h : cat.classIndexTypes? name = some types) :
    t ∈ types ↔ ∃ d ∈ cat.declarations name, cat.Accepts d t := by
  rw [classIndexTypes?_eq, Option.ite_none_left_eq_some] at h
  obtain rfl := Option.some.inj h.2
  rw [TypeSet.mem_ofList]
  constructor
  · rintro ⟨u, hu, hkey⟩
    obtain ⟨l, hl, hu⟩ := List.mem_flatten.mp hu
    obtain ⟨d, hd, hl⟩ := List.mem_filterMap.mp hl
    exact ⟨d, hd, (mem_indexTypesOf?_iff hl).mp ⟨u, hu, hkey⟩⟩
  · rintro ⟨d, hd, ht⟩
    obtain ⟨l, hl⟩ := exists_indexTypesOf?_iff.mpr ht.subscriptable
    obtain ⟨u, hu, hkey⟩ := (mem_indexTypesOf?_iff hl).mpr ht
    exact ⟨u, List.mem_flatten.mpr ⟨l, List.mem_filterMap.mpr ⟨d, hd, hl⟩, hu⟩, hkey⟩

/-- A candidate refuses subscripts exactly if it cannot have them. -/
theorem isRefusal_bearing_iff : (cat.bearing t).isRefusal = true ↔ ¬t.Indexable := by
  unfold bearing
  split
  · exact iff_of_false nofun (not_not_intro .array)
  · exact iff_of_false nofun (not_not_intro .string)
  · next name =>
      refine iff_of_false ?_ (not_not_intro (.classLike name))
      cases cat.classIndexTypes? name <;> exact nofun
  · next harray hstring hclass =>
      refine iff_of_true rfl ?_
      rintro (_ | _ | ⟨name⟩)
      · exact harray rfl
      · exact hstring rfl
      · exact hclass name rfl

theorem accepted?_bearing_classLike (cat : Catalog) (name : ClassName) :
    (cat.bearing (.classLike name)).accepted? = cat.classIndexTypes? name := by
  rw [bearing]
  cases cat.classIndexTypes? name <;> rfl

/-- Index types are offered by arrays, by strings, and by classes that support subscripts. -/
theorem accepted?_bearing_cases {types : TypeSet} (h : (cat.bearing t).accepted? = some types) :
    ((t = .builtin .array ∨ t = .builtin .string) ∧ types = regularIndexTypes) ∨
      ∃ name, t = .classLike name ∧ cat.classIndexTypes? name = some types := by
  unfold bearing at h
  split at h
  · exact Or.inl ⟨Or.inl rfl, (Option.some.inj h).symm⟩
  · exact Or.inl ⟨Or.inr rfl, (Option.some.inj h).symm⟩
  · next name =>
      refine Or.inr ⟨name, rfl, ?_⟩
      cases hc : cat.classIndexTypes? name <;> rw [hc] at h <;> exact h
  · cases h

/-- A candidate supports subscripts exactly if it offers index types. -/
theorem supports_iff : cat.Supports t ↔ ∃ types, (cat.bearing t).accepted? = some types := by
  constructor
  · rintro (_ | _ | ⟨hd, hsub⟩)
    · exact ⟨_, rfl⟩
    · exact ⟨_, rfl⟩
    · rw [accepted?_bearing_classLike]
      exact exists_classIndexTypes?_iff.mpr ⟨_, hd, hsub⟩
  · rintro ⟨types, h⟩
    rcases accepted?_bearing_cases h with ⟨rfl | rfl, -⟩ | ⟨name, rfl, htypes⟩
    · exact .array
    · exact .string
    · obtain ⟨d, hd, hsub⟩ := exists_classIndexTypes?_iff.mp ⟨types, htypes⟩
      exact .classLike hd hsub

/-- The index types that a candidate offers are those that it admits. -/
theorem mem_accepted?_iff {types : TypeSet} (h : (cat.bearing t).accepted? = some types) :
    u ∈ types ↔ cat.Admits t u := by
  rcases accepted?_bearing_cases h with ⟨rfl | rfl, rfl⟩ | ⟨name, rfl, htypes⟩
  · rw [mem_regularIndexTypes]
    exact ⟨.array, fun | .array ht => ht⟩
  · rw [mem_regularIndexTypes]
    exact ⟨.string, fun | .string ht => ht⟩
  · rw [mem_classIndexTypes?_iff htypes]
    constructor
    · rintro ⟨d, hd, ht⟩
      exact .classLike hd ht
    · rintro ⟨⟩
      next d hd ht => exact ⟨d, hd, ht⟩

theorem Admits.supports (h : cat.Admits t u) : cat.Supports t := by
  cases h with
  | array ht => exact .array
  | string ht => exact .string
  | classLike hd ht => exact .classLike hd ht.subscriptable

/-- The index types of candidates taken together are those that one of them admits. -/
theorem mem_accepted_iff {ts : List TypeName} :
    u ∈ TypeSet.ofList
        (((ts.map cat.bearing).filterMap Bearing.accepted?).flatMap TypeSet.members) ↔
      ∃ t ∈ ts, cat.Admits t u := by
  rw [TypeSet.mem_ofList_members, List.filterMap_map]
  constructor
  · rintro ⟨types, htypes, hu⟩
    obtain ⟨t, ht, htypes⟩ := List.mem_filterMap.mp htypes
    exact ⟨t, ht, (mem_accepted?_iff htypes).mp hu⟩
  · rintro ⟨t, ht, hu⟩
    obtain ⟨types, htypes⟩ := supports_iff.mp hu.supports
    exact ⟨types, List.mem_filterMap.mpr ⟨t, ht, htypes⟩, (mem_accepted?_iff htypes).mpr hu⟩

theorem any_isRefusal_iff {ts : List TypeName} :
    (ts.map cat.bearing).any Bearing.isRefusal = true ↔ ∃ t ∈ ts, ¬t.Indexable := by
  simp only [List.any_map, List.any_eq_true, Function.comp_apply, isRefusal_bearing_iff]

theorem isEmpty_accepted_iff {ts : List TypeName} :
    ((ts.map cat.bearing).filterMap Bearing.accepted?).isEmpty = true ↔
      ∀ t ∈ ts, ¬cat.Supports t := by
  simp only [List.isEmpty_iff, List.filterMap_map, List.filterMap_eq_nil_iff, supports_iff,
    Function.comp_apply, ← Option.ne_none_iff_exists', Ne, not_not]

/-- Subscripts may not be supported exactly if one candidate refuses them or none supports them. -/
theorem verdict_eq_unsupported_iff {types reported : TypeSet} :
    cat.verdict types = .unsupported reported ↔
      types.candidates? = some reported ∧
        ((∃ t ∈ reported.members, ¬t.Indexable) ∨ ∀ t ∈ reported.members, ¬cat.Supports t) := by
  rw [verdict_eq_judged, judged]
  cases types.candidates? with
  | none => exact iff_of_false nofun nofun
  | some c =>
      simp only [Option.some.injEq]
      rw [← @any_isRefusal_iff cat, ← isEmpty_accepted_iff, ← Bool.or_eq_true]
      split
      · next hor =>
          simp only [Verdict.unsupported.injEq]
          exact ⟨fun h => ⟨h, h ▸ hor⟩, And.left⟩
      · next hor =>
          refine iff_of_false nofun ?_
          rintro ⟨rfl, hor'⟩
          exact hor hor'

/-- Where all candidates can have subscripts and one supports them, subscripts are supported. -/
theorem exists_verdict_eq_supported {types c : TypeSet} (hc : types.candidates? = some c)
    (hall : ∀ t ∈ c.members, t.Indexable) (hsome : ∃ t ∈ c.members, cat.Supports t) :
    ∃ accepted, cat.verdict types = .supported accepted ∧
      ∀ u, u ∈ accepted ↔ ∃ t ∈ c.members, cat.Admits t u := by
  refine ⟨_, ?_, fun u => mem_accepted_iff⟩
  have hany : (c.members.map cat.bearing).any Bearing.isRefusal = false := by
    rw [← Bool.not_eq_true, any_isRefusal_iff]
    rintro ⟨t, ht, hno⟩
    exact hno (hall t ht)
  have hsets : ((c.members.map cat.bearing).filterMap Bearing.accepted?).isEmpty = false := by
    rw [← Bool.not_eq_true, isEmpty_accepted_iff]
    obtain ⟨t, ht, hsup⟩ := hsome
    exact fun hno => hno t ht hsup
  rw [verdict_eq_judged, judged, hc]
  simp only [hany, hsets, Bool.or_false, Bool.false_eq_true, if_false]

/-- The verdict on a container is the one that its candidates justify. -/
theorem verdict_justified (cat : Catalog) (types : TypeSet) :
    cat.Justifies types (cat.verdict types) := by
  constructor
  · intro hnone
    rw [verdict, hnone]
    rfl
  · intro c hc hno
    exact verdict_eq_unsupported_iff.mpr ⟨hc, Or.inl hno⟩
  · intro c hc hall hsome
    exact exists_verdict_eq_supported hc hall hsome
  · intro c hc hnone
    exact verdict_eq_unsupported_iff.mpr ⟨hc, Or.inr hnone⟩

/-- An integer refuses subscripts also behind an array that supports them. -/
example : ((∅ : Catalog).verdict (.ofBuiltins [.array, .integer])).isSupported = false := by
  decide

end Catalog

end SubscriptLint
