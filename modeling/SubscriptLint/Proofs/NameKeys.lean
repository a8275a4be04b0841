import SubscriptLint.Proofs.Assembly
import SubscriptLint.Proofs.CandidateClasses
import SubscriptLint.Proofs.NameOrder

/-!
# Class names as keys

Declarations can be filed in a map that goes by the order of class names, and the names that a search
has seen can be kept in a set that goes by it. The catalog and the search find what these find
(`Assembly.getD_index`, `OrderedIndex.searched_iff`), and a set of types finds what a set that goes by
the hash of class names finds, so all of them tell the same names apart (`ClassName.keys_lawful`).
-/

namespace SubscriptLint

/-- Declarations in a map that is ordered by name. -/
abbrev OrderedIndex := Std.TreeMap ClassName (List ClassDecl)

namespace OrderedIndex

/-- Files declarations under a name, behind those that are there. -/
def file (index : OrderedIndex) (name : ClassName) (ds : List ClassDecl) : OrderedIndex :=
  index.alter name fun earlier => some (earlier.getD [] ++ ds)

/-- The index of the listed declarations. -/
def ofList (ds : List ClassDecl) : OrderedIndex :=
  ds.foldl (fun index d => index.file d.name [d]) ∅

/-- Files the declarations of another index, name after name. -/
def merge (index other : OrderedIndex) : OrderedIndex :=
  other.foldl file index

theorem getD_file (index : OrderedIndex) (n name : ClassName) (ds : List ClassDecl) :
    (index.file n ds).getD name [] = index.getD name [] ++ if n == name then ds else [] := by
  rw [file, Std.TreeMap.getD_alter]
  by_cases h : (n == name) = true
  · have hcompare : compare n name = .eq := Std.LawfulBEqCmp.compare_eq_iff_beq.mpr h
    rw [if_pos hcompare, if_pos h, Option.getD_some, Std.TreeMap.getElem?_congr hcompare,
      Std.TreeMap.getD_eq_getD_getElem?]
  · have hcompare : ¬compare n name = .eq := mt Std.LawfulBEqCmp.compare_eq_iff_beq.mp h
    rw [if_neg hcompare, if_neg h, List.append_nil]

/-- Under a name stands, behind what was there, all that was filed under names that equal it. -/
theorem getD_foldl_file (filings : List (ClassName × List ClassDecl)) (index : OrderedIndex)
    (name : ClassName) :
    (filings.foldl (fun index filing => index.file filing.1 filing.2) index).getD name [] =
      index.getD name [] ++ (filings.filter fun filing => filing.1 == name).flatMap Prod.snd := by
  induction filings generalizing index with
  | nil => simp
  | cons filing filings ih =>
      rw [List.foldl_cons, ih, getD_file, List.append_assoc, List.filter_cons]
      split <;> simp

theorem getD_ofList (ds : List ClassDecl) (name : ClassName) :
    (ofList ds).getD name [] = ds.filter fun d => d.name == name := by
  have hfilings : ofList ds = (ds.map fun d => (d.name, [d])).foldl
      (fun index filing => index.file filing.1 filing.2) ∅ := by
    rw [ofList, List.foldl_map]
  rw [hfilings, getD_foldl_file, List.filter_map, List.flatMap_map, Std.TreeMap.getD_emptyc,
    List.nil_append]
  exact List.flatMap_singleton' _

/-- Of entries with different names, one at most has a name. -/
theorem filter_eq_toList_find? {entries : List (ClassName × List ClassDecl)}
    (h : entries.Pairwise fun p q => ¬compare p.1 q.1 = .eq) (name : ClassName) :
    (entries.filter fun p => p.1 == name) = (entries.find? fun p => p.1 == name).toList := by
  induction h with
  | nil => rfl
  | @cons p entries hp _ ih =>
      rw [List.filter_cons, List.find?_cons]
      cases hname : p.1 == name with
      | false => exact ih
      | true =>
          have hnone : (entries.filter fun q => q.1 == name) = [] := by
            apply List.filter_eq_nil_iff.mpr
            intro q hq hqname
            apply hp q hq
            exact Std.LawfulBEqCmp.compare_eq_iff_beq.mpr (BEq.trans hname (BEq.symm hqname))
          rw [if_pos rfl, hnone]
          rfl

theorem find?_toList (index : OrderedIndex) (name : ClassName) :
    (index.toList.find? fun p => p.1 == name).map Prod.snd = index[name]? := by
  simp only [ClassName.beq_eq_compare]
  cases h : index.toList.find? fun p => compare p.1 name == .eq with
  | none =>
      rw [Std.TreeMap.find?_toList_eq_none_iff_contains_eq_false] at h
      exact (Std.TreeMap.getElem?_eq_none_of_contains_eq_false h).symm
  | some p =>
      exact (Std.TreeMap.find?_toList_eq_some_iff_getKey?_eq_some_and_getElem?_eq_some.mp h).2.symm

theorem getD_merge (index other : OrderedIndex) (name : ClassName) :
    (index.merge other).getD name [] = index.getD name [] ++ other.getD name [] := by
  have hother : (other.toList.filter fun p => p.1 == name).flatMap Prod.snd = other.getD name [] := by
    rw [filter_eq_toList_find? Std.TreeMap.distinct_keys_toList, Std.TreeMap.getD_eq_getD_getElem?,
      ← find?_toList]
    cases other.toList.find? fun p => p.1 == name with
    | none => rfl
    | some p => exact List.flatMap_singleton Prod.snd p
  rw [merge, Std.TreeMap.foldl_eq_foldl_toList, getD_foldl_file, hother]

end OrderedIndex

namespace Assembly

/-- The index that comes of the same steps. -/
def index : Assembly → OrderedIndex
  | listed ds => .ofList ds
  | adding earlier d => earlier.index.file d.name [d]
  | merging earlier other => earlier.index.merge other.index

/-- The catalog finds under every name what the index finds. -/
theorem getD_index (a : Assembly) (name : ClassName) :
    a.index.getD name [] = a.catalog.declarations name := by
  induction a with
  | listed ds =>
      rw [index, catalog, OrderedIndex.getD_ofList, Catalog.declarations_ofList]
      rfl
  | adding a d ih =>
      rw [index, catalog, OrderedIndex.getD_file, Catalog.declarations_add, ih]
      simp only [ClassName.beq_iff]
  | merging a b iha ihb =>
      rw [index, catalog, OrderedIndex.getD_merge, Catalog.declarations_merge, iha, ihb]

end Assembly

namespace OrderedIndex

/-- What a search comes to that looks names up in an index and has those it has seen in an ordered
set. -/
inductive Searched (index : OrderedIndex) (method : String) :
    Std.TreeSet ClassName → List ClassName → Search → Prop
  | nothing {seen : Std.TreeSet ClassName} : Searched index method seen [] ⟨none, []⟩
  | passed {seen : Std.TreeSet ClassName} {name : ClassName} {rest : List ClassName} {r : Search}
      (known : name ∈ seen) (hrest : Searched index method seen rest r) :
      Searched index method seen (name :: rest) r
  | found {seen : Std.TreeSet ClassName} {name : ClassName} {m : Method} (fresh : name ∉ seen)
      (own : ((index.getD name []).findSome? fun d => d.ownMethod? method) = some m)
      (rest : List ClassName) : Searched index method seen (name :: rest) ⟨some m, [name]⟩
  | climbed {seen : Std.TreeSet ClassName} {name : ClassName} {rest : List ClassName} {r : Search}
      (fresh : name ∉ seen)
      (lacking : ((index.getD name []).findSome? fun d => d.ownMethod? method) = none)
      (hrest : Searched index method (seen.insert name)
        ((index.getD name []).reverse.flatMap ClassDecl.supertypes ++ rest) r) :
      Searched index method seen (name :: rest) ⟨r.found, name :: r.expanded⟩

/-- The ordered set has the names with the keys. -/
def HasKeys (seen : Std.TreeSet ClassName) (keys : List String) : Prop :=
  ∀ name : ClassName, name ∈ seen ↔ name.key ∈ keys

variable {index : OrderedIndex} {cat : Catalog} {method : String} {seen : Std.TreeSet ClassName}
  {keys : List String} {pending : List ClassName} {r : Search}

theorem HasKeys.insert (h : HasKeys seen keys) (name : ClassName) :
    HasKeys (seen.insert name) (name.key :: keys) := by
  intro n
  rw [Std.TreeSet.mem_insert, Std.LawfulBEqCmp.compare_eq_iff_beq, ClassName.beq_iff, h n,
    List.mem_cons, eq_comm]

theorem hasKeys_orderedSet (names : List ClassName) :
    HasKeys (ClassName.orderedSet names) (names.map ClassName.key) :=
  fun _ => ClassName.mem_orderedSet_iff.trans ClassName.key_mem_iff.symm

variable (hindex : ∀ name, index.getD name [] = cat.declarations name)
include hindex

theorem searched_search (hseen : HasKeys seen keys) :
    index.Searched method seen pending (cat.search method keys pending) := by
  induction keys, pending using Catalog.search.induct cat method generalizing seen with
  | case1 keys =>
      rw [Catalog.search_nil]
      exact .nothing
  | case2 keys name rest known ih =>
      rw [Catalog.search_cons_of_seen known]
      exact .passed ((hseen name).mpr known) (ih hseen)
  | case3 keys name rest fresh m own =>
      rw [Catalog.search_cons_of_found fresh own]
      exact .found (mt (hseen name).mp fresh) (hindex name ▸ own) rest
  | case4 keys name rest fresh lacking ih =>
      rw [Catalog.search_cons_of_lacking fresh lacking]
      refine .climbed (mt (hseen name).mp fresh) (hindex name ▸ lacking) ?_
      rw [hindex]
      exact ih (hseen.insert name)

theorem Searched.eq_search (h : index.Searched method seen pending r) (hseen : HasKeys seen keys) :
    r = cat.search method keys pending := by
  induction h generalizing keys with
  | nothing => exact (Catalog.search_nil cat method keys).symm
  | passed known _ ih =>
      rw [Catalog.search_cons_of_seen ((hseen _).mp known)]
      exact ih hseen
  | found fresh own rest =>
      rw [hindex] at own
      rw [Catalog.search_cons_of_found (mt (hseen _).mpr fresh) own]
  | climbed fresh lacking _ ih =>
      rw [hindex] at lacking ih
      rw [Catalog.search_cons_of_lacking (mt (hseen _).mpr fresh) lacking, ih (hseen.insert _)]

/-- A search over the ordered index, with the names seen in an ordered set, comes to what the search
of a catalog with the same declarations comes to. -/
theorem searched_iff (hseen : HasKeys seen keys) :
    index.Searched method seen pending r ↔ r = cat.search method keys pending := by
  constructor
  · intro h
    exact h.eq_search hindex hseen
  · rintro rfl
    exact searched_search hindex hseen

end OrderedIndex

theorem TypeSet.mem_iff_exists_className {s : TypeSet} {name : ClassName} :
    .classLike name ∈ s ↔ ∃ n ∈ s.classNames, (n == name) = true := by
  rw [mem_iff_exists]
  constructor
  · rintro ⟨t, ht, hkey⟩
    obtain ⟨n, rfl, hn⟩ := TypeName.exists_classLike_of_key hkey.symm
    exact ⟨n, mem_classNames ht, ClassName.beq_iff.mpr hn⟩
  · rintro ⟨n, hn, heq⟩
    obtain ⟨t, ht, hclass⟩ := List.mem_filterMap.mp hn
    rw [TypeName.className?_eq_some_iff.mp hclass] at ht
    exact ⟨_, ht, congrArg TypeKey.classLike (ClassName.beq_iff.mp heq).symm⟩

namespace ClassName

/-- Whatever names are put in, a name is found where an equal one is, and nowhere else: in the ordered
index of an assembly as in its catalog, in an ordered set, and in a hash set as in a set of types. -/
structure FoundAlike (name : ClassName) : Prop where
  filed : ∀ (built : Assembly) (ds : List ClassDecl), built.PutIn ds →
    built.index.getD name [] = ds.filter fun d => d.name == name
  declared : ∀ built : Assembly, built.catalog.declarations name = built.index.getD name []
  seen : ∀ names : List ClassName,
    name ∈ orderedSet names ↔ ∃ n ∈ names, (n == name) = true
  hashed : ∀ (hasher : List UInt8 → UInt64) (names : List ClassName),
    (hashSet hasher names).contains name = true ↔ ∃ n ∈ names, (n == name) = true
  listed : ∀ (hasher : List UInt8 → UInt64) (s : TypeSet),
    .classLike name ∈ s ↔ (hashSet hasher s.classNames).contains name = true

theorem foundAlike (name : ClassName) : FoundAlike name where
  filed built ds h := by
    rw [built.getD_index, Assembly.declarations_catalog h]
    rfl
  declared built := (built.getD_index name).symm
  seen _ := mem_orderedSet_iff
  hashed _ _ := contains_hashSet_iff
  listed _ _ := TypeSet.mem_iff_exists_className.trans contains_hashSet_iff.symm

/-- Class names are a lawful type of keys: they are ordered, compared and hashed in one way, so that
maps and sets that go by either tell the same names apart. Hence the search for inherited methods finds
the same with the declarations in an ordered map and the names that it has seen in an ordered set. -/
theorem keys_lawful (a b c : ClassName) :
    Ordered a b c ∧ Identified a b c ∧ FoundAlike a ∧
      ∀ (built : Assembly) (d : ClassDecl) (method : String) (r : Search),
        built.index.Searched method (orderedSet [d.name]) d.supertypes r ↔
          r = built.catalog.searchAbove d method := by
  refine ⟨ordered a b c, identified a b c, foundAlike a, ?_⟩
  intro built d method r
  exact OrderedIndex.searched_iff built.getD_index (OrderedIndex.hasKeys_orderedSet [d.name])

/-- Other letters keep their case, and `_`, which stands between the capitals and the small letters,
comes before both. -/
example :
    ((⟨"\\App\\Bag"⟩ : ClassName) == ⟨"\\aPP\\BAG"⟩) = true ∧
      ((⟨"\\É"⟩ : ClassName) == ⟨"\\é"⟩) = false ∧
      compare (⟨"\\_"⟩ : ClassName) ⟨"\\Z"⟩ = .lt ∧
      compare (⟨"\\É"⟩ : ClassName) ⟨"\\é"⟩ = .lt := by
  decide +kernel

end ClassName

end SubscriptLint
