import SubscriptLint.Judgement.IndexTypes
import SubscriptLint.Proofs.ContainerVerdict
import SubscriptLint.Proofs.CandidateTypes

/-!
# Incompatible index types

Every possible type of an index is compared with the accepted types by itself, so comparing is
filtering by a property of single types (`TypeSet.refuses`), and that property goes by keys. What
unions of possible and of accepted types do to the comparison follows from this, and so does what
one more class of a container does to a report on its index (`incompatible_laws`).
-/

namespace SubscriptLint

/-- A type is rejected by accepted types that neither list nor cover it. That an index may be
`mixed` or `null` is no reason to reject it, and `object` covers every class. -/
structure TypeName.Rejected (t : TypeName) (accepted : TypeSet) : Prop where
  not_mixed : t ≠ .builtin .mixed
  not_null : t ≠ .builtin .null
  not_accepted : t ∉ accepted
  not_object : .builtin .object ∈ accepted → t.isClassLike = false

namespace TypeSet

/-- What is found of the possible types is what the accepted ones reject, in the order and the
spelling of the possible ones. Where `mixed` is accepted, nothing is found. -/
structure Incompatibles (possible accepted found : TypeSet) : Prop where
  anything : .builtin .mixed ∈ accepted → found = ∅
  sublist : found.members.Sublist possible.members
  exactly : .builtin .mixed ∉ accepted →
    ∀ t ∈ possible.members, t ∈ found.members ↔ t.Rejected accepted

variable {s t p q a b : TypeSet} {u v : TypeName}

theorem mem_union : u ∈ s.union t ↔ u ∈ s ∨ u ∈ t := by
  rw [union, mem_insertMany, ← mem_iff_exists]

theorem members_filter (s : TypeSet) (f : TypeName → Bool) :
    (s.filter f).members = s.members.filter f := rfl

section Filter

variable {f : TypeName → Bool}

/-- Where members with one key are kept or dropped together, a type is put in before or after. -/
theorem filter_insert (hf : ∀ u v : TypeName, u.key = v.key → f u = f v) (s : TypeSet)
    (u : TypeName) :
    (s.insert u).filter f = if f u then (s.filter f).insert u else s.filter f := by
  have hmem : u ∈ s.filter f ↔ u ∈ s ∧ f u = true := mem_filter_of_key hf
  ext1
  by_cases hu : f u = true
  · rw [if_pos hu, members_insert, members_filter, members_insert]
    simp only [hmem, hu, and_true]
    split
    · rfl
    · rw [List.filter_append, List.filter_cons_of_pos hu, List.filter_nil, members_filter]
  · rw [if_neg hu, members_filter, members_insert]
    split
    · rfl
    · rw [List.filter_append, List.filter_cons_of_neg hu, List.filter_nil, List.append_nil,
        members_filter]

theorem filter_insertMany (hf : ∀ u v : TypeName, u.key = v.key → f u = f v) (s : TypeSet)
    (types : List TypeName) :
    (s.insertMany types).filter f = (s.filter f).insertMany (types.filter f) := by
  induction types generalizing s with
  | nil => rfl
  | cons u us ih =>
      change ((s.insert u).insertMany us).filter f = _
      rw [ih, filter_insert hf]
      by_cases hu : f u = true
      · rw [if_pos hu, List.filter_cons_of_pos hu]
        rfl
      · rw [if_neg hu, List.filter_cons_of_neg hu]

/-- Filtering a union is filtering its two sides, in order and spelling too. -/
theorem filter_union (hf : ∀ u v : TypeName, u.key = v.key → f u = f v) (s t : TypeSet) :
    (s.union t).filter f = (s.filter f).union (t.filter f) :=
  filter_insertMany hf s t.members

end Filter

/-- Whether accepted types refuse a single possible type. -/
def refuses (accepted : TypeSet) (t : TypeName) : Bool :=
  !(t.isBuiltin .mixed || t.isBuiltin .null || accepted.contains t
    || (accepted.containsBuiltin .object && t.isClassLike) || accepted.containsBuiltin .mixed)

theorem incompatible_eq_filter (p a : TypeSet) : p.incompatible a = p.filter a.refuses := rfl

theorem isBuiltin_eq_false_iff {c : Builtin} : u.isBuiltin c = false ↔ u ≠ .builtin c := by
  rw [← Bool.not_eq_true, TypeName.isBuiltin, TypeName.beq_iff]
  cases u <;> simp [TypeName.key]

theorem isClassLike_of_key (h : u.key = v.key) : u.isClassLike = v.isClassLike := by
  cases u <;> cases v <;> first | rfl | cases h

theorem refuses_iff : a.refuses u = true ↔ .builtin .mixed ∉ a ∧ u.Rejected a := by
  simp only [refuses, contains, containsBuiltin, Bool.not_eq_true', Bool.or_eq_false_iff,
    Bool.and_eq_false_imp, decide_eq_false_iff_not, decide_eq_true_eq, isBuiltin_eq_false_iff]
  constructor
  · rintro ⟨⟨⟨⟨hmixed, hnull⟩, haccepted⟩, hobject⟩, hany⟩
    exact ⟨hany, hmixed, hnull, haccepted, hobject⟩
  · rintro ⟨hany, hmixed, hnull, haccepted, hobject⟩
    exact ⟨⟨⟨⟨hmixed, hnull⟩, haccepted⟩, hobject⟩, hany⟩

theorem refuses_of_key (h : u.key = v.key) : a.refuses u = a.refuses v := by
  have hbuiltin (c : Builtin) : u.isBuiltin c = v.isBuiltin c :=
    congrArg (· == (TypeName.builtin c).key) h
  have hcontains : a.contains u = a.contains v := by simp only [contains, mem_def, h]
  rw [refuses, refuses, hbuiltin, hbuiltin, hcontains, isClassLike_of_key h]

/-- A union refuses what both its sides refuse. -/
theorem refuses_union (a b : TypeSet) (u : TypeName) :
    (a.union b).refuses u = (a.refuses u && b.refuses u) := by
  rw [Bool.eq_iff_iff, Bool.and_eq_true, refuses_iff, refuses_iff, refuses_iff]
  constructor
  · rintro ⟨hany, hmixed, hnull, haccepted, hobject⟩
    exact ⟨⟨fun h => hany (mem_union.mpr (.inl h)), hmixed, hnull,
        fun h => haccepted (mem_union.mpr (.inl h)), fun h => hobject (mem_union.mpr (.inl h))⟩,
      ⟨fun h => hany (mem_union.mpr (.inr h)), hmixed, hnull,
        fun h => haccepted (mem_union.mpr (.inr h)), fun h => hobject (mem_union.mpr (.inr h))⟩⟩
  · rintro ⟨⟨hany, hmixed, hnull, haccepted, hobject⟩, hany', -, -, haccepted', hobject'⟩
    exact ⟨fun h => (mem_union.mp h).elim hany hany', hmixed, hnull,
      fun h => (mem_union.mp h).elim haccepted haccepted',
      fun h => (mem_union.mp h).elim hobject hobject'⟩

/-- The more is accepted, the less is refused. -/
theorem refuses_antitone (h : ∀ u, u ∈ a → u ∈ b) (hu : b.refuses u = true) :
    a.refuses u = true := by
  obtain ⟨hany, hmixed, hnull, haccepted, hobject⟩ := refuses_iff.mp hu
  exact refuses_iff.mpr ⟨fun hm => hany (h _ hm), hmixed, hnull, fun hm => haccepted (h _ hm),
    fun hm => hobject (h _ hm)⟩

theorem incompatibles (p a : TypeSet) : Incompatibles p a (p.incompatible a) := by
  constructor
  · intro hany
    ext1
    refine List.filter_eq_nil_iff.mpr fun t _ => ?_
    exact fun h => (refuses_iff.mp h).1 hany
  · exact List.filter_sublist
  · intro hany t ht
    rw [incompatible_eq_filter, members_filter, List.mem_filter, refuses_iff]
    exact ⟨fun h => h.2.2, fun h => ⟨ht, hany, h⟩⟩

theorem incompatible_self (p : TypeSet) : p.incompatible p = ∅ := by
  ext1
  refine List.filter_eq_nil_iff.mpr fun t ht h => ?_
  exact (refuses_iff.mp h).2.not_accepted (mem_iff_exists.mpr ⟨t, ht, rfl⟩)

theorem incompatible_union (p a b : TypeSet) :
    p.incompatible (a.union b) = (p.incompatible a).incompatible b := by
  ext1
  simp only [incompatible_eq_filter, members_filter, List.filter_filter]
  exact List.filter_congr fun t _ => (refuses_union a b t).trans (Bool.and_comm ..)

theorem union_incompatible (p q a : TypeSet) :
    (p.union q).incompatible a = (p.incompatible a).union (q.incompatible a) :=
  filter_union (fun _ _ => refuses_of_key) p q

theorem incompatible_antitone (p : TypeSet) (h : ∀ u, u ∈ a → u ∈ b) :
    (p.incompatible b).members.Sublist (p.incompatible a).members :=
  List.monotone_filter_right p.members fun _ hu => refuses_antitone h hu

theorem incompatible_mono (a : TypeSet) (h : ∀ u, u ∈ p → u ∈ q) (hu : u ∈ p.incompatible a) :
    u ∈ q.incompatible a := by
  rw [incompatible_eq_filter, mem_filter_of_key fun _ _ => refuses_of_key] at hu ⊢
  exact ⟨h u hu.1, hu.2⟩

/-- With one more class, a container that has candidates has one candidate more. -/
theorem candidates?_insert_classLike {c : TypeSet} (hc : s.candidates? = some c)
    (name : ClassName) :
    ∃ d, (s.insert (.classLike name)).candidates? = some d ∧
      ∀ u, u ∈ d ↔ u.key = .classLike name.key ∨ u ∈ c := by
  obtain ⟨hmixed, hexactly, -, rfl⟩ := candidates?_eq_some_iff.mp hc
  have hopen : ∀ u, u ∈ (s.insert (.classLike name)).openCallable ↔
      u.key = .classLike name.key ∨ u ∈ s.openCallable := by
    intro u
    have hkey : (TypeName.classLike name).key = .classLike name.key := rfl
    have hcallable : .builtin .callable ∈ s.insert (.classLike name) ↔ .builtin .callable ∈ s := by
      simp [mem_insert, TypeName.key]
    simp only [mem_openCallable, hcallable, mem_insert, hkey]
    by_cases hclass : u.key = .classLike name.key <;> simp [hclass]
  have hmem : ∀ u, u ∈ ((s.insert (.classLike name)).openCallable.filter
      fun t => !passedOver.any t.isBuiltin) ↔ u.key = .classLike name.key ∨
        u ∈ s.openCallable.filter fun t => !passedOver.any t.isBuiltin := by
    intro u
    rw [mem_filter_of_key fun _ _ => passedOver_of_key,
      mem_filter_of_key fun _ _ => passedOver_of_key, hopen, or_and_right]
    refine or_congr_left (and_iff_left_of_imp fun hkey => ?_)
    rw [passedOver_of_key (v := .classLike name) hkey]
    rfl
  refine ⟨_, candidates?_eq_some_iff.mpr ⟨?_, ?_, ?_, rfl⟩, hmem⟩
  · rw [mem_insert]
    rintro (hkey | h)
    · cases hkey
    · exact hmixed h
  · -- A set with a class in it is not the key of a loop.
    rw [← Bool.not_eq_true]
    intro h
    have hclass : .classLike name ∈ s.insert (.classLike name) := mem_insert.mpr (.inl rfl)
    obtain ⟨b, -, hb⟩ := ((isExactly_iff (by decide)).mp h _).mp hclass
    cases hb
  · rw [← Bool.not_eq_true, isEmpty, List.isEmpty_iff]
    intro hnil
    have hclass := (hmem (.classLike name)).mpr (.inl rfl)
    rw [mem_iff_exists, hnil] at hclass
    simp at hclass

end TypeSet

namespace TypeName

variable {t u : TypeName}

/-- Whether a type can have subscripts is told by its key. -/
theorem Indexable.of_key (h : t.key = u.key) (ht : t.Indexable) : u.Indexable := by
  cases ht with
  | array =>
      obtain rfl := eq_builtin_of_key h.symm
      exact .array
  | string =>
      obtain rfl := eq_builtin_of_key h.symm
      exact .string
  | classLike name =>
      obtain ⟨name', rfl, -⟩ := exists_classLike_of_key h.symm
      exact .classLike name'

end TypeName

namespace Catalog

variable {cat : Catalog} {types accepted : TypeSet} {t u index : TypeName}

/-- Which index types a type admits is told by its key. -/
theorem Admits.of_key (h : t.key = u.key) (ht : cat.Admits t index) : cat.Admits u index := by
  cases ht with
  | array hindex =>
      obtain rfl := TypeName.eq_builtin_of_key h.symm
      exact .array hindex
  | string hindex =>
      obtain rfl := TypeName.eq_builtin_of_key h.symm
      exact .string hindex
  | classLike hd hindex =>
      obtain ⟨name, rfl, hkey⟩ := TypeName.exists_classLike_of_key h.symm
      exact .classLike (declarations_congr hkey ▸ hd) hindex

/-- A container that accepts some index type has candidates, all of which can have subscripts, and
accepts what one of them admits. -/
theorem candidates_of_verdict_eq_supported (h : cat.verdict types = .supported accepted)
    (hsome : accepted.isEmpty = false) :
    ∃ c, types.candidates? = some c ∧ (∀ t ∈ c.members, t.Indexable) ∧
      ∀ u, u ∈ accepted ↔ ∃ t ∈ c.members, cat.Admits t u := by
  cases hc : types.candidates? with
  | none =>
      rw [verdict, hc] at h
      obtain rfl := Verdict.supported.inj h
      cases hsome
  | some c =>
      have hsupported : cat.verdict types ≠ .unsupported c := by
        rw [h]
        exact Verdict.noConfusion
      have hwhy := mt (fun hwhy => verdict_eq_unsupported_iff.mpr ⟨hc, hwhy⟩) hsupported
      simp only [not_or, not_exists, not_and, not_not, not_forall] at hwhy
      obtain ⟨hall, t, ht, hsup⟩ := hwhy
      obtain ⟨accepted', hv, hmem⟩ := exists_verdict_eq_supported hc hall ⟨t, ht, hsup⟩
      obtain rfl := Verdict.supported.inj (h.symm.trans hv)
      exact ⟨c, rfl, hall, hmem⟩

/-- A container that accepts some index type still does with one more class, and accepts at least
the same types. -/
theorem verdict_insert_classLike (h : cat.verdict types = .supported accepted)
    (hsome : accepted.isEmpty = false) (name : ClassName) :
    ∃ more, cat.verdict (types.insert (.classLike name)) = .supported more ∧
      ∀ u, u ∈ accepted → u ∈ more := by
  obtain ⟨c, hc, hall, hmem⟩ := candidates_of_verdict_eq_supported h hsome
  obtain ⟨d, hd, hmore⟩ := TypeSet.candidates?_insert_classLike hc name
  have hadmits : ∀ u, u ∈ accepted → ∃ t ∈ d.members, cat.Admits t u := by
    intro u hu
    obtain ⟨t, ht, hadmits⟩ := (hmem u).mp hu
    have htd : t ∈ d := (hmore t).mpr (.inr (TypeSet.mem_iff_exists.mpr ⟨t, ht, rfl⟩))
    obtain ⟨t', ht', hkey⟩ := TypeSet.mem_iff_exists.mp htd
    exact ⟨t', ht', hadmits.of_key hkey⟩
  have hindexable : ∀ t ∈ d.members, t.Indexable := by
    intro t ht
    rcases (hmore t).mp (TypeSet.mem_iff_exists.mpr ⟨t, ht, rfl⟩) with hkey | htc
    · obtain ⟨name', rfl, -⟩ := TypeName.exists_classLike_of_key hkey
      exact .classLike name'
    · obtain ⟨t', ht', hkey⟩ := TypeSet.mem_iff_exists.mp htc
      exact (hall t' ht').of_key hkey.symm
  obtain ⟨u, hu⟩ := List.exists_mem_of_ne_nil _ (List.isEmpty_eq_false_iff.mp hsome)
  obtain ⟨t, ht, hu⟩ := hadmits u (TypeSet.mem_iff_exists.mpr ⟨u, hu, rfl⟩)
  obtain ⟨more, hv, hmem'⟩ := exists_verdict_eq_supported hd hindexable ⟨t, ht, hu.supports⟩
  exact ⟨more, hv, fun u hu => (hmem' u).mpr (hadmits u hu)⟩

end Catalog

namespace TypeSet

/-- What holds of comparing possible types `p` and `q` with accepted types `a` and `b`. Equal sets
have the same members in the same order and spelling. -/
structure ComparisonLaws (p q a b : TypeSet) : Prop where
  found : Incompatibles p a (p.incompatible a)
  /-- Types that are all accepted are never incompatible. -/
  itself : p.incompatible p = ∅
  union_accepted : p.incompatible (a.union b) = (p.incompatible a).incompatible b
  union_possible : (p.union q).incompatible a = (p.incompatible a).union (q.incompatible a)
  /-- More accepted types only take types out of a report. -/
  more_accepted : (∀ t, t ∈ a → t ∈ b) →
    (p.incompatible b).members.Sublist (p.incompatible a).members
  /-- More possible types only add types to a report. -/
  more_possible : (∀ t, t ∈ p → t ∈ q) → ∀ t, t ∈ p.incompatible a → t ∈ q.incompatible a
  /-- One more class that the container may be of only takes types out of a report. Without any
  accepted types there is none, since the index is not checked then. -/
  more_classes : ∀ (cat : Catalog) (types accepted : TypeSet) (name : ClassName),
    cat.verdict types = .supported accepted → accepted.isEmpty = false →
      ∃ more, cat.verdict (types.insert (.classLike name)) = .supported more ∧
        (p.incompatible more).members.Sublist (p.incompatible accepted).members

/-- The comparison of index types goes type by type. -/
theorem incompatible_laws (p q a b : TypeSet) : ComparisonLaws p q a b where
  found := incompatibles p a
  itself := incompatible_self p
  union_accepted := incompatible_union p a b
  union_possible := union_incompatible p q a
  more_accepted := incompatible_antitone p
  more_possible h _ := incompatible_mono a h
  more_classes cat types accepted name h hsome := by
    obtain ⟨more, hv, hmore⟩ := cat.verdict_insert_classLike h hsome name
    exact ⟨more, hv, incompatible_antitone p hmore⟩

/-- A class that takes integers as indexes and one that takes strings. -/
def shelfSample : Catalog :=
  .ofList
    [{ name := ⟨"\\Bag"⟩
       methods := [⟨"offsetGet", [⟨"i", some (.ofTexts ["int"])⟩]⟩, ⟨"offsetSet", []⟩] },
     { name := ⟨"\\Shelf"⟩
       methods := [⟨"offsetGet", [⟨"label", some (.ofTexts ["string"])⟩]⟩, ⟨"offsetSet", []⟩] }]

/-- Of an index that may be a string, some key or nothing, a bag leaves the string and the key in a
report, and a bag or a shelf only the key. -/
theorem shelfSample_compared :
    (shelfSample.verdict (.ofTexts ["\\Bag"])).types.text = "[integer]" ∧
      ∃ more, shelfSample.verdict ((ofTexts ["\\Bag"]).insert (.classLike ⟨"\\Shelf"⟩)) =
          .supported more ∧
        ((ofTexts ["string", "\\Key", "null"]).incompatible more).members.Sublist
          ((ofTexts ["string", "\\Key", "null"]).incompatible (.ofTexts ["int"])).members ∧
        ((ofTexts ["string", "\\Key", "null"]).incompatible (.ofTexts ["int"])).text =
          "[string, \\Key]" ∧
        ((ofTexts ["string", "\\Key", "null"]).incompatible more).text = "[\\Key]" := by
  have hlaws := incompatible_laws (ofTexts ["string", "\\Key", "null"]) ∅ ∅ ∅
  obtain ⟨more, hmore, hsub⟩ := hlaws.more_classes shelfSample (.ofTexts ["\\Bag"])
    (.ofTexts ["int"]) ⟨"\\Shelf"⟩ rfl rfl
  obtain rfl := Verdict.supported.inj hmore
  exact ⟨rfl, _, rfl, hsub, rfl, rfl⟩

end TypeSet

end SubscriptLint
