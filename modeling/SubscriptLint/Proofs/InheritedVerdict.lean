import SubscriptLint.Proofs.ContainerVerdict
import SubscriptLint.Proofs.DepthFirst
import SubscriptLint.Proofs.SoleSupertype

/-!
# Verdicts that are inherited

A class that declares nothing and has one other class above it is judged as that class is
(`Catalog.verdict_inherited`). The other class may lead back to it, and may be declared several
times: then each of its declarations is searched on its own, while the search from below goes
through all of them at once, but the one finds a method exactly if the other does. Which index types
are accepted is the same where no name is declared twice.
-/

namespace SubscriptLint.Catalog

variable {cat : Catalog} {d : ClassDecl} {name parent : ClassName} {method : String}

/-- The only declaration of the name declares no methods, and has nothing above it but the parent,
which is another name. -/
structure Bare (cat : Catalog) (d : ClassDecl) (name parent : ClassName) : Prop where
  once : cat.declarations name = [d]
  methods : d.methods = []
  above : d.supertypes = [parent]
  other : parent.key ≠ name.key

theorem isSome_findMethod?_of_own {e : ClassDecl} (h : (e.ownMethod? method).isSome) :
    (cat.findMethod? e method).isSome := by
  rw [findMethod?_eq_own_or_above, Option.isSome_or, h, Bool.true_or]

theorem ownMethod?_or_findMethod? (cat : Catalog) (e : ClassDecl) (method : String) :
    (e.ownMethod? method).or (cat.findMethod? e method) = cat.findMethod? e method := by
  rw [findMethod?_eq_own_or_above, ← Option.or_assoc, Option.or_self]

namespace Bare

theorem key_eq (h : cat.Bare d name parent) : d.name.key = name.key :=
  key_of_mem_declarations (h.once ▸ List.mem_cons_self)

theorem ownMethod?_eq_none (h : cat.Bare d name parent) (method : String) :
    d.ownMethod? method = none := by
  rw [ClassDecl.ownMethod?, h.methods]
  rfl

/-- The class has what the declarations of the parent have. Where they lead back to the class,
nothing is to be found there but the parent. -/
theorem findMethod?_eq (h : cat.Bare d name parent) (method : String) :
    cat.findMethod? d method =
      ((cat.declarations parent).findSome? fun e => e.ownMethod? method).or
        ((cat.declarations parent).reverse.findSome? fun e => cat.findMethod? e method) := by
  apply findMethod?_eq_or (h.ownMethod?_eq_none method) h.above (h.key_eq ▸ h.other)
  intro n _ hkey e he
  rw [declarations_congr (hkey.trans h.key_eq), h.once] at he
  obtain rfl := List.mem_singleton.mp he
  refine ⟨h.ownMethod?_eq_none method, fun s hs => ?_⟩
  rw [h.above] at hs
  exact List.mem_singleton.mp hs ▸ List.mem_cons_self

theorem isSome_findMethod?_iff (h : cat.Bare d name parent) (method : String) :
    (cat.findMethod? d method).isSome ↔
      ∃ e ∈ cat.declarations parent, (cat.findMethod? e method).isSome := by
  rw [h.findMethod?_eq, Option.isSome_or, Bool.or_eq_true, List.findSome?_isSome_iff,
    List.findSome?_isSome_iff]
  constructor
  · rintro (⟨e, he, hown⟩ | ⟨e, he, hfound⟩)
    · exact ⟨e, he, isSome_findMethod?_of_own hown⟩
    · exact ⟨e, List.mem_reverse.mp he, hfound⟩
  · rintro ⟨e, he, hfound⟩
    exact Or.inr ⟨e, List.mem_reverse.mpr he, hfound⟩

end Bare

theorem subscriptable_iff {e : ClassDecl} :
    cat.Subscriptable e ↔
      ∃ method ∈ ["offsetSet", "offsetGet", "__get", "__set"],
        (cat.findMethod? e method).isSome := by
  unfold Subscriptable
  constructor
  · rintro ⟨method, hmethod, x, hx⟩
    exact ⟨method, hmethod, Option.isSome_iff_exists.mpr (findMethod?_of_offers hx)⟩
  · rintro ⟨method, hmethod, hfound⟩
    obtain ⟨x, hx⟩ := Option.isSome_iff_exists.mp hfound
    exact ⟨method, hmethod, offers_of_findMethod? hx⟩

namespace Bare

/-- The class supports subscripts exactly if some declaration of the parent does. -/
theorem subscriptable_iff (h : cat.Bare d name parent) :
    cat.Subscriptable d ↔ ∃ e ∈ cat.declarations parent, cat.Subscriptable e := by
  simp only [Catalog.subscriptable_iff, h.isSome_findMethod?_iff]
  constructor
  · rintro ⟨method, hmethod, e, he, hfound⟩
    exact ⟨e, he, method, hmethod, hfound⟩
  · rintro ⟨e, he, method, hmethod, hfound⟩
    exact ⟨method, hmethod, e, he, hfound⟩

theorem isSome_classIndexTypes?_iff (h : cat.Bare d name parent) :
    (cat.classIndexTypes? name).isSome ↔ (cat.classIndexTypes? parent).isSome := by
  rw [Option.isSome_iff_exists, Option.isSome_iff_exists, exists_classIndexTypes?_iff,
    exists_classIndexTypes?_iff, ← h.subscriptable_iff, h.once]
  simp only [List.mem_singleton, exists_eq_left]

/-- Where no name is declared twice, the class accepts the index types of the parent. -/
theorem classIndexTypes?_eq (h : cat.Bare d name parent) (once : cat.DeclaredOnce) :
    cat.classIndexTypes? name = cat.classIndexTypes? parent := by
  cases hparent : cat.declarations parent with
  | nil =>
      have hnone : cat.classIndexTypes? parent = none := by
        rw [classIndexTypes?, hparent]
        rfl
      rw [hnone, ← Option.not_isSome_iff_eq_none, h.isSome_classIndexTypes?_iff, hnone]
      exact Bool.false_ne_true
  | cons e later =>
      have honce := once.declarations_eq hparent
      have hfind : cat.findMethod? d = cat.findMethod? e := by
        funext method
        calc
          cat.findMethod? d method = (e.ownMethod? method).or (cat.findMethod? e method) := by
            rw [h.findMethod?_eq, honce]
            simp only [List.reverse_singleton, List.findSome?_singleton]
          _ = cat.findMethod? e method := cat.ownMethod?_or_findMethod? e method
      have htypes : cat.indexTypesOf? d = cat.indexTypesOf? e := by
        rw [indexTypesOf?, indexTypesOf?, hfind]
      rw [classIndexTypes?, classIndexTypes?, h.once, honce, List.filterMap_cons,
        List.filterMap_cons, htypes]

end Bare

/-- A container of one class is judged by the index types of the class. -/
theorem verdict_classLike (cat : Catalog) (name : ClassName) :
    cat.verdict (.ofList [.classLike name]) =
      (cat.classIndexTypes? name).elim (.unsupported (.ofList [.classLike name]))
        fun types => .supported ((∅ : TypeSet).union types) := by
  have hcandidates : (TypeSet.ofList [.classLike name]).candidates? =
      some (.ofList [.classLike name]) := rfl
  rw [verdict, hcandidates]
  change cat.weigh _ [.classLike name] none = _
  rw [weigh, bearing]
  cases cat.classIndexTypes? name <;> rfl

theorem isSupported_verdict_classLike (cat : Catalog) (name : ClassName) :
    (cat.verdict (.ofList [.classLike name])).isSupported = (cat.classIndexTypes? name).isSome := by
  rw [verdict_classLike]
  cases cat.classIndexTypes? name <;> rfl

/-- A class that declares nothing and has one other class above it is judged as that class is. -/
theorem verdict_inherited (h : cat.Bare d name parent) :
    (cat.verdict (.ofList [.classLike name])).isSupported =
        (cat.verdict (.ofList [.classLike parent])).isSupported ∧
      (cat.DeclaredOnce → ∀ accepted : TypeSet,
        cat.verdict (.ofList [.classLike name]) = .supported accepted ↔
          cat.verdict (.ofList [.classLike parent]) = .supported accepted) := by
  constructor
  · rw [isSupported_verdict_classLike, isSupported_verdict_classLike, Bool.eq_iff_iff]
    exact h.isSome_classIndexTypes?_iff
  · intro once accepted
    rw [verdict_classLike, verdict_classLike, h.classIndexTypes?_eq once]
    cases cat.classIndexTypes? parent with
    | none => exact iff_of_false nofun nofun
    | some types => exact Iff.rfl

/-- A class that leads back to the one below, and has its method from an interface. -/
def ringBox : ClassDecl :=
  { name := ⟨"\\Box"⟩, parents := [⟨"\\lid"⟩], interfaces := [⟨"\\Ints"⟩] }

/-- The two classes and the interface. -/
def ringSample : Catalog :=
  .ofList [lidClass, ringBox, { name := ⟨"\\Ints"⟩, methods := [keyedMethod "int"] }]

theorem classIndexTypes?_ringSample {name : ClassName} (h : name.key = "\\box") :
    ringSample.classIndexTypes? name = some (.ofTexts ["int"]) := by
  have hset : ringSample.findMethod? ringBox "offsetSet" = none :=
    found_searchAbove_of_outcomeWithin? 5 rfl
  have hget : ringSample.findMethod? ringBox "offsetGet" = some (keyedMethod "int") :=
    found_searchAbove_of_outcomeWithin? 5 rfl
  have htypes : ringSample.indexTypesOf? ringBox = some [.builtin .integer] := by
    simp only [indexTypesOf?, ClassDecl.subscriptMethods, List.filterMap_cons, hset, hget]
    rfl
  have hbox : ringSample.declarations name = [ringBox] := by
    rw [declarations, h]
    rfl
  rw [classIndexTypes?, hbox, List.filterMap_cons, htypes]
  rfl

/-- Either class takes integers. -/
theorem ringSample_inherited :
    ringSample.Bare lidClass ⟨"\\Lid"⟩ ⟨"\\Box"⟩ ∧ ringSample.DeclaredOnce ∧
      (ringSample.verdict (.ofTexts ["\\Lid"])).isSupported =
        (ringSample.verdict (.ofTexts ["\\Box"])).isSupported ∧
      ringSample.verdict (.ofTexts ["\\Lid"]) = .supported (.ofTexts ["int"]) := by
  have hbare : ringSample.Bare lidClass ⟨"\\Lid"⟩ ⟨"\\Box"⟩ := ⟨rfl, rfl, rfl, by decide⟩
  have honce : ringSample.DeclaredOnce := by decide
  obtain ⟨hsame, haccepted⟩ := verdict_inherited hbare
  refine ⟨hbare, honce, hsame, (haccepted honce _).mpr ?_⟩
  rw [verdict_classLike, classIndexTypes?_ringSample rfl]
  rfl

end SubscriptLint.Catalog
