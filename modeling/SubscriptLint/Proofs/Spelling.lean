import SubscriptLint.Proofs.LetterCase
import SubscriptLint.Proofs.SameTypes
import Mathlib.Data.List.Forall2

/-!
# Spelling of names

Class names and method names may be spelled in small letters or in capitals, each occurrence on its
own: the same methods are found and the same verdicts are given (`spelling_unnoticed`). Two catalogs
are followed at once whose declarations correspond; a search through the one takes the same turns as
a search through the other, since names that correspond are filed, seen and looked up alike.
-/

namespace SubscriptLint

section

variable {α β γ δ : Type} {R : α → β → Prop} {S : γ → δ → Prop}

theorem rel_head? {xs : List α} {ys : List β} (h : List.Forall₂ R xs ys) :
    Option.Rel R xs.head? ys.head? := by
  cases h with
  | nil => exact .none
  | cons hxy _ => exact .some hxy

theorem rel_map {f : α → γ} {g : β → δ} (hfg : ∀ x y, R x y → S (f x) (g y)) {x : Option α}
    {y : Option β} (h : Option.Rel R x y) : Option.Rel S (x.map f) (y.map g) := by
  cases h with
  | none => exact .none
  | some hxy => exact .some (hfg _ _ hxy)

/-- Where corresponding elements pass the test together, the first ones that do correspond. -/
theorem rel_find? {p : α → Bool} {q : β → Bool} (hpq : ∀ x y, R x y → p x = q y) {xs : List α}
    {ys : List β} (h : List.Forall₂ R xs ys) : Option.Rel R (xs.find? p) (ys.find? q) := by
  rw [← List.head?_filter, ← List.head?_filter]
  apply rel_head?
  exact List.rel_filter (fun x y hxy => Bool.eq_iff_iff.mp (hpq x y hxy)) h

theorem rel_findSome? {f : α → Option γ} {g : β → Option δ}
    (hfg : ∀ x y, R x y → Option.Rel S (f x) (g y)) {xs : List α} {ys : List β}
    (h : List.Forall₂ R xs ys) : Option.Rel S (xs.findSome? f) (ys.findSome? g) := by
  rw [← List.head?_filterMap, ← List.head?_filterMap]
  apply rel_head?
  exact List.rel_filterMap (fun x y hxy => hfg x y hxy) h

/-- Elements that correspond stand at the same place. -/
theorem forall₂_and_getElem? {xs : List α} {ys : List β} (h : List.Forall₂ R xs ys) :
    List.Forall₂ (fun x y => R x y ∧ ∃ i : Nat, xs[i]? = some x ∧ ys[i]? = some y) xs ys := by
  rw [List.forall₂_iff_get] at h ⊢
  refine ⟨h.1, ?_⟩
  intro i hx hy
  exact ⟨h.2 i hx hy, i, List.getElem?_eq_getElem hx, List.getElem?_eq_getElem hy⟩

end

/-- The sets list the same types, with class names in other spellings. -/
def TypeSet.Respelled (s t : TypeSet) : Prop :=
  List.Forall₂ TypeName.Respelled s.members t.members

/-- The parameters are the same, with class names in other spellings. -/
structure Parameter.Respelled (p q : Parameter) : Prop where
  name : q.name = p.name
  types : Option.Rel TypeSet.Respelled p.types q.types

/-- The methods are the same, with their own and class names in other spellings. -/
structure Method.Respelled (x y : Method) : Prop where
  name : Text.alike x.name y.name = true
  parameters : List.Forall₂ Parameter.Respelled x.parameters y.parameters

/-- The declarations are the same, with names of classes and methods in other spellings. -/
structure ClassDecl.Respelled (c d : ClassDecl) : Prop where
  name : c.name.Respelled d.name
  kind : d.kind = c.kind
  parents : List.Forall₂ ClassName.Respelled c.parents d.parents
  interfaces : List.Forall₂ ClassName.Respelled c.interfaces d.interfaces
  traits : List.Forall₂ ClassName.Respelled c.traits d.traits
  methods : List.Forall₂ Method.Respelled c.methods d.methods

namespace TypeSet

/-- Lists of the same types are lists of the same keys. -/
theorem map_key_eq {xs ys : List TypeName} (h : List.Forall₂ TypeName.Respelled xs ys) :
    xs.map TypeName.key = ys.map TypeName.key := by
  rw [← List.forall₂_eq_eq_eq, List.forall₂_map_left_iff, List.forall₂_map_right_iff]
  exact h.imp fun _ _ hxy => hxy.key_eq

theorem Respelled.sameMembers {s t : TypeSet} (h : s.Respelled t) : s.sameMembers t = true := by
  have hkeys : s.keys = t.keys := map_key_eq h
  apply sameMembers_iff.mpr
  intro u
  rw [mem_def, mem_def, hkeys]

/-- Sets put together from the same types are the same. -/
theorem sameMembers_ofList {xs ys : List TypeName} (h : List.Forall₂ TypeName.Respelled xs ys) :
    (ofList xs).sameMembers (ofList ys) = true := by
  have hkeys := map_key_eq h
  have hmem : ∀ (zs : List TypeName) (u : TypeName),
      u ∈ ofList zs ↔ u.key ∈ zs.map TypeName.key := by
    intro zs u
    simp only [mem_ofList, List.mem_map, eq_comm]
  apply sameMembers_iff.mpr
  intro u
  rw [hmem, hmem, hkeys]

theorem sameMembers_ofTexts {raws raws' : List String}
    (h : List.Forall₂ (fun raw raw' => Text.alike raw raw' = true) raws raws')
    (hwords : ∀ raw ∈ raws, ∀ word, TypeName.ofText raw ≠ .other word) :
    (ofTexts raws).sameMembers (ofTexts raws') = true := by
  apply sameMembers_ofList
  rw [List.forall₂_map_left_iff, List.forall₂_map_right_iff]
  refine ((List.forall₂_and_left raws raws').mpr ⟨hwords, h⟩).imp ?_
  rintro raw raw' ⟨hword, halike⟩
  rcases TypeName.ofText_respelled halike with hsame | ⟨word, -, hother, -⟩
  · exact hsame
  · exact absurd hother (hword word)

end TypeSet

/-- The first parameters of methods accept the same types. -/
theorem Parameter.Respelled.accepted {p q : Parameter} (h : p.Respelled q) :
    p.accepted.Respelled q.accepted := by
  have hmixed : (TypeSet.ofBuiltins [.mixed]).Respelled (.ofBuiltins [.mixed]) :=
    .cons (.builtin .mixed) .nil
  have htypes := h.types
  unfold Parameter.accepted
  generalize p.types = x at htypes ⊢
  generalize q.types = y at htypes ⊢
  cases htypes with
  | none => exact hmixed
  | @some s t hst =>
      simp only [TypeSet.isEmpty_of_sameMembers hst.sameMembers]
      split
      · exact hmixed
      · exact hst

theorem Method.Respelled.firstAccepted? {x y : Method} (h : x.Respelled y) :
    Option.Rel TypeSet.Respelled x.firstAccepted? y.firstAccepted? := by
  apply rel_map ?_ (rel_head? h.parameters)
  exact fun _ _ hpq => hpq.accepted

/-- The types that methods accept as indexes are the same. -/
theorem Method.Respelled.indexTypes {x y : Method} (h : x.Respelled y) :
    List.Forall₂ TypeName.Respelled (x.firstAccepted?.elim [] TypeSet.members)
      (y.firstAccepted?.elim [] TypeSet.members) := by
  have hfirst := h.firstAccepted?
  generalize x.firstAccepted? = s at hfirst ⊢
  generalize y.firstAccepted? = t at hfirst ⊢
  cases hfirst with
  | none => exact .nil
  | some hst => exact hst

/-- The declarations correspond: their names and those of their supertypes do, and so do their
methods, one by one. Of methods that correspond, `R` is known besides. -/
structure ClassDecl.Corresponds (R : Method → Method → Prop) (c d : ClassDecl) : Prop where
  name : c.name.Respelled d.name
  supertypes : List.Forall₂ ClassName.Respelled c.supertypes d.supertypes
  methods : List.Forall₂ (fun x y => x.Respelled y ∧ R x y) c.methods d.methods

/-- The first own methods of one name correspond. -/
theorem ClassDecl.Corresponds.ownMethod? {R : Method → Method → Prop} {c d : ClassDecl}
    (h : c.Corresponds R d) {method method' : String} (hmethod : Text.alike method method' = true) :
    Option.Rel (fun x y => x.Respelled y ∧ R x y) (c.ownMethod? method) (d.ownMethod? method') := by
  refine rel_find? ?_ h.methods
  rintro x y ⟨hxy, -⟩
  rw [Bool.eq_iff_iff, Text.alike_iff, Text.alike_iff, Text.alike_iff.mp hxy.name,
    Text.alike_iff.mp hmethod]

namespace Catalog

/-- Names that correspond are declared by declarations that correspond. -/
def Corresponds (R : Method → Method → Prop) (cat other : Catalog) : Prop :=
  ∀ a b : ClassName, a.Respelled b →
    List.Forall₂ (ClassDecl.Corresponds R) (cat.declarations a) (other.declarations b)

variable {R : Method → Method → Prop} {cat other : Catalog}

theorem corresponds_ofList {ds es : List ClassDecl}
    (h : List.Forall₂ (ClassDecl.Corresponds R) ds es) :
    (ofList ds).Corresponds R (ofList es) := by
  intro a b hab
  rw [declarations_ofList, declarations_ofList]
  refine List.rel_filter ?_ h
  intro c d hcd
  simp only [decide_eq_true_eq, ClassName.respelled_iff.mp hcd.name,
    ClassName.respelled_iff.mp hab]

namespace Corresponds

/-- The first methods that the declarations of a name declare correspond. -/
theorem findSome? (h : cat.Corresponds R other) {method method' : String}
    (hmethod : Text.alike method method' = true) {name name' : ClassName}
    (hname : name.Respelled name') :
    Option.Rel (fun x y => x.Respelled y ∧ R x y)
      ((cat.declarations name).findSome? fun d => d.ownMethod? method)
      ((other.declarations name').findSome? fun d => d.ownMethod? method') := by
  apply rel_findSome? ?_ (h name name' hname)
  exact fun _ _ hcd => hcd.ownMethod? hmethod

/-- Searches through names that correspond find methods that correspond. The names seen so far are
kept by their keys, so they are the same. -/
theorem search (h : cat.Corresponds R other) {method method' : String}
    (hmethod : Text.alike method method' = true) (seen : List String)
    {names names' : List ClassName} (hnames : List.Forall₂ ClassName.Respelled names names') :
    Option.Rel (fun x y => x.Respelled y ∧ R x y) (cat.search method seen names).found
      (other.search method' seen names').found := by
  induction seen, names using search.induct cat method generalizing names' with
  | case1 seen =>
      cases hnames
      rw [search_nil, search_nil]
      exact .none
  | case2 seen name rest hknown ih =>
      cases hnames with
      | @cons _ name' _ rest' hname hrest =>
          have hknown' : name'.key ∈ seen := ClassName.respelled_iff.mp hname ▸ hknown
          rw [search_cons_of_seen hknown, search_cons_of_seen hknown']
          exact ih hrest
  | case3 seen name rest hfresh m hm =>
      cases hnames with
      | @cons _ name' _ rest' hname hrest =>
          have hfresh' : name'.key ∉ seen := ClassName.respelled_iff.mp hname ▸ hfresh
          have hfound := h.findSome? hmethod hname
          rw [hm] at hfound
          generalize hm' : (other.declarations name').findSome? (fun d => d.ownMethod? method') = y
            at hfound
          cases hfound with
          | some hxy =>
              rw [search_cons_of_found hfresh hm, search_cons_of_found hfresh' hm']
              exact .some hxy
  | case4 seen name rest hfresh hm ih =>
      cases hnames with
      | @cons _ name' _ rest' hname hrest =>
          have hkey := ClassName.respelled_iff.mp hname
          have hfresh' : name'.key ∉ seen := hkey ▸ hfresh
          have hfound := h.findSome? hmethod hname
          rw [hm] at hfound
          generalize hm' : (other.declarations name').findSome? (fun d => d.ownMethod? method') = y
            at hfound
          cases hfound with
          | none =>
              rw [search_cons_of_lacking hfresh hm, search_cons_of_lacking hfresh' hm', ← hkey]
              -- Both searches go on with the supertypes of the declarations, last ones first.
              apply ih
              refine List.rel_append ?_ hrest
              apply List.rel_flatMap (List.rel_reverse (h name name' hname))
              exact fun _ _ hcd => hcd.supertypes

theorem findMethod? (h : cat.Corresponds R other) {c d : ClassDecl} (hcd : c.Corresponds R d)
    {method method' : String} (hmethod : Text.alike method method' = true) :
    Option.Rel (fun x y => x.Respelled y ∧ R x y) (cat.findMethod? c method)
      (other.findMethod? d method') := by
  have hown := hcd.ownMethod? hmethod
  have habove := h.search hmethod [c.name.key] hcd.supertypes
  unfold Catalog.findMethod?
  rw [searchAbove, searchAbove, ← ClassName.respelled_iff.mp hcd.name]
  generalize c.ownMethod? method = x at hown ⊢
  generalize d.ownMethod? method' = y at hown ⊢
  cases hown with
  | none => exact habove
  | some hxy => exact .some hxy

/-- Declarations that correspond accept the same index types. -/
theorem indexTypesOf? (h : cat.Corresponds R other) {c d : ClassDecl} (hcd : c.Corresponds R d) :
    Option.Rel (List.Forall₂ TypeName.Respelled) (cat.indexTypesOf? c) (other.indexTypesOf? d) := by
  have hfind : ∀ method method' : String, method = method' →
      Option.Rel (fun x y => x.Respelled y ∧ R x y) (cat.findMethod? c method)
        (other.findMethod? d method') := by
    rintro method _ rfl
    exact h.findMethod? hcd (Text.alike_iff.mpr rfl)
  have hsame : ∀ methods : List String, List.Forall₂ Eq methods methods :=
    fun methods => List.forall₂_refl methods
  have hmethods := List.rel_filterMap (fun m m' hm => hfind m m' hm)
    (hsame ClassDecl.subscriptMethods)
  have hproperties := rel_findSome? hfind (hsame ClassDecl.propertyMethods)
  unfold Catalog.indexTypesOf?
  generalize ClassDecl.subscriptMethods.filterMap (cat.findMethod? c) = xs at hmethods ⊢
  generalize ClassDecl.subscriptMethods.filterMap (other.findMethod? d) = ys at hmethods ⊢
  cases hmethods with
  | nil =>
      have hregular : List.Forall₂ TypeName.Respelled regularIndexTypes.members
          regularIndexTypes.members := .cons (.builtin .string) (.cons (.builtin .integer) .nil)
      apply rel_map ?_ hproperties
      exact fun _ _ _ => hregular
  | @cons x y xs ys hxy hrest =>
      have hall : List.Forall₂ (fun x y => x.Respelled y ∧ R x y) (x :: xs) (y :: ys) :=
        .cons hxy hrest
      refine .some (List.rel_flatMap hall ?_)
      exact fun _ _ hxy => hxy.1.indexTypes

/-- Catalogs whose declarations correspond say the same of every type. -/
theorem agrees (h : cat.Corresponds R other) : cat.Agrees other := by
  apply agrees_of_classIndexTypes?
  intro a b hkey
  have hlists := List.rel_filterMap (fun _ _ hcd => h.indexTypesOf? hcd)
    (h a b (ClassName.respelled_iff.mpr hkey))
  unfold classIndexTypes?
  generalize (cat.declarations a).filterMap cat.indexTypesOf? = xs at hlists ⊢
  generalize (other.declarations b).filterMap other.indexTypesOf? = ys at hlists ⊢
  cases hlists with
  | nil => exact .none
  | cons hxy hrest =>
      exact .some (TypeSet.sameMembers_ofList (List.rel_flatten (List.Forall₂.cons hxy hrest)))

end Corresponds

end Catalog

/-- The methods stand at the same place, each in its own list of declarations. -/
def SamePlace (ds es : List ClassDecl) (x y : Method) : Prop :=
  ∃ (i j : Nat) (d e : ClassDecl),
    ds[i]? = some d ∧ es[i]? = some e ∧ d.methods[j]? = some x ∧ e.methods[j]? = some y

theorem ClassDecl.corresponds_of_respelled {ds es : List ClassDecl}
    (h : List.Forall₂ ClassDecl.Respelled ds es) :
    List.Forall₂ (ClassDecl.Corresponds (SamePlace ds es)) ds es := by
  refine (forall₂_and_getElem? h).imp ?_
  rintro c d ⟨hcd, i, hc, hd⟩
  refine ⟨hcd.name, ?_, ?_⟩
  · exact List.rel_append (List.rel_append hcd.traits hcd.parents) hcd.interfaces
  · refine (forall₂_and_getElem? hcd.methods).imp ?_
    rintro x y ⟨hxy, j, hx, hy⟩
    exact ⟨hxy, i, j, c, d, hc, hd, hx, hy⟩

/-- The spelling of names goes unnoticed. Of a class, one of the declared ones or another, the
method is found that stands at the same place, and every container is judged the same. So is a
container whose types are given as texts, as long as none of them is a plain word. -/
theorem spelling_unnoticed {ds es : List ClassDecl} (h : List.Forall₂ ClassDecl.Respelled ds es) :
    (∀ (c d : ClassDecl) (method method' : String), c.Respelled d →
      Text.alike method method' = true →
        Option.Rel (fun x y => x.Respelled y ∧ SamePlace (c :: ds) (d :: es) x y)
          ((Catalog.ofList ds).findMethod? c method)
          ((Catalog.ofList es).findMethod? d method')) ∧
    (∀ s t : TypeSet, s.Respelled t →
      ((Catalog.ofList ds).verdict s).Same ((Catalog.ofList es).verdict t)) ∧
    ∀ raws raws' : List String,
      List.Forall₂ (fun raw raw' => Text.alike raw raw' = true) raws raws' →
      (∀ raw ∈ raws, ∀ word, TypeName.ofText raw ≠ .other word) →
        ((Catalog.ofList ds).verdict (.ofTexts raws)).Same
          ((Catalog.ofList es).verdict (.ofTexts raws')) := by
  have hagrees : (Catalog.ofList ds).Agrees (Catalog.ofList es) :=
    (Catalog.corresponds_ofList (ClassDecl.corresponds_of_respelled h)).agrees
  refine ⟨?_, ?_, ?_⟩
  · intro c d method method' hcd hmethod
    have hall := ClassDecl.corresponds_of_respelled (List.Forall₂.cons hcd h)
    obtain ⟨hhead, htail⟩ := List.forall₂_cons.mp hall
    exact (Catalog.corresponds_ofList htail).findMethod? hhead hmethod
  · intro s t hst
    exact hagrees.verdict_same hst.sameMembers
  · intro raws raws' hraws hwords
    apply hagrees.verdict_same
    exact TypeSet.sameMembers_ofTexts hraws hwords

/-- Two classes that extend each other. One of them takes keys as indexes. -/
def smallSample : List ClassDecl :=
  [{ name := ⟨"\\a"⟩, parents := [⟨"\\B"⟩] },
    { name := ⟨"\\b"⟩, parents := [⟨"\\A"⟩]
      methods := [⟨"offsetGet", [⟨"i", some (.ofTexts ["\\key"])⟩]⟩, ⟨"offsetset", []⟩] }]

/-- The two classes in other spellings. -/
def capitalSample : List ClassDecl :=
  [{ name := ⟨"\\A"⟩, parents := [⟨"\\b"⟩] },
    { name := ⟨"\\B"⟩, parents := [⟨"\\A"⟩]
      methods := [⟨"OFFSETGET", [⟨"i", some (.ofTexts ["\\Key"])⟩]⟩, ⟨"offsetSet", []⟩] }]

theorem smallSample_respelled : List.Forall₂ ClassDecl.Respelled smallSample capitalSample := by
  have hkey : Parameter.Respelled ⟨"i", some (.ofTexts ["\\key"])⟩
      ⟨"i", some (.ofTexts ["\\Key"])⟩ :=
    ⟨rfl, .some (.cons (.classLike rfl) .nil)⟩
  refine .cons ?_ (.cons ?_ .nil)
  · exact ⟨rfl, rfl, .cons rfl .nil, .nil, .nil, .nil⟩
  · exact ⟨rfl, rfl, .cons rfl .nil, .nil, .nil,
      .cons ⟨rfl, .cons hkey .nil⟩ (.cons ⟨rfl, .nil⟩ .nil)⟩

/-- In both spellings a class above which the two stand finds the accessor, and an object is judged
by the types of its keys. -/
theorem smallSample_spelling_unnoticed :
    Option.Rel (fun x y => x.name = "offsetGet" ∧ y.name = "OFFSETGET" ∧ x.Respelled y)
      ((Catalog.ofList smallSample).findMethod? { name := ⟨"\\c"⟩, parents := [⟨"\\A"⟩] }
        "offsetGET")
      ((Catalog.ofList capitalSample).findMethod? { name := ⟨"\\C"⟩, parents := [⟨"\\a"⟩] }
        "OffsetGet") ∧
    ((Catalog.ofList smallSample).verdict (.ofTexts ["\\B"])).Same
      ((Catalog.ofList capitalSample).verdict (.ofTexts ["\\b"])) ∧
    ((Catalog.ofList smallSample).verdict (.ofTexts ["\\B"])).types.text = "[\\key]" ∧
    ((Catalog.ofList capitalSample).verdict (.ofTexts ["\\b"])).types.text = "[\\Key]" := by
  obtain ⟨hmethods, -, hverdicts⟩ := spelling_unnoticed smallSample_respelled
  have hsmall : ((Catalog.ofList smallSample).findMethod?
      { name := ⟨"\\c"⟩, parents := [⟨"\\A"⟩] } "offsetGET").map Method.name =
        some "offsetGet" := by
    change ((Catalog.search _ "offsetGET" ["\\c"] [⟨"\\A"⟩]).found).map Method.name = _
    rw [Catalog.search_cons_of_lacking (by decide) rfl]
    change ((Catalog.search _ "offsetGET" ["\\a", "\\c"] [⟨"\\B"⟩]).found).map Method.name = _
    rw [Catalog.search_cons_of_found (by decide) rfl]
    rfl
  have hcapital : ((Catalog.ofList capitalSample).findMethod?
      { name := ⟨"\\C"⟩, parents := [⟨"\\a"⟩] } "OffsetGet").map Method.name =
        some "OFFSETGET" := by
    change ((Catalog.search _ "OffsetGet" ["\\c"] [⟨"\\a"⟩]).found).map Method.name = _
    rw [Catalog.search_cons_of_lacking (by decide) rfl]
    change ((Catalog.search _ "OffsetGet" ["\\a", "\\c"] [⟨"\\b"⟩]).found).map Method.name = _
    rw [Catalog.search_cons_of_found (by decide) rfl]
    rfl
  have hfound := hmethods { name := ⟨"\\c"⟩, parents := [⟨"\\A"⟩] }
    { name := ⟨"\\C"⟩, parents := [⟨"\\a"⟩] } "offsetGET" "OffsetGet"
    ⟨rfl, rfl, .cons rfl .nil, .nil, .nil, .nil⟩ rfl
  have hword : ∀ raw ∈ ["\\B"], ∀ word, TypeName.ofText raw ≠ .other word := by
    rintro raw hraw word hother
    rw [List.mem_singleton.mp hraw] at hother
    cases hother
  refine ⟨?_, hverdicts _ _ (.cons rfl .nil) hword, rfl, rfl⟩
  generalize (Catalog.ofList smallSample).findMethod? _ _ = x at hsmall hfound ⊢
  generalize (Catalog.ofList capitalSample).findMethod? _ _ = y at hcapital hfound ⊢
  cases hfound with
  | none => cases hsmall
  | some hxy => exact .some ⟨Option.some.inj hsmall, Option.some.inj hcapital, hxy.1⟩

end SubscriptLint
