import SubscriptLint.Document.Classes
import SubscriptLint.Proofs.Assembly
import SubscriptLint.Proofs.CandidateClasses
import SubscriptLint.Proofs.CanonicalNames
import SubscriptLint.Proofs.IncompatibleTypes
import SubscriptLint.Proofs.InheritedVerdict

/-!
# Declared names

The name of a class is read in two ways. Where the class is declared, the text is kept as it is; where a
type is named, it is trimmed, and it may stand for a built-in type. A declared class is found by the text
of its name, and counts for the containers whose types it is listed among, if both ways lead to one name:
the text must not end in a blank, nor spell a built-in type behind the separator
(`Catalog.declared_found`). Any other class can be declared and is lost: no text names it as a type.
-/

namespace SubscriptLint

/-- A trimmed text does not end in a blank. -/
theorem Text.isBlank_of_getLast?_trim {text : String} {c : Char}
    (h : (trim text).toList.getLast? = some c) : isBlank c = false := by
  have hback : (trim text).toList = (text.toList.dropWhile isBlank).rdropWhile isBlank := by
    rw [trim, String.toList_ofList, trimChars, List.rdropWhile]
  rw [hback] at h
  have hne := List.ne_nil_of_mem (List.mem_of_getLast? h)
  rw [List.getLast?_eq_some_getLast hne, Option.some.injEq] at h
  rw [← h, ← Bool.not_eq_true]
  exact List.rdropWhile_last_not isBlank _ hne

namespace ClassName

/-- A text that is accepted where the name of a class is declared. -/
def Declarable (text : String) : Prop :=
  ∃ node aliases left, (ClassName.read node).run aliases = .ok (⟨text⟩, left)

/-- No blank is at the end of the text, and no built-in type is spelled behind the separator. -/
structure Nameable (text : String) : Prop where
  last : ∀ c, text.toList.getLast? = some c → Text.isBlank c = false
  foreign : ∀ rest b, text = "\\" ++ rest → ¬Builtin.Spells rest b

theorem eq_separated_iff {text rest : String} :
    text = "\\" ++ rest ↔ text.toList = separator :: rest.toList := by
  rw [← String.toList_inj, String.toList_append]
  rfl

theorem isQualified_iff {text : String} :
    isQualified text = true ↔ ∃ c cs, text.toList = separator :: c :: cs := by
  unfold isQualified
  split
  · next c c' cs htext => simp [htext]
  · next hshort =>
      refine iff_of_false Bool.false_ne_true ?_
      rintro ⟨c, cs, htext⟩
      exact hshort _ _ _ htext

theorem read_eq_ok_iff {node : Node} {aliases left : Nat} {name : ClassName} :
    (ClassName.read node).run aliases = .ok (name, left) ↔
      node.readText.run aliases = .ok (name.text, left) ∧ isQualified name.text = true := by
  rw [ClassName.read, StateT.run_bind]
  cases node.readText.run aliases with
  | error e => exact iff_of_false nofun nofun
  | ok p =>
      obtain ⟨text, left'⟩ := p
      change (if isQualified text then pure ⟨text⟩ else _ : Reading ClassName).run left' = _ ↔ _
      by_cases htext : isQualified text = true
      · rw [if_pos htext]
        constructor
        · rintro ⟨⟩
          exact ⟨rfl, htext⟩
        · rintro ⟨⟨⟩, -⟩
          rfl
      · rw [if_neg htext]
        refine iff_of_false nofun ?_
        rintro ⟨⟨⟩, hname⟩
        exact htext hname

/-- A name has to begin with a separator and to go on behind it. -/
theorem declarable_iff {text : String} :
    Declarable text ↔ ∃ c cs, text.toList = separator :: c :: cs := by
  rw [← isQualified_iff]
  constructor
  · rintro ⟨node, aliases, left, hread⟩
    exact (read_eq_ok_iff.mp hread).2
  · intro htext
    exact ⟨.scalar (.text text) none, 0, 0, read_eq_ok_iff.mpr ⟨rfl, htext⟩⟩

/-- A text that can be declared and does not end in a blank is left as it is when it is trimmed. -/
theorem trim_eq_self {text : String} (h : Declarable text)
    (hlast : ∀ c, text.toList.getLast? = some c → Text.isBlank c = false) :
    Text.trim text = text := by
  obtain ⟨c, cs, htext⟩ := declarable_iff.mp h
  have hfront : text.toList.dropWhile Text.isBlank = text.toList := by
    rw [htext]
    rfl
  have hback : text.toList.rdropWhile Text.isBlank = text.toList := by
    rw [List.rdropWhile_eq_self_iff]
    intro hne
    rw [Bool.not_eq_true]
    exact hlast _ (List.getLast?_eq_some_getLast hne)
  rw [Text.trim, Text.trimChars, hfront, ← List.rdropWhile, hback, String.ofList_toList]

/-- Names that differ in the case of letters can both be named, or none of them. -/
theorem Nameable.of_key {a b : ClassName} (h : a.key = b.key) (ha : Nameable a.text) :
    Nameable b.text := by
  have hchars : a.text.toList.map Char.toLower = b.text.toList.map Char.toLower := by
    rw [← Text.toList_fold, ← Text.toList_fold]
    exact congrArg String.toList h
  constructor
  · intro d hd
    have hlast : (a.text.toList.map Char.toLower).getLast? = some d.toLower := by
      rw [hchars, List.getLast?_map, hd, Option.map_some]
    rw [List.getLast?_map, Option.map_eq_some_iff] at hlast
    obtain ⟨c, hc, hletter⟩ := hlast
    rw [← Text.isBlank_toLower, ← hletter, Text.isBlank_toLower]
    exact ha.last c hc
  · rintro rest b' htext ⟨spelling, hmem, halike⟩
    -- What is behind the first character of the one name is alike to what is behind it in the other.
    rw [eq_separated_iff.mp htext, List.map_cons, List.map_eq_cons_iff] at hchars
    obtain ⟨c, cs, ha', hsep, hrest⟩ := hchars
    have hc : c = separator := (Text.toLower_eq_separator_iff c).mp hsep
    refine ha.foreign (String.ofList cs) b' ?_ ⟨spelling, hmem, ?_⟩
    · rw [eq_separated_iff, ha', hc, String.toList_ofList]
    · rw [Text.alike_iff, ← Text.alike_iff.mp halike, ← String.toList_inj, Text.toList_fold,
        Text.toList_fold, String.toList_ofList, hrest]

end ClassName

namespace TypeName

variable {text raw : String} {name : ClassName} {node : Node} {aliases left : Nat}

/-- A name that a type is read as can be named. -/
theorem nameable_of_ofText (h : ofText raw = .classLike name) : ClassName.Nameable name.text := by
  have hsorted := sortedAs_ofText raw
  rw [h] at hsorted
  cases hsorted with
  | classLike htext hforeign =>
      refine ⟨fun c => Text.isBlank_of_getLast?_trim, ?_⟩
      intro rest b htext'
      rw [htext, String.append_right_inj] at htext'
      exact htext' ▸ hforeign b

/-- A text that can be declared and named is read as its own class where a type is named. -/
theorem ofText_of_nameable (h : ClassName.Declarable text) (hname : ClassName.Nameable text) :
    ofText text = .classLike ⟨text⟩ := by
  have hsorted := sortedAs_ofText text
  rw [ClassName.trim_eq_self h hname.last] at hsorted
  obtain ⟨c, cs, hchars⟩ := ClassName.declarable_iff.mp h
  have hseparated : text = "\\" ++ String.ofList (c :: cs) := by
    rw [ClassName.eq_separated_iff, hchars, String.toList_ofList]
  generalize ofText text = t at hsorted ⊢
  cases hsorted with
  | plain hspells =>
      refine absurd hspells (Builtin.not_spells_of_mem ?_ _)
      rw [hchars]
      exact List.mem_cons_self
  | qualified htext hspells => exact absurd hspells (hname.foreign _ _ htext)
  | classLike htext hforeign => rfl
  | other htext hforeign => exact absurd hseparated (htext _)

/-- What is accepted as the name of a class is accepted where a type is named. -/
theorem read_of_declared (h : (ClassName.read node).run aliases = .ok (name, left)) :
    (TypeName.read node).run aliases = .ok (ofText name.text, left) := by
  obtain ⟨hread, hqualified⟩ := ClassName.read_eq_ok_iff.mp h
  obtain ⟨c, cs, hchars⟩ := ClassName.isQualified_iff.mp hqualified
  have hblank : Text.isBlankText name.text = false := by
    rw [Text.isBlankText, hchars]
    rfl
  rw [TypeName.read, StateT.run_bind, hread]
  change ((if Text.isBlankText name.text then _ else _ : Reading TypeName)).run left = _
  rw [hblank]
  rfl

end TypeName

namespace Catalog

variable {cat : Catalog} {d : ClassDecl} {texts : List String}

/-- A declared class is found, and counts where its name is listed among types. -/
structure Found (cat : Catalog) (d : ClassDecl) : Prop where
  /-- Where a type is named, the name is read as it is where the class is declared. -/
  read : ∀ node aliases left, (ClassName.read node).run aliases = .ok (d.name, left) →
    (TypeName.read node).run aliases = .ok (.classLike d.name, left)
  got : ∃ e, cat.get? d.name.text = some e ∧ (e.name == d.name) = true
  /-- A container that may be of the class, and else only of types that can have subscripts, accepts
  what the declaration does. -/
  counted : ∀ texts, d.name.text ∈ texts → ∀ c, (TypeSet.ofTexts texts).candidates? = some c →
    (∀ t ∈ c.members, t.Indexable) → cat.Subscriptable d →
      ∃ accepted, cat.verdict (.ofTexts texts) = .supported accepted ∧
        ∀ t, cat.Accepts d t → t ∈ accepted
  /-- A container of the class alone is judged by the declarations of the name, this one included. -/
  alone : d ∈ cat.declarations d.name ∧
    ((cat.verdict (.ofTexts [d.name.text])).isSupported = true ↔
      ∃ e ∈ cat.declarations d.name, cat.Subscriptable e) ∧
    ∀ accepted, cat.verdict (.ofTexts [d.name.text]) = .supported accepted →
      ∀ t, t ∈ accepted ↔ ∃ e ∈ cat.declarations d.name, cat.Accepts e t

/-- A declared class cannot be named as a type: its name is read as another one, and no text leads to
it, be it looked up or listed among the types of a container. -/
structure Lost (cat : Catalog) (d : ClassDecl) : Prop where
  read : ∀ node aliases left, (ClassName.read node).run aliases = .ok (d.name, left) →
    ∃ t, (TypeName.read node).run aliases = .ok (t, left) ∧ (t == .classLike d.name) = false
  got : ∀ raw e, cat.get? raw = some e → (e.name == d.name) = false
  listed : ∀ texts, ∀ name ∈ (TypeSet.ofTexts texts).classNames, (name == d.name) = false

/-- Every declaration is filed under its own name. -/
theorem mem_declarations_of_mem_listing (h : d ∈ cat.listing) : d ∈ cat.declarations d.name := by
  rw [← filter_listing]
  exact List.mem_filter.mpr ⟨h, decide_eq_true rfl⟩

/-- A class that is listed among the types of a container is one of its candidates, if it has any. -/
theorem exists_candidate_of_mem {types c : TypeSet} {name : ClassName} (h : .classLike name ∈ types)
    (hc : types.candidates? = some c) :
    ∃ name', .classLike name' ∈ c.members ∧ name'.key = name.key := by
  obtain ⟨t, ht, hkey⟩ := TypeSet.mem_iff_exists.mp h
  obtain ⟨name', rfl, hname⟩ := TypeName.exists_classLike_of_key hkey.symm
  refine ⟨name', ?_, hname⟩
  rw [(TypeSet.candidatesOf hc).members_eq]
  apply List.mem_append_left
  refine List.mem_filter.mpr ⟨ht, decide_eq_true ?_⟩
  simp [TypeSet.takenOut, TypeName.key]

/-- A class is declared under a name that is read as its own. -/
theorem exists_get?_of_read (hd : d ∈ cat.listing)
    (hread : TypeName.ofText d.name.text = .classLike d.name) :
    ∃ e, cat.get? d.name.text = some e ∧ (e.name == d.name) = true := by
  have hfiled := mem_declarations_of_mem_listing hd
  obtain ⟨e, later, hdeclarations⟩ := List.exists_cons_of_ne_nil (List.ne_nil_of_mem hfiled)
  refine ⟨e, ?_, ?_⟩
  · rw [get?, hread]
    simp only [hdeclarations, List.head?_cons]
  · rw [ClassName.beq_iff]
    exact key_of_mem_declarations (hdeclarations ▸ List.mem_cons_self)

/-- What a declared class accepts is accepted by a container that may be of the class. -/
theorem exists_verdict_of_listed (hd : d ∈ cat.listing)
    (hread : TypeName.ofText d.name.text = .classLike d.name) (htext : d.name.text ∈ texts)
    {c : TypeSet} (hc : (TypeSet.ofTexts texts).candidates? = some c)
    (hall : ∀ t ∈ c.members, t.Indexable) (hsub : cat.Subscriptable d) :
    ∃ accepted, cat.verdict (.ofTexts texts) = .supported accepted ∧
      ∀ t, cat.Accepts d t → t ∈ accepted := by
  have hmem : .classLike d.name ∈ TypeSet.ofTexts texts :=
    TypeSet.mem_ofList.mpr ⟨_, List.mem_map_of_mem htext, by rw [hread]⟩
  obtain ⟨name, hcandidate, hkey⟩ := exists_candidate_of_mem hmem hc
  have hfiled : d ∈ cat.declarations name :=
    declarations_congr hkey ▸ mem_declarations_of_mem_listing hd
  obtain ⟨accepted, hverdict, haccepted⟩ :=
    exists_verdict_eq_supported hc hall ⟨_, hcandidate, .classLike hfiled hsub⟩
  refine ⟨accepted, hverdict, fun t ht => (haccepted t).mpr ?_⟩
  exact ⟨_, hcandidate, .classLike hfiled ht⟩

/-- A container of one class accepts what the declarations of the class do. -/
theorem mem_of_verdict_classLike {name : ClassName} {accepted : TypeSet}
    (h : cat.verdict (.ofList [.classLike name]) = .supported accepted) (t : TypeName) :
    t ∈ accepted ↔ ∃ e ∈ cat.declarations name, cat.Accepts e t := by
  rw [verdict_classLike] at h
  cases htypes : cat.classIndexTypes? name with
  | none =>
      rw [htypes] at h
      cases h
  | some types =>
      rw [htypes] at h
      obtain rfl := Verdict.supported.inj h
      rw [TypeSet.mem_union, mem_classIndexTypes?_iff htypes]
      exact or_iff_right (TypeSet.not_mem_empty t)

/-- A name that is read alike in both ways leads to its declarations. -/
theorem found_of_nameable (hd : d ∈ cat.listing) (h : ClassName.Declarable d.name.text)
    (hname : ClassName.Nameable d.name.text) : cat.Found d := by
  have hread : TypeName.ofText d.name.text = .classLike d.name :=
    TypeName.ofText_of_nameable h hname
  have hone : TypeSet.ofTexts [d.name.text] = .ofList [.classLike d.name] := by
    rw [TypeSet.ofTexts, List.map_singleton, hread]
  refine ⟨?_, exists_get?_of_read hd hread, ?_, mem_declarations_of_mem_listing hd, ?_, ?_⟩
  · intro node aliases left hdeclared
    rw [TypeName.read_of_declared hdeclared, hread]
  · exact fun texts htext c hc hall hsub => exists_verdict_of_listed hd hread htext hc hall hsub
  · rw [hone, isSupported_verdict_classLike, Option.isSome_iff_exists, exists_classIndexTypes?_iff]
  · intro accepted hverdict t
    exact mem_of_verdict_classLike (hone ▸ hverdict) t

theorem key_ne_of_not_nameable (hname : ¬ClassName.Nameable d.name.text) {raw : String}
    {name : ClassName} (h : TypeName.ofText raw = .classLike name) : name.key ≠ d.name.key :=
  fun hkey => hname ((TypeName.nameable_of_ofText h).of_key hkey)

/-- No text leads to a class that cannot be named. -/
theorem lost_of_not_nameable (hname : ¬ClassName.Nameable d.name.text) : cat.Lost d := by
  refine ⟨?_, ?_, ?_⟩
  · intro node aliases left hdeclared
    refine ⟨_, TypeName.read_of_declared hdeclared, ?_⟩
    rw [Bool.eq_false_iff, Ne, TypeName.beq_iff]
    intro hkey
    obtain ⟨name, hread, hkey⟩ := TypeName.exists_classLike_of_key hkey
    exact key_ne_of_not_nameable hname hread hkey
  · intro raw e hgot
    rw [get?_eq, Option.bind_eq_some_iff] at hgot
    obtain ⟨name, hread, hhead⟩ := hgot
    rw [Bool.eq_false_iff, Ne, ClassName.beq_iff,
      key_of_mem_declarations (List.mem_of_head? hhead)]
    exact key_ne_of_not_nameable hname (TypeName.className?_eq_some_iff.mp hread)
  · intro texts name hlisted
    obtain ⟨t, ht, hclass⟩ := List.mem_filterMap.mp hlisted
    obtain ⟨u, hu, hkey⟩ := TypeSet.mem_ofList.mp (TypeSet.mem_iff_exists.mpr ⟨t, ht, rfl⟩)
    obtain ⟨raw, -, rfl⟩ := List.mem_map.mp hu
    rw [TypeName.className?_eq_some_iff.mp hclass] at hkey
    obtain ⟨name', hread, hname'⟩ := TypeName.exists_classLike_of_key hkey.symm
    rw [Bool.eq_false_iff, Ne, ClassName.beq_iff, ← hname']
    exact key_ne_of_not_nameable hname hread

/-- A class that is declared under an accepted name is found by the text of the name if the text can
be named as a type, and is lost if it cannot. -/
theorem declared_found (cat : Catalog) (hd : d ∈ cat.listing)
    (h : ClassName.Declarable d.name.text) :
    (ClassName.Nameable d.name.text → cat.Found d) ∧
      (¬ClassName.Nameable d.name.text → cat.Lost d) :=
  ⟨found_of_nameable hd h, lost_of_not_nameable⟩

/-- A class that takes integers as indexes. -/
def plainBag : ClassDecl :=
  { name := ⟨"\\Bag"⟩, methods := [keyedMethod "int", ⟨"offsetSet", []⟩] }

/-- Such a class with a blank at the end of its name. -/
def spacedBox : ClassDecl := { plainBag with name := ⟨"\\Box "⟩ }

/-- A class with the name of a built-in type. -/
def integerClass : ClassDecl := { name := ⟨"\\Int"⟩ }

/-- The three classes. -/
def namesSample : Catalog := .ofList [plainBag, spacedBox, integerClass]

theorem nameable_plainBag : ClassName.Nameable plainBag.name.text := by
  constructor
  · rintro c ⟨⟩
    decide
  · intro rest b htext
    have hrest : "Bag" = rest := (String.append_right_inj "\\").mp htext
    exact hrest ▸ Builtin.ofSpelling?_eq_none_iff.mp (by decide +kernel) b

theorem declarable_spacedBox : ClassName.Declarable spacedBox.name.text :=
  ClassName.declarable_iff.mpr ⟨'B', "ox ".toList, rfl⟩

/-- The first class is found, a container of it takes integers, and the two others are lost. -/
theorem namesSample_found :
    namesSample.Found plainBag ∧ namesSample.Lost spacedBox ∧ namesSample.Lost integerClass ∧
      namesSample.verdict (.ofTexts ["\\bag"]) = .supported (.ofTexts ["int"]) ∧
      namesSample.verdict (.ofTexts ["\\Box "]) = .unsupported (.ofTexts ["\\Box"]) := by
  have hspaced : ¬ClassName.Nameable spacedBox.name.text :=
    fun h => absurd (h.last ' ' rfl) (by decide)
  have hinteger : ¬ClassName.Nameable integerClass.name.text := fun h =>
    h.foreign "Int" .integer rfl (Builtin.ofSpelling?_eq_some_iff.mp (by decide +kernel))
  have hlisted : namesSample.listing = [plainBag, spacedBox, integerClass] := rfl
  have hfound := (namesSample.declared_found (d := plainBag) (by simp [hlisted])
    (ClassName.declarable_iff.mpr ⟨'B', "ag".toList, rfl⟩)).1 nameable_plainBag
  refine ⟨hfound, ?_, ?_, rfl, rfl⟩
  · exact (namesSample.declared_found (by simp [hlisted]) declarable_spacedBox).2 hspaced
  · exact (namesSample.declared_found (by simp [hlisted])
      (ClassName.declarable_iff.mpr ⟨'I', "nt".toList, rfl⟩)).2 hinteger

/-- A class is not found by its name whenever the name is accepted and is not that of a built-in
type. -/
theorem blank_at_end_lost :
    ¬∀ (cat : Catalog) (d : ClassDecl), d ∈ cat.listing → ClassName.Declarable d.name.text →
      (∀ rest b, d.name.text = "\\" ++ rest → ¬Builtin.Spells rest b) →
        ∃ e, cat.get? d.name.text = some e ∧ (e.name == d.name) = true := by
  intro h
  have hlisted : (Catalog.ofList [spacedBox]).listing = [spacedBox] := rfl
  obtain ⟨e, he, -⟩ := h (.ofList [spacedBox]) spacedBox (by simp [hlisted]) declarable_spacedBox (by
    intro rest b htext
    have hrest : "Box " = rest := (String.append_right_inj "\\").mp htext
    exact hrest ▸ Builtin.ofSpelling?_eq_none_iff.mp (by decide +kernel) b)
  have hnone : (Catalog.ofList [spacedBox]).get? spacedBox.name.text = none := rfl
  rw [hnone] at he
  cases he

end Catalog

end SubscriptLint
