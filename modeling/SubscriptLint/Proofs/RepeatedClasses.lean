import SubscriptLint.Proofs.CandidateClasses
import SubscriptLint.Proofs.ChainedSearch

/-!
# Repeated classes

Declarations that are put into a catalog twice in a row might as well be put in once. All that a
search notices of them are supertypes that are pending twice in a row, and when the second ones
come up, the first ones have been looked up; so the search finds the same method, and looks up the
same names on the way (`Catalog.Repeats.search_eq`). Verdicts and reports are the same from there on
(`repeated_classes_unnoticed`).
-/

namespace SubscriptLint

namespace Catalog

variable {cat twice : Catalog} {method : String} {seen : List String}

/-- Names that are pending twice in a row might as well be pending once: by the time the second ones
come up, the method is found or the first ones are seen. -/
theorem search_twice (cat : Catalog) (method : String) (seen : List String)
    (names rest : List ClassName) :
    cat.search method seen (names ++ (names ++ rest)) = cat.search method seen (names ++ rest) := by
  let first := cat.search method seen names
  have hskip : first.andThen (cat.search method (first.seenAfter seen) (names ++ rest)) =
      first.andThen (cat.search method (first.seenAfter seen) rest) := by
    cases hfound : first.found with
    | some m => rw [Search.andThen_of_found hfound, Search.andThen_of_found hfound]
    | none =>
        have hseen : ∀ n ∈ names, n.key ∈ first.seenAfter seen := by
          intro n hn
          exact mem_seenAfter_of_search_eq_none hfound hn
        rw [search_append_of_seen hseen]
  calc
    cat.search method seen (names ++ (names ++ rest)) =
        first.andThen (cat.search method (first.seenAfter seen) (names ++ rest)) :=
      search_append ..
    _ = first.andThen (cat.search method (first.seenAfter seen) rest) := hskip
    _ = cat.search method seen (names ++ rest) := (search_append ..).symm

/-- What is pending in front of the names makes no difference. -/
theorem search_twice_behind (cat : Catalog) (method : String) (seen : List String)
    (front names rest : List ClassName) :
    cat.search method seen (front ++ (names ++ (names ++ rest))) =
      cat.search method seen (front ++ (names ++ rest)) := by
  let first := cat.search method seen front
  calc
    cat.search method seen (front ++ (names ++ (names ++ rest))) =
        first.andThen (cat.search method (first.seenAfter seen) (names ++ (names ++ rest))) :=
      search_append ..
    _ = first.andThen (cat.search method (first.seenAfter seen) (names ++ rest)) := by
      rw [search_twice]
    _ = cat.search method seen (front ++ (names ++ rest)) := (search_append ..).symm

/-- The second catalog has the declarations of the first, some of them twice in a row. -/
def Repeats (cat twice : Catalog) : Prop :=
  ∀ name, ∃ before run after,
    cat.declarations name = before ++ (run ++ after) ∧
      twice.declarations name = before ++ (run ++ (run ++ after))

theorem repeats_merge (cat added : Catalog) :
    (cat.merge added).Repeats ((cat.merge added).merge added) := by
  intro name
  refine ⟨cat.declarations name, added.declarations name, [], ?_, ?_⟩
  · rw [declarations_merge, List.append_nil]
  · rw [declarations_merge, declarations_merge, List.append_nil, List.append_assoc]

theorem Repeats.merge (h : cat.Repeats twice) (added : Catalog) :
    (cat.merge added).Repeats (twice.merge added) := by
  intro name
  obtain ⟨before, run, after, hcat, htwice⟩ := h name
  refine ⟨before, run, after ++ added.declarations name, ?_, ?_⟩
  · simp only [declarations_merge, hcat, List.append_assoc]
  · simp only [declarations_merge, htwice, List.append_assoc]

theorem Repeats.foldl_merge (h : cat.Repeats twice) (added : List Catalog) :
    (added.foldl Catalog.merge cat).Repeats (added.foldl Catalog.merge twice) := by
  induction added generalizing cat twice with
  | nil => exact h
  | cons a added ih => exact ih (h.merge a)

/-- A catalog of documents of which one stands twice in a row repeats the one in which it stands
once. -/
theorem repeats_foldl_merge (known : Catalog) (earlier : List Catalog) (added : Catalog)
    (later : List Catalog) :
    ((earlier ++ added :: later).foldl Catalog.merge known).Repeats
      ((earlier ++ added :: added :: later).foldl Catalog.merge known) := by
  simp only [List.foldl_append, List.foldl_cons]
  exact (repeats_merge _ added).foldl_merge later

namespace Repeats

/-- The first declaration that declares a method is the same. -/
theorem findSome?_eq (h : cat.Repeats twice) (method : String) (name : ClassName) :
    ((twice.declarations name).findSome? fun d => d.ownMethod? method) =
      (cat.declarations name).findSome? fun d => d.ownMethod? method := by
  obtain ⟨before, run, after, hcat, htwice⟩ := h name
  simp only [hcat, htwice, List.findSome?_append, ← Option.or_assoc, Option.or_self]

/-- The supertypes that become pending with a name come to the same. -/
theorem search_supertypes_eq (h : cat.Repeats twice) (method : String) (seen : List String)
    (name : ClassName) (rest : List ClassName) :
    twice.search method seen
        ((twice.declarations name).reverse.flatMap ClassDecl.supertypes ++ rest) =
      twice.search method seen
        ((cat.declarations name).reverse.flatMap ClassDecl.supertypes ++ rest) := by
  obtain ⟨before, run, after, hcat, htwice⟩ := h name
  -- The supertypes of the declarations behind the repeated ones come up first.
  simp only [hcat, htwice, List.reverse_append, List.flatMap_append, List.append_assoc]
  apply search_twice_behind

/-- A search looks up the same names and finds the same method. -/
theorem search_eq (h : cat.Repeats twice) (method : String) (seen : List String)
    (names : List ClassName) : twice.search method seen names = cat.search method seen names := by
  induction seen, names using search.induct cat method with
  | case1 seen => rw [search_nil, search_nil]
  | case2 seen name rest hknown ih =>
      rw [search_cons_of_seen hknown, search_cons_of_seen hknown]
      exact ih
  | case3 seen name rest hfresh m hm =>
      have htwice := (h.findSome?_eq method name).trans hm
      rw [search_cons_of_found hfresh hm, search_cons_of_found hfresh htwice]
  | case4 seen name rest hfresh hm ih =>
      have htwice := (h.findSome?_eq method name).trans hm
      rw [search_cons_of_lacking hfresh hm, search_cons_of_lacking hfresh htwice,
        h.search_supertypes_eq, ih]

theorem findMethod?_eq (h : cat.Repeats twice) (c : ClassDecl) (method : String) :
    twice.findMethod? c method = cat.findMethod? c method := by
  rw [findMethod?, findMethod?, searchAbove, searchAbove, h.search_eq]

theorem indexTypesOf?_eq (h : cat.Repeats twice) (d : ClassDecl) :
    twice.indexTypesOf? d = cat.indexTypesOf? d := by
  have hfind : twice.findMethod? d = cat.findMethod? d := funext (h.findMethod?_eq d)
  rw [indexTypesOf?, indexTypesOf?, hfind]

theorem classIndexTypes?_eq (h : cat.Repeats twice) (name : ClassName) :
    twice.classIndexTypes? name = cat.classIndexTypes? name := by
  have hof : twice.indexTypesOf? = cat.indexTypesOf? := funext h.indexTypesOf?_eq
  obtain ⟨before, run, after, hcat, htwice⟩ := h name
  simp only [Catalog.classIndexTypes?_eq, hof, hcat, htwice, List.filterMap_append,
    List.append_eq_nil_iff, List.flatten_append, TypeSet.ofList, TypeSet.insertMany_append,
    TypeSet.insertMany_twice, and_self_left]

/-- A container is judged the same, down to the order of the types that are named. -/
theorem verdict_eq (h : cat.Repeats twice) (types : TypeSet) :
    twice.verdict types = cat.verdict types :=
  verdict_congr fun name _ => h.classIndexTypes?_eq name

end Repeats

end Catalog

/-- What is reported of a file depends on the classes only through the verdicts on containers. -/
theorem FileBlueprint.reported_congr {cat other : Catalog}
    (h : ∀ types, other.verdict types = cat.verdict types) (o : Options) :
    FileBlueprint.reported o other = FileBlueprint.reported o cat := by
  have hjudged : other.judged = cat.judged := by
    funext types
    calc
      other.judged types = other.verdict types := (other.verdict_eq_judged types).symm
      _ = cat.verdict types := h types
      _ = cat.judged types := cat.verdict_eq_judged types
  have hsite (file : String) : Site.expected o other file = Site.expected o cat file := by
    funext s
    unfold Site.expected
    rw [hjudged]
  funext f
  rw [reported, reported, expected, expected, hsite]

/-- Nothing notices that classes are merged a second time right after the first: the methods that
are found, the verdicts on containers with the order of the types that they name, and the problems
of a project are the same. -/
theorem repeated_classes_unnoticed :
    (∀ (known added : Catalog) (c : ClassDecl) (method : String),
      ((known.merge added).merge added).findMethod? c method =
        (known.merge added).findMethod? c method) ∧
    (∀ (known added : Catalog) (types : TypeSet),
      ((known.merge added).merge added).verdict types = (known.merge added).verdict types) ∧
    ∀ (b : Blueprint) (p : Project), b.build = .ok p →
      ∀ (o : Options) (earlier : List Catalog) (added : Catalog) (later : List Catalog),
        ∃ problems,
          ({ options := o } : Linter).checkProject
            { p with classes := (earlier ++ added :: later).foldl Catalog.merge p.classes } =
              .ok problems ∧
          ({ options := o } : Linter).checkProject
            { p with
              classes := (earlier ++ added :: added :: later).foldl Catalog.merge p.classes } =
              .ok problems := by
  refine ⟨?_, ?_, ?_⟩
  · intro known added c method
    exact (Catalog.repeats_merge known added).findMethod?_eq c method
  · intro known added types
    exact (Catalog.repeats_merge known added).verdict_eq types
  · intro b p hp o earlier added later
    have hrepeats := Catalog.repeats_foldl_merge p.classes earlier added later
    have honce := Blueprint.checkProject_withClasses hp
      ((earlier ++ added :: later).foldl Catalog.merge p.classes) o
    have htwice := Blueprint.checkProject_withClasses hp
      ((earlier ++ added :: added :: later).foldl Catalog.merge p.classes) o
    rw [FileBlueprint.reported_congr hrepeats.verdict_eq] at htwice
    exact ⟨_, honce, htwice⟩

/-- A text as index of an object. -/
def indexedSample : Blueprint where
  files :=
    [{ path := "a.php"
       statements :=
         [.access {} (some (.var { types := some (.ofTexts ["\\B"]) } "$b"))
            (some (.literal { types := some (.ofTexts ["string"]) } "'x'")) .square true] }]

/-- Two classes that extend each other. One of them takes integers as indexes. -/
def cyclicSample : Catalog :=
  .ofList
    [{ name := ⟨"\\A"⟩, parents := [⟨"\\b"⟩] },
      { name := ⟨"\\B"⟩, parents := [⟨"\\a"⟩],
        methods :=
          [⟨"offsetGet", [⟨"i", some (.ofTexts ["int"])⟩]⟩, ⟨"offsetSet", []⟩] }]

/-- When the two classes are merged twice, a class above which they stand finds the same method, and
the index is reported all the same. -/
theorem indexedSample_unnoticed :
    ((((∅ : Catalog).merge cyclicSample).merge cyclicSample).findMethod?
        { name := ⟨"\\C"⟩, parents := [⟨"\\A"⟩] } "OffsetGet").map Method.name =
      some "offsetGet" ∧
    ∃ p problems, indexedSample.build = .ok p ∧
      ({} : Linter).checkProject { p with classes := p.classes.merge cyclicSample } = .ok problems ∧
      ({} : Linter).checkProject
        { p with classes := (p.classes.merge cyclicSample).merge cyclicSample } = .ok problems ∧
      problems.map Problem.anchor = ["'x'"] := by
  have hfound : (((∅ : Catalog).merge cyclicSample).findMethod?
      { name := ⟨"\\C"⟩, parents := [⟨"\\A"⟩] } "OffsetGet").map Method.name =
        some "offsetGet" := by
    change ((Catalog.search _ "OffsetGet" ["\\c"] [⟨"\\A"⟩]).found).map Method.name = _
    rw [Catalog.search_cons_of_lacking (by decide) rfl]
    change ((Catalog.search _ "OffsetGet" ["\\a", "\\c"] [⟨"\\b"⟩]).found).map Method.name = _
    rw [Catalog.search_cons_of_found (by decide) rfl]
    rfl
  have hanchors : (indexedSample.build.toOption.bind fun p =>
      (({} : Linter).checkProject { p with classes := p.classes.merge cyclicSample }).toOption).map
        (List.map Problem.anchor) = some ["'x'"] := rfl
  obtain ⟨p, hp⟩ := Blueprint.exists_build_of_isOk (b := indexedSample) rfl
  obtain ⟨problems, honce, htwice⟩ := repeated_classes_unnoticed.2.2 _ p hp {} [] cyclicSample []
  simp only [List.nil_append, List.foldl_cons, List.foldl_nil] at honce htwice
  simp only [hp, Except.toOption, Option.bind_some, honce, Option.map_some,
    Option.some.injEq] at hanchors
  constructor
  · rw [repeated_classes_unnoticed.1]
    exact hfound
  · exact ⟨p, problems, hp, honce, htwice, hanchors⟩

end SubscriptLint
