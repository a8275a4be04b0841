import SubscriptLint.Proofs.Expectation
import SubscriptLint.Proofs.Rendering

/-!
# What is reported

A linter with the inspection of subscripts reports what is expected of the blueprint that a
project was built from (`Blueprint.checkProject_eq_expected`), under all options that do not leave
the inspection out. The inspection is followed at one access first; the order of the walk and the
numbers under which notes are recorded are known from the sites.
-/

namespace SubscriptLint

namespace Catalog

variable (cat : Catalog)

/-- Going through candidates one after the other comes to what they say taken together. -/
theorem weigh_eq (all : TypeSet) (ts : List TypeName) (accepted : Option TypeSet) :
    cat.weigh all ts accepted =
      let sets := (ts.map cat.bearing).filterMap Bearing.accepted?
      if (ts.map cat.bearing).any Bearing.isRefusal || (accepted.isNone && sets.isEmpty) then
        .unsupported all
      else .supported ((accepted.getD ∅).insertMany (sets.flatMap TypeSet.members)) := by
  induction ts generalizing accepted with
  | nil =>
      cases accepted with
      | none => rfl
      | some types => rfl
  | cons t ts ih =>
      rw [weigh, List.map_cons, List.any_cons]
      cases hb : cat.bearing t with
      | refuses => rfl
      | silent => exact ih accepted
      | accepts types =>
          refine (ih _).trans ?_
          simp only [Option.isNone_some, Bool.false_and, Bool.or_false, Bearing.isRefusal,
            Bool.false_or, List.filterMap_cons, Bearing.accepted?, List.isEmpty_cons,
            Bool.and_false, Option.getD_some, List.flatMap_cons, TypeSet.insertMany_append]
          rfl

theorem verdict_eq_judged (types : TypeSet) : cat.verdict types = cat.judged types := by
  unfold verdict judged
  cases types.candidates? with
  | none => rfl
  | some candidates => exact cat.weigh_eq candidates candidates.members none

end Catalog

/-- A verdict that subscripts may not be supported names a type. -/
theorem Catalog.isEmpty_of_judged {cat : Catalog} {types reported : TypeSet}
    (h : cat.judged types = .unsupported reported) : reported.isEmpty = false := by
  unfold judged at h
  split at h
  · cases h
  · next candidates hc =>
      simp only at h
      split at h
      · cases h
        exact (TypeSet.kept_of_candidates? hc).2
      · cases h

namespace FileBlueprint

variable {f : FileBlueprint} {s : Site TypeNote} {n : TypeNote} {container index : Expr TypeNote}
  {bracket : Bracket} {closed : Bool}

theorem container_mem_sites {index : Option (Expr TypeNote)} (hs : s ∈ f.sites)
    (h : s.expr = .access n (some container) index bracket closed) :
    s.container container ∈ f.sites := by
  apply mem_sites_of_mem_parts hs
  simp only [Site.parts, h]
  exact List.mem_append_left _ List.mem_cons_self

theorem index_mem_sites (hs : s ∈ f.sites)
    (h : s.expr = .access n (some container) (some index) bracket closed) :
    s.index container index bracket ∈ f.sites := by
  apply mem_sites_of_mem_parts hs
  simp only [Site.parts, h]
  exact List.mem_append_right _ List.mem_cons_self

end FileBlueprint

/-- The brackets that a fix replaces are those of the access, whatever brackets stand between or
in front of them. -/
theorem Subscripts.bracketFix?_of_eq {source : Source} {access container : Span}
    {front inner rest : String}
    (h : source.contents = front ++
      (Bracket.curly.opening.toString ++ inner ++ Bracket.curly.closing.toString) ++ rest)
    (hcontainer : container.stop = front.utf8ByteSize)
    (haccess : access.stop = (front ++
      (Bracket.curly.opening.toString ++ inner ++ Bracket.curly.closing.toString)).utf8ByteSize) :
    bracketFix? source access container =
      some ⟨"Use [ ] for offset access",
        [⟨⟨container.stop, container.stop + 1⟩, "["⟩,
          ⟨⟨access.stop - 1, access.stop - 1 + 1⟩, "]"⟩]⟩ := by
  have hsize : access.stop = container.stop + 1 + inner.utf8ByteSize + 1 := by
    simp only [haccess, hcontainer, String.utf8ByteSize_append, Bracket.size_opening,
      Bracket.size_closing]
    omega
  have hbehind := Source.slice?_of_eq h
  rw [← hcontainer, ← haccess] at hbehind
  have hlast : Text.slice? source.contents.toList (access.stop - 1) access.stop =
      some [Bracket.curly.closing] := by
    have hslice := Source.slice?_of_eq (s := source)
      (a := front ++ Bracket.curly.opening.toString ++ inner)
      (b := Bracket.curly.closing.toString) (c := rest)
      (by simpa only [String.append_assoc] using h)
    rw [hsize, Nat.add_sub_cancel, hcontainer]
    simp only [String.utf8ByteSize_append, Bracket.size_opening, Bracket.size_closing] at hslice
    exact hslice
  -- The text behind the container begins with the bracket, so nothing is skipped.
  have hgap : (Bracket.curly.opening.toString ++ inner ++
      Bracket.curly.closing.toString).toList.takeWhile (· ≠ Bracket.curly.opening) = [] := by
    rw [String.append_assoc, String.toList_append]
    rfl
  have hfound : ¬([] : List Char).length = (Bracket.curly.opening.toString ++ inner ++
      Bracket.curly.closing.toString).toList.length := by
    rw [String.append_assoc, String.toList_append]
    exact Nat.zero_ne_add_one _
  have horder : ¬access.stop - 1 ≤ container.stop + Text.width [] := by
    rw [Text.width_nil]
    omega
  simp only [bracketFix?, hbehind, hlast, hgap, bind, Option.bind]
  rw [if_neg hfound, if_neg horder, if_neg (not_not_intro rfl)]
  rfl

namespace FileBlueprint.WrittenAs

variable {f : FileBlueprint} {i : Nat} {m : Module} {s : Site TypeNote} {n : TypeNote}
  {container : Expr TypeNote} {index : Option (Expr TypeNote)} {bracket : Bracket}

/-- The access that a module holds at the site of one that could be reported. -/
def accessAt (m : Module) (s : Site TypeNote) (container : Expr TypeNote)
    (index : Option (Expr TypeNote)) (bracket : Bracket) : Access :=
  ⟨s.place, some (treeAt m (s.container container)),
    index.map fun i => treeAt m (s.index container i bracket), some bracket, s.target⟩

theorem ofVisit?_treeAt (hw : f.WrittenAs i m) (hs : s ∈ f.sites)
    (he : s.expr = .access n (some container) index bracket true) :
    Access.ofVisit? ⟨treeAt m s, s.target⟩ = some (accessAt m s container index bracket) := by
  have hplace := hw.placeOf_eq hs
  rw [he] at hplace
  simp only [treeAt, he, Expr.annotate, Expr.annotateOption_eq_map, Access.ofVisit?, hplace]
  rfl

/-- The accesses of a module are at the sites of its file. -/
theorem accesses_eq (hw : f.WrittenAs i m) :
    m.accesses = f.sites.filterMap fun s => Access.ofVisit? ⟨treeAt m s, s.target⟩ := by
  rw [Module.accesses, hw.visits_eq, List.filterMap_map]
  rfl

theorem bracketFix?_eq (hw : f.WrittenAs i m) (hs : s ∈ f.sites)
    (he : s.expr = .access n (some container) index .curly true) :
    Subscripts.bracketFix? m.source s.span (s.container container).span =
      some ⟨"Use [ ] for offset access", s.bracketEdits⟩ := by
  obtain ⟨rest, heq⟩ := begins_text_of_mem_sites hs
  have hbehind := Site.behind_of_access he
  rw [hbehind, ← hw.contents_eq] at heq
  rw [Subscripts.bracketFix?_of_eq heq rfl (congrArg String.utf8ByteSize hbehind),
    Site.bracketEdits, Site.containerText_of_access he]
  rfl

end FileBlueprint.WrittenAs

/-- A scene shows a file: its module is the file written out, and its oracle answers what the file
notes. -/
structure Scene.Shows (scene : Scene) (f : FileBlueprint) : Prop where
  written : f.WrittenAs scene.module.number scene.module
  resolve : ∀ s ∈ f.sites,
    scene.oracle.resolve scene.module.number s.number = s.expr.note.resolved?
  infer : ∀ s ∈ f.sites,
    scene.oracle.infer scene.module.number s.number = s.expr.note.suggested

/-- The resolved types of a note are certain where the note is. -/
theorem TypeNote.certain_resolved? (n : TypeNote) : Resolved.certain n.resolved? = n.certain := by
  obtain ⟨types, partly, inferred⟩ := n
  cases types <;> cases partly <;> rfl

namespace Scene.Shows

open FileBlueprint.WrittenAs (treeAt accessAt)

variable {scene : Scene} {f : FileBlueprint} {s : Site TypeNote} {n : TypeNote}
  {container : Expr TypeNote} {index : Option (Expr TypeNote)} {bracket : Bracket} {closed : Bool}

theorem textAt_eq (h : scene.Shows f) (hs : s ∈ f.sites) :
    scene.module.source.textAt s.place.region.toSpan = .ok s.expr.render := by
  have htext : scene.module.source.text? s.place.region.toSpan = some s.expr.render :=
    h.written.text?_span hs
  rw [Source.textAt, htext]

/-- A problem about a place is one about the expression there. -/
theorem about_eq (h : scene.Shows f) (hs : s ∈ f.sites) (message : String) (severity : Severity) :
    Problem.about scene.module.source s.place.region Subscripts.name message severity =
      .ok (s.problem f.path message severity) := by
  have hstop : scene.module.source.position s.place.region.stop = Position.behind s.behind :=
    h.written.position_stop hs
  rw [Problem.about, h.textAt_eq hs, hstop, h.written.file_eq]
  rfl

/-- The container of an access is judged by the types that are expected. -/
theorem containerTypes_eq (h : scene.Shows f) (hs : s ∈ f.sites)
    (he : s.expr = .access n (some container) index bracket closed) (a : Access)
    (hpush : a.isPush = (s.target && index.isNone)) :
    a.containerTypes scene.oracle scene.options.analyzeArrayPush scene.module.number
        (treeAt scene.module (s.container container)) =
      s.containerTypes scene.options container index := by
  have hc := FileBlueprint.container_mem_sites hs he
  have hresolve := h.resolve _ hc
  have hinfer := h.infer _ hc
  rw [Access.containerTypes, h.written.note_treeAt hc, hpush, Site.containerTypes,
    Bool.and_comm scene.options.analyzeArrayPush]
  split
  · exact hinfer
  · exact (congrArg Resolved.certain hresolve).trans container.note.certain_resolved?

/-- An index is reported as expected. -/
theorem checkIndex_eq (h : scene.Shows f) (hs : s ∈ f.sites) {accepted : TypeSet}
    (ha : accepted.isEmpty = false) (ho : scene.options.checkIndexTypes = true) :
    Subscripts.checkIndex scene s.place accepted =
      .ok (Site.expectedOfIndex scene.options f.path accepted s) := by
  have hresolve : scene.oracle.resolve scene.module.number s.place.number =
      s.expr.note.resolved? := h.resolve s hs
  rw [Subscripts.checkIndex, hresolve, Site.expectedOfIndex, ha, ho]
  obtain hn | ⟨partly, hn⟩ : s.expr.note.resolved? = none ∧ s.expr.note.types = none ∨
      ∃ partly, s.expr.note.resolved? = some ⟨s.expr.note.types.getD ∅, partly⟩ := by
    unfold TypeNote.resolved?
    cases s.expr.note.types <;> cases s.expr.note.partly <;> simp
  · rw [hn.1, hn.2]
    rfl
  · rw [hn]
    simp only [Bool.not_true, Bool.or_false, Bool.false_or]
    split
    · rfl
    · simp only [h.about_eq hs]
      rfl

/-- Curly brackets are reported as expected. -/
theorem reportBrackets_eq (h : scene.Shows f) (hs : s ∈ f.sites)
    (he : s.expr = .access n (some container) index .curly true) :
    Subscripts.reportBrackets scene.module.source s.place.region (s.container container).place.region =
      .ok [s.bracketProblem f.path] := by
  have hfix : Subscripts.bracketFix? scene.module.source s.place.region.toSpan
      (s.container container).place.region.toSpan = _ := h.written.bracketFix?_eq hs he
  rw [Subscripts.reportBrackets, h.about_eq hs, hfix]
  rfl

/-- A container without subscripts is reported as expected. -/
theorem reportContainer_eq (h : scene.Shows f) (hs : s ∈ f.sites)
    (he : s.expr = .access n (some container) index bracket closed) (reported : TypeSet) :
    Subscripts.reportContainer scene.module.source s.place.region
        (s.container container).place.region reported =
      .ok [s.problem f.path (Subscripts.noSupport container.render reported) .warning] := by
  have hc := FileBlueprint.container_mem_sites hs he
  rw [Subscripts.reportContainer, h.textAt_eq hc]
  simp only [bind, Except.bind, h.about_eq hs]
  rfl

/-- An access that could be reported is reported as expected. -/
theorem visit_closed_eq (h : scene.Shows f) (hs : s ∈ f.sites)
    (he : s.expr = .access n (some container) index bracket true) :
    Subscripts.visit scene (accessAt scene.module s container index bracket) =
      .ok (s.expected scene.options scene.catalog f.path) := by
  have hc := FileBlueprint.container_mem_sites hs he
  simp only [accessAt, Subscripts.visit, Site.expected, he, h.written.note_treeAt hc]
  by_cases hcurly : bracket = .curly ∧ scene.options.promoteSquareBrackets = true
  · rw [if_pos hcurly, if_pos hcurly]
    obtain ⟨rfl, -⟩ := hcurly
    exact h.reportBrackets_eq hs he
  · rw [if_neg hcurly, if_neg hcurly]
    simp only [Access.verdict]
    rw [h.containerTypes_eq hs he _ (by simp [Access.isPush]), Catalog.verdict_eq_judged]
    cases hv : scene.catalog.judged (s.containerTypes scene.options container index) with
    | unsupported reported =>
        simp only [Catalog.isEmpty_of_judged hv]
        exact h.reportContainer_eq hs he reported
    | supported accepted =>
        cases index with
        | none => rfl
        | some i =>
            have hi := FileBlueprint.index_mem_sites hs he
            simp only [Option.map_some, Option.elim_some, h.written.note_treeAt hi]
            cases hskip : accepted.isEmpty || !scene.options.checkIndexTypes with
            | true =>
                simp only [Site.expectedOfIndex, hskip, Bool.true_or, if_true]
                rfl
            | false =>
                obtain ⟨ha, ho⟩ := Bool.or_eq_false_iff.mp hskip
                exact h.checkIndex_eq hi ha (by simpa using ho)

/-- What a walk meets at a site is reported as expected. -/
theorem visit_eq (h : scene.Shows f) (hs : s ∈ f.sites) :
    (Access.ofVisit? ⟨treeAt scene.module s, s.target⟩).elim (.ok []) (Subscripts.visit scene) =
      .ok (s.expected scene.options scene.catalog f.path) := by
  cases he : s.expr with
  | access n container index bracket closed =>
      cases container with
      | none =>
          simp only [treeAt, he, Expr.annotate, Expr.annotateOption_eq_map, Access.ofVisit?,
            Site.expected]
          rfl
      | some container =>
          cases closed with
          | false =>
              simp only [treeAt, he, Expr.annotate, Access.ofVisit?, Site.expected]
              rfl
          | true =>
              rw [h.written.ofVisit?_treeAt hs he, Option.elim_some]
              exact h.visit_closed_eq hs he
  | _ => simp [treeAt, he, Expr.annotate, Access.ofVisit?, Site.expected]

end Scene.Shows

section

variable {α β γ ε : Type}

/-- Where every element succeeds, so does the whole list. -/
theorem mapM_eq_ok {f : α → Except ε β} {xs : List α} {ys : List β}
    (h : List.Forall₂ (fun x y => f x = .ok y) xs ys) : xs.mapM f = .ok ys := by
  induction h with
  | nil => rfl
  | cons hx _ ih =>
      rw [List.mapM_cons, hx, ih]
      rfl

/-- Elements that are left out count as elements with an empty result. -/
theorem flatten_mapM_filterMap {f : α → Option β} {g : β → Except ε (List γ)} {xs : List α}
    {ys : α → List γ} (h : ∀ x ∈ xs, (f x).elim (.ok []) g = .ok (ys x)) :
    ((xs.filterMap f).mapM g).map List.flatten = .ok (xs.flatMap ys) := by
  induction xs with
  | nil => rfl
  | cons x xs ih =>
      have hx := h x List.mem_cons_self
      have ih := ih fun x hx => h x (List.mem_cons_of_mem _ hx)
      rw [List.flatMap_cons]
      cases hf : f x with
      | none =>
          rw [hf] at hx
          rw [List.filterMap_cons_none hf, ih, ← Except.ok.inj hx, List.nil_append]
      | some y =>
          rw [hf, Option.elim_some] at hx
          rw [List.filterMap_cons_some hf, List.mapM_cons, hx]
          cases hrest : (xs.filterMap f).mapM g with
          | error e =>
              rw [hrest] at ih
              cases ih
          | ok rest =>
              rw [hrest] at ih
              rw [← Except.ok.inj ih]
              rfl

end

/-- The inspection reports what is expected of a file, expression after expression. -/
theorem Scene.Shows.run_eq {scene : Scene} {f : FileBlueprint} (h : scene.Shows f) :
    Subscripts.inspection.run scene = .ok (f.expected scene.options scene.catalog) := by
  have hrun := flatten_mapM_filterMap fun s hs => h.visit_eq (s := s) hs
  rw [← h.written.accesses_eq] at hrun
  rw [FileBlueprint.expected, ← hrun, Inspection.run]
  exact (map_eq_pure_bind ..).symm

namespace Linter

/-- A linter that only has the inspection of subscripts does no more than run it. -/
theorem checkModule_eq_run {o : Options} (ho : o.isEnabled Subscripts.name = true) (m : Module)
    (oracle : Oracle) (catalog : Catalog) :
    ({ options := o } : Linter).checkModule m oracle catalog =
      Subscripts.inspection.run ⟨m, oracle, catalog, o⟩ := by
  have henabled : [Subscripts.inspection].filter (fun i => o.isEnabled i.name) =
      [Subscripts.inspection] := List.filter_cons_of_pos ho
  simp only [checkModule, henabled, List.mapM_cons, List.mapM_nil]
  cases Subscripts.inspection.run ⟨m, oracle, catalog, o⟩ with
  | error e => rfl
  | ok problems => exact congrArg Except.ok (List.append_nil problems)

/-- A linter whose inspection is left out reports nothing. -/
theorem checkModule_eq_nil {o : Options} (ho : o.isEnabled Subscripts.name = false) (m : Module)
    (oracle : Oracle) (catalog : Catalog) :
    ({ options := o } : Linter).checkModule m oracle catalog = .ok [] := by
  have henabled : [Subscripts.inspection].filter (fun i => o.isEnabled i.name) = [] :=
    List.filter_cons_of_neg (Bool.eq_false_iff.mp ho)
  simp only [checkModule, henabled]
  rfl

/-- The problems of a project are those of its modules, module after module. -/
theorem checkProject_eq_ok {l : Linter} {p : Project} {reports : List (List Problem)}
    (h : List.Forall₂ (fun m problems => l.checkModule m p.types.oracle p.classes = .ok problems)
      p.modules reports) :
    l.checkProject p = .ok reports.flatten := by
  rw [checkProject, mapM_eq_ok h]
  rfl

end Linter

namespace Blueprint

variable {b : Blueprint} {p : Project}

/-- The module of a file is a scene that shows the file, whatever classes are known. -/
theorem shows_of_build (h : b.build = .ok p) {i : Nat} {f : FileBlueprint} {m : Module}
    (hf : b.files[i]? = some f) (hw : f.WrittenAs i m) (cat : Catalog) (o : Options) :
    Scene.Shows ⟨m, p.types.oracle, cat, o⟩ f := by
  have hfacts := fun s hs => facts_of_build h hf (s := s) hs
  refine ⟨?_, ?_, ?_⟩
  · exact hw.number_eq.symm ▸ hw
  · intro s hs
    rw [hw.number_eq]
    exact (hfacts s hs).1
  · intro s hs
    rw [hw.number_eq]
    simp only [TypeTable.oracle, (hfacts s hs).1, (hfacts s hs).2, TypeNote.certain_resolved?]
    rfl

/-- Every module of a project is reported as is expected of its file, whatever classes are known. -/
theorem modules_reported (h : b.build = .ok p) (cat : Catalog) (o : Options) :
    List.Forall₂
      (fun f m => ({ options := o } : Linter).checkModule m p.types.oracle cat =
        .ok (f.reported o cat))
      b.files p.modules := by
  apply forall₂_of_build h
  intro i f m hf hw
  cases ho : o.isEnabled Subscripts.name with
  | true =>
      rw [Linter.checkModule_eq_run ho, (shows_of_build h hf hw cat o).run_eq,
        FileBlueprint.reported, if_pos ho]
  | false =>
      rw [Linter.checkModule_eq_nil ho, FileBlueprint.reported, if_neg (Bool.eq_false_iff.mp ho)]

theorem checkModule_of_build (h : b.build = .ok p) {i : Nat} {f : FileBlueprint} {m : Module}
    (hf : b.files[i]? = some f) (hm : p.modules[i]? = some m) (cat : Catalog) (o : Options) :
    ({ options := o } : Linter).checkModule m p.types.oracle cat = .ok (f.reported o cat) := by
  obtain ⟨hi, rfl⟩ := List.getElem?_eq_some_iff.mp hf
  obtain ⟨hj, rfl⟩ := List.getElem?_eq_some_iff.mp hm
  exact (modules_reported h cat o).get hi hj

/-- A project is reported file after file, whether or not the inspection is left out, and also when
its classes are replaced by others. -/
theorem checkProject_withClasses (h : b.build = .ok p) (cat : Catalog) (o : Options) :
    ({ options := o } : Linter).checkProject { p with classes := cat } =
      .ok (b.files.flatMap (FileBlueprint.reported o cat)) := by
  rw [List.flatMap_def]
  apply Linter.checkProject_eq_ok
  exact List.forall₂_map_right_iff.mpr (modules_reported h cat o).flip

theorem checkProject_eq_reported (h : b.build = .ok p) (o : Options) :
    ({ options := o } : Linter).checkProject p =
      .ok (b.files.flatMap (FileBlueprint.reported o (.ofList b.classes))) := by
  rw [← (build_eq_ok_iff.mp h).2.2.2.2]
  exact checkProject_withClasses h p.classes o

/-- What is wanted of the problems of a project can be evaluated from its blueprint. -/
theorem map_problems_eq {β : Type} (check : Project → Except SpanFault (List Problem))
    {problems : List Problem} {g : Problem → β} {values : List β} (hp : b.build = .ok p)
    (hproblems : check p = .ok problems)
    (h : (b.build.toOption.bind fun p => (check p).toOption).map (List.map g) = some values) :
    problems.map g = values := by
  simpa only [hp, Except.toOption, Option.bind_some, hproblems, Option.map_some,
    Option.some.injEq] using h

end Blueprint

end SubscriptLint
