import SubscriptLint.Proofs.ContainerVerdict

/-!
# Knowing more classes

Declarations that are added to a catalog take no method away from a class, whatever cycles they
close and whichever method is found from then on. So a container that may not support subscripts
while more is known may not support them while less is known either, and its problem is the same
one (`container_reports_antitone`).
-/

namespace SubscriptLint

namespace Catalog

/-- Every declaration of the first catalog is one of the second. -/
def Within (cat more : Catalog) : Prop :=
  ∀ name, ∀ d ∈ cat.declarations name, d ∈ more.declarations name

variable {cat more : Catalog}

theorem within_merge (cat added : Catalog) : cat.Within (cat.merge added) := by
  intro name d hd
  rw [declarations_merge]
  exact List.mem_append_left _ hd

theorem within_foldl_merge (cat : Catalog) (added : List Catalog) :
    cat.Within (added.foldl merge cat) := by
  induction added generalizing cat with
  | nil => exact fun name d hd => hd
  | cons a added ih =>
      intro name d hd
      exact ih (cat.merge a) name d (within_merge cat a name d hd)

/-- With more declarations, names lead at least as far. -/
theorem Leads.mono (h : cat.Within more) {avoided : List String} {names : List ClassName}
    {n : ClassName} (hn : cat.Leads avoided names n) : more.Leads avoided names n := by
  induction hn with
  | given hn ha => exact .given hn ha
  | above _ hd hs ha ih => exact .above ih (h _ _ hd) hs ha

theorem Offers.mono (h : cat.Within more) {d : ClassDecl} {method : String} {x : Method}
    (hx : cat.Offers d method x) : more.Offers d method x := by
  obtain ⟨halike, hown | ⟨n, hn, e, he, hmem⟩⟩ := hx
  · exact ⟨halike, Or.inl hown⟩
  · exact ⟨halike, Or.inr ⟨n, hn.mono h, e, h n e he, hmem⟩⟩

theorem Subscriptable.mono (h : cat.Within more) {d : ClassDecl} (hd : cat.Subscriptable d) :
    more.Subscriptable d := by
  obtain ⟨method, hmethod, x, hx⟩ := hd
  exact ⟨method, hmethod, x, hx.mono h⟩

theorem Supports.mono (h : cat.Within more) {t : TypeName} (ht : cat.Supports t) :
    more.Supports t := by
  cases ht with
  | array => exact .array
  | string => exact .string
  | classLike hd hsub => exact .classLike (h _ _ hd) (hsub.mono h)

/-- A container that may not support subscripts while more is known may not support them while less
is known, because of the same types. -/
theorem verdict_eq_unsupported_of_within (h : cat.Within more) {types reported : TypeSet}
    (hv : more.verdict types = .unsupported reported) :
    cat.verdict types = .unsupported reported := by
  obtain ⟨hc, hwhy⟩ := verdict_eq_unsupported_iff.mp hv
  refine verdict_eq_unsupported_iff.mpr ⟨hc, hwhy.imp_right ?_⟩
  exact fun hnone t ht hsup => hnone t ht (hsup.mono h)

end Catalog

/-- The problem is that a container may not support subscripts. -/
def Problem.BlamesContainer (q : Problem) : Prop :=
  ∃ container reported, q.message = Subscripts.noSupport container reported

noncomputable instance : DecidablePred Problem.BlamesContainer :=
  fun _ => Classical.propDecidable _

namespace Subscripts

variable (container : String) (reported found accepted : TypeSet)

theorem head?_noSupport : (noSupport container reported).toList.head? = some '\'' := by
  have hquote : "'".toList = ['\''] := by cbv
  unfold noSupport
  simp only [String.toList_append, List.append_assoc]
  rw [hquote, List.cons_append, List.head?_cons]

theorem head?_invalidIndex : (invalidIndex found accepted).toList.head? = some 'R' := by
  have hword : "Resolved index type (".toList = 'R' :: "esolved index type (".toList := by cbv
  unfold invalidIndex
  simp only [String.toList_append, List.append_assoc]
  rw [hword, List.cons_append, List.head?_cons]

/-- The message on an index is never one on a container. -/
theorem invalidIndex_ne_noSupport : invalidIndex found accepted ≠ noSupport container reported := by
  intro h
  have hhead := head?_noSupport container reported
  rw [← h, head?_invalidIndex] at hhead
  cases hhead

end Subscripts

namespace Site

variable {o : Options} {cat more : Catalog} {file : String} {s : Site TypeNote}

/-- Only an access with a container and a closing bracket has problems. -/
theorem expected_eq_nil
    (h : ∀ n container index bracket, s.expr ≠ .access n (some container) index bracket true) :
    s.expected o cat file = [] := by
  unfold expected
  split
  · next n container index bracket he => exact absurd he (h n container index bracket)
  · rfl

/-- The problem of an index blames no container. -/
theorem not_blames_of_mem_expectedOfIndex {accepted : TypeSet} {q : Problem}
    (hq : q ∈ expectedOfIndex o file accepted s) : ¬q.BlamesContainer := by
  unfold expectedOfIndex at hq
  simp only at hq
  split at hq
  · cases hq
  · obtain rfl := List.mem_singleton.mp hq
    rintro ⟨container, reported, h⟩
    exact Subscripts.invalidIndex_ne_noSupport _ _ _ _ h

/-- Added declarations change nothing about an expression, or leave no container to blame there. -/
theorem expected_eq_or_not_blames (h : cat.Within more) (o : Options) (file : String)
    (s : Site TypeNote) :
    s.expected o more file = s.expected o cat file ∨
      ∀ q ∈ s.expected o more file, ¬q.BlamesContainer := by
  by_cases haccess : ∃ n container index bracket,
      s.expr = .access n (some container) index bracket true
  · obtain ⟨n, container, index, bracket, he⟩ := haccess
    simp only [expected, he]
    by_cases hcurly : bracket = .curly ∧ o.promoteSquareBrackets = true
    · exact Or.inl (by rw [if_pos hcurly, if_pos hcurly])
    · rw [if_neg hcurly, if_neg hcurly]
      cases hv : more.judged (s.containerTypes o container index) with
      | unsupported reported =>
          rw [← Catalog.verdict_eq_judged] at hv
          have hless := Catalog.verdict_eq_unsupported_of_within h hv
          rw [Catalog.verdict_eq_judged] at hless
          rw [hless]
          exact Or.inl rfl
      | supported accepted =>
          right
          intro q hq
          cases index with
          | none => cases hq
          | some i => exact not_blames_of_mem_expectedOfIndex hq
  · left
    have hnone : ∀ n container index bracket,
        s.expr ≠ .access n (some container) index bracket true :=
      fun n container index bracket he => haccess ⟨n, container, index, bracket, he⟩
    rw [expected_eq_nil hnone, expected_eq_nil hnone]

/-- The containers that are blamed with more declarations are among those blamed with fewer. -/
theorem blames_sublist (h : cat.Within more) (o : Options) (file : String) (s : Site TypeNote) :
    ((s.expected o more file).filter fun q => q.BlamesContainer).Sublist
      ((s.expected o cat file).filter fun q => q.BlamesContainer) := by
  rcases expected_eq_or_not_blames h o file s with heq | hnone
  · rw [heq]
  · rw [List.filter_eq_nil_iff.mpr fun q hq => by simpa using hnone q hq]
    exact List.nil_sublist _

end Site

theorem FileBlueprint.blames_sublist {cat more : Catalog} (h : cat.Within more) (o : Options)
    (f : FileBlueprint) :
    ((f.reported o more).filter fun q => q.BlamesContainer).Sublist
      ((f.reported o cat).filter fun q => q.BlamesContainer) := by
  unfold reported
  split
  · rw [expected, expected, List.filter_flatMap, List.filter_flatMap]
    exact List.Sublist.flatMap_right _ fun s _ => Site.blames_sublist h o f.path s
  · exact List.Sublist.refl _

/-- Merging further classes adds no problem of a container that may not support subscripts: each one
that is reported afterwards was reported before. -/
theorem container_reports_antitone :
    (∀ (known added : Catalog) (types reported : TypeSet),
      (known.merge added).verdict types = .unsupported reported →
        known.verdict types = .unsupported reported) ∧
    ∀ (b : Blueprint) (p : Project), b.build = .ok p → ∀ (o : Options) (added : List Catalog),
      ∃ before after, ({ options := o } : Linter).checkProject p = .ok before ∧
        ({ options := o } : Linter).checkProject
          { p with classes := added.foldl Catalog.merge p.classes } = .ok after ∧
        (after.filter fun q => q.BlamesContainer).Sublist
          (before.filter fun q => q.BlamesContainer) := by
  constructor
  · intro known added types reported hv
    exact Catalog.verdict_eq_unsupported_of_within (Catalog.within_merge known added) hv
  · intro b p hp o added
    have hbefore := Blueprint.checkProject_withClasses hp p.classes o
    have hafter := Blueprint.checkProject_withClasses hp (added.foldl Catalog.merge p.classes) o
    refine ⟨_, _, hbefore, hafter, ?_⟩
    rw [List.filter_flatMap, List.filter_flatMap]
    apply List.Sublist.flatMap_right
    intro f _
    exact f.blames_sublist (Catalog.within_foldl_merge p.classes added) o

/-- Two containers of undeclared classes. -/
def undeclaredSample : Blueprint where
  files :=
    [{ path := "a.php"
       statements :=
         [.access {} (some (.var { types := some (.ofTexts ["\\B"]) } "$b")) none .square true,
          .access {} (some (.var { types := some (.ofTexts ["\\C"]) } "$c")) none .square true] }]

/-- A declaration of one of the classes. -/
def declaredSample : Catalog :=
  .ofList [{ name := ⟨"\\b"⟩, methods := [⟨"offsetGet", []⟩, ⟨"offsetSet", []⟩] }]

/-- Once the one class is declared, only the container of the other one is blamed. -/
theorem undeclaredSample_blamed :
    ((∅ : Catalog).merge declaredSample).verdict (.ofTexts ["\\C"]) =
        .unsupported (.ofTexts ["\\C"]) ∧
      (∅ : Catalog).verdict (.ofTexts ["\\C"]) = .unsupported (.ofTexts ["\\C"]) ∧
      ∃ p before after, undeclaredSample.build = .ok p ∧
        ({} : Linter).checkProject p = .ok before ∧
        ({} : Linter).checkProject { p with classes := p.classes.merge declaredSample } =
          .ok after ∧
        (after.filter fun q => q.BlamesContainer).Sublist
          (before.filter fun q => q.BlamesContainer) ∧
        before.map Problem.anchor = ["$b[]", "$c[]"] ∧ after.map Problem.anchor = ["$c[]"] := by
  have hmerged : ((∅ : Catalog).merge declaredSample).verdict (.ofTexts ["\\C"]) =
      .unsupported (.ofTexts ["\\C"]) := rfl
  have hbefore : (undeclaredSample.build.toOption.bind fun p =>
      (({} : Linter).checkProject p).toOption).map (List.map Problem.anchor) =
        some ["$b[]", "$c[]"] := rfl
  have hafter : (undeclaredSample.build.toOption.bind fun p =>
      (({} : Linter).checkProject
        { p with classes := p.classes.merge declaredSample }).toOption).map
        (List.map Problem.anchor) = some ["$c[]"] := rfl
  obtain ⟨p, hp⟩ := Blueprint.exists_build_of_isOk (b := undeclaredSample) rfl
  obtain ⟨before, after, hb, ha, hsub⟩ := container_reports_antitone.2 _ p hp {} [declaredSample]
  simp only [List.foldl_cons, List.foldl_nil] at ha
  simp only [hp, Except.toOption, Option.bind_some, hb, Option.map_some,
    Option.some.injEq] at hbefore
  simp only [hp, Except.toOption, Option.bind_some, ha, Option.map_some,
    Option.some.injEq] at hafter
  exact ⟨hmerged, container_reports_antitone.1 _ _ _ _ hmerged, p, before, after, hp, hb, ha, hsub,
    hbefore, hafter⟩

end SubscriptLint
