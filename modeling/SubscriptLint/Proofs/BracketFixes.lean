import SubscriptLint.Proofs.Analysis
import SubscriptLint.Proofs.Squaring

/-!
# Fixes of brackets

Every problem of curly brackets comes with a fix. Applying any of the fixes of a module, with their
edits in any order, gives the text of the module that is built once the brackets of exactly those
accesses are square (`Blueprint.fixes_square_brackets`).
-/

namespace SubscriptLint

section

variable {α β : Type}

theorem flatMap_filter_eq (xs : List α) (p : α → Bool) (f : α → List β) :
    (xs.filter p).flatMap f = xs.flatMap fun x => if p x then f x else [] := by
  induction xs with
  | nil => rfl
  | cons x xs ih =>
      rw [List.filter_cons, List.flatMap_cons, ← ih]
      split
      · rfl
      · rfl

/-- Where keys differ, some of the elements are told by their keys. -/
theorem filter_key_of_sublist [DecidableEq β] {key : α → β} {xs ys : List α}
    (h : xs.Sublist ys) (hd : (ys.map key).Nodup) :
    (ys.filter fun y => key y ∈ xs.map key) = xs := by
  induction h with
  | slnil => rfl
  | cons y hsub ih =>
      obtain ⟨hy, hd⟩ := List.nodup_cons.mp hd
      rw [List.filter_cons_of_neg, ih hd]
      intro hmem
      exact hy ((hsub.map key).subset (of_decide_eq_true hmem))
  | @cons_cons xs ys y hsub ih =>
      obtain ⟨hy, hd⟩ := List.nodup_cons.mp hd
      rw [List.filter_cons_of_pos (by simp)]
      have hrest : ys.filter (fun z => key z ∈ (y :: xs).map key) =
          ys.filter fun z => key z ∈ xs.map key := by
        apply List.filter_congr
        intro z hz
        have hne : key z ≠ key y := by
          intro heq
          exact hy (heq ▸ List.mem_map_of_mem hz)
        simp only [List.map_cons, List.mem_cons, hne, false_or]
      rw [hrest, ih hd]

end

/-- The edits of the fix that a problem comes with. -/
def Problem.edits (q : Problem) : List TextEdit := q.fix.elim [] QuickFix.edits

/-- The fix replaces two single characters, by an opening and by a closing square bracket. -/
def QuickFix.ReplacesBrackets (fix : QuickFix) : Prop :=
  ∃ opening closing,
    fix.edits = [⟨⟨opening, opening + 1⟩, "["⟩, ⟨⟨closing, closing + 1⟩, "]"⟩]

/-- The blueprint with the brackets of chosen accesses in one of its files made square. -/
def Blueprint.squared (b : Blueprint) (file : Nat) (chosen : List Nat) : Blueprint :=
  { b with files := b.files.modify file fun f => f.squared chosen }

/-- The problems of curly brackets in a module, together: their edits do not touch each other, each
problem belongs to an access, and applying the fixes of any of the accesses in any order gives the
module that is built when those accesses, and no others, have square brackets. -/
structure Blueprint.FixedBy (b : Blueprint) (i : Nat) (f : FileBlueprint) (m : Module)
    (styles : List Problem) : Prop where
  apart : (styles.flatMap Problem.edits).Pairwise TextEdit.Apart
  squares : ∃ accesses : List (Site TypeNote), accesses.Sublist f.flagged ∧
    styles = accesses.map (Site.bracketProblem f.path) ∧
    ∀ (chosen : List (Site TypeNote)) (edits : List TextEdit), chosen.Sublist accesses →
      edits.Perm ((chosen.map (Site.bracketProblem f.path)).flatMap Problem.edits) →
      ∃ p' m', (b.squared i (chosen.map Site.number)).build = .ok p' ∧
        p'.modules[i]? = some m' ∧
        TextEdit.replaceAll? edits m.source.contents = some m'.source.contents

namespace Site

variable {o : Options} {cat : Catalog} {file : String} {s : Site TypeNote}

theorem expected_of_flagged (ho : o.promoteSquareBrackets = true) (hs : s.isFlagged = true) :
    s.expected o cat file = [s.bracketProblem file] := by
  obtain ⟨n, container, index, he⟩ := isFlagged_iff.mp hs
  simp only [expected, he, ho, and_self, if_true]

/-- Whatever else is reported about an access is a warning. -/
theorem warning_of_mem_expected {q : Problem}
    (hs : ¬(s.isFlagged = true ∧ o.promoteSquareBrackets = true))
    (h : q ∈ s.expected o cat file) : q.severity = .warning := by
  obtain ⟨n, container, index, bracket, he, hcases⟩ := mem_expected_cases h
  rcases hcases with ⟨rfl, ho, -⟩ | ⟨message, rfl⟩ | ⟨i, message, -, rfl⟩
  · exact absurd ⟨isFlagged_iff.mpr ⟨n, container, index, he⟩, ho⟩ hs
  · rfl
  · rfl

theorem file_of_mem_expected {q : Problem} (h : q ∈ s.expected o cat file) : q.file = file := by
  obtain ⟨n, container, index, bracket, -, hcases⟩ := mem_expected_cases h
  rcases hcases with ⟨-, -, rfl⟩ | ⟨message, rfl⟩ | ⟨i, message, -, rfl⟩
  · rfl
  · rfl
  · rfl

/-- Only curly brackets are a matter of style. -/
theorem styles_of_expected (ho : o.promoteSquareBrackets = true) :
    (s.expected o cat file).filter (fun q => q.severity = .weakWarning) =
      if s.isFlagged then [s.bracketProblem file] else [] := by
  split
  · next hs =>
      rw [expected_of_flagged ho hs]
      rfl
  · next hs =>
      apply List.filter_eq_nil_iff.mpr
      intro q hq
      have hwarning := warning_of_mem_expected (fun h => hs h.1) hq
      simp [hwarning]

end Site

namespace FileBlueprint

/-- The accesses of a file whose brackets are reported. -/
def reportedAccesses (o : Options) (f : FileBlueprint) : List (Site TypeNote) :=
  if o.isEnabled Subscripts.name then f.flagged else []

variable {o : Options} {cat : Catalog} {f : FileBlueprint}

theorem file_of_mem_reported {q : Problem} (h : q ∈ f.reported o cat) : q.file = f.path := by
  obtain ⟨s, -, hq⟩ := exists_site_of_mem_reported h
  exact Site.file_of_mem_expected hq

/-- The style problems of a file are those of its accesses with curly brackets. -/
theorem styles_of_reported (ho : o.promoteSquareBrackets = true) :
    (f.reported o cat).filter (fun q => q.severity = .weakWarning) =
      (f.reportedAccesses o).map (Site.bracketProblem f.path) := by
  unfold reported reportedAccesses
  split
  · rw [expected, List.filter_flatMap, flagged, List.map_eq_flatMap, flatMap_filter_eq]
    exact List.flatMap_congr fun s _ => Site.styles_of_expected ho
  · rfl

theorem reportedAccesses_sublist (o : Options) (f : FileBlueprint) :
    (f.reportedAccesses o).Sublist f.flagged := by
  unfold reportedAccesses
  split
  · exact List.Sublist.refl _
  · exact List.nil_sublist _

/-- Where paths differ, the problems of a file are told by its path. -/
theorem filter_reported {fs : List FileBlueprint} (hd : (fs.map path).Nodup) (hf : f ∈ fs) :
    (fs.flatMap (reported o cat)).filter (fun q => q.file = f.path) = f.reported o cat := by
  have hfile : ∀ g ∈ fs, (g.reported o cat).filter (fun q => q.file = f.path) =
      if decide (g.path ∈ [f].map path) then g.reported o cat else [] := by
    intro g _
    by_cases hg : g.path = f.path
    · rw [if_pos (by simp [hg]), List.filter_eq_self]
      intro q hq
      simp [file_of_mem_reported hq, hg]
    · rw [if_neg (by simp [hg]), List.filter_eq_nil_iff]
      intro q hq
      simp [file_of_mem_reported hq, hg]
  rw [List.filter_flatMap, List.flatMap_congr hfile, ← flatMap_filter_eq,
    filter_key_of_sublist (List.singleton_sublist.mpr hf) hd, List.flatMap_singleton]

/-- The edits of some accesses, in any order, make the brackets of exactly these square. -/
theorem replaceAll?_of_perm {chosen : List (Site TypeNote)} (hsub : chosen.Sublist f.flagged)
    {edits : List TextEdit} (hperm : edits.Perm (chosen.flatMap Site.bracketEdits)) :
    TextEdit.replaceAll? edits f.text = some (f.squared (chosen.map Site.number)).text := by
  -- In the order of the text, the chosen edits are those that the tree is known to take.
  have hsites : chosen.Sublist f.sites := hsub.trans List.filter_sublist
  have hchosen := filter_key_of_sublist hsites f.nodup_number_sites
  have hflagged : ∀ s ∈ chosen, s.isFlagged = true :=
    fun s hs => (List.mem_filter.mp (hsub.subset hs)).2
  have hmem : ∀ s ∈ f.sites, s.number ∈ chosen.map Site.number → s.isFlagged = true := by
    intro s hs hnumber
    apply hflagged
    rw [← hchosen]
    exact List.mem_filter.mpr ⟨hs, decide_eq_true hnumber⟩
  have hedits : f.sites.flatMap (Site.editsIn (chosen.map Site.number)) =
      chosen.flatMap Site.bracketEdits := by
    conv_rhs => rw [← hchosen, flatMap_filter_eq]
    simp only [decide_eq_true_eq]
    rfl
  have hsize : ∀ e ∈ chosen.flatMap Site.bracketEdits, e.KeepsSize := by
    intro e he
    obtain ⟨s, hs, he⟩ := List.mem_flatMap.mp he
    exact (Site.bracketEdits_within (hflagged s hs) he).2.2
  have hapart : (chosen.flatMap Site.bracketEdits).Pairwise TextEdit.Apart :=
    f.flagged_edits_apart.sublist (hsub.flatMap _)
  calc
    TextEdit.replaceAll? edits f.text
        = TextEdit.replaceAll? (chosen.flatMap Site.bracketEdits) f.text :=
      (TextEdit.replaceAll?_eq_of_perm hperm.symm hsize hapart f.text).symm
    _ = TextEdit.replaceAll? (f.sites.flatMap (Site.editsIn (chosen.map Site.number))) f.text := by
      rw [hedits]
    _ = some (f.squared (chosen.map Site.number)).text := f.replaceAll?_text _ hmem

end FileBlueprint

namespace Blueprint

variable {b : Blueprint} {p : Project}

theorem getElem?_squared (b : Blueprint) (i j : Nat) (chosen : List Nat) :
    (b.squared i chosen).files[j]? =
      b.files[j]?.map fun f => if i = j then f.squared chosen else f := by
  simp only [squared, List.getElem?_modify]
  split <;> simp

theorem map_path_squared (b : Blueprint) (i : Nat) (chosen : List Nat) :
    (b.squared i chosen).files.map FileBlueprint.path = b.files.map FileBlueprint.path := by
  apply List.ext_getElem?
  intro j
  rw [List.getElem?_map, List.getElem?_map, getElem?_squared, Option.map_map]
  congr 1
  funext f
  by_cases hij : i = j <;> simp [hij, FileBlueprint.squared]

/-- Making brackets square does not make a blueprint unacceptable. -/
theorem exists_build_squared (h : b.build = .ok p) (i : Nat) (chosen : List Nat) :
    ∃ p', (b.squared i chosen).build = .ok p' := by
  obtain ⟨hd, hfs⟩ := exists_build_iff.mp ⟨p, h⟩
  apply exists_build_iff.mpr
  refine ⟨(map_path_squared b i chosen).symm ▸ hd, ?_⟩
  intro g hg
  obtain ⟨j, hj⟩ := List.mem_iff_getElem?.mp hg
  rw [getElem?_squared, Option.map_eq_some_iff] at hj
  obtain ⟨f, hf, rfl⟩ := hj
  obtain ⟨hname, hsize⟩ := hfs f (List.mem_of_getElem? hf)
  split
  · rw [f.namelessStatement?_squared, f.size_text_squared]
    exact ⟨hname, hsize⟩
  · exact ⟨hname, hsize⟩

theorem edits_of_bracketProblems (file : String) (accesses : List (Site TypeNote)) :
    (accesses.map (Site.bracketProblem file)).flatMap Problem.edits =
      accesses.flatMap Site.bracketEdits := by
  rw [List.flatMap_map]
  rfl

/-- The problems of accesses with curly brackets are fixed by the edits that come with them. -/
theorem fixedBy_of_sublist (h : b.build = .ok p) {i : Nat} {f : FileBlueprint} {m : Module}
    (hf : b.files[i]? = some f) (hm : p.modules[i]? = some m)
    {accesses : List (Site TypeNote)} (haccesses : accesses.Sublist f.flagged) :
    b.FixedBy i f m (accesses.map (Site.bracketProblem f.path)) := by
  constructor
  · rw [edits_of_bracketProblems]
    exact f.flagged_edits_apart.sublist (haccesses.flatMap _)
  · refine ⟨accesses, haccesses, rfl, ?_⟩
    intro chosen edits hchosen hperm
    rw [edits_of_bracketProblems] at hperm
    obtain ⟨p', hp'⟩ := exists_build_squared h i (chosen.map Site.number)
    have hf' : (b.squared i (chosen.map Site.number)).files[i]? =
        some (f.squared (chosen.map Site.number)) := by
      rw [getElem?_squared, hf, Option.map_some, if_pos rfl]
    obtain ⟨m', hm'⟩ := exists_module_of_file hp' hf'
    refine ⟨p', m', hp', hm', ?_⟩
    rw [(writtenAs_of_build h hf hm).contents_eq, (writtenAs_of_build hp' hf' hm').contents_eq]
    exact FileBlueprint.replaceAll?_of_perm (hchosen.trans haccesses) hperm

/-- Every style problem comes with a fix of two single characters, and the fixes of a module make
the brackets of exactly those accesses square whose problems they come with. -/
theorem fixes_square_brackets (h : b.build = .ok p) {o : Options}
    (ho : o.promoteSquareBrackets = true) :
    ∃ problems, ({ options := o } : Linter).checkProject p = .ok problems ∧
      (∀ q ∈ problems, q.severity = .weakWarning →
        ∃ fix, q.fix = some fix ∧ fix.ReplacesBrackets) ∧
      ∀ i f m, b.files[i]? = some f → p.modules[i]? = some m →
        b.FixedBy i f m
          (problems.filter fun q => q.file = f.path ∧ q.severity = .weakWarning) := by
  refine ⟨_, checkProject_eq_reported h o, ?_, ?_⟩
  · intro q hq hweak
    obtain ⟨f, hf, hq⟩ := List.mem_flatMap.mp hq
    have hstyle : q ∈ (f.reported o (.ofList b.classes)).filter
        fun q => q.severity = .weakWarning := List.mem_filter.mpr ⟨hq, decide_eq_true hweak⟩
    rw [FileBlueprint.styles_of_reported ho] at hstyle
    obtain ⟨s, hs, rfl⟩ := List.mem_map.mp hstyle
    exact ⟨_, rfl, _, _, rfl⟩
  · intro i f m hf hm
    have hd := (build_eq_ok_iff.mp h).1
    have hstyles : (b.files.flatMap (FileBlueprint.reported o (.ofList b.classes))).filter
        (fun q => q.file = f.path ∧ q.severity = .weakWarning) =
          (f.reportedAccesses o).map (Site.bracketProblem f.path) := by
      rw [← FileBlueprint.styles_of_reported ho,
        ← FileBlueprint.filter_reported hd (List.mem_of_getElem? hf), List.filter_filter]
      apply List.filter_congr
      intro q _
      rw [Bool.decide_and, Bool.and_comm]
    rw [hstyles]
    exact fixedBy_of_sublist h hf hm (f.reportedAccesses_sublist o)

/-- Both fixes of nested brackets at once, their edits mixed; the braces in the name and in the
literal are left alone. -/
theorem sample_fixed :
    ∃ p problems f m, sample.build = .ok p ∧ ({} : Options).promoteSquareBrackets = true ∧
      ({} : Linter).checkProject p = .ok problems ∧ sample.files[0]? = some f ∧
      p.modules[0]? = some m ∧
      sample.FixedBy 0 f m
        (problems.filter fun q => q.file = f.path ∧ q.severity = .weakWarning) ∧
      f.flagged.flatMap Site.bracketEdits =
        [⟨⟨10, 11⟩, "["⟩, ⟨⟨12, 13⟩, "]"⟩, ⟨⟨4, 5⟩, "["⟩, ⟨⟨9, 10⟩, "]"⟩] ∧
      TextEdit.replaceAll? [⟨⟨12, 13⟩, "]"⟩, ⟨⟨4, 5⟩, "["⟩, ⟨⟨10, 11⟩, "["⟩, ⟨⟨9, 10⟩, "]"⟩]
        m.source.contents = some "$é\x7b['\x7d\n'][0];\n$x[] = 1;\n" := by
  obtain ⟨p, hp⟩ := build_sample
  obtain ⟨problems, hproblems, -, hfixed⟩ := fixes_square_brackets hp (o := {}) rfl
  have hcontents : (sample.build.toOption.bind fun p => p.modules[0]?).map
      (fun m => m.source.contents) =
        some "$é\x7b\x7b'\x7d\n'\x7d\x7b0\x7d;\n$x[] = 1;\n" := rfl
  simp only [hp, Except.toOption, Option.bind_some] at hcontents
  obtain ⟨m, hm, hcontents⟩ := Option.map_eq_some_iff.mp hcontents
  refine ⟨p, problems, _, m, hp, rfl, hproblems, rfl, hm, hfixed 0 _ m rfl hm, ?_, ?_⟩
  · decide +kernel
  · rw [hcontents]
    rfl

end Blueprint

end SubscriptLint
