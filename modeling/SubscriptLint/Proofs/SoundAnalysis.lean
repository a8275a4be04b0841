import SubscriptLint.Proofs.Origins

/-!
# Sound analysis

A project that was built can be analysed, and its problems can be shown, without anything on the way
being undefined (`Blueprint.analysis_sound`). Ranges are taken out of texts between characters only,
positions are computed without leaving 32 bits, and all curly brackets can be made square. All of
this is known of a module once and for all, whatever is looked at later.
-/

namespace SubscriptLint

/-- What may be computed from a module is defined: the text of every expression, the position of
every offset, every line, whose end is right in front of the next line if there is one, and the fix
of every access with curly brackets, which replaces characters of the text. -/
structure Module.Sound (m : Module) : Prop where
  spans : ∀ v ∈ m.visits, m.source.Fits v.expr.note.span
  positions : ∀ offset ≤ m.source.contents.utf8ByteSize, m.source.Locates offset
  lines : ∀ n, 0 < n → n ≤ m.source.lineCount →
    ∃ range, m.source.lineSpan? n = some range ∧ m.source.Fits range ∧
      ∀ next, m.source.lineStarts[n]? = some next → next = range.stop + 1
  fixes : ∀ a ∈ m.accesses, ∀ container, a.container = some container → a.bracket = some .curly →
    ∃ fix, Subscripts.bracketFix? m.source a.place.span container.note.span = some fix ∧
      ∀ e ∈ fix.edits, m.source.Fits e.span

namespace FileBlueprint.WrittenAs

variable {f : FileBlueprint} {i : Nat} {m : Module} {s : Site TypeNote} {n : TypeNote}
  {container : Expr TypeNote} {index : Option (Expr TypeNote)}

theorem span_treeAt (hw : f.WrittenAs i m) (hs : s ∈ f.sites) :
    (treeAt m s).note.span = s.span := congrArg Place.span (hw.note_treeAt hs)

/-- An access of a module with a container and a closing bracket is at the site of one. -/
theorem exists_site_of_mem_accesses (hw : f.WrittenAs i m) {a : Access} (ha : a ∈ m.accesses)
    {c : Expr Place} {bracket : Bracket} (hc : a.container = some c)
    (hb : a.bracket = some bracket) :
    ∃ s ∈ f.sites, ∃ n container index,
      s.expr = .access n (some container) index bracket true ∧
        a = accessAt m s container index bracket := by
  rw [hw.accesses_eq] at ha
  obtain ⟨s, hs, hvisit⟩ := List.mem_filterMap.mp ha
  refine ⟨s, hs, ?_⟩
  cases he : s.expr with
  | access n container index bracket' closed =>
      cases container with
      | none =>
          simp only [treeAt, he, Expr.annotate, Expr.annotateOption_eq_map, Access.ofVisit?,
            Option.some.injEq] at hvisit
          subst hvisit
          cases hc
      | some container =>
          cases closed with
          | false =>
              simp only [treeAt, he, Expr.annotate, Access.ofVisit?, Option.some.injEq] at hvisit
              subst hvisit
              cases hb
          | true =>
              rw [hw.ofVisit?_treeAt hs he, Option.some.injEq] at hvisit
              subst hvisit
              cases hb
              exact ⟨n, container, index, rfl, rfl⟩
  | _ => simp [treeAt, he, Expr.annotate, Access.ofVisit?] at hvisit

/-- The brackets of an access are characters of the text. -/
theorem bracketEdits_fit (hw : f.WrittenAs i m) (hs : s ∈ f.sites)
    (he : s.expr = .access n (some container) index .curly true) {e : TextEdit}
    (h : e ∈ s.bracketEdits) : m.source.Fits e.span := by
  obtain ⟨rest, heq⟩ := hw.contents_split hs
  have hbehind := Site.behind_of_access he
  have hcontents : m.source.contents = s.before ++ container.render ++
      (Bracket.curly.opening.toString ++ Expr.renderOption index ++
        Bracket.curly.closing.toString) ++ rest := hbehind ▸ heq
  rw [Site.bracketEdits, Site.containerText_of_access he] at h
  rcases List.mem_cons.mp h with rfl | h
  · apply Source.fits_of_size_one (b := Bracket.curly.opening.toString) _ (Bracket.size_opening _)
    · exact Expr.renderOption index ++ Bracket.curly.closing.toString ++ rest
    · simpa only [String.append_assoc] using hcontents
  · obtain rfl := List.mem_singleton.mp h
    have hsize : s.behind.utf8ByteSize - 1 = (s.before ++ container.render ++
        (Bracket.curly.opening.toString ++ Expr.renderOption index)).utf8ByteSize := by
      rw [hbehind, ← String.append_assoc, String.utf8ByteSize_append, Bracket.size_closing]
      exact Nat.add_sub_cancel ..
    rw [hsize]
    apply Source.fits_of_size_one (b := Bracket.curly.closing.toString) (c := rest) _
      (Bracket.size_closing _)
    simpa only [String.append_assoc] using hcontents

/-- A file that is written out is sound. -/
theorem sound (hw : f.WrittenAs i m) : m.Sound := by
  constructor
  · intro v hv
    rw [hw.visits_eq] at hv
    obtain ⟨s, hs, rfl⟩ := List.mem_map.mp hv
    rw [hw.span_treeAt hs]
    exact Source.fits_iff_text?.mpr ⟨_, hw.text?_span hs⟩
  · intro offset hle
    exact m.source.locates (Nat.lt_of_le_of_lt hle m.source.fits)
  · intro n hpos hle
    exact Source.lineSpan?_fits hpos hle
  · intro a ha c hc hb
    obtain ⟨s, hs, n, container, index, he, rfl⟩ := hw.exists_site_of_mem_accesses ha hc hb
    have hcontainer := hw.span_treeAt (container_mem_sites hs he)
    obtain rfl := Option.some.inj hc
    rw [hcontainer]
    exact ⟨_, hw.bracketFix?_eq hs he, fun e h => hw.bracketEdits_fit hs he h⟩

end FileBlueprint.WrittenAs

namespace Blueprint

variable {b : Blueprint} {p : Project}

/-- Whatever classes are known and whatever the options are, all modules are sound, the analysis ends
with problems, and the line that a message about one of them shows is there to be taken out of the
module that is found by its path. -/
theorem analysis_sound (h : b.build = .ok p) (cat : Catalog) (o : Options) :
    (∀ m ∈ p.modules, m.Sound) ∧
      ∃ problems, ({ options := o } : Linter).checkProject { p with classes := cat } =
          .ok problems ∧
        ∀ q ∈ problems, ∃ m ∈ p.modules, p.module? q.file = some m ∧
          0 < q.start.line ∧ q.start.line ≤ m.source.lineCount := by
  constructor
  · intro m hm
    obtain ⟨i, hm⟩ := List.mem_iff_getElem?.mp hm
    obtain ⟨f, hf⟩ := exists_file_of_module h hm
    exact (writtenAs_of_build h hf hm).sound
  · refine ⟨_, checkProject_withClasses h cat o, ?_⟩
    intro q hq
    obtain ⟨i, f, m, hf, hm, hq⟩ := exists_file_of_mem_reported h hq
    obtain ⟨a, -, -, range, -, hmarks⟩ := exists_access_of_mem_reported h hf hm hq
    have hpath := FileBlueprint.file_of_mem_reported hq
    exact ⟨m, List.mem_of_getElem? hm, hpath ▸ module?_of_build h hf hm, hmarks.line_exists⟩

/-- A name with a brace and a character of two bytes, an empty index, and a carriage return in front
of the newline of a literal. -/
def raggedSample : Blueprint where
  files :=
    [{ path := "r.php"
       statements :=
         [.literal {} "'\r\n'",
          .access {} (some (.var {} "$é\x7b")) (some (.literal {} "")) .curly true] }]

/-- The classes of another project. -/
def otherClasses : Catalog := .ofList [{ name := ⟨"\\A"⟩ }]

/-- The ragged sample is analysed with classes that it did not declare. -/
theorem raggedSample_analysed :
    ∃ p problems, raggedSample.build = .ok p ∧ (∀ m ∈ p.modules, m.Sound) ∧
      ({} : Linter).checkProject { p with classes := otherClasses } = .ok problems ∧
      (∀ q ∈ problems, ∃ m ∈ p.modules, p.module? q.file = some m ∧
        0 < q.start.line ∧ q.start.line ≤ m.source.lineCount) ∧
      problems.map (fun q => (q.anchor, q.start, q.edits.map TextEdit.span)) =
        [("$é\x7b\x7b\x7d", ⟨3, 1⟩, [⟨10, 11⟩, ⟨11, 12⟩])] := by
  obtain ⟨p, hp⟩ := exists_build_of_isOk (b := raggedSample) rfl
  obtain ⟨hsound, problems, hproblems, hlines⟩ := analysis_sound hp otherClasses {}
  refine ⟨p, problems, hp, hsound, hproblems, hlines, ?_⟩
  apply map_problems_eq (fun p => ({} : Linter).checkProject { p with classes := otherClasses }) hp
    hproblems
  rfl

end Blueprint

end SubscriptLint
