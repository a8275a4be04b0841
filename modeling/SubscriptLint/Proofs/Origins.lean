import SubscriptLint.Proofs.BracketFixes
import SubscriptLint.Proofs.Lines
import SubscriptLint.Source.Message

/-!
# Origins of problems

A problem is traced back by what it says (`Blueprint.problems_traced_back`). Its path belongs to one
module alone, the only one that it is reported of; its positions are those of the two ends of one
range, which an access of the module or the index of that access takes up and which holds the anchor;
and its line is there, so that a message about it shows that line.
-/

namespace SubscriptLint

namespace Problem

/-- The problem is about an expression of a file. -/
def About (q : Problem) (file : String) (t : Site TypeNote) : Prop :=
  ∃ message severity fix, q = { t.problem file message severity with fix := fix }

/-- The problem is one of those that an access of a scene is reported with. -/
def FoundAt (q : Problem) (scene : Scene) (a : Access) : Prop :=
  ∃ found, Subscripts.visit scene a = .ok found ∧ q ∈ found

/-- The problem marks a range of a module: it begins and ends at the positions of the ends of the
range, which no other offsets have, its anchor is the text of the range, and a message at its
position shows the line. -/
structure Marks (q : Problem) (m : Module) (range : Span) : Prop where
  in_order : range.start ≤ range.stop
  starts : m.source.position range.start = q.start
  stops : m.source.position range.stop = q.stop
  unique : ∀ start stop, m.source.position start = q.start → m.source.position stop = q.stop →
    start = range.start ∧ stop = range.stop
  anchor : m.source.text? range = some q.anchor
  line_exists : 0 < q.start.line ∧ q.start.line ≤ m.source.lineCount
  shown : ∀ kind text, m.source.message q.start kind text =
    "\n".intercalate
      ["", "--> " ++ m.file ++ ":" ++ toString q.start.line ++ ":" ++ toString q.start.col,
        Source.gutter q.start.line ++ "|", m.source.sourceRow q.start.line,
        Source.caretRow q.start, kind ++ ": " ++ text]

end Problem

/-- The range is that of the access or that of its index. -/
def Access.TakesUp (a : Access) (range : Span) : Prop :=
  range = a.place.span ∨ ∃ index, a.index = some index ∧ range = index.note.span

/-- The problem comes from a module of the project: no other module has the path of the problem, the
module is found by that path, and it is the only module that the problem is reported of. -/
structure Project.Origin (p : Project) (o : Options) (q : Problem) (m : Module) : Prop where
  only : p.modules.filter (fun m => m.file = q.file) = [m]
  found : p.module? q.file = some m
  reports : ∀ m' ∈ p.modules,
    (∃ problems, ({ options := o } : Linter).checkModule m' p.types.oracle p.classes = .ok problems ∧
      q ∈ problems) ↔ m' = m

/-- The problem leads back to a module of the project, to an access of the module that it is found
at, and to the range of the text that it marks. -/
def Problem.LeadsBack (q : Problem) (p : Project) (o : Options) : Prop :=
  ∃ m, p.Origin o q m ∧
    ∃ a ∈ m.accesses, q.FoundAt ⟨m, p.types.oracle, p.classes, o⟩ a ∧
      ∃ range, a.TakesUp range ∧ q.Marks m range

/-- Whatever is reported about an access is about the access itself or about its index. -/
theorem Site.about_of_mem_expected {o : Options} {cat : Catalog} {file : String}
    {s : Site TypeNote} {q : Problem} (h : q ∈ s.expected o cat file) :
    ∃ n container index bracket, s.expr = .access n (some container) index bracket true ∧
      (q.About file s ∨ ∃ i, index = some i ∧ q.About file (s.index container i bracket)) := by
  obtain ⟨n, container, index, bracket, he, hcases⟩ := mem_expected_cases h
  refine ⟨n, container, index, bracket, he, ?_⟩
  rcases hcases with ⟨-, -, rfl⟩ | ⟨message, rfl⟩ | ⟨i, message, hi, rfl⟩
  · exact .inl ⟨_, _, _, rfl⟩
  · exact .inl ⟨message, .warning, none, rfl⟩
  · exact .inr ⟨i, hi, message, .warning, none, rfl⟩

namespace FileBlueprint.WrittenAs

variable {f : FileBlueprint} {i : Nat} {m : Module} {t : Site TypeNote} {q : Problem}

/-- A problem about an expression marks the range of the expression. -/
theorem marks (hw : f.WrittenAs i m) (ht : t ∈ f.sites) (hq : q.About f.path t) :
    q.Marks m t.span := by
  obtain ⟨message, severity, fix, rfl⟩ := hq
  have hstart := hw.position_start ht
  have hstop := hw.position_stop ht
  have hline := (m.source.position_spec t.span.start).1
  rw [hstart] at hline
  constructor
  · exact t.before_begins_behind.size_le
  · exact hstart
  · exact hstop
  · intro start stop hstart' hstop'
    constructor
    · exact m.source.position_injective (hstart'.trans hstart.symm)
    · exact m.source.position_injective (hstop'.trans hstop.symm)
  · exact hw.text?_span ht
  · exact hline
  · intro kind text
    rw [Source.message, if_neg]
    · rfl
    · rintro (hzero | hbeyond)
      · exact Nat.ne_of_gt hline.1 hzero
      · exact Nat.not_lt_of_ge hline.2 hbeyond

end FileBlueprint.WrittenAs

/-- A problem that is expected at a site is found at the access there, which takes up the range that
the problem marks. -/
theorem Scene.Shows.exists_access {scene : Scene} {f : FileBlueprint} (h : scene.Shows f)
    {s : Site TypeNote} (hs : s ∈ f.sites) {q : Problem}
    (hq : q ∈ s.expected scene.options scene.catalog f.path) :
    ∃ a ∈ scene.module.accesses, q.FoundAt scene a ∧
      ∃ range, a.TakesUp range ∧ q.Marks scene.module range := by
  obtain ⟨n, container, index, bracket, he, hq'⟩ := Site.about_of_mem_expected hq
  refine ⟨_, ?_, ⟨_, h.visit_closed_eq hs he, hq⟩, ?_⟩
  · rw [h.written.accesses_eq]
    exact List.mem_filterMap.mpr ⟨s, hs, h.written.ofVisit?_treeAt hs he⟩
  · rcases hq' with hself | ⟨i, rfl, hindex⟩
    · exact ⟨s.span, .inl rfl, h.written.marks hs hself⟩
    · have hi := FileBlueprint.index_mem_sites hs he
      refine ⟨(s.index container i bracket).span, .inr ⟨_, rfl, ?_⟩, h.written.marks hi hindex⟩
      rw [h.written.note_treeAt hi]
      rfl

namespace Blueprint

variable {b : Blueprint} {p : Project} {i : Nat} {f : FileBlueprint} {m : Module} {q : Problem}

/-- The module of a file is the only one with the path of the file. -/
theorem filter_file_of_build (h : b.build = .ok p) (hf : b.files[i]? = some f)
    (hm : p.modules[i]? = some m) : p.modules.filter (fun m => m.file = f.path) = [m] := by
  have hpaths : p.modules.map Module.file = b.files.map FileBlueprint.path := by
    have hfiles : List.Forall₂ (fun f m => FileBlueprint.path f = Module.file m) b.files p.modules :=
      forall₂_of_build h fun _ hw => hw.file_eq.symm
    rw [← List.forall₂_eq_eq_eq, List.forall₂_map_left_iff, List.forall₂_map_right_iff]
    exact hfiles.flip.imp fun _ _ heq => heq.symm
  have hd : (p.modules.map Module.file).Nodup := hpaths ▸ (build_eq_ok_iff.mp h).1
  have honly := filter_key_of_sublist (List.singleton_sublist.mpr (List.mem_of_getElem? hm)) hd
  have hfile : m.file = f.path := (writtenAs_of_build h hf hm).file_eq
  simpa only [List.map_cons, List.map_nil, List.mem_singleton, hfile] using honly

theorem module?_of_build (h : b.build = .ok p) (hf : b.files[i]? = some f)
    (hm : p.modules[i]? = some m) : p.module? f.path = some m := by
  rw [Project.module?, ← List.head?_filter, filter_file_of_build h hf hm]
  rfl

/-- What is reported of a file has its origin in the module of the file. -/
theorem origin_of_mem_reported (h : b.build = .ok p) (hf : b.files[i]? = some f)
    (hm : p.modules[i]? = some m) {o : Options} (hq : q ∈ f.reported o p.classes) :
    p.Origin o q m := by
  have hpath := FileBlueprint.file_of_mem_reported hq
  have honly := filter_file_of_build h hf hm
  refine ⟨hpath ▸ honly, hpath ▸ module?_of_build h hf hm, ?_⟩
  intro m' hm'
  constructor
  · rintro ⟨problems, hproblems, hq'⟩
    obtain ⟨j, hj⟩ := List.mem_iff_getElem?.mp hm'
    obtain ⟨g, hg⟩ := exists_file_of_module h hj
    rw [checkModule_of_build h hg hj] at hproblems
    rw [← Except.ok.inj hproblems] at hq'
    have hfile : m'.file = f.path :=
      calc
        m'.file = g.path := (writtenAs_of_build h hg hj).file_eq
        _ = q.file := (FileBlueprint.file_of_mem_reported hq').symm
        _ = f.path := hpath
    have hmem : m' ∈ p.modules.filter fun m => m.file = f.path :=
      List.mem_filter.mpr ⟨hm', decide_eq_true hfile⟩
    rw [honly] at hmem
    exact List.mem_singleton.mp hmem
  · rintro rfl
    exact ⟨_, checkModule_of_build h hf hm p.classes o, hq⟩

theorem exists_file_of_mem_reported (h : b.build = .ok p) {o : Options} {cat : Catalog}
    (hq : q ∈ b.files.flatMap (FileBlueprint.reported o cat)) :
    ∃ (i : Nat) (f : FileBlueprint) (m : Module),
      b.files[i]? = some f ∧ p.modules[i]? = some m ∧ q ∈ f.reported o cat := by
  obtain ⟨f, hf, hq⟩ := List.mem_flatMap.mp hq
  obtain ⟨i, hi⟩ := List.mem_iff_getElem?.mp hf
  obtain ⟨m, hm⟩ := exists_module_of_file h hi
  exact ⟨i, f, m, hi, hm, hq⟩

/-- What is reported of a file is found at an access of its module and marks a range there. -/
theorem exists_access_of_mem_reported (h : b.build = .ok p) (hf : b.files[i]? = some f)
    (hm : p.modules[i]? = some m) {o : Options} {cat : Catalog} (hq : q ∈ f.reported o cat) :
    ∃ a ∈ m.accesses, q.FoundAt ⟨m, p.types.oracle, cat, o⟩ a ∧
      ∃ range, a.TakesUp range ∧ q.Marks m range := by
  have hshows := shows_of_build h hf (writtenAs_of_build h hf hm) cat o
  obtain ⟨s, hs, hq⟩ := FileBlueprint.exists_site_of_mem_reported hq
  exact hshows.exists_access hs hq

/-- Every problem of a project leads back to where it comes from, under all options. -/
theorem problems_traced_back (h : b.build = .ok p) (o : Options) :
    ∃ problems, ({ options := o } : Linter).checkProject p = .ok problems ∧
      ∀ q ∈ problems, q.LeadsBack p o := by
  refine ⟨_, checkProject_withClasses h p.classes o, ?_⟩
  intro q hq
  obtain ⟨i, f, m, hf, hm, hq⟩ := exists_file_of_mem_reported h hq
  exact ⟨m, origin_of_mem_reported h hf hm hq, exists_access_of_mem_reported h hf hm hq⟩

/-- The anchors of the first two problems of the sample go on over a newline, and they begin at the
same position; all four problems lead back. -/
theorem sample_traced_back :
    ∃ p problems, sample.build = .ok p ∧ ({} : Linter).checkProject p = .ok problems ∧
      problems.map (fun q => (q.file, q.start, q.stop)) =
        [("a.php", ⟨1, 1⟩, ⟨2, 6⟩), ("a.php", ⟨1, 1⟩, ⟨2, 3⟩), ("a.php", ⟨3, 1⟩, ⟨3, 5⟩),
          ("b.php", ⟨1, 4⟩, ⟨1, 8⟩)] ∧
      ∀ q ∈ problems, q.LeadsBack p {} := by
  obtain ⟨p, hp⟩ := build_sample
  obtain ⟨problems, hproblems, hback⟩ := problems_traced_back hp {}
  refine ⟨p, problems, hp, hproblems, ?_, hback⟩
  apply map_problems_eq ({} : Linter).checkProject hp hproblems
  rfl

end Blueprint

end SubscriptLint
