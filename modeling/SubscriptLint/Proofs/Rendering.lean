import SubscriptLint.Proofs.Construction
import SubscriptLint.Proofs.Cuts
import SubscriptLint.Proofs.Positions

/-!
# Rendered sources

The text of a module is the text of its statements, and every expression is placed exactly where
its own text is. The writer keeps offsets of 32 bits while the text still grows; a text that is
accepted is small enough for them, so none of them was cut off.
-/

namespace SubscriptLint

namespace Site

variable {α : Type}

/-- The range that an expression takes up in its file. -/
def span (s : Site α) : Span := ⟨s.before.utf8ByteSize, s.behind.utf8ByteSize⟩

/-- The place of an expression: its range, the position behind what is in front, its number. -/
def place (s : Site α) : Place := ⟨⟨s.span, Position.behind s.before⟩, s.number⟩

end Site

namespace FileBlueprint.WrittenAs

variable {f : FileBlueprint} {i : Nat} {m : Module} {s : Site TypeNote}

/-- The text of a module goes on behind each of its expressions. -/
theorem contents_split (hw : f.WrittenAs i m) (hs : s ∈ f.sites) :
    ∃ rest, m.source.contents = s.before ++ s.expr.render ++ rest := by
  obtain ⟨rest, heq⟩ := begins_text_of_mem_sites hs
  exact ⟨rest, hw.contents_eq.trans heq⟩

theorem behind_size_lt (hw : f.WrittenAs i m) (hs : s ∈ f.sites) :
    s.behind.utf8ByteSize < Source.limit := by
  have hle := (begins_text_of_mem_sites hs).size_le
  rw [← hw.contents_eq] at hle
  exact Nat.lt_of_le_of_lt hle m.source.fits

theorem position_start (hw : f.WrittenAs i m) (hs : s ∈ f.sites) :
    m.source.position s.span.start = Position.behind s.before := by
  obtain ⟨rest, heq⟩ := hw.contents_split hs
  exact Source.position_eq_behind (heq.trans String.append_assoc)

theorem position_stop (hw : f.WrittenAs i m) (hs : s ∈ f.sites) :
    m.source.position s.span.stop = Position.behind s.behind := by
  obtain ⟨rest, heq⟩ := hw.contents_split hs
  exact Source.position_eq_behind heq

/-- No offset is cut off to 32 bits, so an expression is placed where it is written. -/
theorem placeOf_eq (hw : f.WrittenAs i m) (hs : s ∈ f.sites) :
    m.source.placeOf s.before s.number s.expr = s.place := by
  have hbehind : s.behind.utf8ByteSize < UInt32.size :=
    Nat.lt_trans (hw.behind_size_lt hs) (by decide)
  have hbefore : s.before.utf8ByteSize < UInt32.size :=
    Nat.lt_of_le_of_lt s.before_begins_behind.size_le hbehind
  have hposition : m.source.position s.before.utf8ByteSize = Position.behind s.before :=
    hw.position_start hs
  have hmod : (s.before ++ s.expr.render).utf8ByteSize % UInt32.size = s.behind.utf8ByteSize :=
    Nat.mod_eq_of_lt hbehind
  simp only [Source.placeOf, Source.place, Source.region, Expr.placedNote,
    Nat.mod_eq_of_lt hbefore, hmod, hposition, Site.place, Site.span]

theorem text?_span (hw : f.WrittenAs i m) (hs : s ∈ f.sites) :
    m.source.text? s.span = some s.expr.render := by
  obtain ⟨rest, heq⟩ := hw.contents_split hs
  exact Source.text?_of_eq heq

/-- The tree that a module holds at a site. -/
def treeAt (m : Module) (s : Site TypeNote) : Expr Place :=
  Expr.annotate m.source.placeOf s.before s.number s.expr

theorem note_treeAt (hw : f.WrittenAs i m) (hs : s ∈ f.sites) : (treeAt m s).note = s.place := by
  rw [treeAt, Expr.note_annotate, hw.placeOf_eq hs]

/-- A walk through a module meets the sites of its file in their order. -/
theorem visits_eq (hw : f.WrittenAs i m) :
    m.visits = f.sites.map fun s => ⟨treeAt m s, s.target⟩ := by
  rw [Module.visits, hw.statements_eq, Expr.visits_annotateRow, sites, List.map_flatMap]
  exact List.flatMap_congr fun s _ => Expr.visits_annotate m.source.placeOf s

theorem parts_treeAt (m : Module) (s : Site TypeNote) :
    (treeAt m s).parts = s.parts.map (treeAt m) :=
  Expr.parts_annotate m.source.placeOf s

end FileBlueprint.WrittenAs

/-- What a walk meets is the expression that is described at a site, and it is placed exactly
where the text of that expression is, with its parts inside and in their order. -/
structure Visit.ExactAt (m : Module) (s : Site TypeNote) (v : Visit Place) : Prop where
  shape : v.expr.shape = s.expr.shape
  target : v.target = s.target
  start : v.expr.note.span.start = s.before.utf8ByteSize
  stop : v.expr.note.span.stop = s.before.utf8ByteSize + s.expr.render.utf8ByteSize
  fits : v.expr.note.span.stop < UInt32.size
  text : m.source.text? v.expr.note.span = some s.expr.render
  begins : v.expr.note.region.begins = m.source.position v.expr.note.span.start
  parts_within : ∀ e ∈ v.expr.parts, v.expr.note.span.start ≤ e.note.span.start ∧
    e.note.span.stop ≤ v.expr.note.span.stop
  parts_in_order : v.expr.parts.Pairwise fun d e => d.note.span.stop ≤ e.note.span.start

namespace FileBlueprint.WrittenAs

variable {f : FileBlueprint} {i : Nat} {m : Module} {s : Site TypeNote}

/-- Trees at sites in the order of the text take up ranges in that order. -/
theorem spans_in_order (hw : f.WrittenAs i m) {ss : List (Site TypeNote)}
    (hss : ∀ s ∈ ss, s ∈ f.sites)
    (h : ss.Pairwise fun p q => Text.Begins p.behind q.before) :
    (ss.map (treeAt m)).Pairwise fun d e => d.note.span.stop ≤ e.note.span.start := by
  rw [List.pairwise_map]
  refine h.imp_of_mem ?_
  intro p q hp hq hpq
  rw [hw.note_treeAt (hss p hp), hw.note_treeAt (hss q hq)]
  exact hpq.size_le

theorem exactAt (hw : f.WrittenAs i m) (hs : s ∈ f.sites) :
    Visit.ExactAt m s ⟨treeAt m s, s.target⟩ := by
  have hnote := hw.note_treeAt hs
  have hspan : (treeAt m s).note.span = s.span := congrArg Place.span hnote
  have hparts : ∀ q ∈ s.parts, q ∈ f.sites := fun q hq => mem_sites_of_mem_parts hs hq
  constructor
  · exact Expr.shape_annotate ..
  · rfl
  · rw [hspan]
    rfl
  · rw [hspan]
    exact String.utf8ByteSize_append
  · rw [hspan]
    exact Nat.lt_trans (hw.behind_size_lt hs) (by decide)
  · rw [hspan]
    exact hw.text?_span hs
  · rw [hspan, hnote]
    exact (hw.position_start hs).symm
  · intro e he
    rw [parts_treeAt] at he
    obtain ⟨q, hq, rfl⟩ := List.mem_map.mp he
    rw [hspan, hw.note_treeAt (hparts q hq)]
    obtain ⟨hbefore, hbehind⟩ := Site.part_within hq
    exact ⟨hbefore.size_le, hbehind.size_le⟩
  · rw [parts_treeAt]
    exact hw.spans_in_order hparts s.parts_in_order

theorem statements_eq_map (hw : f.WrittenAs i m) : m.statements = f.roots.map (treeAt m) := by
  rw [hw.statements_eq, Expr.annotateRow_eq_map]
  rfl

end FileBlueprint.WrittenAs

/-- A module holds the text of its file, statement by statement, and the expressions of the file in
their order, each placed exactly. -/
structure FileBlueprint.RenderedExactly (f : FileBlueprint) (m : Module) : Prop where
  file : m.file = f.path
  contents : m.source.contents = String.join (f.statements.map fun e => e.render ++ ";\n")
  shapes : m.statements.map Expr.shape = f.statements.map Expr.shape
  expressions : List.Forall₂ (Visit.ExactAt m) f.sites m.visits
  statements_in_order :
    m.statements.Pairwise fun d e => d.note.span.stop ≤ e.note.span.start

namespace Blueprint

/-- Every module of a project is its file, rendered exactly. -/
theorem modules_rendered_exactly {b : Blueprint} {p : Project} (h : b.build = .ok p) :
    List.Forall₂ FileBlueprint.RenderedExactly b.files p.modules := by
  have hws := (build_eq_ok_iff.mp h).2.2.1
  rw [← List.zipIdx_map_fst 0 b.files, List.forall₂_map_left_iff]
  refine hws.imp ?_
  intro q m hw
  refine ⟨hw.file_eq, hw.contents_eq, ?_, ?_, ?_⟩
  · rw [hw.statements_eq_map, List.map_map]
    have hroots : q.1.roots.map Site.expr = q.1.statements := Site.map_expr_row ..
    conv_rhs => rw [← hroots, List.map_map]
    exact List.map_congr_left fun s _ => Expr.shape_annotate ..
  · rw [hw.visits_eq, List.forall₂_map_right_iff, List.forall₂_same]
    exact fun s hs => hw.exactAt hs
  · rw [hw.statements_eq_map]
    refine hw.spans_in_order ?_ (Site.row_in_order ..)
    exact fun s hs => List.mem_flatMap.mpr ⟨s, hs, s.mem_all_self⟩

/-- Names and literals with braces, a newline and a character of two bytes are placed exactly. -/
theorem sample_rendered_exactly :
    ∃ p, sample.build = .ok p ∧
      p.modules.map (fun m => m.source.contents) =
        ["$é\x7b\x7b'\x7d\n'\x7d\x7b0\x7d;\n$x[] = 1;\n", "$a[true];\n"] ∧
      List.Forall₂ FileBlueprint.RenderedExactly sample.files p.modules := by
  obtain ⟨p, hp⟩ := build_sample
  have hcontents : (sample.build.map fun p => p.modules.map fun m => m.source.contents) =
      .ok ["$é\x7b\x7b'\x7d\n'\x7d\x7b0\x7d;\n$x[] = 1;\n", "$a[true];\n"] := rfl
  rw [hp] at hcontents
  exact ⟨p, hp, Except.ok.inj hcontents, modules_rendered_exactly hp⟩

end Blueprint

end SubscriptLint
