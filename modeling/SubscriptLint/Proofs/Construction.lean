import SubscriptLint.Project.Build
import SubscriptLint.Proofs.Placement
import Mathlib.Data.List.Forall2
import Mathlib.Data.List.Nodup

/-!
# Building projects

A blueprint is built exactly if its paths differ, its variables have names and its texts fit; the
modules are then the files written out (`Blueprint.build_eq_ok_iff`). What is noted about an
expression is recorded under its own number and nowhere else, whatever other files hold.
-/

namespace SubscriptLint

/-- Of related elements it is also known that the first one is an element of the first list. -/
theorem forall₂_and_mem {α β : Type} {R : α → β → Prop} {xs : List α} {ys : List β}
    (h : List.Forall₂ R xs ys) : List.Forall₂ (fun x y => x ∈ xs ∧ R x y) xs ys :=
  (List.forall₂_and_left xs ys).mpr ⟨fun _ hx => hx, h⟩

namespace SideTable

variable {α : Type}

/-- The table with a value recorded for an expression, if there is one. -/
def record (t : SideTable α) (module expr : Nat) : Option α → SideTable α
  | some value => t.set module expr value
  | none => t

theorem get?_record (t : SideTable α) (module expr : Nat) (o : Option α) (m e : Nat) :
    (t.record module expr o).get? m e =
      if module = m ∧ expr = e then o.or (t.get? m e) else t.get? m e := by
  cases o with
  | none => simp [record]
  | some value => simp [record, get?_set]

/-- The table with entries of one module recorded one after the other. -/
def recordAll (t : SideTable α) (module : Nat) (entries : List (Nat × Option α)) : SideTable α :=
  entries.foldl (fun t p => t.record module p.1 p.2) t

theorem get?_recordAll_of_ne (t : SideTable α) {module m : Nat} (h : module ≠ m)
    (entries : List (Nat × Option α)) (e : Nat) :
    (t.recordAll module entries).get? m e = t.get? m e := by
  induction entries generalizing t with
  | nil => rfl
  | cons p entries ih =>
      rw [recordAll, List.foldl_cons]
      refine (ih _).trans ?_
      simp [get?_record, h]

theorem get?_recordAll_of_not_mem (t : SideTable α) (module : Nat)
    {entries : List (Nat × Option α)} {e : Nat} (h : e ∉ entries.map Prod.fst) (m : Nat) :
    (t.recordAll module entries).get? m e = t.get? m e := by
  induction entries generalizing t with
  | nil => rfl
  | cons p entries ih =>
      simp only [List.map_cons, List.mem_cons, not_or] at h
      rw [recordAll, List.foldl_cons]
      refine (ih _ h.2).trans ?_
      simp [get?_record, Ne.symm h.1]

/-- An entry is read back where no other entry has its number. -/
theorem get?_recordAll_of_mem (t : SideTable α) (module : Nat) {entries : List (Nat × Option α)}
    (hd : (entries.map Prod.fst).Nodup) {e : Nat} {o : Option α} (h : (e, o) ∈ entries) :
    (t.recordAll module entries).get? module e = o.or (t.get? module e) := by
  induction entries generalizing t with
  | nil => simp at h
  | cons p entries ih =>
      rw [List.map_cons, List.nodup_cons] at hd
      rw [recordAll, List.foldl_cons]
      rcases List.mem_cons.mp h with rfl | h
      · refine (get?_recordAll_of_not_mem _ module hd.1 module).trans ?_
        simp [get?_record]
      · refine (ih _ hd.2 h).trans ?_
        have hne : p.1 ≠ e := by
          intro heq
          exact hd.1 (heq ▸ List.mem_map_of_mem h)
        simp [get?_record, hne]

end SideTable

namespace TypeTable

/-- Recording notes records the resolved and the inferred types, each in their own table. -/
theorem foldl_record (t : TypeTable) (module : Nat) (ps : List (Placed TypeNote)) :
    ps.foldl (fun t p => t.record module p) t =
      ⟨t.resolved.recordAll module (ps.map fun p => (p.slot.number, p.note.resolved?)),
        t.inferred.recordAll module (ps.map fun p => (p.slot.number, p.note.inferred))⟩ := by
  induction ps generalizing t with
  | nil => rfl
  | cons p ps ih =>
      have hrecord : t.record module p =
          ⟨t.resolved.record module p.slot.number p.note.resolved?,
            t.inferred.record module p.slot.number p.note.inferred⟩ := by
        unfold record
        cases p.note.resolved? <;> cases p.note.inferred <;> rfl
      rw [List.foldl_cons, hrecord, ih]
      rfl

end TypeTable

namespace SideTable

variable {α : Type} (note : TypeNote → Option α)

/-- The table with what is noted in a file recorded under the number of the file. -/
def recordFile (t : SideTable α) (q : FileBlueprint × Nat) : SideTable α :=
  (t.reserve q.2 q.1.sites.length).recordAll q.2
    (q.1.sites.map fun s => (s.number, note s.expr.note))

/-- Nothing is recorded under a pair of numbers that no expression has. -/
theorem get?_recordFiles_of_not_mem (t : SideTable α) {fs : List (FileBlueprint × Nat)} {m e : Nat}
    (h : ∀ q ∈ fs, q.2 = m → e ∉ q.1.sites.map Site.number) :
    (fs.foldl (recordFile note) t).get? m e = t.get? m e := by
  induction fs generalizing t with
  | nil => rfl
  | cons q fs ih =>
      rw [List.foldl_cons, ih _ fun q hq => h q (List.mem_cons_of_mem _ hq), recordFile]
      by_cases hm : q.2 = m
      · have hfresh := h q List.mem_cons_self hm
        rw [get?_recordAll_of_not_mem, get?_reserve]
        rw [List.map_map]
        exact hfresh
      · rw [get?_recordAll_of_ne _ hm, get?_reserve]

/-- What is noted about an expression is read back under the numbers of its file and itself. -/
theorem get?_recordFiles_of_mem (t : SideTable α) {fs : List (FileBlueprint × Nat)}
    (hd : (fs.map Prod.snd).Nodup) {f : FileBlueprint} {k : Nat} (hf : (f, k) ∈ fs)
    {s : Site TypeNote} (hs : s ∈ f.sites) :
    (fs.foldl (recordFile note) t).get? k s.number =
      (note s.expr.note).or (t.get? k s.number) := by
  induction fs generalizing t with
  | nil => simp at hf
  | cons q fs ih =>
      rw [List.map_cons, List.nodup_cons] at hd
      rw [List.foldl_cons]
      rcases List.mem_cons.mp hf with rfl | hf
      · have hlater : ∀ q ∈ fs, q.2 = k → s.number ∉ q.1.sites.map Site.number :=
          fun q hq heq => absurd (List.mem_map.mpr ⟨q, hq, heq⟩) hd.1
        rw [get?_recordFiles_of_not_mem note _ hlater, recordFile,
          ← get?_reserve t k f.sites.length]
        apply get?_recordAll_of_mem
        · rw [List.map_map]
          exact f.nodup_number_sites
        · exact List.mem_map.mpr ⟨s, hs, rfl⟩
      · have hne : q.2 ≠ k := by
          intro heq
          exact hd.1 (heq ▸ List.mem_map_of_mem hf)
        rw [ih _ hd.2 hf, recordFile, get?_recordAll_of_ne _ hne, get?_reserve]

end SideTable

/-- The place of an expression in the source that its file has become. -/
def Source.placeOf {α : Type} (s : Source) (before : String) (number : Nat) (e : Expr α) : Place :=
  s.place (Expr.placedNote before number e).slot

namespace FileBlueprint

variable {f : FileBlueprint} {number : Nat} {m : Module} {t u : TypeTable}

/-- The module is the file, written out under a number. -/
structure WrittenAs (f : FileBlueprint) (number : Nat) (m : Module) : Prop where
  number_eq : m.number = number
  file_eq : m.source.file = f.path
  contents_eq : m.source.contents = f.text
  statements_eq : m.statements =
    Expr.annotateRow m.source.placeOf Expr.terminator "" 0 f.statements
  exprCount_eq : m.exprCount = f.sites.length

/-- The table with what a file notes recorded under the number of the file. -/
def recorded (f : FileBlueprint) (number : Nat) (t : TypeTable) : TypeTable :=
  ⟨t.resolved.recordFile TypeNote.resolved? (f, number),
    t.inferred.recordFile TypeNote.inferred (f, number)⟩

theorem length_sites (f : FileBlueprint) : f.sites.length = (Expr.visitsList f.statements).length := by
  rw [← map_visit_sites, List.length_map]

theorem layOut_eq (f : FileBlueprint) :
    f.layOut = (Expr.annotateRow Expr.placedNote Expr.terminator "" 0 f.statements,
      ⟨f.text, f.sites.length⟩) := by
  rw [layOut, Expr.layOutStatements_run, length_sites]
  simp [text]

/-- The notes of a file that is laid out are those of its sites. -/
theorem notes_layOut (f : FileBlueprint) :
    (Expr.visitsList f.layOut.1).map (fun v => v.expr.note) =
      f.sites.map fun s => Expr.placedNote s.before s.number s.expr := by
  rw [layOut_eq, Expr.visits_annotateRow, sites, List.map_flatMap, List.map_flatMap]
  apply List.flatMap_congr
  intro s _
  rw [Expr.visits_annotate, List.map_map]
  exact List.map_congr_left fun t _ => Expr.note_annotate ..

/-- A file can be written out exactly if its text is not too large. -/
theorem exists_writtenAs_iff : (∃ m, f.WrittenAs number m) ↔ f.text.utf8ByteSize < Source.limit := by
  constructor
  · rintro ⟨m, hw⟩
    exact hw.contents_eq ▸ m.source.fits
  · intro hfits
    let source : Source := ⟨f.path, f.text, hfits⟩
    exact ⟨⟨number, source,
      Expr.annotateRow source.placeOf Expr.terminator "" 0 f.statements, f.sites.length⟩,
      rfl, rfl, rfl, rfl, rfl⟩

theorem build_eq_ok_iff :
    f.build number t = .ok (m, u) ↔
      f.namelessStatement? = none ∧ f.WrittenAs number m ∧ u = f.recorded number t := by
  have htypes : (f.sites.map fun s => Expr.placedNote s.before s.number s.expr).foldl
      (fun t p => t.record number p) (t.reserve number f.sites.length) = f.recorded number t := by
    rw [TypeTable.foldl_record, List.map_map, List.map_map]
    rfl
  unfold build
  cases hn : f.namelessStatement? with
  | some i => simp
  | none =>
      simp only [notes_layOut]
      rw [layOut_eq]
      simp only [htypes, Source.ofContents?]
      by_cases hfits : f.text.utf8ByteSize < Source.limit
      · simp only [hfits, dif_pos, Except.ok.injEq, Prod.mk.injEq, true_and,
          Expr.mapList_annotateRow]
        constructor
        · rintro ⟨rfl, rfl⟩
          exact ⟨⟨rfl, rfl, rfl, rfl, rfl⟩, rfl⟩
        · rintro ⟨hw, rfl⟩
          obtain ⟨k, ⟨file, contents, fits⟩, statements, count⟩ := m
          obtain ⟨hnumber, hfile, hcontents, hstatements, hcount⟩ := hw
          simp only at hnumber hfile hcontents hstatements hcount
          subst hnumber hfile hcontents hstatements hcount
          exact ⟨rfl, rfl⟩
      · simp only [hfits, dif_neg, not_false_eq_true, reduceCtorEq, true_and, false_iff, not_and]
        intro hw
        exact absurd (hw.contents_eq ▸ m.source.fits) hfits

/-- The table with what numbered files note recorded, file after file. -/
def recordedAll (fs : List (FileBlueprint × Nat)) (t : TypeTable) : TypeTable :=
  ⟨fs.foldl (SideTable.recordFile TypeNote.resolved?) t.resolved,
    fs.foldl (SideTable.recordFile TypeNote.inferred) t.inferred⟩

theorem buildAll_cons_eq_ok_iff {f : FileBlueprint} {fs : List FileBlueprint} {paths : List String}
    {number : Nat} {t u : TypeTable} {ms : List Module} :
    buildAll (f :: fs) paths number t = .ok (ms, u) ↔
      f.path ∉ paths ∧ ∃ m ms' t', ms = m :: ms' ∧ f.build number t = .ok (m, t') ∧
        buildAll fs (f.path :: paths) (number + 1) t' = .ok (ms', u) := by
  rw [buildAll]
  by_cases hpath : f.path ∈ paths
  · simp [hpath, throw, throwThe, MonadExceptOf.throw, bind, Except.bind]
  · cases hb : f.build number t with
    | error e => simp [hpath, bind, Except.bind]
    | ok r =>
        obtain ⟨m, t'⟩ := r
        cases hr : buildAll fs (f.path :: paths) (number + 1) t' with
        | error e => simp [hpath, hr, bind, Except.bind]
        | ok q =>
            obtain ⟨ms', u'⟩ := q
            simp only [hpath, hr, bind, Except.bind, pure, Except.pure, if_false, Except.ok.injEq,
              Prod.mk.injEq, not_false_eq_true, true_and]
            constructor
            · rintro ⟨rfl, rfl⟩
              exact ⟨m, ms', t', rfl, ⟨rfl, rfl⟩, hr⟩
            · rintro ⟨_, ms'', _, rfl, ⟨rfl, rfl⟩, hr'⟩
              rw [hr] at hr'
              cases hr'
              exact ⟨rfl, rfl⟩

/-- Files are built exactly if no path is used twice and all variables have names. -/
theorem buildAll_eq_ok_iff {fs : List FileBlueprint} {paths : List String} {number : Nat}
    {t u : TypeTable} {ms : List Module} :
    buildAll fs paths number t = .ok (ms, u) ↔
      (fs.map path).Nodup ∧ (∀ f ∈ fs, f.path ∉ paths ∧ f.namelessStatement? = none) ∧
        List.Forall₂ (fun q m => q.1.WrittenAs q.2 m) (fs.zipIdx number) ms ∧
        u = recordedAll (fs.zipIdx number) t := by
  induction fs generalizing paths number t ms with
  | nil =>
      simp only [buildAll, Except.ok.injEq, Prod.mk.injEq, List.zipIdx_nil, List.forall₂_nil_left_iff]
      simp [recordedAll, eq_comm]
  | cons f fs ih =>
      rw [buildAll_cons_eq_ok_iff]
      simp only [build_eq_ok_iff, ih, List.zipIdx_cons, List.map_cons, List.nodup_cons,
        List.forall_mem_cons, List.forall₂_cons_left_iff]
      constructor
      · rintro ⟨hpath, m, ms', t', rfl, ⟨hname, hw, rfl⟩, hd, hfs, hws, hu⟩
        refine ⟨⟨?_, hd⟩, ⟨⟨hpath, hname⟩, ?_⟩, ⟨m, ms', hw, hws, rfl⟩, hu⟩
        · intro hmem
          obtain ⟨g, hg, heq⟩ := List.mem_map.mp hmem
          exact (hfs g hg).1 (heq ▸ List.mem_cons_self)
        · intro g hg
          exact ⟨fun h => (hfs g hg).1 (List.mem_cons_of_mem _ h), (hfs g hg).2⟩
      · rintro ⟨⟨hnew, hd⟩, ⟨⟨hpath, hname⟩, hfs⟩, ⟨m, ms', hw, hws, rfl⟩, hu⟩
        refine ⟨hpath, m, ms', f.recorded number t, rfl, ⟨hname, hw, rfl⟩, hd, ?_, hws, hu⟩
        intro g hg
        refine ⟨?_, (hfs g hg).2⟩
        intro hmem
        rcases List.mem_cons.mp hmem with heq | hmem
        · exact hnew (heq ▸ List.mem_map_of_mem hg)
        · exact (hfs g hg).1 hmem

end FileBlueprint

namespace Blueprint

variable {b : Blueprint} {p : Project}

theorem build_eq_ok_iff_buildAll :
    b.build = .ok p ↔
      FileBlueprint.buildAll b.files [] 0 {} = .ok (p.modules, p.types) ∧
        p.classes = .ofList b.classes := by
  obtain ⟨modules, types, classes⟩ := p
  unfold build
  cases FileBlueprint.buildAll b.files [] 0 {} with
  | error e => simp [bind, Except.bind]
  | ok r => simp [bind, Except.bind, pure, Except.pure, Prod.ext_iff, and_assoc, eq_comm]

/-- A blueprint is built exactly if no path is used twice, all variables have names and the text
of every file fits. The project is then what the files are written out as. -/
theorem build_eq_ok_iff :
    b.build = .ok p ↔
      (b.files.map FileBlueprint.path).Nodup ∧ (∀ f ∈ b.files, f.namelessStatement? = none) ∧
        List.Forall₂ (fun q m => q.1.WrittenAs q.2 m) b.files.zipIdx p.modules ∧
        p.types = FileBlueprint.recordedAll b.files.zipIdx {} ∧
        p.classes = .ofList b.classes := by
  rw [build_eq_ok_iff_buildAll, FileBlueprint.buildAll_eq_ok_iff]
  simp [and_assoc]

theorem exists_forall₂_iff {α β : Type} {R : α → β → Prop} {xs : List α} :
    (∃ ys, List.Forall₂ R xs ys) ↔ ∀ x ∈ xs, ∃ y, R x y := by
  induction xs with
  | nil => simp
  | cons x xs ih =>
      rw [List.forall_mem_cons, ← ih]
      simp only [List.forall₂_cons_left_iff]
      constructor
      · rintro ⟨_, y, ys, hy, hys, rfl⟩
        exact ⟨⟨y, hy⟩, ys, hys⟩
      · rintro ⟨⟨y, hy⟩, ys, hys⟩
        exact ⟨y :: ys, y, ys, hy, hys, rfl⟩

/-- A blueprint is accepted exactly if no path is used twice, all variables have names and the text
of every file is small enough. -/
theorem exists_build_iff :
    (∃ p, b.build = .ok p) ↔
      (b.files.map FileBlueprint.path).Nodup ∧
        ∀ f ∈ b.files, f.namelessStatement? = none ∧ f.text.utf8ByteSize < Source.limit := by
  have hfits : (∃ ms, List.Forall₂ (fun q m => q.1.WrittenAs q.2 m) b.files.zipIdx ms) ↔
      ∀ f ∈ b.files, f.text.utf8ByteSize < Source.limit := by
    simp only [exists_forall₂_iff, FileBlueprint.exists_writtenAs_iff]
    conv_rhs => rw [← List.zipIdx_map_fst 0 b.files, List.forall_mem_map]
  constructor
  · rintro ⟨p, hp⟩
    obtain ⟨hd, hnames, hws, -, -⟩ := build_eq_ok_iff.mp hp
    have hsizes := hfits.mp ⟨p.modules, hws⟩
    exact ⟨hd, fun f hf => ⟨hnames f hf, hsizes f hf⟩⟩
  · rintro ⟨hd, hfs⟩
    obtain ⟨ms, hws⟩ := hfits.mpr fun f hf => (hfs f hf).2
    have hnames := fun f hf => (hfs f hf).1
    exact ⟨⟨ms, _, _⟩, build_eq_ok_iff.mpr ⟨hd, hnames, hws, rfl, rfl⟩⟩

/-- No two files have one number. -/
theorem nodup_numbers (b : Blueprint) : (b.files.zipIdx.map Prod.snd).Nodup := by
  rw [List.zipIdx_map_snd]
  exact List.nodup_range' ..

/-- What holds of every file and the module that it is written out as holds of all of them. -/
theorem forall₂_of_build (h : b.build = .ok p) {R : FileBlueprint → Module → Prop}
    (hR : ∀ {i : Nat} {f : FileBlueprint} {m : Module}, b.files[i]? = some f → f.WrittenAs i m → R f m) :
    List.Forall₂ R b.files p.modules := by
  have hws := (build_eq_ok_iff.mp h).2.2.1
  rw [← List.zipIdx_map_fst 0 b.files, List.forall₂_map_left_iff]
  refine (forall₂_and_mem hws).imp ?_
  rintro ⟨f, i⟩ m ⟨hq, hw⟩
  exact hR (List.mem_zipIdx_iff_getElem?.mp hq) hw

theorem length_modules (h : b.build = .ok p) : p.modules.length = b.files.length := by
  have hlength := (build_eq_ok_iff.mp h).2.2.1.length_eq
  rw [List.length_zipIdx] at hlength
  exact hlength.symm

theorem exists_module_of_file (h : b.build = .ok p) {i : Nat} {f : FileBlueprint}
    (hf : b.files[i]? = some f) : ∃ m, p.modules[i]? = some m := by
  obtain ⟨hi, -⟩ := List.getElem?_eq_some_iff.mp hf
  exact ⟨_, List.getElem?_eq_getElem (length_modules h ▸ hi)⟩

theorem exists_file_of_module (h : b.build = .ok p) {i : Nat} {m : Module}
    (hm : p.modules[i]? = some m) : ∃ f, b.files[i]? = some f := by
  obtain ⟨hi, -⟩ := List.getElem?_eq_some_iff.mp hm
  exact ⟨_, List.getElem?_eq_getElem (length_modules h ▸ hi)⟩

/-- The module of a file of a project is the file written out under its number. -/
theorem writtenAs_of_build (h : b.build = .ok p) {i : Nat} {f : FileBlueprint} {m : Module}
    (hf : b.files[i]? = some f) (hm : p.modules[i]? = some m) : f.WrittenAs i m := by
  obtain ⟨hi, rfl⟩ := List.getElem?_eq_some_iff.mp hf
  obtain ⟨hj, rfl⟩ := List.getElem?_eq_some_iff.mp hm
  have hw := (build_eq_ok_iff.mp h).2.2.1.get (by simpa using hi) hj
  simpa using hw

/-- What is noted about an expression is recorded for it, whatever else the project holds. -/
theorem facts_of_build (h : b.build = .ok p) {i : Nat} {f : FileBlueprint}
    (hf : b.files[i]? = some f) {s : Site TypeNote} (hs : s ∈ f.sites) :
    p.types.resolved.get? i s.number = s.expr.note.resolved? ∧
      p.types.inferred.get? i s.number = s.expr.note.inferred := by
  have htypes := (build_eq_ok_iff.mp h).2.2.2.1
  have hmem : (f, i) ∈ b.files.zipIdx := List.mem_zipIdx_iff_getElem?.mpr hf
  rw [htypes]
  constructor
  · refine (SideTable.get?_recordFiles_of_mem TypeNote.resolved? _ b.nodup_numbers hmem hs).trans ?_
    exact Option.or_none
  · refine (SideTable.get?_recordFiles_of_mem TypeNote.inferred _ b.nodup_numbers hmem hs).trans ?_
    exact Option.or_none

theorem exists_build_of_isOk (h : b.build.isOk = true) : ∃ p, b.build = .ok p := by
  cases hb : b.build with
  | ok p => exact ⟨p, rfl⟩
  | error e =>
      rw [hb] at h
      cases h

/-- Nested curly brackets around names and literals with braces, an element that is pushed, and
an index of the wrong type in another file. -/
def sample : Blueprint where
  files :=
    [{ path := "a.php"
       statements :=
         [.access {}
            (some (.access {} (some (.var {} "$é\x7b")) (some (.literal {} "'\x7d\n'")) .curly true))
            (some (.literal {} "0")) .curly true,
          .assign {}
            (.access {}
              (some (.var { types := some (.ofBuiltins [.array])
                            inferred := some (.ofBuiltins [.integer]) } "$x"))
              none .square true)
            (.literal {} "1")] },
     { path := "b.php"
       statements :=
         [.access {} (some (.var { types := some (.ofBuiltins [.array]) } "$a"))
            (some (.literal { types := some (.ofBuiltins [.boolean]) } "true")) .square true] }]

theorem build_sample : ∃ p, sample.build = .ok p := exists_build_of_isOk rfl

end Blueprint

end SubscriptLint
