import SubscriptLint.Project.Blueprint
import SubscriptLint.Project.Layout
import Mathlib.Data.List.Flatten
import Mathlib.Data.List.Infix

/-!
# Sites

A site is an expression at the place in a file where it is written: the text in front of it, its
number, and whether it is assigned to. All of this is read off the statements of the file alone.
Nothing here lays out text or fills a table; later modules compare what does with the sites.
-/

namespace SubscriptLint

/-- The text `a` is a beginning of the text `b`. -/
def Text.Begins (a b : String) : Prop := ∃ rest, b = a ++ rest

namespace Text.Begins

variable {a b c : String}

theorem refl (a : String) : Begins a a := ⟨"", by simp⟩

theorem append (a b : String) : Begins a (a ++ b) := ⟨b, rfl⟩

theorem trans (hab : Begins a b) (hbc : Begins b c) : Begins a c := by
  obtain ⟨x, rfl⟩ := hab
  obtain ⟨y, rfl⟩ := hbc
  exact ⟨x ++ y, String.append_assoc⟩

theorem size_le (h : Begins a b) : a.utf8ByteSize ≤ b.utf8ByteSize := by
  obtain ⟨x, rfl⟩ := h
  simp

end Text.Begins

namespace Bracket

/-- Brackets of both kinds are of one size. -/
@[simp] theorem size_opening (bracket : Bracket) : bracket.opening.toString.utf8ByteSize = 1 := by
  cases bracket <;> rfl

@[simp] theorem size_closing (bracket : Bracket) : bracket.closing.toString.utf8ByteSize = 1 := by
  cases bracket <;> rfl

end Bracket

/-- An expression where it is written in a file. -/
structure Site (α : Type) where
  /-- What is written in front of the expression. -/
  before : String
  /-- The number of expressions that begin in front of it. -/
  number : Nat
  /-- Whether it is the target of an assignment. -/
  target : Bool
  expr : Expr α

namespace Expr

variable {α : Type}

/-- The number of expressions in a tree, the tree itself included. -/
def count (e : Expr α) : Nat := (e.visits false).length

/-- Being assigned to does not change how many expressions there are. -/
@[simp] theorem length_visits (target : Bool) (e : Expr α) :
    (e.visits target).length = e.count := by
  cases e <;> rfl

@[simp] theorem count_var (n : α) (name : String) : (var n name).count = 1 := rfl

@[simp] theorem count_literal (n : α) (text : String) : (literal n text).count = 1 := rfl

@[simp] theorem count_access (n : α) (container index : Option (Expr α)) (bracket : Bracket)
    (closed : Bool) : (access n container index bracket closed).count =
      (visitsOption container).length + (visitsOption index).length + 1 := by
  simp only [count, visits, List.length_cons, List.length_append]

@[simp] theorem count_assign (n : α) (target value : Expr α) :
    (assign n target value).count = target.count + value.count + 1 := by
  rw [← length_visits false, visits]
  simp

@[simp] theorem count_call (n : α) (callee : String) (args : List (Expr α)) :
    (call n callee args).count = (visitsList args).length + 1 := by
  simp only [count, visits, List.length_cons]

@[simp] theorem count_property (n : α) (object : Expr α) (name : String) :
    (property n object name).count = object.count + 1 := by
  simp only [count, visits, List.length_cons]

end Expr

namespace Site

variable {α : Type}

/-- The sites of expressions that stand in a row with `gap` behind each. -/
def row (gap before : String) (number : Nat) : List (Expr α) → List (Site α)
  | [] => []
  | e :: es =>
      ⟨before, number, false, e⟩ :: row gap (before ++ e.render ++ gap) (number + e.count) es

/-- The sites of the direct parts of an expression: the container before the index, the target
before the value, arguments from left to right. -/
def parts (s : Site α) : List (Site α) :=
  match s.expr with
  | .var .. => []
  | .literal .. => []
  | .access _ container index bracket _ =>
      row "" s.before (s.number + 1) container.toList ++
        row "" (s.before ++ Expr.renderOption container ++ bracket.opening.toString)
          (s.number + 1 + (Expr.visitsOption container).length) index.toList
  | .assign _ target value =>
      ⟨s.before, s.number + 1, true, target⟩ ::
        row "" (s.before ++ target.render ++ " = ") (s.number + 1 + target.count) [value]
  | .call _ callee args => row ", " (s.before ++ callee ++ "(") (s.number + 1) args
  | .property _ object _ => row "" s.before (s.number + 1) [object]

theorem mem_of_mem_row {gap before : String} {number : Nat} {es : List (Expr α)} {s : Site α}
    (h : s ∈ row gap before number es) : s.expr ∈ es := by
  induction es generalizing before number with
  | nil => simp [row] at h
  | cons e es ih =>
      rcases List.mem_cons.mp h with rfl | h
      · exact List.mem_cons_self
      · exact List.mem_cons_of_mem e (ih h)

/-- A part is smaller than what it is a part of. -/
theorem sizeOf_lt_of_mem_parts {s p : Site α} (h : p ∈ s.parts) :
    sizeOf p.expr < sizeOf s.expr := by
  obtain ⟨before, number, target, e⟩ := s
  cases e with
  | var n name => simp [parts] at h
  | literal n text => simp [parts] at h
  | access n container index bracket closed =>
      rcases List.mem_append.mp h with h | h
      · have hc := Option.mem_toList.mp (mem_of_mem_row h)
        cases hc
        simp only [Expr.access.sizeOf_spec, Option.some.sizeOf_spec]
        omega
      · have hi := Option.mem_toList.mp (mem_of_mem_row h)
        cases hi
        simp only [Expr.access.sizeOf_spec, Option.some.sizeOf_spec]
        omega
  | assign n left value =>
      rcases List.mem_cons.mp h with rfl | h
      · simp only [Expr.assign.sizeOf_spec]
        omega
      · have hv := List.mem_singleton.mp (mem_of_mem_row h)
        simp only [hv, Expr.assign.sizeOf_spec]
        omega
  | call n callee args =>
      have := List.sizeOf_lt_of_mem (mem_of_mem_row h)
      simp only [Expr.call.sizeOf_spec]
      omega
  | property n object name =>
      have ho := List.mem_singleton.mp (mem_of_mem_row h)
      simp only [ho, Expr.property.sizeOf_spec]
      omega

/-- All sites of a tree in pre-order: each before its parts. -/
def all (s : Site α) : List (Site α) :=
  s :: s.parts.attach.flatMap fun p => p.1.all
termination_by sizeOf s.expr
decreasing_by exact sizeOf_lt_of_mem_parts p.2

theorem all_eq (s : Site α) : s.all = s :: s.parts.flatMap all := by
  rw [all]
  simp

/-- What holds of a site whenever it holds of its parts holds of every site. -/
theorem induction {motive : Site α → Prop}
    (step : ∀ s, (∀ p ∈ s.parts, motive p) → motive s) (s : Site α) : motive s :=
  step s fun p _ => induction step p
termination_by sizeOf s.expr
decreasing_by exact sizeOf_lt_of_mem_parts ‹_›

theorem mem_all_self (s : Site α) : s ∈ s.all := by
  rw [all_eq]
  exact List.mem_cons_self

theorem mem_all_iff {s t : Site α} : t ∈ s.all ↔ t = s ∨ ∃ p ∈ s.parts, t ∈ p.all := by
  rw [all_eq, List.mem_cons, List.mem_flatMap]

/-- The parts of a site of a tree are sites of that tree. -/
theorem mem_all_of_mem_parts {s t p : Site α} (ht : t ∈ s.all) (hp : p ∈ t.parts) : p ∈ s.all := by
  induction s using Site.induction with
  | step s ih =>
      apply mem_all_iff.mpr
      rcases mem_all_iff.mp ht with rfl | ⟨q, hq, htq⟩
      · exact Or.inr ⟨p, hp, mem_all_self p⟩
      · exact Or.inr ⟨q, hq, ih q hq htq⟩

@[simp] theorem row_nil (gap before : String) (number : Nat) :
    row gap before number ([] : List (Expr α)) = [] := rfl

@[simp] theorem row_cons (gap before : String) (number : Nat) (e : Expr α) (es : List (Expr α)) :
    row gap before number (e :: es) =
      ⟨before, number, false, e⟩ :: row gap (before ++ e.render ++ gap) (number + e.count) es := rfl

theorem map_expr_row (gap before : String) (number : Nat) (es : List (Expr α)) :
    (row gap before number es).map expr = es := by
  induction es generalizing before number with
  | nil => rfl
  | cons e es ih => rw [row_cons, List.map_cons, ih]

/-- A site as it is met on a walk through the tree. -/
def visit (s : Site α) : Visit α := ⟨s.expr, s.target⟩

theorem visits_row (gap before : String) (number : Nat) (es : List (Expr α)) :
    (row gap before number es).flatMap (fun p => p.expr.visits p.target) =
      Expr.visitsList es := by
  induction es generalizing before number with
  | nil => rfl
  | cons e es ih => simp [Expr.visitsList, ih]

theorem visits_parts (s : Site α) :
    s.expr.visits s.target = s.visit :: s.parts.flatMap fun p => p.expr.visits p.target := by
  obtain ⟨before, number, target, e⟩ := s
  cases e with
  | var n name => simp [parts, visit, Expr.visits]
  | literal n text => simp [parts, visit, Expr.visits]
  | access n container index bracket closed =>
      cases container <;> cases index <;> simp [parts, visit, Expr.visits, Expr.visitsOption]
  | assign n left value => simp [parts, visit, Expr.visits]
  | call n callee args => simp [parts, visit, Expr.visits, visits_row]
  | property n object name => simp [parts, visit, Expr.visits]

/-- The sites of a tree are met in the order of a walk through it. -/
theorem map_visit_all (s : Site α) : s.all.map visit = s.expr.visits s.target := by
  induction s using Site.induction with
  | step s ih =>
      rw [all_eq, visits_parts, List.map_cons, List.map_flatMap]
      exact congrArg (List.cons s.visit) (List.flatMap_congr ih)

theorem numbers_row (gap before : String) (number : Nat) (es : List (Expr α)) :
    (row gap before number es).flatMap (fun p => List.range' p.number p.expr.count) =
      List.range' number (Expr.visitsList es).length := by
  induction es generalizing before number with
  | nil => rfl
  | cons e es ih =>
      simp only [row_cons, List.flatMap_cons, ih, Expr.visitsList, List.length_append,
        Expr.length_visits]
      exact List.range'_append_1 ..

theorem numbers_parts (s : Site α) :
    s.number :: s.parts.flatMap (fun p => List.range' p.number p.expr.count) =
      List.range' s.number s.expr.count := by
  obtain ⟨before, number, target, e⟩ := s
  cases e with
  | var n name => simp [parts]
  | literal n text => simp [parts]
  | access n container index bracket closed =>
      cases container <;> cases index <;>
        simp [parts, Expr.visitsOption, List.range'_succ, List.range'_append_1]
  | assign n left value => simp [parts, List.range'_succ, List.range'_append_1]
  | call n callee args => simp [parts, numbers_row, List.range'_succ]
  | property n object name => simp [parts, List.range'_succ]

/-- The sites of a tree are numbered one after the other. -/
theorem map_number_all (s : Site α) : s.all.map number = List.range' s.number s.expr.count := by
  induction s using Site.induction with
  | step s ih =>
      rw [all_eq, ← numbers_parts, List.map_cons, List.map_flatMap]
      exact congrArg (List.cons s.number) (List.flatMap_congr ih)

/-- What is written up to the end of the expression. -/
def behind (s : Site α) : String := s.before ++ s.expr.render

theorem before_begins_behind (s : Site α) : Text.Begins s.before s.behind :=
  Text.Begins.append s.before s.expr.render

theorem begins_of_mem_row {gap before : String} {number : Nat} {es : List (Expr α)} {p : Site α}
    (h : p ∈ row gap before number es) : Text.Begins before p.before := by
  induction es generalizing before number with
  | nil => simp at h
  | cons e es ih =>
      rcases List.mem_cons.mp h with rfl | h
      · exact Text.Begins.refl before
      · have hgap := Text.Begins.append before (e.render ++ gap)
        rw [← String.append_assoc] at hgap
        exact hgap.trans (ih h)

/-- Of two expressions in a row, the first ends before the second begins. -/
theorem row_in_order (gap before : String) (number : Nat) (es : List (Expr α)) :
    (row gap before number es).Pairwise fun p q => Text.Begins p.behind q.before := by
  induction es generalizing before number with
  | nil => exact List.Pairwise.nil
  | cons e es ih =>
      rw [row_cons, List.pairwise_cons]
      refine ⟨?_, ih ..⟩
      intro q hq
      exact (Text.Begins.append (before ++ e.render) gap).trans (begins_of_mem_row hq)

theorem behind_of_mem_row {gap before : String} {number : Nat} {es : List (Expr α)} {p : Site α}
    (h : p ∈ row gap before number es) :
    Text.Begins p.behind (before ++ String.join (es.map fun e => e.render ++ gap)) := by
  induction es generalizing before number with
  | nil => simp at h
  | cons e es ih =>
      rcases List.mem_cons.mp h with rfl | h
      · refine ⟨gap ++ String.join (es.map fun e => e.render ++ gap), ?_⟩
        simp [behind, String.append_assoc]
      · simpa [String.append_assoc] using ih h

theorem behind_of_mem_args {before : String} {number : Nat} {args : List (Expr α)} {p : Site α}
    (h : p ∈ row ", " before number args) :
    Text.Begins p.behind (before ++ Expr.renderList args) := by
  induction args generalizing before number with
  | nil => simp at h
  | cons e es ih =>
      rcases List.mem_cons.mp h with rfl | h
      · refine ⟨Expr.renderRest es, ?_⟩
        simp [behind, Expr.renderList, String.append_assoc]
      · cases es with
        | nil => simp at h
        | cons e' es =>
            simpa [Expr.renderList, Expr.renderRest, String.append_assoc] using ih h

theorem mem_row_toList {gap before : String} {number : Nat} {o : Option (Expr α)} {p : Site α} :
    p ∈ row gap before number o.toList ↔ ∃ e, o = some e ∧ p = ⟨before, number, false, e⟩ := by
  cases o <;> simp [row]

/-- A part is written within what it is a part of. -/
theorem part_within {s p : Site α} (h : p ∈ s.parts) :
    Text.Begins s.before p.before ∧ Text.Begins p.behind s.behind := by
  obtain ⟨before, number, target, e⟩ := s
  cases e with
  | var n name => simp [parts] at h
  | literal n text => simp [parts] at h
  | access n container index bracket closed =>
      rcases List.mem_append.mp h with h | h
      · obtain ⟨e, rfl, rfl⟩ := mem_row_toList.mp h
        refine ⟨Text.Begins.refl before, bracket.opening.toString ++ Expr.renderOption index ++
          if closed then bracket.closing.toString else "", ?_⟩
        simp only [behind, Expr.render, Expr.renderOption, String.append_assoc]
      · obtain ⟨e, rfl, rfl⟩ := mem_row_toList.mp h
        refine ⟨⟨Expr.renderOption container ++ bracket.opening.toString, String.append_assoc⟩,
          if closed then bracket.closing.toString else "", ?_⟩
        simp only [behind, Expr.render, Expr.renderOption, String.append_assoc]
  | assign n left value =>
      rcases List.mem_cons.mp h with rfl | h
      · refine ⟨Text.Begins.refl before, " = " ++ value.render, ?_⟩
        simp only [behind, Expr.render, String.append_assoc]
      · obtain rfl := List.mem_singleton.mp h
        refine ⟨⟨left.render ++ " = ", String.append_assoc⟩, "", ?_⟩
        simp only [behind, Expr.render, String.append_assoc, String.append_empty]
  | call n callee args =>
      have hbegins : Text.Begins before (before ++ callee ++ "(") :=
        ⟨callee ++ "(", String.append_assoc⟩
      refine ⟨hbegins.trans (begins_of_mem_row h), (behind_of_mem_args h).trans ⟨")", ?_⟩⟩
      simp only [behind, Expr.render, String.append_assoc]
  | property n object name =>
      obtain rfl := List.mem_singleton.mp h
      refine ⟨Text.Begins.refl before, "->" ++ name, ?_⟩
      simp only [behind, Expr.render, String.append_assoc]

/-- Of two parts of an expression, the first ends before the second begins. -/
theorem parts_in_order (s : Site α) :
    s.parts.Pairwise fun p q => Text.Begins p.behind q.before := by
  obtain ⟨before, number, target, e⟩ := s
  cases e with
  | var n name => exact List.Pairwise.nil
  | literal n text => exact List.Pairwise.nil
  | access n container index bracket closed =>
      refine List.pairwise_append.mpr ⟨row_in_order .., row_in_order .., ?_⟩
      intro p hp q hq
      obtain ⟨e, rfl, rfl⟩ := mem_row_toList.mp hp
      refine Text.Begins.trans ?_ (begins_of_mem_row hq)
      exact Text.Begins.append _ _
  | assign n left value =>
      refine List.pairwise_cons.mpr ⟨?_, row_in_order ..⟩
      intro q hq
      exact (Text.Begins.append _ _).trans (begins_of_mem_row hq)
  | call n callee args => exact row_in_order ..
  | property n object name => exact row_in_order ..

/-- Every site of a tree is written within the tree. -/
theorem within_of_mem_all {s t : Site α} (h : t ∈ s.all) :
    Text.Begins s.before t.before ∧ Text.Begins t.behind s.behind := by
  induction s using Site.induction with
  | step s ih =>
      rcases mem_all_iff.mp h with rfl | ⟨p, hp, htp⟩
      · exact ⟨Text.Begins.refl _, Text.Begins.refl _⟩
      · obtain ⟨hbefore, hbehind⟩ := part_within hp
        obtain ⟨hbefore', hbehind'⟩ := ih p hp htp
        exact ⟨hbefore.trans hbefore', hbehind'.trans hbehind⟩

end Site

namespace FileBlueprint

/-- The sites of the statements of a file. -/
def roots (f : FileBlueprint) : List (Site TypeNote) :=
  Site.row Expr.terminator "" 0 f.statements

/-- The sites of all expressions of a file in pre-order, statement after statement. -/
def sites (f : FileBlueprint) : List (Site TypeNote) := f.roots.flatMap Site.all

/-- The text of a file. -/
def text (f : FileBlueprint) : String := Expr.renderStatements f.statements

variable {f : FileBlueprint} {s p : Site TypeNote}

theorem begins_text_of_mem_sites (h : s ∈ f.sites) : Text.Begins s.behind f.text := by
  obtain ⟨r, hr, hs⟩ := List.mem_flatMap.mp h
  obtain ⟨rest, heq⟩ := Site.behind_of_mem_row hr
  refine (Site.within_of_mem_all hs).2.trans ⟨rest, ?_⟩
  rw [text, Expr.renderStatements, ← heq, String.empty_append]

theorem mem_sites_of_mem_parts (hs : s ∈ f.sites) (hp : p ∈ s.parts) : p ∈ f.sites := by
  obtain ⟨r, hr, hs⟩ := List.mem_flatMap.mp hs
  exact List.mem_flatMap.mpr ⟨r, hr, Site.mem_all_of_mem_parts hs hp⟩

theorem map_visit_sites (f : FileBlueprint) :
    f.sites.map Site.visit = Expr.visitsList f.statements := by
  rw [sites, List.map_flatMap, ← Site.visits_row Expr.terminator "" 0]
  exact List.flatMap_congr fun s _ => Site.map_visit_all s

/-- The expressions of a file are numbered one after the other from zero. -/
theorem map_number_sites (f : FileBlueprint) :
    f.sites.map Site.number = List.range (Expr.visitsList f.statements).length := by
  rw [sites, List.map_flatMap, List.range_eq_range', ← Site.numbers_row Expr.terminator "" 0]
  exact List.flatMap_congr fun s _ => Site.map_number_all s

theorem nodup_number_sites (f : FileBlueprint) : (f.sites.map Site.number).Nodup := by
  rw [map_number_sites]
  exact List.nodup_range

end FileBlueprint

end SubscriptLint
