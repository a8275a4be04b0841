import SubscriptLint.Proofs.Analysis
import SubscriptLint.Proofs.Squaring

/-!
# Curly brackets as square ones

As long as curly brackets are not reported themselves, a project is analysed as if all its brackets
were square (`Blueprint.curly_as_square`). The two texts differ in single characters, so every
expression begins and ends at the same position in both, and nothing else that a problem depends on
can tell the brackets apart.
-/

namespace SubscriptLint

namespace Text

/-- The characters are the same, or a curly bracket has become the square one. -/
inductive SquaredChar : Char → Char → Prop
  | same (c : Char) : SquaredChar c c
  | opening : SquaredChar Bracket.curly.opening Bracket.square.opening
  | closing : SquaredChar Bracket.curly.closing Bracket.square.closing

/-- The texts are the same, but for curly brackets that have become square. -/
def Squared (a b : String) : Prop := List.Forall₂ SquaredChar a.toList b.toList

variable {a b c d : String} {cs ds : List Char}

theorem squared_refl (a : String) : Squared a a :=
  List.forall₂_same.mpr fun c _ => .same c

theorem Squared.append (hab : Squared a b) (hcd : Squared c d) : Squared (a ++ c) (b ++ d) := by
  unfold Squared
  rw [String.toList_append, String.toList_append]
  exact List.rel_append hab hcd

theorem SquaredChar.size_eq {c d : Char} (h : SquaredChar c d) : d.utf8Size = c.utf8Size := by
  cases h <;> rfl

theorem SquaredChar.newline_iff {c d : Char} (h : SquaredChar c d) : d = '\n' ↔ c = '\n' := by
  cases h with
  | same => rfl
  | opening => decide
  | closing => decide

theorem width_of_squared (h : List.Forall₂ SquaredChar cs ds) : width ds = width cs := by
  induction h with
  | nil => rfl
  | cons hcd _ ih => rw [width_cons, width_cons, hcd.size_eq, ih]

theorem Squared.size_eq (h : Squared a b) : b.utf8ByteSize = a.utf8ByteSize := by
  rw [← width_toList, ← width_toList]
  exact width_of_squared h

theorem count_newline_of_squared (h : List.Forall₂ SquaredChar cs ds) :
    ds.count '\n' = cs.count '\n' := by
  induction h with
  | nil => rfl
  | cons hcd _ ih =>
      simp only [List.count_cons, ih, beq_iff_eq, hcd.newline_iff]

theorem lastLine_of_squared (h : List.Forall₂ SquaredChar cs ds) :
    List.Forall₂ SquaredChar (lastLine cs) (lastLine ds) := by
  induction h with
  | nil => exact .nil
  | @cons c d cs ds hcd hrest ih =>
      have hmem : '\n' ∈ d :: ds ↔ '\n' ∈ c :: cs := by
        rw [← List.count_pos_iff, ← List.count_pos_iff,
          count_newline_of_squared (List.Forall₂.cons hcd hrest)]
      simp only [lastLine, hmem]
      split
      · exact ih
      · exact .cons hcd hrest

/-- What stands behind the one text stands at the same position behind the other. -/
theorem Squared.behind_eq (h : Squared a b) : Position.behind b = Position.behind a := by
  rw [Position.behind, Position.behind, count_newline_of_squared h,
    width_of_squared (lastLine_of_squared h)]

end Text

theorem Bracket.opening_squared (bracket : Bracket) :
    Text.Squared bracket.opening.toString Bracket.square.opening.toString := by
  cases bracket with
  | square => exact Text.squared_refl _
  | curly => exact .cons .opening .nil

theorem Bracket.closing_squared (bracket : Bracket) :
    Text.Squared bracket.closing.toString Bracket.square.closing.toString := by
  cases bracket with
  | square => exact Text.squared_refl _
  | curly => exact .cons .closing .nil

namespace Expr

variable {α : Type}

mutual

/-- The tree with the brackets of every access made square. -/
def allSquare : Expr α → Expr α
  | var n name => var n name
  | literal n text => literal n text
  | access n container index _ closed =>
      access n (allSquareOption container) (allSquareOption index) .square closed
  | assign n target value => assign n (allSquare target) (allSquare value)
  | call n callee args => call n callee (allSquareRow args)
  | property n object name => property n (allSquare object) name

/-- The part with all brackets made square, if there is one. -/
def allSquareOption : Option (Expr α) → Option (Expr α)
  | none => none
  | some e => some (allSquare e)

/-- The trees of a row with all brackets made square. -/
def allSquareRow : List (Expr α) → List (Expr α)
  | [] => []
  | e :: es => allSquare e :: allSquareRow es

end

theorem toList_allSquareOption (o : Option (Expr α)) :
    (allSquareOption o).toList = allSquareRow o.toList := by
  cases o <;> rfl

theorem allSquareRow_eq_map (es : List (Expr α)) : allSquareRow es = es.map allSquare := by
  induction es with
  | nil => rfl
  | cons e es ih => rw [allSquareRow, ih, List.map_cons]

@[simp] theorem note_allSquare (e : Expr α) : e.allSquare.note = e.note := by
  cases e <;> rfl

mutual

/-- The text of a tree changes in its brackets only. -/
theorem render_squared (e : Expr α) : Text.Squared e.render e.allSquare.render := by
  cases e with
  | var n name => exact Text.squared_refl _
  | literal n text => exact Text.squared_refl _
  | access n container index bracket closed =>
      have hclosing : Text.Squared (if closed then bracket.closing.toString else "")
          (if closed then Bracket.square.closing.toString else "") := by
        cases closed with
        | false => exact Text.squared_refl _
        | true => exact bracket.closing_squared
      exact (((renderOption_squared container).append bracket.opening_squared).append
        (renderOption_squared index)).append hclosing
  | assign n target value =>
      exact ((render_squared target).append (Text.squared_refl _)).append (render_squared value)
  | call n callee args =>
      simp only [render, allSquare, renderList_eq_row]
      exact ((Text.squared_refl _).append (renderRow_squared _ _ args)).append (Text.squared_refl _)
  | property n object name =>
      exact ((render_squared object).append (Text.squared_refl _)).append (Text.squared_refl _)

theorem renderOption_squared (o : Option (Expr α)) :
    Text.Squared (renderOption o) (renderOption (allSquareOption o)) := by
  cases o with
  | none => exact Text.squared_refl _
  | some e => exact render_squared e

theorem renderRow_squared (gap last : String) (es : List (Expr α)) :
    Text.Squared (renderRow gap last es) (renderRow gap last (allSquareRow es)) := by
  cases es with
  | nil => exact Text.squared_refl _
  | cons e es =>
      have hend : (allSquareRow es).isEmpty = es.isEmpty := by
        rw [allSquareRow_eq_map, List.isEmpty_map]
      simp only [renderRow, allSquareRow, hend]
      exact ((render_squared e).append (Text.squared_refl _)).append (renderRow_squared gap last es)

end

end Expr

/-- The sites are of one expression, the second one of its form with square brackets. What is
written in front of them differs in brackets only. -/
structure Site.Squares {α : Type} (s t : Site α) : Prop where
  before : Text.Squared s.before t.before
  target : t.target = s.target
  expr : t.expr = s.expr.allSquare

namespace Site

variable {α : Type} {s t : Site α}

theorem Squares.behind (h : s.Squares t) : Text.Squared s.behind t.behind := by
  rw [Site.behind, Site.behind, h.expr]
  exact h.before.append s.expr.render_squared

theorem row_squares (gap : String) {before before' : String} (h : Text.Squared before before')
    (number number' : Nat) (es : List (Expr α)) :
    List.Forall₂ Squares (row gap before number es)
      (row gap before' number' (Expr.allSquareRow es)) := by
  induction es generalizing before before' number number' with
  | nil => exact .nil
  | cons e es ih =>
      refine .cons ⟨h, rfl, rfl⟩ (ih ?_ _ _)
      exact (h.append e.render_squared).append (Text.squared_refl gap)

/-- The parts of an expression are changed one by one. -/
theorem parts_squares (h : s.Squares t) : List.Forall₂ Squares s.parts t.parts := by
  obtain ⟨before, number, target, e⟩ := s
  obtain ⟨before', number', target', e'⟩ := t
  obtain ⟨hbefore, htarget, hexpr⟩ := h
  simp only at hbefore htarget hexpr
  subst htarget hexpr
  cases e with
  | var n name => exact .nil
  | literal n text => exact .nil
  | access n container index bracket closed =>
      simp only [parts, Expr.allSquare, Expr.toList_allSquareOption]
      refine List.rel_append (row_squares _ hbefore _ _ _) (row_squares _ ?_ _ _ _)
      exact (hbefore.append (Expr.renderOption_squared container)).append bracket.opening_squared
  | assign n left value =>
      refine .cons ⟨hbefore, rfl, rfl⟩ (row_squares _ ?_ _ _ [value])
      exact (hbefore.append left.render_squared).append (Text.squared_refl _)
  | call n callee args =>
      refine row_squares _ ?_ _ _ args
      exact (hbefore.append (Text.squared_refl _)).append (Text.squared_refl _)
  | property n object name => exact row_squares _ hbefore _ _ [object]

/-- Both trees have their sites in the same order. -/
theorem all_squares (h : s.Squares t) : List.Forall₂ Squares s.all t.all := by
  induction s using Site.induction generalizing t with
  | step s ih =>
      rw [all_eq, all_eq]
      refine .cons h (List.rel_flatMap (forall₂_and_mem (parts_squares h)) ?_)
      rintro p q ⟨hp, hpq⟩
      exact ih p hp hpq

end Site

namespace Expr

variable {α : Type}

/-- A walk meets the same expressions with their brackets square. -/
theorem visits_allSquare (e : Expr α) (target : Bool) :
    e.allSquare.visits target =
      (e.visits target).map fun v => ⟨v.expr.allSquare, v.target⟩ := by
  have hsites := Site.all_squares (s := ⟨"", 0, target, e⟩) (t := ⟨"", 0, target, e.allSquare⟩)
    ⟨.nil, rfl, rfl⟩
  have hs := Site.map_visit_all ⟨"", 0, target, e⟩
  have ht := Site.map_visit_all ⟨"", 0, target, e.allSquare⟩
  simp only at hs ht
  rw [← hs, ← ht, List.map_map, eq_comm, ← List.forall₂_eq_eq_eq, List.forall₂_map_left_iff,
    List.forall₂_map_right_iff]
  refine hsites.imp ?_
  intro p q hpq
  simp only [Function.comp, Site.visit, hpq.expr, hpq.target]

theorem hasNameless_allSquare (e : Expr α) : e.allSquare.hasNameless = e.hasNameless := by
  have hnode : ∀ d : Expr α, d.allSquare.isNameless = d.isNameless := by
    intro d
    cases d <;> rfl
  rw [hasNameless, visits_allSquare, List.any_map, hasNameless]
  simp only [Function.comp_def, hnode]

end Expr

namespace FileBlueprint

/-- The file with the brackets of every access made square. -/
def allSquare (f : FileBlueprint) : FileBlueprint :=
  { f with statements := Expr.allSquareRow f.statements }

variable (f : FileBlueprint)

theorem namelessStatement?_allSquare : f.allSquare.namelessStatement? = f.namelessStatement? := by
  simp only [namelessStatement?, allSquare, Expr.allSquareRow_eq_map, List.findIdx?_map,
    Function.comp_def, Expr.hasNameless_allSquare]

theorem text_squared : Text.Squared f.text f.allSquare.text := by
  simp only [text, allSquare, Expr.renderStatements_eq_row]
  exact Expr.renderRow_squared _ _ f.statements

theorem sites_squares : List.Forall₂ Site.Squares f.sites f.allSquare.sites := by
  apply List.rel_flatMap (Site.row_squares _ (Text.squared_refl "") 0 0 f.statements)
  exact fun _ _ h => Site.all_squares h

end FileBlueprint

namespace Blueprint

/-- The blueprint with the brackets of every access in every file made square. -/
def allSquare (b : Blueprint) : Blueprint := { b with files := b.files.map FileBlueprint.allSquare }

/-- Making all brackets square does not make a blueprint unacceptable. -/
theorem exists_build_allSquare {b : Blueprint} {p : Project} (h : b.build = .ok p) :
    ∃ p', b.allSquare.build = .ok p' := by
  obtain ⟨hd, hfs⟩ := exists_build_iff.mp ⟨p, h⟩
  apply exists_build_iff.mpr
  simp only [allSquare, List.map_map, List.forall_mem_map]
  refine ⟨hd, ?_⟩
  intro f hf
  rw [f.namelessStatement?_allSquare, f.text_squared.size_eq]
  exact hfs f hf

end Blueprint

/-- The second message is the first one, but for the brackets of a container that it shows. -/
inductive Subscripts.Squares (e : Expr TypeNote) : String → String → Prop
  | same (message : String) : Squares e message message
  | noSupport {n : TypeNote} {container : Expr TypeNote} {index : Option (Expr TypeNote)}
      {bracket : Bracket} {closed : Bool}
      (he : e = .access n (some container) index bracket closed) (types : TypeSet) :
      Squares e (noSupport container.render types) (noSupport container.allSquare.render types)

theorem Subscripts.Squares.squared {e : Expr TypeNote} {message message' : String}
    (h : Squares e message message') : Text.Squared message message' := by
  cases h with
  | same => exact Text.squared_refl message
  | @noSupport _ container _ _ _ _ types =>
      have htypes := Text.squared_refl types.text
      exact (((((Text.squared_refl _).append container.render_squared).append
        (Text.squared_refl _)).append htypes).append (Text.squared_refl _))

/-- The problems are the same and come without a fix. Only the brackets in the expression that they
are about are square in the second one, where it is shown and where its container is. -/
structure Problem.Squares (f : FileBlueprint) (q r : Problem) : Prop where
  inspection : r.inspection = q.inspection
  severity : r.severity = q.severity
  file : q.file = f.path ∧ r.file = f.path
  start : r.start = q.start
  stop : r.stop = q.stop
  fix : q.fix = none ∧ r.fix = none
  anchor : Text.Squared q.anchor r.anchor
  message : Text.Squared q.message r.message
  shown : ∃ v ∈ Expr.visitsList f.statements, q.anchor = v.expr.render ∧
    r.anchor = v.expr.allSquare.render ∧ Subscripts.Squares v.expr q.message r.message

namespace Site

variable {o : Options} {cat : Catalog} {f : FileBlueprint} {s t : Site TypeNote} {n : TypeNote}
  {container : Expr TypeNote} {index : Option (Expr TypeNote)} {bracket : Bracket}

theorem problem_squares (hs : s ∈ f.sites) (h : s.Squares t) {message message' : String}
    (hmessage : Subscripts.Squares s.expr message message') (severity : Severity) :
    Problem.Squares f (s.problem f.path message severity) (t.problem f.path message' severity) where
  inspection := rfl
  severity := rfl
  file := ⟨rfl, rfl⟩
  start := h.before.behind_eq
  stop := h.behind.behind_eq
  fix := ⟨rfl, rfl⟩
  anchor := by
    simp only [problem, h.expr]
    exact s.expr.render_squared
  message := hmessage.squared
  shown := by
    refine ⟨s.visit, ?_, rfl, congrArg Expr.render h.expr, hmessage⟩
    rw [← f.map_visit_sites]
    exact List.mem_map_of_mem hs

theorem containerTypes_squares (h : s.Squares t) (o : Options) (container : Expr TypeNote)
    (index : Option (Expr TypeNote)) :
    t.containerTypes o container.allSquare (Expr.allSquareOption index) =
      s.containerTypes o container index := by
  have hindex : (Expr.allSquareOption index).isNone = index.isNone := by
    cases index <;> rfl
  rw [containerTypes, containerTypes, h.target, hindex, Expr.note_allSquare]

theorem index_squares (h : s.Squares t) (container i : Expr TypeNote) (bracket : Bracket) :
    (s.index container i bracket).Squares (t.index container.allSquare i.allSquare .square) where
  before := (h.before.append container.render_squared).append bracket.opening_squared
  target := rfl
  expr := rfl

theorem expectedOfIndex_squares (hs : s ∈ f.sites) (h : s.Squares t) (accepted : TypeSet) :
    List.Forall₂ (Problem.Squares f) (expectedOfIndex o f.path accepted s)
      (expectedOfIndex o f.path accepted t) := by
  simp only [expectedOfIndex, h.expr, Expr.note_allSquare]
  split
  · exact .nil
  · exact .cons (problem_squares hs h (.same _) .warning) .nil

/-- A container without subscripts is reported whatever the brackets are. -/
theorem expected_of_unsupported (ho : o.promoteSquareBrackets = false)
    (he : s.expr = .access n (some container) index bracket true) {reported : TypeSet}
    (hv : cat.judged (s.containerTypes o container index) = .unsupported reported) (file : String) :
    s.expected o cat file =
      [s.problem file (Subscripts.noSupport container.render reported) .warning] := by
  simp only [expected, he, ho, hv, Bool.false_eq_true, and_false, if_false]

/-- The index is looked into whatever the brackets are. -/
theorem expected_of_supported (ho : o.promoteSquareBrackets = false)
    (he : s.expr = .access n (some container) index bracket true) {accepted : TypeSet}
    (hv : cat.judged (s.containerTypes o container index) = .supported accepted) (file : String) :
    s.expected o cat file =
      index.elim [] fun i => expectedOfIndex o file accepted (s.index container i bracket) := by
  simp only [expected, he, ho, hv, Bool.false_eq_true, and_false, if_false]

/-- The problems of an access are those that it has with square brackets. Nothing but the option
that is off asks for the brackets. -/
theorem expected_squares (ho : o.promoteSquareBrackets = false) (hs : s ∈ f.sites)
    (h : s.Squares t) :
    List.Forall₂ (Problem.Squares f) (s.expected o cat f.path) (t.expected o cat f.path) := by
  have ht := h.expr
  cases he : s.expr with
  | access n container index bracket closed =>
      rw [he] at ht
      -- Without a container or a closing bracket, both accesses are passed over.
      cases container with
      | none =>
          simp only [expected, he, ht, Expr.allSquare, Expr.allSquareOption]
          exact .nil
      | some container =>
          cases closed with
          | false =>
              simp only [expected, he, ht, Expr.allSquare, Expr.allSquareOption]
              exact .nil
          | true =>
              have htypes := congrArg cat.judged (containerTypes_squares h o container index)
              cases hv : cat.judged (s.containerTypes o container index) with
              | unsupported reported =>
                  rw [expected_of_unsupported ho he hv,
                    expected_of_unsupported ho ht (htypes.trans hv)]
                  exact .cons (problem_squares hs h (.noSupport he reported) .warning) .nil
              | supported accepted =>
                  rw [expected_of_supported ho he hv, expected_of_supported ho ht (htypes.trans hv)]
                  cases index with
                  | none => exact .nil
                  | some i =>
                      have hi := FileBlueprint.index_mem_sites hs he
                      have hindex := index_squares h container i bracket
                      exact expectedOfIndex_squares hi hindex accepted
  | _ =>
      rw [he] at ht
      simp only [expected, he, ht, Expr.allSquare]
      exact .nil

end Site

theorem FileBlueprint.reported_squares (f : FileBlueprint) {o : Options}
    (ho : o.promoteSquareBrackets = false) (cat : Catalog) :
    List.Forall₂ (Problem.Squares f) (f.reported o cat) (f.allSquare.reported o cat) := by
  unfold reported
  split
  · refine List.rel_flatMap (forall₂_and_mem f.sites_squares) ?_
    rintro s t ⟨hs, hst⟩
    exact Site.expected_squares ho hs hst
  · exact .nil

/-- With curly brackets not reported themselves, a project has the same problems as the project
with all brackets square: one by one, at the same positions, without fixes, and with the same texts
but for the brackets of the expressions that these show. -/
theorem Blueprint.curly_as_square {b : Blueprint} {p : Project} (h : b.build = .ok p) {o : Options}
    (ho : o.promoteSquareBrackets = false) :
    ∃ p' problems problems', b.allSquare.build = .ok p' ∧
      ({ options := o } : Linter).checkProject p = .ok problems ∧
      ({ options := o } : Linter).checkProject p' = .ok problems' ∧
      List.Forall₂ (fun q r => ∃ f ∈ b.files, Problem.Squares f q r) problems problems' := by
  obtain ⟨p', hp'⟩ := exists_build_allSquare h
  refine ⟨p', _, _, hp', checkProject_eq_reported h o, checkProject_eq_reported hp' o, ?_⟩
  have hfiles : List.Forall₂ (fun f g => f ∈ b.files ∧ g = f.allSquare) b.files
      b.allSquare.files := by
    rw [allSquare, List.forall₂_map_right_iff, List.forall₂_same]
    exact fun f hf => ⟨hf, rfl⟩
  refine List.rel_flatMap hfiles ?_
  rintro f _ ⟨hf, rfl⟩
  refine (f.reported_squares ho _).imp ?_
  intro q r hqr
  exact ⟨f, hf, hqr⟩

/-- An integer with two indexes in curly brackets, around texts with braces of their own. Behind it
stand an access without its closing bracket and one without a container. -/
def Blueprint.curlySample : Blueprint where
  files :=
    [{ path := "a.php"
       statements :=
         [.access {}
            (some (.access { types := some (.ofBuiltins [.integer]) } (some (.var {} "$x\x7b"))
              (some (.literal {} "'\x7d'")) .curly true))
            (some (.literal {} "0")) .curly true,
          .access {} (some (.var { types := some (.ofBuiltins [.integer]) } "$y")) none .curly
            false,
          .access {} none (some (.literal {} "1")) .curly true] }]

/-- One problem in both projects. The braces in the name and in the literal are left alone. -/
theorem Blueprint.curlySample_as_square :
    ∃ p p' problems problems', curlySample.build = .ok p ∧ curlySample.allSquare.build = .ok p' ∧
      ({ promoteSquareBrackets := false } : Options).promoteSquareBrackets = false ∧
      ({ options := { promoteSquareBrackets := false } } : Linter).checkProject p = .ok problems ∧
      ({ options := { promoteSquareBrackets := false } } : Linter).checkProject p' =
        .ok problems' ∧
      List.Forall₂ (fun q r => ∃ f ∈ curlySample.files, Problem.Squares f q r) problems problems' ∧
      problems.map Problem.anchor = ["$x\x7b\x7b'\x7d'\x7d\x7b0\x7d"] ∧
      problems'.map Problem.anchor = ["$x\x7b['\x7d'][0]"] := by
  obtain ⟨p, hp⟩ := exists_build_of_isOk (b := curlySample) rfl
  have ho : ({ promoteSquareBrackets := false } : Options).promoteSquareBrackets = false := rfl
  obtain ⟨p', problems, problems', hp', hproblems, hproblems', hall⟩ := curly_as_square hp ho
  have hanchors : (curlySample.build.toOption.bind fun p =>
      (({ options := { promoteSquareBrackets := false } } : Linter).checkProject p).toOption).map
        (List.map Problem.anchor) = some ["$x\x7b\x7b'\x7d'\x7d\x7b0\x7d"] := rfl
  have hanchors' : (curlySample.allSquare.build.toOption.bind fun p =>
      (({ options := { promoteSquareBrackets := false } } : Linter).checkProject p).toOption).map
        (List.map Problem.anchor) = some ["$x\x7b['\x7d'][0]"] := rfl
  simp only [hp, Except.toOption, Option.bind_some, hproblems, Option.map_some,
    Option.some.injEq] at hanchors
  simp only [hp', Except.toOption, Option.bind_some, hproblems', Option.map_some,
    Option.some.injEq] at hanchors'
  exact ⟨p, p', problems, problems', hp, hp', ho, hproblems, hproblems', hall, hanchors, hanchors'⟩

end SubscriptLint
