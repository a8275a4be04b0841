import SubscriptLint.Proofs.Edits
import SubscriptLint.Proofs.Expectation

/-!
# Making brackets square

A tree with the brackets of some accesses made square is written with as many bytes as before, so
everything in it stays where it was. The edits that replace those brackets in the text of the tree
are pairwise apart, and applying them gives the text of the changed tree, whatever stands around it.
-/

namespace SubscriptLint

namespace Expr

variable {α : Type}

mutual

/-- The tree with the brackets of chosen accesses made square. Accesses are chosen by number. -/
def square (chosen : List Nat) (number : Nat) : Expr α → Expr α
  | var n name => var n name
  | literal n text => literal n text
  | access n container index bracket closed =>
      access n (squareOption chosen (number + 1) container)
        (squareOption chosen (number + 1 + (visitsOption container).length) index)
        (if number ∈ chosen then .square else bracket) closed
  | assign n target value =>
      assign n (square chosen (number + 1) target) (square chosen (number + 1 + target.count) value)
  | call n callee args => call n callee (squareRow chosen (number + 1) args)
  | property n object name => property n (square chosen (number + 1) object) name

/-- The part with brackets made square, if there is one. -/
def squareOption (chosen : List Nat) (number : Nat) : Option (Expr α) → Option (Expr α)
  | none => none
  | some e => some (square chosen number e)

/-- The trees of a row with brackets made square. -/
def squareRow (chosen : List Nat) (number : Nat) : List (Expr α) → List (Expr α)
  | [] => []
  | e :: es => square chosen number e :: squareRow chosen (number + e.count) es

end

/-- The text of expressions in a row: each is followed by `gap`, the last one by `last`. -/
def renderRow (gap last : String) : List (Expr α) → String
  | [] => ""
  | e :: es => e.render ++ (if es.isEmpty then last else gap) ++ renderRow gap last es

theorem renderOption_eq_row (o : Option (Expr α)) :
    renderOption o = renderRow "" "" o.toList := by
  cases o <;> simp [renderOption, renderRow]

theorem renderList_eq_row (es : List (Expr α)) : renderList es = renderRow ", " "" es := by
  induction es with
  | nil => rfl
  | cons e es ih =>
      cases es with
      | nil => simp [renderList, renderRest, renderRow]
      | cons e' es =>
          rw [renderRow, ← ih]
          simp [renderList, renderRest, String.append_assoc]

theorem renderStatements_eq_row (es : List (Expr α)) :
    renderStatements es = renderRow terminator terminator es := by
  induction es with
  | nil => rfl
  | cons e es ih =>
      rw [renderRow, ← ih]
      simp [renderStatements]

theorem squareOption_toList (chosen : List Nat) (number : Nat) (o : Option (Expr α)) :
    (squareOption chosen number o).toList = squareRow chosen number o.toList := by
  cases o <;> rfl

@[simp] theorem isEmpty_squareRow (chosen : List Nat) (number : Nat) (es : List (Expr α)) :
    (squareRow chosen number es).isEmpty = es.isEmpty := by
  cases es <;> rfl

mutual

/-- Making brackets square changes no sizes. -/
@[simp] theorem size_square (chosen : List Nat) (number : Nat) (e : Expr α) :
    (square chosen number e).render.utf8ByteSize = e.render.utf8ByteSize := by
  cases e with
  | var n name => rfl
  | literal n text => rfl
  | access n container index bracket closed =>
      simp only [square, render, String.utf8ByteSize_append, Bracket.size_opening]
      rw [size_squareOption, size_squareOption]
      cases closed with
      | false => rfl
      | true => simp only [if_true, Bracket.size_closing]
  | assign n target value =>
      simp only [square, render, String.utf8ByteSize_append]
      rw [size_square, size_square]
  | call n callee args =>
      simp only [square, render, String.utf8ByteSize_append, renderList_eq_row]
      rw [size_squareRow]
  | property n object name =>
      simp only [square, render, String.utf8ByteSize_append]
      rw [size_square]

@[simp] theorem size_squareOption (chosen : List Nat) (number : Nat) (o : Option (Expr α)) :
    (renderOption (squareOption chosen number o)).utf8ByteSize =
      (renderOption o).utf8ByteSize := by
  cases o with
  | none => rfl
  | some e => exact size_square chosen number e

@[simp] theorem size_squareRow (gap last : String) (chosen : List Nat) (number : Nat)
    (es : List (Expr α)) :
    (renderRow gap last (squareRow chosen number es)).utf8ByteSize =
      (renderRow gap last es).utf8ByteSize := by
  cases es with
  | nil => rfl
  | cons e es =>
      simp only [squareRow, renderRow, isEmpty_squareRow, String.utf8ByteSize_append]
      rw [size_square, size_squareRow]

end

end Expr

namespace Site

open TextEdit

variable {α : Type} {s : Site α} {chosen : List Nat} {n : α} {container : Expr α}
  {index : Option (Expr α)}

/-- Whether the brackets of the expression could be made square by a fix: it is an access with a
container, and both brackets are there and are curly. -/
def isFlagged (s : Site α) : Bool :=
  match s.expr with
  | .access _ (some _) _ .curly true => true
  | _ => false

theorem isFlagged_iff :
    s.isFlagged = true ↔
      ∃ n container index, s.expr = .access n (some container) index .curly true := by
  unfold isFlagged
  constructor
  · intro h
    split at h
    · next n container index he => exact ⟨n, container, index, he⟩
    · cases h
  · rintro ⟨n, container, index, he⟩
    rw [he]

/-- The edits of an access that has been chosen. -/
def editsIn (chosen : List Nat) (s : Site α) : List TextEdit :=
  if s.number ∈ chosen then s.bracketEdits else []

/-- The edits of an access make its brackets square. They depend on the size of what is in front of
the access only. -/
theorem replaceAll?_bracketEdits (he : s.expr = .access n (some container) index .curly true)
    {front : String} (hfront : front.utf8ByteSize = s.before.utf8ByteSize) (rest : String) :
    replaceAll? s.bracketEdits (front ++ s.expr.render ++ rest) =
      some (front ++ (Expr.access n (some container) index .square true).render ++ rest) := by
  have hbehind := congrArg String.utf8ByteSize (behind_of_access he)
  simp only [String.utf8ByteSize_append, Bracket.size_opening, Bracket.size_closing] at hbehind
  have hopen : replace? ⟨⟨(s.before ++ container.render).utf8ByteSize,
        (s.before ++ container.render).utf8ByteSize + 1⟩, "["⟩ (front ++ s.expr.render ++ rest) =
      some (front ++ container.render ++ "[" ++
        (Expr.renderOption index ++ Bracket.curly.closing.toString ++ rest)) := by
    apply replace?_eq_some_iff.mpr
    refine ⟨front ++ container.render, Bracket.curly.opening.toString, _, ?_, ?_, ?_, rfl⟩
    · simp only [he, Expr.render, Expr.renderOption, if_true, String.append_assoc]
    · simp only [String.utf8ByteSize_append, hfront]
    · simp only [String.utf8ByteSize_append, hfront, Bracket.size_opening]
  have hclose : replace? ⟨⟨s.behind.utf8ByteSize - 1, s.behind.utf8ByteSize - 1 + 1⟩, "]"⟩
        (front ++ container.render ++ "[" ++
          (Expr.renderOption index ++ Bracket.curly.closing.toString ++ rest)) =
      some (front ++ container.render ++ "[" ++ Expr.renderOption index ++ "]" ++ rest) := by
    have hsize : "[".utf8ByteSize = 1 := rfl
    apply replace?_eq_some_iff.mpr
    refine ⟨front ++ container.render ++ "[" ++ Expr.renderOption index,
      Bracket.curly.closing.toString, rest, ?_, ?_, ?_, rfl⟩
    · simp only [String.append_assoc]
    · simp only [String.utf8ByteSize_append, hfront, hsize]
      omega
    · simp only [String.utf8ByteSize_append, hfront, hsize, Bracket.size_closing]
      omega
  rw [bracketEdits, containerText_of_access he]
  refine (congrArg (Option.bind · _) hopen).trans (hclose.trans ?_)
  simp only [Expr.render, Expr.renderOption, if_true, String.append_assoc]
  rfl

/-- Wherever the expression stands, the edits in it give the expression with its brackets square. -/
def SquaredByEdits (chosen : List Nat) (s : Site α) : Prop :=
  ∀ front rest : String, front.utf8ByteSize = s.before.utf8ByteSize →
    replaceAll? (s.all.flatMap (editsIn chosen)) (front ++ s.expr.render ++ rest) =
      some (front ++ (s.expr.square chosen s.number).render ++ rest)

/-- The edits in a row of expressions apply to one after the other. -/
theorem replaceAll?_row {gap before : String} {number : Nat} {es : List (Expr α)}
    (h : ∀ p ∈ row gap before number es, p.SquaredByEdits chosen) (last front : String)
    (hfront : front.utf8ByteSize = before.utf8ByteSize) (rest : String) :
    replaceAll? ((row gap before number es).flatMap fun p => p.all.flatMap (editsIn chosen))
        (front ++ Expr.renderRow gap last es ++ rest) =
      some (front ++ Expr.renderRow gap last (Expr.squareRow chosen number es) ++ rest) := by
  induction es generalizing before number front with
  | nil => rfl
  | cons e es ih =>
      have he := h _ List.mem_cons_self front
        ((if es.isEmpty then last else gap) ++ Expr.renderRow gap last es ++ rest) hfront
      rw [row_cons, List.flatMap_cons, replaceAll?_append]
      simp only [Expr.renderRow, Expr.squareRow, Expr.isEmpty_squareRow, String.append_assoc] at he ⊢
      rw [he, Option.bind_some]
      -- What has been edited is as long as before, so the next expression stands at its offset.
      cases es with
      | nil => rfl
      | cons e' es =>
          have hnext := ih (fun p hp => h p (List.mem_cons_of_mem _ hp))
            (front ++ (e.square chosen number).render ++ gap)
            (by simp only [String.utf8ByteSize_append, Expr.size_square, hfront])
          simpa only [String.append_assoc, List.isEmpty_cons, Bool.false_eq_true, if_false]
            using hnext

/-- The edits in the parts of an access apply whichever brackets the access has by then. -/
theorem replaceAll?_accessParts {before : String} {number : Nat} {target closed : Bool}
    {container index : Option (Expr α)} {bracket : Bracket}
    (h : ∀ p ∈ parts ⟨before, number, target, .access n container index bracket closed⟩,
      p.SquaredByEdits chosen) (bracket' : Bracket)
    {front : String} (hfront : front.utf8ByteSize = before.utf8ByteSize) (rest : String) :
    replaceAll? ((parts ⟨before, number, target, .access n container index bracket closed⟩).flatMap
        fun p => p.all.flatMap (editsIn chosen))
        (front ++ (Expr.access n container index bracket' closed).render ++ rest) =
      some (front ++ (Expr.access n (Expr.squareOption chosen (number + 1) container)
        (Expr.squareOption chosen (number + 1 + (Expr.visitsOption container).length) index)
        bracket' closed).render ++ rest) := by
  have hcontainer := replaceAll?_row (fun p hp => h p (List.mem_append_left _ hp)) "" front hfront
    (bracket'.opening.toString ++ Expr.renderOption index ++
      (if closed then bracket'.closing.toString else "") ++ rest)
  have hindex := replaceAll?_row (fun p hp => h p (List.mem_append_right _ hp)) ""
    (front ++ Expr.renderOption (Expr.squareOption chosen (number + 1) container) ++
      bracket'.opening.toString)
    (by simp only [String.utf8ByteSize_append, Bracket.size_opening, Expr.size_squareOption, hfront])
    ((if closed then bracket'.closing.toString else "") ++ rest)
  simp only [← Expr.squareOption_toList, ← Expr.renderOption_eq_row] at hcontainer hindex
  simp only [parts, List.flatMap_append, Expr.render, String.append_assoc] at hcontainer hindex ⊢
  rw [replaceAll?_append, hcontainer, Option.bind_some, hindex]

theorem editsIn_eq_nil (hflagged : s.number ∈ chosen → s.isFlagged = true)
    (hs : s.isFlagged = false) : editsIn chosen s = [] := by
  unfold editsIn
  split
  · next hmem =>
      rw [hflagged hmem] at hs
      cases hs
  · rfl

/-- If the edits in the parts of an expression do, those in the expression make brackets square. -/
theorem squaredByEdits_of_parts (h : ∀ p ∈ s.parts, p.SquaredByEdits chosen)
    (hflagged : s.number ∈ chosen → s.isFlagged = true) : s.SquaredByEdits chosen := by
  intro front rest hfront
  have hedits : s.all.flatMap (editsIn chosen) =
      editsIn chosen s ++ s.parts.flatMap fun p => p.all.flatMap (editsIn chosen) := by
    rw [all_eq, List.flatMap_cons, List.flatMap_assoc]
  rw [hedits, replaceAll?_append]
  obtain ⟨before, number, target, e⟩ := s
  cases e with
  | var n name =>
      rw [editsIn_eq_nil hflagged rfl, replaceAll?_nil]
      rfl
  | literal n text =>
      rw [editsIn_eq_nil hflagged rfl, replaceAll?_nil]
      rfl
  | access n container index bracket closed =>
      -- The outer brackets are replaced first; the parts do not move.
      have hown : replaceAll? (editsIn chosen ⟨before, number, target,
            .access n container index bracket closed⟩)
          (front ++ (Expr.access n container index bracket closed).render ++ rest) =
          some (front ++ (Expr.access n container index
            (if number ∈ chosen then .square else bracket) closed).render ++ rest) := by
        by_cases hmem : number ∈ chosen
        · obtain ⟨_, c, i, he⟩ := isFlagged_iff.mp (hflagged hmem)
          simp only [editsIn, if_pos hmem]
          cases he
          exact replaceAll?_bracketEdits rfl hfront rest
        · simp only [editsIn, if_neg hmem]
          rfl
      rw [hown, Option.bind_some]
      exact replaceAll?_accessParts h _ hfront rest
  | assign n left value =>
      rw [editsIn_eq_nil hflagged rfl, replaceAll?_nil, Option.bind_some]
      have hleft := h _ List.mem_cons_self front (" = " ++ value.render ++ rest) hfront
      have hvalue := replaceAll?_row (fun p hp => h p (List.mem_cons_of_mem _ hp)) ""
        (front ++ (left.square chosen (number + 1)).render ++ " = ")
        (by simp only [String.utf8ByteSize_append, Expr.size_square, hfront]) rest
      simp only [Expr.renderRow, Expr.squareRow, List.isEmpty_nil, if_true, String.append_empty,
        String.append_assoc] at hleft hvalue
      simp only [parts, List.flatMap_cons, Expr.render, Expr.square, String.append_assoc]
      rw [replaceAll?_append, hleft, Option.bind_some, hvalue]
  | call n callee args =>
      rw [editsIn_eq_nil hflagged rfl, replaceAll?_nil, Option.bind_some]
      have hargs := replaceAll?_row h "" (front ++ callee ++ "(")
        (by simp only [String.utf8ByteSize_append, hfront]) (")" ++ rest)
      simpa only [parts, Expr.render, Expr.square, Expr.renderList_eq_row, String.append_assoc]
        using hargs
  | property n object name =>
      rw [editsIn_eq_nil hflagged rfl, replaceAll?_nil, Option.bind_some]
      have hobject := replaceAll?_row h "" front hfront ("->" ++ name ++ rest)
      simpa only [parts, Expr.render, Expr.square, Expr.renderRow, Expr.squareRow, List.isEmpty_nil,
        if_true, String.append_empty, String.append_assoc] using hobject

/-- The edits of the chosen accesses in an expression make the brackets of these square. -/
theorem squaredByEdits (hflagged : ∀ t ∈ s.all, t.number ∈ chosen → t.isFlagged = true) :
    s.SquaredByEdits chosen := by
  induction s using Site.induction with
  | step s ih =>
      apply squaredByEdits_of_parts
      · intro p hp
        apply ih p hp
        intro t ht
        exact hflagged t (mem_all_iff.mpr (Or.inr ⟨p, hp, ht⟩))
      · exact hflagged s s.mem_all_self

theorem size_containerText {bracket : Bracket}
    (he : s.expr = .access n (some container) index bracket true) :
    (s.before ++ s.containerText).utf8ByteSize + 1 + (Expr.renderOption index).utf8ByteSize + 1 =
      s.behind.utf8ByteSize := by
  rw [behind_of_access he, containerText_of_access he]
  simp only [String.utf8ByteSize_append, Bracket.size_opening, Bracket.size_closing]
  omega

/-- The edits of an access are within it, apart from each other, and keep the size of the text. -/
theorem bracketEdits_within (hs : s.isFlagged = true) {e : TextEdit} (he : e ∈ s.bracketEdits) :
    s.before.utf8ByteSize ≤ e.span.start ∧ e.span.stop ≤ s.behind.utf8ByteSize ∧ e.KeepsSize := by
  obtain ⟨n, container, index, hexpr⟩ := isFlagged_iff.mp hs
  have hsize := size_containerText hexpr
  rw [String.utf8ByteSize_append] at hsize
  simp only [bracketEdits, List.mem_cons, List.not_mem_nil, or_false] at he
  rcases he with rfl | rfl
  · simp only [String.utf8ByteSize_append]
    exact ⟨by omega, by omega, rfl⟩
  · simp only
    exact ⟨by omega, by omega, rfl⟩

theorem bracketEdits_apart (hs : s.isFlagged = true) : s.bracketEdits.Pairwise Apart := by
  obtain ⟨n, container, index, he⟩ := isFlagged_iff.mp hs
  have hsize := size_containerText he
  rw [bracketEdits, List.pairwise_pair]
  left
  simp only
  omega

/-- The brackets of an access enclose its index and stand behind its container. -/
theorem bracketEdits_apart_of_part (hs : s.isFlagged = true) {p : Site α} (hp : p ∈ s.parts)
    {e e' : TextEdit} (he : e ∈ s.bracketEdits) (hstart : p.before.utf8ByteSize ≤ e'.span.start)
    (hstop : e'.span.stop ≤ p.behind.utf8ByteSize) : e.Apart e' := by
  obtain ⟨n, container, index, hexpr⟩ := isFlagged_iff.mp hs
  have hsize := size_containerText hexpr
  have htext := containerText_of_access hexpr
  simp only [bracketEdits, List.mem_cons, List.not_mem_nil, or_false] at he
  simp only [parts, hexpr] at hp
  -- A container ends in front of the opening bracket; an index lies between the two brackets.
  rcases List.mem_append.mp hp with hp | hp
  · obtain ⟨c, hc, rfl⟩ := mem_row_toList.mp hp
    cases hc
    have hbehind : e'.span.stop ≤ (s.before ++ s.containerText).utf8ByteSize := by
      rw [htext]
      exact hstop
    right
    rcases he with rfl | rfl <;> simp only <;> omega
  · obtain ⟨i, rfl, rfl⟩ := mem_row_toList.mp hp
    have hopen : (s.before ++ s.containerText).utf8ByteSize + 1 ≤ e'.span.start := by
      rw [htext]
      simpa only [Expr.renderOption, String.utf8ByteSize_append, Bracket.size_opening] using hstart
    have hclose : e'.span.stop + 1 ≤ s.behind.utf8ByteSize := by
      refine Nat.le_trans ?_ (Nat.le_of_eq hsize)
      rw [htext]
      simpa only [behind, Expr.renderOption, String.utf8ByteSize_append, Bracket.size_opening,
        Nat.add_le_add_iff_right] using hstop
    rcases he with rfl | rfl
    · left
      exact hopen
    · right
      simp only
      omega

/-- All edits that could be made in an expression. -/
def flaggedEdits (s : Site α) : List TextEdit := (s.all.filter isFlagged).flatMap bracketEdits

theorem mem_flaggedEdits_iff {e : TextEdit} :
    e ∈ s.flaggedEdits ↔ ∃ t ∈ s.all, t.isFlagged = true ∧ e ∈ t.bracketEdits := by
  simp only [flaggedEdits, List.mem_flatMap, List.mem_filter, and_assoc]

theorem flaggedEdits_eq (s : Site α) :
    s.flaggedEdits =
      (if s.isFlagged then s.bracketEdits else []) ++ s.parts.flatMap flaggedEdits := by
  rw [flaggedEdits, all_eq, List.filter_cons, List.filter_flatMap]
  split
  · rw [List.flatMap_cons, List.flatMap_assoc]
    rfl
  · rw [List.flatMap_assoc]
    rfl

theorem flaggedEdits_within {e : TextEdit} (he : e ∈ s.flaggedEdits) :
    s.before.utf8ByteSize ≤ e.span.start ∧ e.span.stop ≤ s.behind.utf8ByteSize := by
  obtain ⟨t, ht, hs, he⟩ := mem_flaggedEdits_iff.mp he
  obtain ⟨hbefore, hbehind⟩ := within_of_mem_all ht
  obtain ⟨hstart, hstop, -⟩ := bracketEdits_within hs he
  exact ⟨hbefore.size_le.trans hstart, hstop.trans hbehind.size_le⟩

/-- Edits in expressions that follow each other are apart. -/
theorem flaggedEdits_apart_of_begins {p q : Site α} (h : Text.Begins p.behind q.before)
    {e e' : TextEdit} (he : e ∈ p.flaggedEdits) (he' : e' ∈ q.flaggedEdits) : e.Apart e' := by
  left
  exact (flaggedEdits_within he).2.trans (h.size_le.trans (flaggedEdits_within he').1)

/-- No two edits that could be made in an expression touch each other. -/
theorem flaggedEdits_apart (s : Site α) : s.flaggedEdits.Pairwise Apart := by
  induction s using Site.induction with
  | step s ih =>
      have hparts : (s.parts.flatMap flaggedEdits).Pairwise Apart := by
        apply List.pairwise_flatMap.mpr
        refine ⟨ih, s.parts_in_order.imp ?_⟩
        intro p q hpq e he e' he'
        exact flaggedEdits_apart_of_begins hpq he he'
      rw [flaggedEdits_eq]
      split
      · next hs =>
          apply List.pairwise_append.mpr
          refine ⟨bracketEdits_apart hs, hparts, ?_⟩
          intro e he e' he'
          obtain ⟨p, hp, he'⟩ := List.mem_flatMap.mp he'
          obtain ⟨hstart, hstop⟩ := flaggedEdits_within he'
          exact bracketEdits_apart_of_part hs hp he hstart hstop
      · exact hparts

end Site

namespace Expr

variable {α : Type}

mutual

/-- Making brackets square gives no variable another name. -/
theorem any_visits_square (chosen : List Nat) (number : Nat) (target : Bool) (e : Expr α) :
    ((e.square chosen number).visits target).any (fun v => v.expr.isNameless) =
      (e.visits target).any fun v => v.expr.isNameless := by
  cases e with
  | var n name => rfl
  | literal n text => rfl
  | access n container index bracket closed =>
      simp only [square, visits, List.any_cons, List.any_append]
      rw [any_visits_squareOption, any_visits_squareOption]
      rfl
  | assign n left value =>
      simp only [square, visits, List.any_cons, List.any_append]
      rw [any_visits_square, any_visits_square]
      rfl
  | call n callee args =>
      simp only [square, visits, List.any_cons]
      rw [any_visits_squareRow]
      rfl
  | property n object name =>
      simp only [square, visits, List.any_cons]
      rw [any_visits_square]
      rfl

theorem any_visits_squareOption (chosen : List Nat) (number : Nat) (o : Option (Expr α)) :
    (visitsOption (squareOption chosen number o)).any (fun v => v.expr.isNameless) =
      (visitsOption o).any fun v => v.expr.isNameless := by
  cases o with
  | none => rfl
  | some e => exact any_visits_square chosen number false e

theorem any_visits_squareRow (chosen : List Nat) (number : Nat) (es : List (Expr α)) :
    (visitsList (squareRow chosen number es)).any (fun v => v.expr.isNameless) =
      (visitsList es).any fun v => v.expr.isNameless := by
  cases es with
  | nil => rfl
  | cons e es =>
      simp only [squareRow, visitsList, List.any_append]
      rw [any_visits_square, any_visits_squareRow]

end

theorem findIdx?_squareRow (chosen : List Nat) (number : Nat) (es : List (Expr α)) :
    (squareRow chosen number es).findIdx? hasNameless = es.findIdx? hasNameless := by
  induction es generalizing number with
  | nil => rfl
  | cons e es ih =>
      have he : (e.square chosen number).hasNameless = e.hasNameless :=
        any_visits_square chosen number false e
      rw [squareRow, List.findIdx?_cons, List.findIdx?_cons, he, ih]

end Expr

namespace FileBlueprint

/-- The file with the brackets of chosen accesses made square. -/
def squared (f : FileBlueprint) (chosen : List Nat) : FileBlueprint :=
  { f with statements := Expr.squareRow chosen 0 f.statements }

/-- The accesses of a file with brackets that a fix could make square. -/
def flagged (f : FileBlueprint) : List (Site TypeNote) := f.sites.filter Site.isFlagged

variable (f : FileBlueprint) (chosen : List Nat)

theorem size_text_squared : (f.squared chosen).text.utf8ByteSize = f.text.utf8ByteSize := by
  simp only [text, squared, Expr.renderStatements_eq_row, Expr.size_squareRow]

theorem namelessStatement?_squared :
    (f.squared chosen).namelessStatement? = f.namelessStatement? :=
  Expr.findIdx?_squareRow chosen 0 f.statements

theorem flagged_edits_apart : (f.flagged.flatMap Site.bracketEdits).Pairwise TextEdit.Apart := by
  have hedits : f.flagged.flatMap Site.bracketEdits = f.roots.flatMap Site.flaggedEdits := by
    rw [flagged, sites, List.filter_flatMap, List.flatMap_assoc]
    rfl
  rw [hedits]
  apply List.pairwise_flatMap.mpr
  refine ⟨fun s _ => s.flaggedEdits_apart, (Site.row_in_order ..).imp ?_⟩
  intro p q hpq e he e' he'
  exact Site.flaggedEdits_apart_of_begins hpq he he'

/-- The edits of the chosen accesses turn the text of the file into that of the changed file. -/
theorem replaceAll?_text (hflagged : ∀ s ∈ f.sites, s.number ∈ chosen → s.isFlagged = true) :
    TextEdit.replaceAll? (f.sites.flatMap (Site.editsIn chosen)) f.text =
      some (f.squared chosen).text := by
  have hroots : ∀ s ∈ f.roots, s.SquaredByEdits chosen := by
    intro s hs
    apply Site.squaredByEdits
    intro t ht
    exact hflagged t (List.mem_flatMap.mpr ⟨s, hs, ht⟩)
  have hrow := Site.replaceAll?_row hroots Expr.terminator "" rfl ""
  rw [sites, List.flatMap_assoc]
  simpa only [text, squared, roots, Expr.renderStatements_eq_row, String.empty_append,
    String.append_empty] using hrow

end FileBlueprint

end SubscriptLint
