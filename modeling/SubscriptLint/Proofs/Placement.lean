import SubscriptLint.Proofs.Sites

/-!
# What laying out does to a tree

`annotate` notes every expression of a tree by its site. Laying a tree out is one such annotation
(`layOut_run`), and so is binding the result to a source (`map_annotate`), so what the modules of a
project hold is known without following the writer again.

## Implementation notes

The functions follow the recursion of `layOut`. A row of arguments or statements is one function of
the text between its members, where the writer has three.
-/

namespace SubscriptLint

namespace Expr

variable {α β γ : Type}

mutual

/-- The tree with every expression noted by what is in front of it, its number and itself. -/
def annotate (f : String → Nat → Expr α → β) (before : String) (number : Nat) : Expr α → Expr β
  | var n name => var (f before number (var n name)) name
  | literal n text => literal (f before number (literal n text)) text
  | access n container index bracket closed =>
      access (f before number (access n container index bracket closed))
        (annotateOption f before (number + 1) container)
        (annotateOption f (before ++ renderOption container ++ bracket.opening.toString)
          (number + 1 + (visitsOption container).length) index)
        bracket closed
  | assign n target value =>
      assign (f before number (assign n target value))
        (annotate f before (number + 1) target)
        (annotate f (before ++ target.render ++ " = ") (number + 1 + target.count) value)
  | call n callee args =>
      call (f before number (call n callee args)) callee
        (annotateRow f ", " (before ++ callee ++ "(") (number + 1) args)
  | property n object name =>
      property (f before number (property n object name))
        (annotate f before (number + 1) object) name

/-- The part with every expression noted, if there is one. -/
def annotateOption (f : String → Nat → Expr α → β) (before : String) (number : Nat) :
    Option (Expr α) → Option (Expr β)
  | none => none
  | some e => some (annotate f before number e)

/-- The trees of a row with every expression noted. -/
def annotateRow (f : String → Nat → Expr α → β) (gap before : String) (number : Nat) :
    List (Expr α) → List (Expr β)
  | [] => []
  | e :: es =>
      annotate f before number e ::
        annotateRow f gap (before ++ e.render ++ gap) (number + e.count) es

end

@[simp] theorem note_annotate (f : String → Nat → Expr α → β) (before : String) (number : Nat)
    (e : Expr α) : (annotate f before number e).note = f before number e := by
  cases e <;> simp [annotate, note]

theorem annotateOption_eq_map (f : String → Nat → Expr α → β) (before : String) (number : Nat)
    (o : Option (Expr α)) : annotateOption f before number o = o.map (annotate f before number) := by
  cases o with
  | none => simp only [annotateOption, Option.map_none]
  | some e => simp only [annotateOption, Option.map_some]

mutual

/-- Changing the notes of an annotated tree changes the annotation. -/
theorem map_annotate (g : β → γ) (f : String → Nat → Expr α → β) (before : String) (number : Nat)
    (e : Expr α) :
    map g (annotate f before number e) = annotate (fun b n e => g (f b n e)) before number e := by
  cases e with
  | var n name => simp only [annotate, map]
  | literal n text => simp only [annotate, map]
  | access n container index bracket closed =>
      simp only [annotate, map, mapOption_annotateOption]
  | assign n target value => simp only [annotate, map, map_annotate]
  | call n callee args => simp only [annotate, map, mapList_annotateRow]
  | property n object name => simp only [annotate, map, map_annotate]

theorem mapOption_annotateOption (g : β → γ) (f : String → Nat → Expr α → β) (before : String)
    (number : Nat) (o : Option (Expr α)) :
    mapOption g (annotateOption f before number o) =
      annotateOption (fun b n e => g (f b n e)) before number o := by
  cases o with
  | none => simp only [annotateOption, mapOption]
  | some e => simp only [annotateOption, mapOption, map_annotate]

theorem mapList_annotateRow (g : β → γ) (f : String → Nat → Expr α → β) (gap before : String)
    (number : Nat) (es : List (Expr α)) :
    mapList g (annotateRow f gap before number es) =
      annotateRow (fun b n e => g (f b n e)) gap before number es := by
  cases es with
  | nil => simp only [annotateRow, mapList]
  | cons e es => simp only [annotateRow, mapList, map_annotate, mapList_annotateRow]

end

mutual

/-- Annotating a tree by the notes it has replaces its notes. -/
theorem annotate_note (g : α → β) (before : String) (number : Nat) (e : Expr α) :
    annotate (fun _ _ e => g e.note) before number e = map g e := by
  cases e with
  | var n name => rfl
  | literal n text => rfl
  | access n container index bracket closed =>
      rw [annotate, map, annotateOption_note, annotateOption_note]
      rfl
  | assign n target value =>
      rw [annotate, map, annotate_note, annotate_note]
      rfl
  | call n callee args =>
      rw [annotate, map, annotateRow_note]
      rfl
  | property n object name =>
      rw [annotate, map, annotate_note]
      rfl

theorem annotateOption_note (g : α → β) (before : String) (number : Nat) (o : Option (Expr α)) :
    annotateOption (fun _ _ e => g e.note) before number o = mapOption g o := by
  cases o with
  | none => simp only [annotateOption, mapOption]
  | some e => simp only [annotateOption, mapOption, annotate_note]

theorem annotateRow_note (g : α → β) (gap before : String) (number : Nat) (es : List (Expr α)) :
    annotateRow (fun _ _ e => g e.note) gap before number es = mapList g es := by
  cases es with
  | nil => simp only [annotateRow, mapList]
  | cons e es => simp only [annotateRow, mapList, annotate_note, annotateRow_note]

end

/-- The tree without its notes. -/
def shape (e : Expr α) : Expr Unit := map (fun _ => ()) e

/-- Annotating changes nothing but the notes. -/
theorem shape_annotate (f : String → Nat → Expr α → β) (before : String) (number : Nat)
    (e : Expr α) : shape (annotate f before number e) = shape e := by
  rw [shape, map_annotate]
  exact annotate_note (fun _ => ()) before number e

/-- The slot of an expression: what 32 bits hold of the sizes of the texts up to its two ends. -/
def placedNote (before : String) (number : Nat) (e : Expr α) : Placed α :=
  ⟨⟨⟨before.utf8ByteSize % UInt32.size, (before ++ e.render).utf8ByteSize % UInt32.size⟩, number⟩,
    e.note⟩

end Expr

namespace Draft

theorem run_write (text : String) (d : Draft) :
    ((write text).run d).run = ((), ⟨d.text ++ text, d.next⟩) := rfl

theorem run_start (d : Draft) :
    (start.run d).run = (⟨⟨d.offset, d.offset⟩, d.next⟩, ⟨d.text, d.next + 1⟩) := rfl

theorem run_finish (begun : Slot) (d : Draft) :
    ((finish begun).run d).run = (⟨⟨begun.span.start, d.offset⟩, begun.number⟩, d) := rfl

end Draft

namespace Expr

variable {α : Type}

mutual

/-- Laying an expression out notes it with its slots and writes its text. -/
theorem layOut_run (e : Expr α) (d : Draft) :
    ((layOut e).run d).run =
      (annotate placedNote d.text d.next e, ⟨d.text ++ e.render, d.next + e.count⟩) := by
  cases e with
  | var n name => rfl
  | literal n text => rfl
  | access n container index bracket closed =>
      simp only [layOut, StateT.run_bind, Id.run_bind, StateT.run_pure, Id.run_pure,
        Draft.run_start, Draft.run_write, Draft.run_finish, layOutOption_run]
      have hnext : d.next + 1 + (visitsOption container).length + (visitsOption index).length =
          d.next + (access n container index bracket closed).count := by
        rw [count_access]
        omega
      simp only [hnext, annotate, placedNote, Draft.offset, render, note, String.append_assoc]
  | assign n target value =>
      simp only [layOut, StateT.run_bind, Id.run_bind, StateT.run_pure, Id.run_pure,
        Draft.run_start, Draft.run_write, Draft.run_finish, layOut_run]
      have hnext : d.next + 1 + target.count + value.count =
          d.next + (assign n target value).count := by
        rw [count_assign]
        omega
      simp only [hnext, annotate, placedNote, Draft.offset, render, note, String.append_assoc]
  | call n callee args =>
      simp only [layOut, StateT.run_bind, Id.run_bind, StateT.run_pure, Id.run_pure,
        Draft.run_start, Draft.run_write, Draft.run_finish, layOutList_run]
      have hnext : d.next + 1 + (visitsList args).length =
          d.next + (call n callee args).count := by
        rw [count_call]
        omega
      simp only [hnext, annotate, placedNote, Draft.offset, render, note, String.append_assoc]
  | property n object name =>
      simp only [layOut, StateT.run_bind, Id.run_bind, StateT.run_pure, Id.run_pure,
        Draft.run_start, Draft.run_write, Draft.run_finish, layOut_run]
      have hnext : d.next + 1 + object.count = d.next + (property n object name).count := by
        rw [count_property]
        omega
      simp only [hnext, annotate, placedNote, Draft.offset, render, note, String.append_assoc]

theorem layOutOption_run (o : Option (Expr α)) (d : Draft) :
    ((layOutOption o).run d).run =
      (annotateOption placedNote d.text d.next o,
        ⟨d.text ++ renderOption o, d.next + (visitsOption o).length⟩) := by
  cases o with
  | none => simp [layOutOption, annotateOption, renderOption, visitsOption]
  | some e => simp [layOutOption, annotateOption, renderOption, visitsOption, layOut_run]

theorem layOutList_run (es : List (Expr α)) (d : Draft) :
    ((layOutList es).run d).run =
      (annotateRow placedNote ", " d.text d.next es,
        ⟨d.text ++ renderList es, d.next + (visitsList es).length⟩) := by
  cases es with
  | nil => simp [layOutList, annotateRow, renderList, visitsList]
  | cons e es =>
      simp [layOutList, annotateRow, renderList, visitsList, layOut_run, layOutRest_run,
        String.append_assoc, Nat.add_assoc]

theorem layOutRest_run (es : List (Expr α)) (d : Draft) :
    ((layOutRest es).run d).run =
      (annotateRow placedNote ", " (d.text ++ ", ") d.next es,
        ⟨d.text ++ renderRest es, d.next + (visitsList es).length⟩) := by
  cases es with
  | nil => simp [layOutRest, annotateRow, renderRest, visitsList]
  | cons e es =>
      simp [layOutRest, annotateRow, renderRest, visitsList, Draft.run_write, layOut_run,
        layOutRest_run, String.append_assoc, Nat.add_assoc]

end

/-- Laying statements out notes them with their slots and writes their texts. -/
theorem layOutStatements_run (es : List (Expr α)) (d : Draft) :
    ((layOutStatements es).run d).run =
      (annotateRow placedNote terminator d.text d.next es,
        ⟨d.text ++ renderStatements es, d.next + (visitsList es).length⟩) := by
  induction es generalizing d with
  | nil => simp [layOutStatements, annotateRow, renderStatements, visitsList]
  | cons e es ih =>
      simp [layOutStatements, annotateRow, renderStatements, visitsList, Draft.run_write,
        layOut_run, ih, String.append_assoc, Nat.add_assoc]

variable {β : Type}

theorem visits_annotateRow (f : String → Nat → Expr α → β) (gap before : String) (number : Nat)
    (es : List (Expr α)) :
    visitsList (annotateRow f gap before number es) =
      (Site.row gap before number es).flatMap fun s =>
        visits s.target (annotate f s.before s.number s.expr) := by
  induction es generalizing before number with
  | nil => simp [annotateRow, visitsList]
  | cons e es ih => simp [annotateRow, visitsList, ih]

theorem visits_annotate_eq_cons (f : String → Nat → Expr α → β) (s : Site α) :
    visits s.target (annotate f s.before s.number s.expr) =
      ⟨annotate f s.before s.number s.expr, s.target⟩ ::
        s.parts.flatMap fun p => visits p.target (annotate f p.before p.number p.expr) := by
  obtain ⟨before, number, target, e⟩ := s
  cases e with
  | var n name => simp [Site.parts, annotate, visits]
  | literal n text => simp [Site.parts, annotate, visits]
  | access n container index bracket closed =>
      cases container <;> cases index <;>
        simp [Site.parts, annotate, annotateOption, visits, visitsOption]
  | assign n left value => simp [Site.parts, annotate, visits]
  | call n callee args => simp [Site.parts, annotate, visits, visits_annotateRow]
  | property n object name => simp [Site.parts, annotate, visits]

/-- The direct parts of an expression, in the order of the text. -/
def parts : Expr α → List (Expr α)
  | var .. => []
  | literal .. => []
  | access _ container index _ _ => container.toList ++ index.toList
  | assign _ target value => [target, value]
  | call _ _ args => args
  | property _ object _ => [object]

theorem annotateRow_eq_map (f : String → Nat → Expr α → β) (gap before : String) (number : Nat)
    (es : List (Expr α)) :
    annotateRow f gap before number es =
      (Site.row gap before number es).map fun p => annotate f p.before p.number p.expr := by
  induction es generalizing before number with
  | nil => rfl
  | cons e es ih => simp [annotateRow, ih]

/-- The parts of an annotated tree are the parts of the tree, annotated by their own sites. -/
theorem parts_annotate (f : String → Nat → Expr α → β) (s : Site α) :
    (annotate f s.before s.number s.expr).parts =
      s.parts.map fun p => annotate f p.before p.number p.expr := by
  obtain ⟨before, number, target, e⟩ := s
  cases e with
  | var n name => simp [Site.parts, annotate, parts]
  | literal n text => simp [Site.parts, annotate, parts]
  | access n container index bracket closed =>
      cases container <;> cases index <;> simp [Site.parts, annotate, annotateOption, parts]
  | assign n left value => simp [Site.parts, annotate, parts]
  | call n callee args => simp [Site.parts, annotate, parts, annotateRow_eq_map]
  | property n object name => simp [Site.parts, annotate, parts]

/-- A walk through an annotated tree meets the sites of the tree with their annotations. -/
theorem visits_annotate (f : String → Nat → Expr α → β) (s : Site α) :
    visits s.target (annotate f s.before s.number s.expr) =
      s.all.map fun t => ⟨annotate f t.before t.number t.expr, t.target⟩ := by
  induction s using Site.induction with
  | step s ih =>
      rw [visits_annotate_eq_cons, Site.all_eq, List.map_cons, List.map_flatMap]
      exact congrArg (List.cons _) (List.flatMap_congr ih)

end Expr

end SubscriptLint
