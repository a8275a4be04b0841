import SubscriptLint.Proofs.Cuts
import SubscriptLint.Report.Problem
import Mathlib.Data.List.Pairwise

/-!
# Applying text edits

An edit is applied by cutting its range out and putting the replacement there. Offsets refer to the
text before any edit, so an edit that changes the size of the text would move the ranges of others.
Edits that keep the size, and whose ranges are apart, may be applied in any order.
-/

namespace SubscriptLint

namespace TextEdit

/-- The text with the range of the edit replaced. It fails where the range does not fit the text. -/
def replace? (e : TextEdit) (text : String) : Option String :=
  if e.span.start ≤ e.span.stop then do
    let (front, rest) ← Text.splitAt? text.toList e.span.start
    let (_, behind) ← Text.splitAt? rest (e.span.stop - e.span.start)
    return String.ofList front ++ e.replacement ++ String.ofList behind
  else none

/-- The text with edits applied one after the other. It fails where one of them does. -/
def replaceAll? (edits : List TextEdit) (text : String) : Option String :=
  edits.foldl (fun text e => text.bind e.replace?) (some text)

/-- The ranges of two edits have no character in common. -/
def Apart (a b : TextEdit) : Prop :=
  a.span.stop ≤ b.span.start ∨ b.span.stop ≤ a.span.start

/-- The replacement is of the size of what it replaces. -/
def KeepsSize (e : TextEdit) : Prop :=
  e.span.start + e.replacement.utf8ByteSize = e.span.stop

instance : Std.Symm Apart := ⟨fun _ _ => Or.symm⟩

/-- An edit applies exactly where its range is one between characters. -/
theorem replace?_eq_some_iff {e : TextEdit} {t u : String} :
    e.replace? t = some u ↔
      ∃ front old behind, t = front ++ old ++ behind ∧ front.utf8ByteSize = e.span.start ∧
        (front ++ old).utf8ByteSize = e.span.stop ∧ u = front ++ e.replacement ++ behind := by
  unfold replace?
  constructor
  · intro h
    split at h
    · next hle =>
        simp only [Option.bind_eq_bind, Option.bind_eq_some_iff, Option.pure_def,
          Option.some.injEq, Prod.exists] at h
        obtain ⟨front, rest, hfront, old, behind, hold, rfl⟩ := h
        obtain ⟨htext, hstart⟩ := Text.splitAt?_eq_some_iff.mp hfront
        obtain ⟨rfl, hstop⟩ := Text.splitAt?_eq_some_iff.mp hold
        refine ⟨String.ofList front, String.ofList old, String.ofList behind, ?_, ?_, ?_, rfl⟩
        · apply String.toList_inj.mp
          simp [← htext]
        · rw [Text.utf8ByteSize_ofList, hstart]
        · rw [String.utf8ByteSize_append, Text.utf8ByteSize_ofList, Text.utf8ByteSize_ofList]
          omega
    · cases h
  · rintro ⟨front, old, behind, rfl, hstart, hstop, rfl⟩
    rw [String.utf8ByteSize_append] at hstop
    have hfront : Text.splitAt? (front ++ old ++ behind).toList e.span.start =
        some (front.toList, (old ++ behind).toList) := by
      apply Text.splitAt?_eq_some_iff.mpr
      exact ⟨by simp, (Text.width_toList front).trans hstart⟩
    have hold : Text.splitAt? (old ++ behind).toList (e.span.stop - e.span.start) =
        some (old.toList, behind.toList) := by
      apply Text.splitAt?_eq_some_iff.mpr
      refine ⟨by simp, (Text.width_toList old).trans ?_⟩
      omega
    rw [if_pos (by omega), hfront]
    simp only [Option.bind_eq_bind, Option.bind_some, hold, String.ofList_toList]
    rfl

/-- The second text is the first one with two ranges replaced, that of `a` before that of `b`. -/
def ReplacesBoth (a b : TextEdit) (t u : String) : Prop :=
  ∃ front old between old' behind,
    t = front ++ old ++ between ++ old' ++ behind ∧ front.utf8ByteSize = a.span.start ∧
      (front ++ old).utf8ByteSize = a.span.stop ∧
      (front ++ old ++ between).utf8ByteSize = b.span.start ∧
      (front ++ old ++ between ++ old').utf8ByteSize = b.span.stop ∧
      u = front ++ a.replacement ++ between ++ b.replacement ++ behind

variable {a b : TextEdit} {t u : String}

/-- The later range may be replaced last: the first edit leaves it where it is. -/
theorem replace?_bind_later_iff (ha : a.KeepsSize) (h : a.span.stop ≤ b.span.start) :
    (a.replace? t).bind b.replace? = some u ↔ ReplacesBoth a b t u := by
  rw [Option.bind_eq_some_iff]
  constructor
  · rintro ⟨v, hv, hu⟩
    obtain ⟨front, old, behind, rfl, hstart, hstop, rfl⟩ := replace?_eq_some_iff.mp hv
    obtain ⟨front', old', behind', heq, hstart', hstop', rfl⟩ := replace?_eq_some_iff.mp hu
    have hsize : (front ++ a.replacement).utf8ByteSize = (front ++ old).utf8ByteSize := by
      rw [String.utf8ByteSize_append, hstart, hstop, ha]
    -- The replacement ends where its range ended, so the later range lies behind it.
    have heq := heq.trans String.append_assoc
    obtain ⟨between, rfl, rfl⟩ := Text.eq_append_of_size_le heq (by omega)
    simp only [String.utf8ByteSize_append] at hsize hstop hstart' hstop'
    refine ⟨front, old, between, old', behind', ?_, hstart, ?_, ?_, ?_, rfl⟩
    · simp only [String.append_assoc]
    · simpa only [String.utf8ByteSize_append] using hstop
    · simp only [String.utf8ByteSize_append]
      omega
    · simp only [String.utf8ByteSize_append]
      omega
  · rintro ⟨front, old, between, old', behind, rfl, hstart, hstop, hstart', hstop', rfl⟩
    simp only [String.utf8ByteSize_append] at hstop hstart' hstop'
    have hsize := ha
    unfold KeepsSize at hsize
    refine ⟨front ++ a.replacement ++ (between ++ old' ++ behind), ?_, ?_⟩
    · apply replace?_eq_some_iff.mpr
      refine ⟨front, old, between ++ old' ++ behind, ?_, hstart, ?_, rfl⟩
      · simp only [String.append_assoc]
      · simpa only [String.utf8ByteSize_append] using hstop
    · apply replace?_eq_some_iff.mpr
      refine ⟨front ++ a.replacement ++ between, old', behind, ?_, ?_, ?_, rfl⟩
      · simp only [String.append_assoc]
      · simp only [String.utf8ByteSize_append]
        omega
      · simp only [String.utf8ByteSize_append]
        omega

/-- The earlier range may be replaced last: nothing in front of an edit moves. -/
theorem replace?_bind_earlier_iff (h : a.span.stop ≤ b.span.start) :
    (b.replace? t).bind a.replace? = some u ↔ ReplacesBoth a b t u := by
  rw [Option.bind_eq_some_iff]
  constructor
  · rintro ⟨v, hv, hu⟩
    obtain ⟨front', old', behind', rfl, hstart', hstop', rfl⟩ := replace?_eq_some_iff.mp hv
    obtain ⟨front, old, behind, heq, hstart, hstop, rfl⟩ := replace?_eq_some_iff.mp hu
    have heq := heq.symm.trans String.append_assoc
    obtain ⟨between, rfl, rfl⟩ := Text.eq_append_of_size_le heq (by omega)
    refine ⟨front, old, between, old', behind', rfl, hstart, hstop, hstart', hstop', ?_⟩
    simp only [String.append_assoc]
  · rintro ⟨front, old, between, old', behind, rfl, hstart, hstop, hstart', hstop', rfl⟩
    refine ⟨front ++ old ++ between ++ b.replacement ++ behind, ?_, ?_⟩
    · apply replace?_eq_some_iff.mpr
      exact ⟨front ++ old ++ between, old', behind, rfl, hstart', hstop', rfl⟩
    · apply replace?_eq_some_iff.mpr
      refine ⟨front, old, between ++ b.replacement ++ behind, ?_, hstart, hstop, ?_⟩
      · simp only [String.append_assoc]
      · simp only [String.append_assoc]

/-- Edits whose ranges are apart may be applied in either order. -/
theorem replace?_bind_comm (ha : a.KeepsSize) (hb : b.KeepsSize) (h : a.Apart b) (t : String) :
    (a.replace? t).bind b.replace? = (b.replace? t).bind a.replace? := by
  apply Option.ext
  intro u
  rcases h with h | h
  · exact (replace?_bind_later_iff ha h).trans (replace?_bind_earlier_iff h).symm
  · exact (replace?_bind_earlier_iff h).trans (replace?_bind_later_iff hb h).symm

/-- Edits whose ranges are pairwise apart may be applied in any order. -/
theorem replaceAll?_eq_of_perm {xs ys : List TextEdit} (h : xs.Perm ys)
    (hsize : ∀ e ∈ xs, e.KeepsSize) (hapart : xs.Pairwise Apart) (t : String) :
    replaceAll? xs t = replaceAll? ys t := by
  apply h.foldl_eq'
  intro a ha b hb u
  by_cases hab : a = b
  · rw [hab]
  · have hab := hapart.forall ha hb hab
    cases u with
    | none => rfl
    | some u => exact replace?_bind_comm (hsize a ha) (hsize b hb) hab u

theorem replaceAll?_nil (t : String) : replaceAll? [] t = some t := rfl

theorem foldl_bind_none (edits : List TextEdit) :
    edits.foldl (fun text e => text.bind e.replace?) none = none := by
  induction edits with
  | nil => rfl
  | cons e edits ih => exact ih

theorem replaceAll?_append (xs ys : List TextEdit) (t : String) :
    replaceAll? (xs ++ ys) t = (replaceAll? xs t).bind (replaceAll? ys) := by
  unfold replaceAll?
  rw [List.foldl_append]
  cases xs.foldl (fun text e => text.bind e.replace?) (some t) with
  | none => exact foldl_bind_none ys
  | some u => rfl

end TextEdit

end SubscriptLint
