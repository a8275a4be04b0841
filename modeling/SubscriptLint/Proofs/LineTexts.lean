import SubscriptLint.Proofs.Positions
import Mathlib.Data.List.TakeWhile
import Mathlib.Data.List.DropRight

/-!
# The texts of lines

Wherever a source is cut in two, the cut is inside a line. Its text is what follows the last newline
in front of the cut, and goes on to the next newline behind it (`Source.line_across`).
-/

namespace SubscriptLint

namespace Text

/-- The text in front of the first newline. -/
def firstLine (cs : List Char) : List Char := cs.takeWhile (· ≠ '\n')

theorem firstLine_newline (cs : List Char) : firstLine ('\n' :: cs) = [] := rfl

theorem firstLine_cons {c : Char} (h : c ≠ '\n') (cs : List Char) :
    firstLine (c :: cs) = c :: firstLine cs := by
  simp [firstLine, h]

theorem firstLine_eq_self {cs : List Char} (h : '\n' ∉ cs) : firstLine cs = cs := by
  apply List.takeWhile_eq_self_iff.mpr
  rintro c hc
  simpa using ne_of_mem_of_not_mem hc h

theorem exists_append_lastLine (cs : List Char) : ∃ front, cs = front ++ lastLine cs := by
  induction cs with
  | nil => exact ⟨[], rfl⟩
  | cons c cs ih =>
      rw [lastLine]
      split
      · obtain ⟨front, heq⟩ := ih
        exact ⟨c :: front, by rw [List.cons_append, ← heq]⟩
      · exact ⟨[], rfl⟩

end Text

namespace Source

variable {s : Source} {a b : List Char}

/-- The first line after the one that a text begins in starts behind the first newline. -/
theorem head?_startsFrom (offset : Nat) (cs : List Char) :
    (startsFrom offset cs).head? =
      if '\n' ∈ cs then some (offset + Text.width (Text.firstLine cs) + 1) else none := by
  induction cs generalizing offset with
  | nil => rfl
  | cons c cs ih =>
      by_cases hc : c = '\n'
      · subst hc
        simp only [startsFrom, if_true, List.head?_cons, Text.firstLine_newline, List.mem_cons,
          true_or]
        rfl
      · simp only [startsFrom, if_neg hc, ih, Text.firstLine_cons hc, List.mem_cons, Ne.symm hc,
          false_or, Text.width_cons, Nat.add_assoc]

/-- The line that a cut is in begins behind the last newline in front of the cut and ends in front
of the next newline behind it. -/
theorem lineSpan?_across (h : s.contents.toList = a ++ b) :
    ∃ start, start + Text.width (Text.lastLine a) = Text.width a ∧
      s.lineSpan? (a.count '\n' + 1) =
        some ⟨start, Text.width a + Text.width (Text.firstLine b)⟩ := by
  -- The line begins at the last start that is not behind the cut, and the next one is behind it.
  have hstarts : s.lineStarts =
      (0 :: startsFrom 0 a) ++ startsFrom (Text.width a) b := by
    simp [lineStarts, h, startsFrom_append]
  have hlength : (0 :: startsFrom 0 a).length = a.count '\n' + 1 := by
    rw [List.length_cons, length_startsFrom]
  have hlast := last_start 0 a
  have hstart : s.lineStarts[a.count '\n']? =
      some ((0 :: startsFrom 0 a).getLast?.getD 0) := by
    have hget : (0 :: startsFrom 0 a)[a.count '\n']? = (0 :: startsFrom 0 a).getLast? := by
      rw [List.getLast?_eq_getElem?, hlength, Nat.add_sub_cancel]
    rw [hstarts, List.getElem?_append_left (by omega), hget, List.getLast?_cons, Option.getD_some]
  have hnext : s.lineStarts[a.count '\n' + 1]? = (startsFrom (Text.width a) b).head? := by
    rw [hstarts, List.getElem?_append_right (by omega), hlength, Nat.sub_self,
      List.head?_eq_getElem?]
  have hsize : s.contents.utf8ByteSize = Text.width a + Text.width b := by
    rw [← Text.width_toList, h, Text.width_append]
  refine ⟨(0 :: startsFrom 0 a).getLast?.getD 0, by omega, ?_⟩
  rw [lineSpan?, if_neg (Nat.succ_ne_zero _), Nat.add_sub_cancel, hstart, hnext, head?_startsFrom,
    Option.map_some, hsize]
  by_cases hb : '\n' ∈ b
  · simp [hb]
  · simp [hb, Text.firstLine_eq_self hb]

theorem trimReturns_eq_rdropWhile (cs : List Char) :
    trimReturns cs = cs.rdropWhile (· = '\r') := rfl

/-- The text of the line that a cut is in is what follows the last newline in front of the cut, and
goes on to the next newline behind it. -/
theorem line_across (h : s.contents.toList = a ++ b) :
    s.line (a.count '\n' + 1) =
      String.ofList (trimReturns (Text.lastLine a ++ Text.firstLine b)) := by
  obtain ⟨start, hstart, hspan⟩ := lineSpan?_across h
  obtain ⟨front, hfront⟩ := Text.exists_append_lastLine a
  have hwidth : Text.width a = Text.width front + Text.width (Text.lastLine a) := by
    rw [← Text.width_append, ← hfront]
  have htext : s.text? ⟨start, Text.width a + Text.width (Text.firstLine b)⟩ =
      some (String.ofList (Text.lastLine a ++ Text.firstLine b)) := by
    rw [text?, Option.map_eq_some_iff]
    refine ⟨_, Text.slice?_eq_some_iff.mpr ⟨front, b.dropWhile (· ≠ '\n'), ?_, ?_, ?_⟩, rfl⟩
    · calc
        s.contents.toList = a ++ b := h
        _ = front ++ Text.lastLine a ++ (Text.firstLine b ++ b.dropWhile (· ≠ '\n')) := by
          rw [← hfront, Text.firstLine, List.takeWhile_append_dropWhile]
        _ = _ := by simp only [List.append_assoc]
    · change Text.width front = start
      omega
    · change _ = Text.width a + Text.width (Text.firstLine b)
      rw [Text.width_append]
      omega
  rw [line, hspan, Option.bind_some, htext]
  simp

end Source

end SubscriptLint
