import SubscriptLint.Source.Basic
import Mathlib.Data.List.Basic

/-!
# Positions

The position behind a text: its line is one more than the number of newlines in the text, its
column one more than the size of what follows the last of them. The line table of a source gives
every offset between its characters the position behind the text in front of it.
-/

namespace SubscriptLint

/-- What follows the last newline of a text. -/
def Text.lastLine : List Char → List Char
  | [] => []
  | c :: cs => if '\n' ∈ c :: cs then lastLine cs else c :: cs

theorem Text.length_le_width (cs : List Char) : cs.length ≤ Text.width cs := by
  induction cs with
  | nil => exact Nat.le_refl 0
  | cons c cs ih =>
      have := c.utf8Size_pos
      rw [List.length_cons, Text.width_cons]
      omega

/-- The position behind a text that begins a source. -/
def Position.behind (text : String) : Position :=
  ⟨text.toList.count '\n' + 1, Text.width (Text.lastLine text.toList) + 1⟩

namespace Source

theorem startsFrom_append (offset : Nat) (a b : List Char) :
    startsFrom offset (a ++ b) = startsFrom offset a ++ startsFrom (offset + Text.width a) b := by
  induction a generalizing offset with
  | nil => simp [startsFrom]
  | cons c cs ih =>
      by_cases h : c = '\n' <;> simp [startsFrom, h, ih, Nat.add_assoc]

/-- A line after the first begins behind a newline. -/
theorem split_of_mem_startsFrom {offset start : Nat} {cs : List Char}
    (h : start ∈ startsFrom offset cs) :
    ∃ front rest, cs = front ++ '\n' :: rest ∧ start = offset + Text.width front + 1 := by
  induction cs generalizing offset with
  | nil => simp [startsFrom] at h
  | cons c cs ih =>
      have hlater : start ∈ startsFrom (offset + c.utf8Size) cs →
          ∃ front rest, c :: cs = front ++ '\n' :: rest ∧ start = offset + Text.width front + 1 := by
        intro h
        obtain ⟨front, rest, rfl, rfl⟩ := ih h
        exact ⟨c :: front, rest, rfl, by simp only [Text.width_cons]; omega⟩
      by_cases hc : c = '\n'
      · simp only [startsFrom, hc, if_true, List.mem_cons] at h
        rcases h with rfl | h
        · exact ⟨[], cs, by rw [hc]; rfl, rfl⟩
        · exact hlater (hc ▸ h)
      · simp only [startsFrom, hc, if_false] at h
        exact hlater h

/-- Lines begin behind the offset from which a text is read, and at its end at the latest. -/
theorem bounds_of_mem_startsFrom {offset start : Nat} {cs : List Char}
    (h : start ∈ startsFrom offset cs) : offset < start ∧ start ≤ offset + Text.width cs := by
  obtain ⟨front, rest, rfl, rfl⟩ := split_of_mem_startsFrom h
  have hnewline : '\n'.utf8Size = 1 := rfl
  rw [Text.width_append, Text.width_cons]
  omega

theorem length_startsFrom (offset : Nat) (cs : List Char) :
    (startsFrom offset cs).length = cs.count '\n' := by
  induction cs generalizing offset with
  | nil => rfl
  | cons c cs ih =>
      by_cases h : c = '\n' <;> simp [startsFrom, h, ih]

/-- The last line of a text begins in front of what follows the last newline. -/
theorem last_start (offset : Nat) (cs : List Char) :
    (offset :: startsFrom offset cs).getLast?.getD 0 + Text.width (Text.lastLine cs) =
      offset + Text.width cs := by
  induction cs generalizing offset with
  | nil => simp [startsFrom, Text.lastLine]
  | cons c cs ih =>
      by_cases hc : c = '\n'
      · have := ih (offset + c.utf8Size)
        simp only [startsFrom, Text.lastLine, hc, List.mem_cons, true_or, if_true,
          List.getLast?_cons_cons, Text.width_cons] at this ⊢
        omega
      · by_cases hcs : '\n' ∈ cs
        · have hne : startsFrom (offset + c.utf8Size) cs ≠ [] := by
            rw [← List.length_pos_iff, length_startsFrom]
            exact List.count_pos_iff.mpr hcs
          have := ih (offset + c.utf8Size)
          rw [List.getLast?_cons_of_ne_nil hne] at this
          simp only [startsFrom, Text.lastLine, hc, hcs, List.mem_cons, or_true, if_true, if_false,
            List.getLast?_cons_of_ne_nil hne, Text.width_cons]
          omega
        · have hnil : startsFrom (offset + c.utf8Size) cs = [] := by
            rw [← List.length_eq_zero_iff, length_startsFrom]
            exact List.count_eq_zero.mpr hcs
          have hmem : ¬('\n' ∈ c :: cs) := by simp [hcs, Ne.symm hc]
          simp [startsFrom, Text.lastLine, hc, hnil, hmem]

/-- The position of an offset between two characters is the position behind the text in front. -/
theorem position_eq_behind {s : Source} {a b : String} (h : s.contents = a ++ b) :
    s.position a.utf8ByteSize = Position.behind a := by
  have hwidth : a.utf8ByteSize = Text.width a.toList := (Text.width_toList a).symm
  have hstarts : s.lineStarts =
      (0 :: startsFrom 0 a.toList) ++ startsFrom (Text.width a.toList) b.toList := by
    simp [lineStarts, h, startsFrom_append]
  have hfront : ∀ x ∈ 0 :: startsFrom 0 a.toList, decide (x ≤ a.utf8ByteSize) = true := by
    intro x hx
    rcases List.mem_cons.mp hx with rfl | hx
    · simp
    · have := (bounds_of_mem_startsFrom hx).2
      simp
      omega
  have hrest : (startsFrom (Text.width a.toList) b.toList).takeWhile
      (fun x => decide (x ≤ a.utf8ByteSize)) = [] := by
    cases hb : startsFrom (Text.width a.toList) b.toList with
    | nil => rfl
    | cons x xs =>
        have := (bounds_of_mem_startsFrom (hb ▸ List.mem_cons_self)).1
        rw [List.takeWhile_cons_of_neg]
        simp
        omega
  have htake : s.lineStarts.takeWhile (fun x => decide (x ≤ a.utf8ByteSize)) =
      0 :: startsFrom 0 a.toList := by
    rw [hstarts, List.takeWhile_append_of_pos hfront, hrest, List.append_nil]
  have hlast := last_start 0 a.toList
  simp only [position, htake, Position.behind, List.length_cons, length_startsFrom,
    Position.mk.injEq, true_and]
  omega

end Source

end SubscriptLint
