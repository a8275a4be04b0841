import SubscriptLint.Source.Basic
import Mathlib.Data.List.Basic

/-!
# Cutting sources

A source can be cut at the offsets between its characters, and a range of it can be taken out exactly
if it lies between two such offsets in their order (`Source.fits_iff_text?`).
-/

namespace SubscriptLint

/-- If two texts go on to the same text, the smaller one begins the other. -/
theorem Text.eq_append_of_size_le {a b c d : String} (h : a ++ b = c ++ d)
    (hle : a.utf8ByteSize ≤ c.utf8ByteSize) : ∃ mid, c = a ++ mid ∧ b = mid ++ d := by
  have hlists : a.toList ++ b.toList = c.toList ++ d.toList := by
    simpa only [String.toList_append] using congrArg String.toList h
  rcases List.append_eq_append_iff.mp hlists with ⟨mid, hc, hb⟩ | ⟨mid, ha, hd⟩
  · refine ⟨String.ofList mid, ?_, ?_⟩
    · apply String.toList_inj.mp
      simp [hc]
    · apply String.toList_inj.mp
      simp [hb]
  · have hmid : mid = [] := by
      have hwidth := congrArg Text.width ha
      rw [Text.width_append, Text.width_toList, Text.width_toList] at hwidth
      cases mid with
      | nil => rfl
      | cons x xs =>
          have := x.utf8Size_pos
          rw [Text.width_cons] at hwidth
          omega
    subst hmid
    have hac : a = c := String.toList_inj.mp (by simpa using ha)
    subst hac
    exact ⟨"", by simp, by simpa using h⟩

namespace Source

variable {s : Source} {a b c : String} {span : Span}

/-- The text between two texts is cut out by its range. -/
theorem slice?_of_eq (h : s.contents = a ++ b ++ c) :
    Text.slice? s.contents.toList a.utf8ByteSize (a ++ b).utf8ByteSize = some b.toList := by
  apply Text.slice?_eq_some_iff.mpr
  refine ⟨a.toList, c.toList, ?_, Text.width_toList a, ?_⟩
  · simp [h]
  · rw [Text.width_toList, Text.width_toList, String.utf8ByteSize_append]

theorem text?_of_eq (h : s.contents = a ++ b ++ c) :
    s.text? ⟨a.utf8ByteSize, (a ++ b).utf8ByteSize⟩ = some b := by
  rw [text?, slice?_of_eq h, Option.map_some, String.ofList_toList]

/-- The offset is one between characters of the source, or the offset of its end. -/
def Between (s : Source) (offset : Nat) : Prop :=
  ∃ front rest, s.contents = front ++ rest ∧ front.utf8ByteSize = offset

/-- The range does not leave the source and is one between characters. -/
structure Fits (s : Source) (span : Span) : Prop where
  in_order : span.start ≤ span.stop
  inside : span.stop ≤ s.contents.utf8ByteSize
  start_between : s.Between span.start
  stop_between : s.Between span.stop

theorem Between.le {offset : Nat} (h : s.Between offset) : offset ≤ s.contents.utf8ByteSize := by
  obtain ⟨front, rest, heq, rfl⟩ := h
  rw [heq, String.utf8ByteSize_append]
  exact Nat.le_add_right ..

/-- Two offsets between characters are the ends of a text. -/
theorem exists_text?_of_between (h : span.start ≤ span.stop) (hstart : s.Between span.start)
    (hstop : s.Between span.stop) : ∃ text, s.text? span = some text := by
  obtain ⟨start, stop⟩ := span
  obtain ⟨front, rest, heq, rfl⟩ := hstart
  obtain ⟨upto, behind, heq', rfl⟩ := hstop
  obtain ⟨text, rfl, -⟩ := Text.eq_append_of_size_le (heq.symm.trans heq') h
  exact ⟨text, text?_of_eq heq'⟩

/-- A range has a text exactly if it fits. -/
theorem fits_iff_text? : s.Fits span ↔ ∃ text, s.text? span = some text := by
  constructor
  · intro h
    exact exists_text?_of_between h.in_order h.start_between h.stop_between
  · rintro ⟨text, h⟩
    obtain ⟨middle, hslice, -⟩ := Option.map_eq_some_iff.mp h
    obtain ⟨front, behind, heq, hstart, hstop⟩ := Text.slice?_eq_some_iff.mp hslice
    have hfront : s.Between span.start := by
      refine ⟨String.ofList front, String.ofList (middle ++ behind), ?_, ?_⟩
      · apply String.toList_inj.mp
        simp [heq]
      · rw [Text.utf8ByteSize_ofList, hstart]
    have hupto : s.Between span.stop := by
      refine ⟨String.ofList (front ++ middle), String.ofList behind, ?_, ?_⟩
      · apply String.toList_inj.mp
        simp [heq]
      · rw [Text.utf8ByteSize_ofList, Text.width_append, hstop]
    exact ⟨by omega, hupto.le, hfront, hupto⟩

/-- The range of a text of one byte between two texts fits. -/
theorem fits_of_size_one (h : s.contents = a ++ b ++ c) (hb : b.utf8ByteSize = 1) :
    s.Fits ⟨a.utf8ByteSize, a.utf8ByteSize + 1⟩ := by
  have htext := text?_of_eq h
  rw [String.utf8ByteSize_append, hb] at htext
  exact fits_iff_text?.mpr ⟨b, htext⟩

end Source

end SubscriptLint
