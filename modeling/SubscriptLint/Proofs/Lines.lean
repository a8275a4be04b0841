import SubscriptLint.Proofs.Cuts
import SubscriptLint.Proofs.Positions
import Mathlib.Data.List.TakeWhile

/-!
# Lines

Every line of a source is a range that fits it and ends right in front of the next one
(`Source.lineSpan?_fits`). The position of an offset is computed from the start of a line that is
there and not behind the offset, without leaving 32 bits (`Source.locates`), so an offset can be told
from its position (`Source.position_injective`).
-/

namespace SubscriptLint.Source

variable {s : Source} {offset : Nat}

theorem pairwise_startsFrom (offset : Nat) (cs : List Char) :
    (startsFrom offset cs).Pairwise (· < ·) := by
  induction cs generalizing offset with
  | nil => exact List.Pairwise.nil
  | cons c cs ih =>
      by_cases hc : c = '\n'
      · simp only [startsFrom, hc, if_true, List.pairwise_cons]
        exact ⟨fun start h => (bounds_of_mem_startsFrom h).1, ih _⟩
      · simp only [startsFrom, hc, if_false]
        exact ih _

/-- Lines begin one behind the other. -/
theorem pairwise_lineStarts (s : Source) : s.lineStarts.Pairwise (· < ·) :=
  List.pairwise_cons.mpr ⟨fun _ h => (bounds_of_mem_startsFrom h).1, pairwise_startsFrom ..⟩

/-- A newline stands right in front of every line after the first. -/
theorem between_of_mem_startsFrom {start : Nat} (h : start ∈ startsFrom 0 s.contents.toList) :
    0 < start ∧ s.Between (start - 1) ∧ s.Between start := by
  obtain ⟨front, rest, heq, rfl⟩ := split_of_mem_startsFrom h
  refine ⟨by omega, ⟨String.ofList front, String.ofList ('\n' :: rest), ?_, ?_⟩,
    ⟨String.ofList (front ++ ['\n']), String.ofList rest, ?_, ?_⟩⟩
  · apply String.toList_inj.mp
    simp [heq]
  · rw [Text.utf8ByteSize_ofList]
    omega
  · apply String.toList_inj.mp
    simp [heq]
  · rw [Text.utf8ByteSize_ofList, Text.width_append, Nat.zero_add]
    rfl

theorem between_of_mem_lineStarts {start : Nat} (h : start ∈ s.lineStarts) : s.Between start := by
  rcases List.mem_cons.mp h with rfl | h
  · exact ⟨"", s.contents, by simp, rfl⟩
  · exact (between_of_mem_startsFrom h).2.2

/-- Every line is a range that can be taken out of the source. Its end is the end of the source, or
right in front of the newline that the next line begins behind. -/
theorem lineSpan?_fits {n : Nat} (hn : 0 < n) (h : n ≤ s.lineCount) :
    ∃ span, s.lineSpan? n = some span ∧ s.Fits span ∧
      ∀ next, s.lineStarts[n]? = some next → next = span.stop + 1 := by
  have hstart : n - 1 < s.lineStarts.length := by
    unfold lineCount at h
    omega
  obtain ⟨start, hget⟩ : ∃ start, s.lineStarts[n - 1]? = some start :=
    ⟨_, List.getElem?_eq_getElem hstart⟩
  have hbetween := between_of_mem_lineStarts (List.mem_of_getElem? hget)
  rw [lineSpan?, if_neg (Nat.ne_of_gt hn), hget, Option.map_some]
  cases hnext : s.lineStarts[n]? with
  | none =>
      have hend : s.Between s.contents.utf8ByteSize := ⟨s.contents, "", by simp, rfl⟩
      exact ⟨_, rfl, ⟨hbetween.le, Nat.le_refl _, hbetween, hend⟩, nofun⟩
  | some next =>
      have hlt : start < next := by
        obtain ⟨hi, rfl⟩ := List.getElem?_eq_some_iff.mp hget
        obtain ⟨hj, rfl⟩ := List.getElem?_eq_some_iff.mp hnext
        exact List.pairwise_iff_getElem.mp s.pairwise_lineStarts _ _ hi hj (by omega)
      have hmem : next ∈ startsFrom 0 s.contents.toList := by
        rcases List.mem_cons.mp (List.mem_of_getElem? hnext) with rfl | hmem
        · omega
        · exact hmem
      obtain ⟨hpos, hstop, -⟩ := between_of_mem_startsFrom hmem
      refine ⟨_, rfl, ⟨by simp; omega, hstop.le, hbetween, hstop⟩, ?_⟩
      rintro _ ⟨⟩
      simp
      omega

/-- There are no more lines than bytes, but for the last line, which may be empty. -/
theorem lineCount_le (s : Source) : s.lineCount ≤ s.contents.utf8ByteSize + 1 := by
  rw [lineCount, lineStarts, List.length_cons, length_startsFrom, ← Text.width_toList]
  exact Nat.succ_le_succ (Nat.le_trans List.count_le_length (Text.length_le_width _))

/-- The start of the line that an offset is on is the last one that is not behind the offset. -/
theorem position_spec (s : Source) (offset : Nat) :
    (0 < (s.position offset).line ∧ (s.position offset).line ≤ s.lineCount) ∧
      ∃ start, s.lineStarts[(s.position offset).line - 1]? = some start ∧ start ≤ offset ∧
        (s.position offset).col = offset - start + 1 := by
  let before := s.lineStarts.takeWhile (· ≤ offset)
  have hne : before ≠ [] := by
    change (0 :: startsFrom 0 s.contents.toList).takeWhile _ ≠ []
    rw [List.takeWhile_cons_of_pos (by simp)]
    exact List.cons_ne_nil _ _
  have hprefix : before <+: s.lineStarts := List.takeWhile_prefix _
  have hlast : before.getLast? = some (before.getLast hne) := List.getLast?_eq_some_getLast hne
  have hget : s.lineStarts[before.length - 1]? = some (before.getLast hne) := by
    obtain ⟨rest, heq⟩ := hprefix
    have hpos := List.length_pos_iff.mpr hne
    rw [← heq, List.getElem?_append_left (by omega), ← List.getLast?_eq_getElem?, hlast]
  have hle := List.mem_takeWhile_imp (List.getLast_mem hne)
  refine ⟨⟨List.length_pos_iff.mpr hne, hprefix.length_le⟩, before.getLast hne, hget,
    of_decide_eq_true hle, ?_⟩
  change offset - before.getLast?.getD 0 + 1 = _
  rw [hlast, Option.getD_some]

/-- The position of an offset is computed from the start of its line: the start is not behind the
offset, and neither the line nor the column leaves 32 bits. -/
structure Locates (s : Source) (offset : Nat) : Prop where
  line_exists : 0 < (s.position offset).line ∧ (s.position offset).line ≤ s.lineCount
  line_fits : (s.position offset).line < UInt32.size
  col_fits : (s.position offset).col < UInt32.size
  computed : ∃ start, s.lineStarts[(s.position offset).line - 1]? = some start ∧ start ≤ offset ∧
    (s.position offset).col = offset - start + 1

theorem locates (s : Source) (h : offset < limit) : s.Locates offset := by
  obtain ⟨hline, start, hget, hle, hcol⟩ := s.position_spec offset
  have hfits := s.fits
  have hcount := s.lineCount_le
  refine ⟨hline, ?_, ?_, start, hget, hle, hcol⟩
  · unfold limit at hfits
    unfold UInt32.size
    omega
  · unfold limit at h
    unfold UInt32.size
    omega

/-- No two offsets have one position. -/
theorem position_injective (s : Source) : Function.Injective s.position := by
  intro a b h
  obtain ⟨-, start, hget, hle, hcol⟩ := s.position_spec a
  obtain ⟨-, start', hget', hle', hcol'⟩ := s.position_spec b
  have hstart : start = start' := by
    rw [h] at hget
    exact Option.some.inj (hget.symm.trans hget')
  rw [h] at hcol
  omega

end SubscriptLint.Source
