import SubscriptLint.Proofs.ByteOrder
import SubscriptLint.Proofs.Lines
import Mathlib.Data.Prod.Lex

/-!
# Positions in bytes

A position counts bytes, also between the bytes of one character and behind the end of the text: its
line is one more than the number of newline bytes in front of the offset, and its column one more than
the distance to the byte behind the last of them (`Source.positions_exact`). No byte of another
character is a newline, so the line table, which is read off the characters, lists exactly the places
behind the newline bytes (`Source.lineStarts_eq`).
-/

namespace SubscriptLint

namespace Text

/-- The byte of a newline. -/
def newline : UInt8 := 10

/-- A byte below 128 is a character of its own, and no part of another one. -/
theorem mem_utf8EncodeChar_iff {b : UInt8} (h : b.toNat < 128) {c : Char} :
    b ∈ String.utf8EncodeChar c ↔ c.toNat = b.toNat := by
  by_cases hascii : c.toNat < 128
  · rw [utf8EncodeChar_of_lt hascii, List.mem_singleton, ← UInt8.toNat_inj,
      toNat_ofNat_of_lt (by omega), eq_comm]
  · constructor
    · intro hmem
      have habove := (encodedAs c).le_of_mem (by omega) hmem
      omega
    · omega

theorem newline_mem_utf8EncodeChar {c : Char} :
    newline ∈ String.utf8EncodeChar c ↔ c = '\n' := by
  rw [mem_utf8EncodeChar_iff (by decide), ← Char.toNat_inj]
  rfl

theorem utf8EncodeChar_newline : String.utf8EncodeChar '\n' = [newline] := rfl

end Text

namespace Source

variable {s : Source} {offset : Nat}

/-- The lines after the first begin behind the newline bytes. -/
theorem startsFrom_eq (offset : Nat) (cs : List Char) :
    startsFrom offset cs =
      (cs.flatMap String.utf8EncodeChar).findIdxs (· == Text.newline) (offset + 1) := by
  induction cs generalizing offset with
  | nil => rfl
  | cons c cs ih =>
      have hsize : offset + 1 + (String.utf8EncodeChar c).length = offset + c.utf8Size + 1 := by
        rw [String.length_utf8EncodeChar]
        omega
      rw [List.flatMap_cons, List.findIdxs_append, hsize, ← ih, startsFrom]
      by_cases hc : c = '\n'
      · rw [if_pos hc, hc, Text.utf8EncodeChar_newline]
        rfl
      · have hnone : (String.utf8EncodeChar c).findIdxs (· == Text.newline) (offset + 1) = [] := by
          rw [List.findIdxs_eq_nil_iff]
          intro b hb
          apply beq_eq_false_iff_ne.mpr
          rintro rfl
          exact hc (Text.newline_mem_utf8EncodeChar.mp hb)
        rw [if_neg hc, hnone, List.nil_append]

/-- The bytes of a source. -/
def bytes (s : Source) : List UInt8 := Text.bytes s.contents

theorem length_bytes (s : Source) : s.bytes.length = s.contents.utf8ByteSize :=
  Text.length_bytes s.contents

theorem lineStarts_eq (s : Source) :
    s.lineStarts = 0 :: s.bytes.findIdxs (· == Text.newline) 1 := by
  rw [lineStarts, startsFrom_eq, bytes, Text.bytes_eq_flatMap]

/-- The lines that begin at or before an offset begin behind the newlines below it. -/
theorem takeWhile_lineStarts (s : Source) (offset : Nat) :
    s.lineStarts.takeWhile (· ≤ offset) =
      0 :: (s.bytes.take offset).findIdxs (· == Text.newline) 1 := by
  have hfront : ∀ start ∈ (s.bytes.take offset).findIdxs (· == Text.newline) 1,
      decide (start ≤ offset) = true := by
    intro start hstart
    have hlt := List.lt_add_of_mem_findIdxs start hstart
    have hle := s.bytes.length_take_le offset
    exact decide_eq_true (by omega)
  have hrest : ((s.bytes.drop offset).findIdxs (· == Text.newline)
      (1 + (s.bytes.take offset).length)).takeWhile (· ≤ offset) = [] := by
    cases hstarts : (s.bytes.drop offset).findIdxs (· == Text.newline)
        (1 + (s.bytes.take offset).length) with
    | nil => rfl
    | cons start starts =>
        have hmem := hstarts ▸ List.mem_cons_self (a := start) (l := starts)
        have hge := List.ge_of_mem_findIdxs start hmem
        have hlt := List.lt_add_of_mem_findIdxs start hmem
        rw [List.length_drop, List.length_take] at hlt
        rw [List.length_take] at hge
        exact List.takeWhile_cons_of_neg (by simp; omega)
  rw [lineStarts_eq, List.takeWhile_cons_of_pos (by simp)]
  conv_lhs => rw [← List.take_append_drop offset s.bytes]
  rw [List.findIdxs_append, List.takeWhile_append_of_pos hfront, hrest, List.append_nil]

theorem lineCount_eq (s : Source) : s.lineCount = s.bytes.count Text.newline + 1 := by
  rw [lineCount, lineStarts_eq, List.length_cons, List.length_findIdxs]
  rfl

theorem line_position (s : Source) (offset : Nat) :
    (s.position offset).line = (s.bytes.take offset).count Text.newline + 1 := by
  change (s.lineStarts.takeWhile (· ≤ offset)).length = _
  rw [takeWhile_lineStarts, List.length_cons, List.length_findIdxs]
  rfl

/-- The line of an offset begins behind the last newline byte below the offset, or at the beginning
of the text if there is none. -/
structure BeginsLine (s : Source) (start offset : Nat) : Prop where
  le : start ≤ offset
  behind_newline : start = 0 ∨ 0 < start ∧ s.bytes[start - 1]? = some Text.newline
  last : ∀ i, start ≤ i → i < offset → s.bytes[i]? ≠ some Text.newline

theorem mem_lineStarts_iff {start : Nat} :
    start ∈ s.lineStarts ↔ start = 0 ∨ 0 < start ∧ s.bytes[start - 1]? = some Text.newline := by
  rw [lineStarts_eq, List.mem_cons, List.mem_findIdxs_iff_getElem_sub_pos]
  simp only [beq_iff_eq, List.getElem?_eq_some_iff]
  rfl

/-- The column of an offset is counted from the start of its line, which is in the line table. -/
theorem beginsLine_position (s : Source) (offset : Nat) :
    ∃ start, s.lineStarts[(s.position offset).line - 1]? = some start ∧
      s.BeginsLine start offset ∧ (s.position offset).col = offset - start + 1 := by
  obtain ⟨-, start, hget, hle, hcol⟩ := s.position_spec offset
  refine ⟨start, hget, ⟨hle, mem_lineStarts_iff.mp (List.mem_of_getElem? hget), ?_⟩, hcol⟩
  intro i hi hlt hnewline
  -- A line that begins behind such a newline is still one of those that the position counts.
  have hlater : i + 1 ∈ s.lineStarts.takeWhile (· ≤ offset) := by
    rw [takeWhile_lineStarts, List.mem_cons, List.mem_findIdxs_iff_getElem_sub_pos]
    refine .inr ⟨by omega, ?_⟩
    obtain ⟨hlength, hbyte⟩ := List.getElem?_eq_some_iff.mp hnewline
    refine ⟨by simp; omega, ?_⟩
    simp [hbyte]
  obtain ⟨j, hj, hj'⟩ := List.mem_iff_getElem.mp hlater
  have hbefore : s.lineStarts.takeWhile (· ≤ offset) <+: s.lineStarts := List.takeWhile_prefix _
  have hlast : j ≤ (s.position offset).line - 1 := Nat.le_sub_one_of_lt hj
  rw [hbefore.getElem hj] at hj'
  obtain ⟨hline, rfl⟩ := List.getElem?_eq_some_iff.mp hget
  rcases Nat.eq_or_lt_of_le hlast with heq | hlt
  · subst heq
    omega
  · have := List.pairwise_iff_getElem.mp s.pairwise_lineStarts _ _ (by omega) hline hlt
    omega

/-- Positions are in the order of their offsets, first by lines and then by columns. -/
theorem position_strictMono (s : Source) :
    StrictMono fun offset => toLex ((s.position offset).line, (s.position offset).col) := by
  intro a b hab
  obtain ⟨start, hget, hbegins, hcol⟩ := s.beginsLine_position a
  obtain ⟨start', hget', hbegins', hcol'⟩ := s.beginsLine_position b
  have hle : (s.position a).line ≤ (s.position b).line := by
    have hsub : (s.bytes.take a).Sublist (s.bytes.take b) :=
      (List.take_prefix_take_left (Nat.le_of_lt hab)).sublist
    rw [line_position, line_position]
    exact Nat.succ_le_succ (hsub.count_le Text.newline)
  apply Prod.Lex.toLex_lt_toLex.mpr
  rcases Nat.eq_or_lt_of_le hle with heq | hlt
  · -- On one line, both columns are counted from one start.
    have hstart : start = start' := by
      rw [heq] at hget
      exact Option.some.inj (hget.symm.trans hget')
    have := hbegins.le
    exact .inr ⟨heq, by omega⟩
  · exact .inl hlt

theorem position?_eq_some (h : offset < limit) :
    s.position? offset = some (s.position offset) := by
  obtain ⟨start, -, -, hcol⟩ := s.beginsLine_position offset
  have hfits : (s.position offset).col ≤ limit := by omega
  exact if_pos hfits

/-- A position and the start of its line as the bytes of the source have them. -/
structure Measured (s : Source) (offset : Nat) (p : Position) (start : Nat) : Prop where
  begins : s.BeginsLine start offset
  line_eq : p.line = (s.bytes.take offset).count Text.newline + 1
  col_eq : p.col = offset - start + 1
  line_exists : 1 ≤ p.line ∧ p.line ≤ s.lineCount
  fits : p.line < UInt32.size ∧ p.col < UInt32.size
  /-- The start is the one that the line table has for the line, and the offset is told from it. -/
  listed : s.lineStarts[p.line - 1]? = some start
  recovered : start + p.col - 1 = offset

/-- How offsets and positions correspond. -/
structure PositionsExact (s : Source) : Prop where
  lineCount_eq : s.lineCount = s.bytes.count Text.newline + 1
  starts_fit : ∀ start ∈ s.lineStarts, start < UInt32.size
  measured : ∀ offset < limit, ∃ start,
    s.position? offset = some (s.position offset) ∧ s.Measured offset (s.position offset) start
  increasing : StrictMono fun offset => toLex ((s.position offset).line, (s.position offset).col)

/-- Every offset below the limit has the position that the newline bytes below it make, and is told
from it again. -/
theorem positions_exact (s : Source) : s.PositionsExact where
  lineCount_eq := s.lineCount_eq
  starts_fit := by
    intro start hstart
    have hle := (between_of_mem_lineStarts hstart).le
    have hfits := s.fits
    unfold limit at hfits
    unfold UInt32.size
    omega
  measured := by
    intro offset h
    obtain ⟨start, hget, hbegins, hcol⟩ := s.beginsLine_position offset
    have hlocates := s.locates h
    have hle := hbegins.le
    exact ⟨start, position?_eq_some h, hbegins, s.line_position offset, hcol,
      hlocates.line_exists, ⟨hlocates.line_fits, hlocates.col_fits⟩, hget, by omega⟩
  increasing := s.position_strictMono

/-- Four lines, of which the second is empty and the last one too, with letters of two bytes and a
return. -/
def fourLines : Source := ⟨"a.php", "é\n\n$x[é]\r\n", by decide⟩

/-- An offset in the middle of a letter, one behind the last newline and one behind the end. -/
theorem fourLines_measured :
    8 < limit ∧ 12 < limit ∧ 20 < limit ∧
      fourLines.position? 8 = some ⟨3, 5⟩ ∧ fourLines.Measured 8 ⟨3, 5⟩ 4 ∧
      fourLines.position? 12 = some ⟨4, 1⟩ ∧ fourLines.Measured 12 ⟨4, 1⟩ 12 ∧
      fourLines.position? 20 = some ⟨4, 9⟩ ∧ fourLines.Measured 20 ⟨4, 9⟩ 12 := by
  have hexact := positions_exact fourLines
  obtain ⟨_, hfound, hmeasured⟩ := hexact.measured 8 (by decide)
  obtain ⟨_, hfound', hmeasured'⟩ := hexact.measured 12 (by decide)
  obtain ⟨_, hfound'', hmeasured''⟩ := hexact.measured 20 (by decide)
  obtain rfl := Option.some.inj hmeasured.listed
  obtain rfl := Option.some.inj hmeasured'.listed
  obtain rfl := Option.some.inj hmeasured''.listed
  exact ⟨by decide, by decide, by decide, hfound, hmeasured, hfound', hmeasured', hfound'',
    hmeasured''⟩

end Source

end SubscriptLint
