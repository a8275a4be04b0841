import SubscriptLint.Source.Message
import SubscriptLint.Proofs.Lines
import SubscriptLint.Proofs.LineTexts

/-!
# Carets under lines

A message shows the line that it is about, and below it a caret with as many blanks in front as the
column says. Columns count bytes and the line is shown in characters, so the caret stands under the
character that the message is about exactly if no character in front of it on the line has more than
one byte; otherwise it stands too far behind by what they have more (`Source.caret_shown`).
-/

namespace SubscriptLint

namespace Text

theorem width_eq_length_iff {cs : List Char} :
    width cs = cs.length ↔ ∀ c ∈ cs, c.utf8Size = 1 := by
  induction cs with
  | nil => simp
  | cons c cs ih =>
      have hpos := c.utf8Size_pos
      have hle := length_le_width cs
      rw [List.forall_mem_cons, ← ih, width_cons, List.length_cons]
      omega

theorem width_le_width {part cs : List Char} (h : part <+: cs) : width part ≤ width cs := by
  obtain ⟨rest, rfl⟩ := h
  rw [width_append]
  exact Nat.le_add_right ..

/-- What is wider than the line up to a character has that character in it, if it begins the line. -/
theorem prefix_of_width_lt {front back part : List Char} {c : Char}
    (hpart : part <+: front ++ firstLine (c :: back)) (h : width front < width part) :
    front ++ [c] <+: part := by
  by_cases hc : c = '\n'
  · rw [hc, firstLine_newline, List.append_nil] at hpart
    exact absurd (width_le_width hpart) (Nat.not_le_of_lt h)
  · rw [firstLine_cons hc] at hpart
    have hupto : front ++ [c] <+: front ++ c :: firstLine back :=
      ⟨firstLine back, List.append_assoc ..⟩
    rcases List.prefix_or_prefix_of_prefix hupto hpart with hle | hle
    · exact hle
    · rcases List.prefix_concat_iff.mp hle with rfl | hle
      · exact List.prefix_rfl
      · exact absurd (width_le_width hle) (Nat.not_le_of_lt h)

end Text

namespace Source

variable {s : Source} {front rest : String} {c : Char}

/-- What stands in front of a character on the row that shows its line: the number of the line, and
the line up to the character. -/
def rowFront (s : Source) (front : String) : String :=
  toString (s.position front.utf8ByteSize).line ++ " | " ++
    String.ofList (Text.lastLine front.toList)

/-- What stands in front of the caret. -/
def caretFront (p : Position) : String := gutter p.line ++ "| " ++ spaces (p.col - 1)

/-- A caret stands under the character that it is about: as many characters are in front of the one
as of the other. -/
def CaretUnder (s : Source) (front : String) : Prop :=
  (caretFront (s.position front.utf8ByteSize)).length = (s.rowFront front).length

/-- The offset is one on the visible text of its line. -/
def Visible (s : Source) (offset : Nat) : Prop :=
  (s.position offset).col ≤ (s.line (s.position offset).line).utf8ByteSize

instance (s : Source) (front : String) : Decidable (s.CaretUnder front) :=
  inferInstanceAs (Decidable (_ = _))

instance (s : Source) (offset : Nat) : Decidable (s.Visible offset) :=
  inferInstanceAs (Decidable (_ ≤ _))

theorem length_rowFront (s : Source) (front : String) :
    (s.rowFront front).length =
      (toString (s.position front.utf8ByteSize).line).length + 3 +
        (Text.lastLine front.toList).length := by
  have hbar : " | ".length = 3 := rfl
  simp [rowFront, hbar]

theorem length_caretFront (p : Position) :
    (caretFront p).length = (toString p.line).length + 3 + (p.col - 1) := by
  have hbar : "| ".length = 2 := rfl
  simp [caretFront, gutter, spaces, hbar]

/-- A visible character is on the shown text of its line, behind all that is in front of it there. -/
theorem exists_line_eq (h : s.contents = front ++ c.toString ++ rest)
    (hvisible : s.Visible front.utf8ByteSize) :
    ∃ back, s.line (s.position front.utf8ByteSize).line =
      String.ofList (Text.lastLine front.toList) ++ c.toString ++ back := by
  have hposition : s.position front.utf8ByteSize = Position.behind front :=
    position_eq_behind (h.trans (String.append_assoc ..))
  have hcontents : s.contents.toList = front.toList ++ c :: rest.toList := by
    simp [h]
  have hline : s.line (s.position front.utf8ByteSize).line = String.ofList (trimReturns
      (Text.lastLine front.toList ++ Text.firstLine (c :: rest.toList))) := by
    rw [hposition]
    exact line_across hcontents
  -- What is shown begins the line, so it has all in front of a column that it reaches.
  unfold Visible at hvisible
  rw [hline, trimReturns_eq_rdropWhile, Text.utf8ByteSize_ofList, hposition] at hvisible
  obtain ⟨back, hback⟩ := Text.prefix_of_width_lt (List.rdropWhile_prefix _ _) hvisible
  refine ⟨String.ofList back, ?_⟩
  rw [hline, trimReturns_eq_rdropWhile, ← hback]
  apply String.toList_inj.mp
  simp

/-- How the messages about a character show it, and where they have their caret. -/
structure CaretShown (s : Source) (front : String) (c : Char) : Prop where
  shown : ∃ back, ∀ kind text, s.message (s.position front.utf8ByteSize) kind text =
    "\n".intercalate
      ["",
        "--> " ++ s.file ++ ":" ++ toString (s.position front.utf8ByteSize).line ++ ":" ++
          toString (s.position front.utf8ByteSize).col,
        gutter (s.position front.utf8ByteSize).line ++ "|",
        s.rowFront front ++ c.toString ++ back,
        caretFront (s.position front.utf8ByteSize) ++ "^",
        kind ++ ": " ++ text]
  behind_by : (caretFront (s.position front.utf8ByteSize)).length =
    (s.rowFront front).length +
      (Text.width (Text.lastLine front.toList) - (Text.lastLine front.toList).length)
  under_iff : s.CaretUnder front ↔ ∀ d ∈ Text.lastLine front.toList, d.utf8Size = 1

/-- A message shows a visible character with a caret that stands behind it by as many places as the
characters in front of it on the line have bytes more than one. -/
theorem caret_shown (h : s.contents = front ++ c.toString ++ rest)
    (hvisible : s.Visible front.utf8ByteSize) : s.CaretShown front c := by
  obtain ⟨back, hline⟩ := exists_line_eq h hvisible
  have hposition : s.position front.utf8ByteSize = Position.behind front :=
    position_eq_behind (h.trans (String.append_assoc ..))
  have hcol : (s.position front.utf8ByteSize).col = Text.width (Text.lastLine front.toList) + 1 := by
    rw [hposition, Position.behind]
  have hle := Text.length_le_width (Text.lastLine front.toList)
  constructor
  · refine ⟨back, fun kind text => ?_⟩
    obtain ⟨⟨hpos, hcount⟩, -⟩ := s.position_spec front.utf8ByteSize
    have hrow : s.sourceRow (s.position front.utf8ByteSize).line =
        s.rowFront front ++ c.toString ++ back := by
      rw [sourceRow, hline, rowFront]
      simp only [String.append_assoc]
    rw [message, if_neg (by omega), hrow]
    rfl
  · rw [length_caretFront, length_rowFront, hcol]
    omega
  · rw [CaretUnder, length_caretFront, length_rowFront, hcol, ← Text.width_eq_length_iff]
    omega

/-- A letter of two bytes on a line of its own, nine lines further a bracket behind another one, and
a return at the end. -/
def tenLines : Source := ⟨"a.php", "é\n\n\n\n\n\n\n\n\n$a[é]\r\n", by decide⟩

/-- In front of the bracket in the tenth line there are characters of one byte only on that line. -/
theorem tenLines_caret_under :
    tenLines.CaretShown "é\n\n\n\n\n\n\n\n\n$a" '[' ∧
      tenLines.CaretUnder "é\n\n\n\n\n\n\n\n\n$a" ∧
      tenLines.message ⟨10, 3⟩ "warning" "m" =
        "\n--> a.php:10:3\n   |\n10 | $a[é]\n   |   ^\nwarning: m" := by
  have hcontents : tenLines.contents = "é\n\n\n\n\n\n\n\n\n$a" ++ '['.toString ++ "é]\r\n" := rfl
  have hshown := caret_shown hcontents (by decide)
  have honebyte : ∀ d ∈ Text.lastLine "é\n\n\n\n\n\n\n\n\n$a".toList, d.utf8Size = 1 :=
    Text.width_eq_length_iff.mp rfl
  exact ⟨hshown, hshown.under_iff.mpr honebyte, by decide⟩

/-- A letter of two bytes in front of a bracket. -/
def accented : Source := ⟨"a.php", "é[0]", by decide⟩

/-- The bracket has five characters in front of it, and the caret six. -/
theorem accented_caret_behind :
    accented.contents = "é" ++ '['.toString ++ "0]" ∧ accented.Visible "é".utf8ByteSize ∧
      accented.position "é".utf8ByteSize = ⟨1, 3⟩ ∧
      accented.message ⟨1, 3⟩ "warning" "m" =
        "\n--> a.php:1:3\n  |\n1 | é[0]\n  |   ^\nwarning: m" ∧
      ¬accented.CaretUnder "é" :=
  ⟨rfl, by decide, rfl, by decide, by decide⟩

end Source

end SubscriptLint
