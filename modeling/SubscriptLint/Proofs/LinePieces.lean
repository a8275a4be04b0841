import SubscriptLint.Proofs.LineBytes
import SubscriptLint.Proofs.LineTexts

/-!
# Lines as pieces of a source

The lines of a source are the pieces that it falls into at its newlines, each without the carriage
returns at its end, and a position says which byte of which line an offset is at
(`Source.lines_agree`). An offset whose column is behind the text of its line has nothing but such
carriage returns in front of the next newline.
-/

namespace SubscriptLint

namespace Text

/-- The byte of a carriage return. -/
def carriageReturn : UInt8 := 13

theorem lastLine_append_newline (front cs : List Char) :
    lastLine (front ++ '\n' :: cs) = lastLine cs := by
  induction front with
  | nil => simp [lastLine]
  | cons c front ih =>
      rw [List.cons_append, lastLine, if_pos (by simp), ih]

theorem length_splitOn_newline (cs : List Char) :
    (cs.splitOn '\n').length = cs.count '\n' + 1 := by
  induction cs with
  | nil => rfl
  | cons c cs ih =>
      rw [List.splitOn_cons_eq_if_modifyHead]
      by_cases hc : c = '\n'
      · simp [hc, ih]
      · simp [hc, ih]

/-- A piece of a text begins behind as many newlines as there are pieces in front of it, and goes on
to the next newline. -/
theorem exists_eq_append_of_splitOn {cs piece : List Char} {n : Nat}
    (h : (cs.splitOn '\n')[n]? = some piece) :
    ∃ front rest, cs = front ++ (piece ++ rest) ∧ front.count '\n' = n ∧ lastLine front = [] ∧
      '\n' ∉ piece ∧ ∀ c ∈ rest.head?, c = '\n' := by
  induction n generalizing cs with
  | zero =>
      by_cases hcs : '\n' ∈ cs
      · obtain ⟨line, more, rfl, hline⟩ := List.eq_append_cons_of_mem hcs
        rw [List.splitOn_append_cons_self_of_not_mem hline] at h
        obtain rfl := Option.some.inj h
        exact ⟨[], '\n' :: more, rfl, rfl, rfl, hline, by simp⟩
      · rw [List.splitOn_eq_singleton hcs] at h
        obtain rfl := Option.some.inj h
        exact ⟨[], [], by simp, rfl, rfl, hcs, by simp⟩
  | succ n ih =>
      by_cases hcs : '\n' ∈ cs
      · obtain ⟨line, more, rfl, hline⟩ := List.eq_append_cons_of_mem hcs
        rw [List.splitOn_append_cons_self_of_not_mem hline, List.getElem?_cons_succ] at h
        obtain ⟨front, rest, rfl, rfl, hlast, hpiece, hrest⟩ := ih h
        refine ⟨line ++ '\n' :: front, rest, by simp, ?_, ?_, hpiece, hrest⟩
        · simp [List.count_eq_zero.mpr hline]
        · rw [lastLine_append_newline, hlast]
      · rw [List.splitOn_eq_singleton hcs] at h
        simp at h

theorem takeWhile_append_eq {α : Type} {p : α → Bool} {body rest : List α}
    (hbody : ∀ a ∈ body, p a = true) (hrest : ∀ a ∈ rest.head?, p a = false) :
    (body ++ rest).takeWhile p = body := by
  rw [List.takeWhile_append_of_pos hbody]
  cases rest with
  | nil => exact List.append_nil body
  | cons a rest =>
      rw [List.takeWhile_cons_of_neg (by simp [hrest a rfl]), List.append_nil]

/-- The bytes of a text are those in front of the carriage returns at its end, and the returns. -/
theorem exists_bytes_eq_append_returns (cs : List Char) :
    ∃ count, bytes (String.ofList cs) =
      bytes (String.ofList (cs.rdropWhile (· = '\r'))) ++ List.replicate count carriageReturn := by
  have hreturns : cs.rtakeWhile (· = '\r') =
      List.replicate (cs.rtakeWhile (· = '\r')).length '\r' := by
    apply List.eq_replicate_length.mpr
    intro c hc
    simpa using List.mem_rtakeWhile_imp hc
  have hencoded : String.utf8EncodeChar '\r' = [carriageReturn] := rfl
  refine ⟨(cs.rtakeWhile (· = '\r')).length, ?_⟩
  conv_lhs => rw [← List.rdropWhile_append_rtakeWhile (p := (· = '\r')) (l := cs), hreturns]
  rw [bytes_ofList, bytes_ofList, List.flatMap_append, List.flatMap_replicate, hencoded,
    List.flatten_replicate_singleton]

end Text

namespace Source

variable {s : Source} {n start offset : Nat} {piece : List Char}

/-- The pieces that the contents fall into at their newlines. -/
def pieces (s : Source) : List (List Char) := s.contents.toList.splitOn '\n'

theorem length_pieces (s : Source) : s.pieces.length = s.lineCount := by
  rw [pieces, Text.length_splitOn_newline, lineCount, lineStarts, List.length_cons,
    length_startsFrom]

/-- Every line is a piece without the returns at its end. -/
theorem line_of_piece (h : s.pieces[n]? = some piece) :
    s.line (n + 1) = String.ofList (piece.rdropWhile (· = '\r')) := by
  obtain ⟨front, rest, hcontents, rfl, hlast, hpiece, hrest⟩ :=
    Text.exists_eq_append_of_splitOn h
  have hfirst : Text.firstLine (piece ++ rest) = piece := by
    apply Text.takeWhile_append_eq
    · exact fun c hc => decide_eq_true (ne_of_mem_of_not_mem hc hpiece)
    · exact fun c hc => by simp [hrest c hc]
  rw [line_across hcontents, hlast, List.nil_append, hfirst, trimReturns_eq_rdropWhile]

theorem line_of_not_exists (h : n = 0 ∨ s.lineCount < n) : s.line n = "" := by
  have hspan : s.lineSpan? n = none := by
    rcases h with rfl | h
    · rfl
    · have hnone : s.lineStarts[n - 1]? = none := by
        apply List.getElem?_eq_none
        unfold lineCount at h
        omega
      rw [lineSpan?, if_neg (by omega), hnone, Option.map_none]
  rw [line, hspan, Option.bind_none]

/-- A source without returns is put together again from its lines. -/
theorem intercalate_lines (h : '\r' ∉ s.contents.toList) :
    "\n".intercalate ((List.range' 1 s.lineCount).map s.line) = s.contents := by
  have hlines : ((List.range' 1 s.lineCount).map s.line).map String.toList = s.pieces := by
    apply List.ext_getElem
    · simp [length_pieces]
    · intro n _ hn
      have hpiece : s.pieces[n]? = some s.pieces[n] := List.getElem?_eq_getElem hn
      obtain ⟨front, rest, hcontents, -⟩ := Text.exists_eq_append_of_splitOn hpiece
      have hreturn : '\r' ∉ s.pieces[n] := by
        intro hmem
        apply h
        rw [hcontents]
        simp [hmem]
      have hself : s.pieces[n].rdropWhile (· = '\r') = s.pieces[n] := by
        apply List.rdropWhile_eq_self_iff.mpr
        intro hne hlast
        exact hreturn (of_decide_eq_true hlast ▸ List.getLast_mem hne)
      simp [Nat.add_comm 1 n, line_of_piece hpiece, hself]
  apply String.toList_inj.mp
  rw [String.toList_intercalate, hlines]
  exact List.intercalate_splitOn '\n'

/-- The bytes from the start of a line to the next newline are those of the line and the returns
behind it. -/
theorem exists_bytes_eq (h : s.lineStarts[n]? = some start) :
    ∃ front raw rest count, s.bytes = front ++ (raw ++ rest) ∧ front.length = start ∧
      raw = Text.bytes (s.line (n + 1)) ++ List.replicate count Text.carriageReturn ∧
      ∀ b ∈ rest.head?, b = Text.newline := by
  have hn : n < s.pieces.length := by
    rw [length_pieces]
    exact (List.getElem?_eq_some_iff.mp h).1
  obtain ⟨piece, hget⟩ : ∃ piece, s.pieces[n]? = some piece := ⟨_, List.getElem?_eq_getElem hn⟩
  obtain ⟨front, rest, hcontents, rfl, hlast, -, hrest⟩ := Text.exists_eq_append_of_splitOn hget
  obtain ⟨count, hcount⟩ := Text.exists_bytes_eq_append_returns piece
  refine ⟨Text.bytes (String.ofList front), Text.bytes (String.ofList piece),
    Text.bytes (String.ofList rest), count, ?_, ?_, ?_, ?_⟩
  · simp only [bytes, Text.bytes_eq_flatMap, hcontents, String.toList_ofList, List.flatMap_append]
  · obtain ⟨start', hstart, hspan⟩ := lineSpan?_across hcontents
    rw [lineSpan?, if_neg (Nat.succ_ne_zero _), Nat.add_sub_cancel, h] at hspan
    have heq : start = start' := congrArg Span.start (Option.some.inj hspan)
    rw [hlast, Text.width_nil] at hstart
    rw [Text.length_bytes, Text.utf8ByteSize_ofList]
    omega
  · rw [hcount, line_of_piece hget]
  · cases rest with
    | nil =>
        intro b hb
        cases hb
    | cons c rest =>
        obtain rfl := hrest c rfl
        rw [Text.bytes_ofList, List.flatMap_cons, Text.utf8EncodeChar_newline]
        simp

/-- An offset is not behind the newline at which the line that it is on ends. -/
theorem BeginsLine.offset_le {front raw rest : List UInt8}
    (hbegins : s.BeginsLine front.length offset) (h : offset ≤ s.bytes.length)
    (hbytes : s.bytes = front ++ (raw ++ rest)) (hrest : ∀ b ∈ rest.head?, b = Text.newline) :
    offset ≤ front.length + raw.length := by
  by_contra hout
  cases rest with
  | nil =>
      rw [hbytes, List.append_nil, List.length_append] at h
      exact hout h
  | cons b rest =>
      obtain rfl := hrest b rfl
      apply hbegins.last (front.length + raw.length) (Nat.le_add_right ..) (by omega)
      rw [hbytes, List.getElem?_append_right (Nat.le_add_right ..), Nat.add_sub_cancel_left]
      simp

/-- What a position says of the byte at its offset: it is the byte of its line at its column, unless
the line is not shown so far because of the returns at its end. -/
structure Shows (s : Source) (offset : Nat) (p : Position) : Prop where
  shown : p.col - 1 < (s.line p.line).utf8ByteSize →
    ∃ b, s.bytes[offset]? = some b ∧ (Text.bytes (s.line p.line))[p.col - 1]? = some b
  behind : (s.line p.line).utf8ByteSize ≤ p.col - 1 →
    ∀ b ∈ (s.bytes.drop offset).takeWhile (· ≠ Text.newline), b = Text.carriageReturn

theorem shows_position (h : offset ≤ s.contents.utf8ByteSize) :
    s.Shows offset (s.position offset) := by
  obtain ⟨start, hget, hbegins, hcol⟩ := s.beginsLine_position offset
  obtain ⟨front, raw, rest, count, hbytes, rfl, hraw, hrest⟩ := exists_bytes_eq hget
  have hline : (s.position offset).line - 1 + 1 = (s.position offset).line := by
    rw [line_position]
    rfl
  rw [hline] at hraw
  have hle := hbegins.le
  have hinside : offset ≤ front.length + raw.length :=
    hbegins.offset_le (s.length_bytes ▸ h) hbytes hrest
  have hindex : offset - front.length = (s.position offset).col - 1 := by omega
  constructor
  · intro hshown
    rw [← Text.length_bytes] at hshown
    refine ⟨_, ?_, List.getElem?_eq_getElem hshown⟩
    rw [hbytes, List.getElem?_append_right hle, hindex, hraw, List.append_assoc,
      List.getElem?_append_left hshown, List.getElem?_eq_getElem hshown]
  · intro hbehind
    rw [← Text.length_bytes] at hbehind
    -- Only returns are left of the line, and what is behind them begins with a newline.
    have hdrop : ∃ left, s.bytes.drop offset =
        List.replicate left Text.carriageReturn ++ rest := by
      refine ⟨count - ((s.position offset).col - 1 -
        (Text.bytes (s.line (s.position offset).line)).length), ?_⟩
      rw [hbytes, List.drop_append, List.drop_eq_nil_of_le hle, List.nil_append, hindex,
        List.drop_append_of_le_length (by omega), hraw, List.drop_append,
        List.drop_eq_nil_of_le hbehind, List.nil_append, List.drop_replicate]
    obtain ⟨left, hdrop⟩ := hdrop
    have htake : (s.bytes.drop offset).takeWhile (· ≠ Text.newline) =
        List.replicate left Text.carriageReturn := by
      rw [hdrop]
      apply Text.takeWhile_append_eq
      · intro b hb
        obtain rfl := List.eq_of_mem_replicate hb
        rfl
      · exact fun b hb => by simp [hrest b hb]
    rw [htake]
    exact fun b => List.eq_of_mem_replicate

/-- How the lines of a source and the positions in it agree. -/
structure LinesAgree (s : Source) : Prop where
  pieces_eq : s.pieces.length = s.lineCount
  line_eq : ∀ n piece, s.pieces[n]? = some piece →
    s.line (n + 1) = String.ofList (piece.rdropWhile (· = '\r'))
  elsewhere : ∀ n, n = 0 ∨ s.lineCount < n → s.line n = ""
  joined : '\r' ∉ s.contents.toList →
    "\n".intercalate ((List.range' 1 s.lineCount).map s.line) = s.contents
  shows : ∀ offset ≤ s.contents.utf8ByteSize,
    s.position? offset = some (s.position offset) ∧ s.Shows offset (s.position offset)

/-- The lines are the pieces of the contents, and positions point into them. -/
theorem lines_agree (s : Source) : s.LinesAgree where
  pieces_eq := s.length_pieces
  line_eq _ _ := line_of_piece
  elsewhere _ := line_of_not_exists
  joined := intercalate_lines
  shows _ h := ⟨position?_eq_some (Nat.lt_of_le_of_lt h s.fits), shows_position h⟩

/-- Three lines without returns, the second of which is empty. -/
def threeLines : Source := ⟨"b.php", "é\n\n$y", by decide⟩

/-- The second byte of a letter, and the return at the end of its line. -/
theorem fourLines_agree :
    fourLines.pieces[2]? = some "$x[é]\r".toList ∧ fourLines.line 3 = "$x[é]" ∧
      fourLines.line 5 = "" ∧
      fourLines.position? 8 = some ⟨3, 5⟩ ∧ fourLines.Shows 8 ⟨3, 5⟩ ∧
      fourLines.bytes[8]? = some 0xA9 ∧ (Text.bytes "$x[é]")[4]? = some 0xA9 ∧
      fourLines.position? 10 = some ⟨3, 7⟩ ∧ fourLines.Shows 10 ⟨3, 7⟩ ∧
      (fourLines.bytes.drop 10).takeWhile (· ≠ Text.newline) = [Text.carriageReturn] ∧
      "\n".intercalate ((List.range' 1 threeLines.lineCount).map threeLines.line) =
        "é\n\n$y" := by
  have hpiece : fourLines.pieces[2]? = some "$x[é]\r".toList := by decide
  obtain ⟨-, hline, helsewhere, -, hshows⟩ := lines_agree fourLines
  obtain ⟨hfound, hshown⟩ := hshows 8 (by decide)
  obtain ⟨hfound', hbehind⟩ := hshows 10 (by decide)
  exact ⟨hpiece, hline 2 _ hpiece, helsewhere 5 (.inr (by decide)), hfound, hshown, by decide,
    by decide, hfound', hbehind, by decide, (lines_agree threeLines).joined (by decide)⟩

end Source

end SubscriptLint
