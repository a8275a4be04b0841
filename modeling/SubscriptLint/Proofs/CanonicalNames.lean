import SubscriptLint.Proofs.LetterCase
import Mathlib.Data.List.DropRight

/-!
# Canonical names of types

Every text is sorted into one kind of type by what is left of it when it is trimmed
(`TypeName.SortedAs`), and the text in which the type is then shown is sorted into the same type
again. Types are equal if they are shown in one text, or are classes whose names differ in the case of
ASCII letters (`TypeName.names_canonical`).
-/

namespace SubscriptLint

namespace Text

/-- Nothing is left to trim at the front of a text that was trimmed there and then at its end. -/
theorem dropWhile_trimChars (cs : List Char) : (trimChars cs).dropWhile isBlank = trimChars cs := by
  have hfront : trimChars cs <+: cs.dropWhile isBlank := List.rdropWhile_prefix _ _
  apply List.dropWhile_eq_self_iff.mpr
  intro hpos hblank
  have hlength : 0 < (cs.dropWhile isBlank).length := Nat.lt_of_lt_of_le hpos hfront.length_le
  rw [List.IsPrefix.getElem hfront hpos] at hblank
  exact List.dropWhile_get_zero_not isBlank cs hlength hblank

theorem trim_trim (text : String) : trim (trim text) = trim text := by
  have hback : ∀ cs, ((trimChars cs).reverse.dropWhile isBlank).reverse = trimChars cs :=
    fun cs => List.rdropWhile_idempotent isBlank (cs.dropWhile isBlank)
  rw [trim, trim, String.toList_ofList, trimChars, dropWhile_trimChars, hback]

end Text

namespace Builtin

/-- The text is one of the spellings of the built-in type, in any case of its letters. -/
def Spells (text : String) (b : Builtin) : Prop :=
  ∃ spelling, (spelling, b) ∈ spellings ∧ Text.alike text spelling = true

theorem ofSpelling?_eq_some_iff {text : String} {b : Builtin} :
    ofSpelling? text = some b ↔ Spells text b := by
  have hfold : ∀ e ∈ spellings, Text.fold e.1 = e.1 := by decide +kernel
  have hlookup : ∀ e ∈ spellings, spellings.lookup e.1 = some e.2 := by decide +kernel
  constructor
  · intro h
    obtain ⟨before, after, heq, -⟩ := List.lookup_eq_some_iff.mp h
    have hmem : (Text.fold text, b) ∈ spellings := by
      rw [heq]
      exact List.mem_append_cons_self
    exact ⟨_, hmem, Text.alike_iff.mpr (hfold _ hmem).symm⟩
  · rintro ⟨spelling, hmem, halike⟩
    rw [ofSpelling?, Text.alike_iff.mp halike, hfold _ hmem]
    exact hlookup _ hmem

theorem ofSpelling?_eq_none_iff {text : String} :
    ofSpelling? text = none ↔ ∀ b, ¬Spells text b := by
  simp only [Option.eq_none_iff_forall_ne_some, Ne, ofSpelling?_eq_some_iff]

/-- No spelling has a separator in it. -/
theorem not_spells_of_mem {text : String} (h : ClassName.separator ∈ text.toList) (b : Builtin) :
    ¬Spells text b := by
  have hnone : ∀ e ∈ spellings, ClassName.separator ∉ e.1.toList := by decide +kernel
  rintro ⟨spelling, hmem, halike⟩
  have hchars : text.toList.map Char.toLower = spelling.toList.map Char.toLower := by
    rw [← Text.toList_fold, ← Text.toList_fold, Text.alike_iff.mp halike]
  apply hnone _ hmem
  rw [← List.contains_iff_mem, ← Text.contains_separator_map_toLower, ← hchars,
    Text.contains_separator_map_toLower]
  exact List.contains_iff_mem.mpr h

end Builtin

namespace TypeName

/-- How a trimmed text is sorted into the kinds of types. -/
inductive SortedAs (text : String) : TypeName → Prop
  | plain {b : Builtin} (h : Builtin.Spells text b) : SortedAs text (.builtin b)
  | qualified {b : Builtin} {rest : String} (htext : text = "\\" ++ rest) (h : Builtin.Spells rest b) :
      SortedAs text (.builtin b)
  | classLike {rest : String} (htext : text = "\\" ++ rest) (h : ∀ b, ¬Builtin.Spells rest b) :
      SortedAs text (.classLike ⟨text⟩)
  | other (htext : ∀ rest, text ≠ "\\" ++ rest) (h : ∀ b, ¬Builtin.Spells text b) :
      SortedAs text (.other text)

/-- The types in the form to which every text is brought, and the text in which each is shown. -/
inductive ShownAs : TypeName → String → Prop
  | builtin (b : Builtin) : ShownAs (.builtin b) b.spelling
  | classLike {text rest : String} (htrim : Text.trim text = text) (htext : text = "\\" ++ rest)
      (h : ∀ b, ¬Builtin.Spells rest b) : ShownAs (.classLike ⟨text⟩) text
  | other {text : String} (htrim : Text.trim text = text) (htext : ∀ rest, text ≠ "\\" ++ rest)
      (h : ∀ b, ¬Builtin.Spells text b) : ShownAs (.other text) text

variable {t : TypeName} {raw raw' text : String}

theorem ofText_trim (raw : String) : ofText (Text.trim raw) = ofText raw := by
  rw [ofText, ofText, Text.trim_trim]

/-- Whatever a text is sorted into is told by what is left of it when it is trimmed. -/
theorem sortedAs_ofText (raw : String) : SortedAs (Text.trim raw) (ofText raw) := by
  unfold ofText
  generalize Text.trim raw = text
  cases hchars : text.toList with
  | nil =>
      have hempty : text = "" := String.toList_inj.mp hchars
      subst hempty
      refine .other (fun rest h => ?_) (Builtin.ofSpelling?_eq_none_iff.mp (by decide +kernel))
      have := congrArg String.toList h
      simp at this
  | cons c cs =>
      by_cases hc : c = ClassName.separator
      · have htext : text = "\\" ++ String.ofList cs := by
          apply String.toList_inj.mp
          rw [hchars, hc]
          simp
          rfl
        have hnone : cs.contains ClassName.separator = true →
            ∀ b, ¬Builtin.Spells (String.ofList cs) b := by
          intro hmore
          apply Builtin.not_spells_of_mem
          rw [String.toList_ofList]
          exact List.contains_iff_mem.mp hmore
        simp only [hchars, if_pos hc]
        cases hmore : cs.contains ClassName.separator with
        | true => exact .classLike htext (hnone hmore)
        | false =>
            cases hspelling : Builtin.ofSpelling? (String.ofList cs) with
            | some b => exact .qualified htext (Builtin.ofSpelling?_eq_some_iff.mp hspelling)
            | none => exact .classLike htext (Builtin.ofSpelling?_eq_none_iff.mp hspelling)
      · have htext : ∀ rest, text ≠ "\\" ++ rest := by
          rintro rest rfl
          rw [String.toList_append] at hchars
          exact hc (List.cons.inj hchars).1.symm
        simp only [hchars, if_neg hc]
        cases hspelling : Builtin.ofSpelling? text with
        | some b => exact .plain (Builtin.ofSpelling?_eq_some_iff.mp hspelling)
        | none => exact .other htext (Builtin.ofSpelling?_eq_none_iff.mp hspelling)

theorem shownAs_ofText (raw : String) : (ofText raw).ShownAs (ofText raw).text := by
  have hsorted := sortedAs_ofText raw
  have htrim := Text.trim_trim raw
  generalize ofText raw = t at hsorted ⊢
  generalize Text.trim raw = text at hsorted htrim
  cases hsorted with
  | plain h => exact .builtin _
  | qualified htext h => exact .builtin _
  | classLike htext h => exact .classLike htrim htext h
  | other htext h => exact .other htrim htext h

theorem ofText_spelling (b : Builtin) : ofText b.spelling = .builtin b := by
  cases b <;> rfl

/-- The shown text of a type is sorted into the type again. -/
theorem ofText_text (raw : String) : ofText (ofText raw).text = ofText raw := by
  have hsorted := sortedAs_ofText raw
  generalize hraw : ofText raw = t at hsorted ⊢
  cases hsorted with
  | plain h => exact ofText_spelling _
  | qualified htext h => exact ofText_spelling _
  | classLike htext h => rw [text, ofText_trim, hraw]
  | other htext h => rw [text, ofText_trim, hraw]

/-- Types are equal if they are shown in one text or are classes that differ in letter case. -/
theorem beq_ofText_iff :
    (ofText raw == ofText raw') = true ↔
      (ofText raw).text = (ofText raw').text ∨
        ∃ a b, ofText raw = .classLike a ∧ ofText raw' = .classLike b ∧
          List.Forall₂ Text.SameLetter a.text.toList b.text.toList := by
  have hclass (a b : ClassName) :
      List.Forall₂ Text.SameLetter a.text.toList b.text.toList ↔ a.key = b.key :=
    Text.alike_iff_forall₂.symm.trans Text.alike_iff
  simp only [beq_iff, hclass]
  constructor
  · intro hkey
    generalize ofText raw = t at hkey ⊢
    generalize ofText raw' = u at hkey ⊢
    cases t with
    | builtin b =>
        cases u with
        | builtin b' => exact .inl (congrArg Builtin.spelling (TypeKey.builtin.inj hkey))
        | classLike name => cases hkey
        | other word => cases hkey
    | classLike a =>
        cases u with
        | builtin b => cases hkey
        | classLike b => exact .inr ⟨a, b, rfl, rfl, TypeKey.classLike.inj hkey⟩
        | other word => cases hkey
    | other word =>
        cases u with
        | builtin b => cases hkey
        | classLike name => cases hkey
        | other word' => exact .inl (TypeKey.other.inj hkey)
  · rintro (htext | ⟨a, b, ha, hb, hkey⟩)
    · -- The text in which a type is shown tells the type.
      rw [← ofText_text raw, htext, ofText_text]
    · rw [ha, hb]
      exact congrArg TypeKey.classLike hkey

/-- What a text is read as, how that is shown, and when it equals what other texts are read as. -/
structure ReadCanonically (raw : String) : Prop where
  sorted : SortedAs (Text.trim raw) (ofText raw)
  shown : (ofText raw).ShownAs (ofText raw).text
  again : ofText (ofText raw).text = ofText raw
  equal_iff : ∀ raw', (ofText raw == ofText raw') = true ↔
    (ofText raw).text = (ofText raw').text ∨
      ∃ a b, ofText raw = .classLike a ∧ ofText raw' = .classLike b ∧
        List.Forall₂ Text.SameLetter a.text.toList b.text.toList

/-- Every text is read as a type that is shown in a canonical form, and that form is read as the same
type. -/
theorem names_canonical (raw : String) : ReadCanonically raw where
  sorted := sortedAs_ofText raw
  shown := shownAs_ofText raw
  again := ofText_text raw
  equal_iff _ := beq_ofText_iff

/-- A separator counts as a mark of a class unless a spelling of a built-in type is all that follows
it, and blanks count behind it. -/
example :
    ofText " \\INT\n" = .builtin .integer ∧ ofText "\\ int " = .classLike ⟨"\\ int"⟩ ∧
      ofText "\\App\\int" = .classLike ⟨"\\App\\int"⟩ ∧ ofText " self" = .other "self" :=
  ⟨rfl, rfl, rfl, rfl⟩

end TypeName

end SubscriptLint
