import SubscriptLint.Names.TypeName
import Mathlib.Data.List.Forall2

/-!
# Letter case

Names that differ in the case of ASCII letters, and the texts that are read as names: trimming and
the sorting of texts into kinds of types do not notice the case. A plain word keeps its own case
(`TypeName.ofText_respelled`).
-/

namespace SubscriptLint

namespace Text

/-- The small letter of an ASCII capital comes 32 places behind it; other characters are left as they
are. -/
theorem toNat_toLower (c : Char) :
    c.toLower.toNat = if 65 ≤ c.toNat ∧ c.toNat ≤ 90 then c.toNat + 32 else c.toNat := by
  have hcapital : (c.val ≥ 'A'.val ∧ c.val ≤ 'Z'.val) ↔ 65 ≤ c.toNat ∧ c.toNat ≤ 90 := Iff.rfl
  unfold Char.toLower
  by_cases h : 65 ≤ c.toNat ∧ c.toNat ≤ 90
  · rw [dif_pos (hcapital.mpr h), if_pos h]
    have hlast : c.val.toNat ≤ 90 := h.2
    simp only [Char.toNat, UInt32.toNat_add]
    change (c.val.toNat + 32) % 2 ^ 32 = _
    omega
  · rw [dif_neg (mt hcapital.mp h), if_neg h]

/-- A character is its own small letter, or else it is a capital. -/
theorem toLower_cases (c : Char) :
    c.toLower = c ∨ (65 ≤ c.toNat ∧ c.toNat ≤ 90 ∧ c.toLower.toNat = c.toNat + 32) := by
  have hlower := toNat_toLower c
  split at hlower
  · next h => exact .inr ⟨h.1, h.2, hlower⟩
  · exact .inl (Char.toNat_inj.mp hlower)

/-- The characters are the same, but for the case of an ASCII letter. -/
inductive SameLetter : Char → Char → Prop
  | same (c : Char) : SameLetter c c
  | capital {c d : Char} (hc : 65 ≤ c.toNat ∧ c.toNat ≤ 90) (hd : d.toNat = c.toNat + 32) :
      SameLetter c d
  | small {c d : Char} (hd : 65 ≤ d.toNat ∧ d.toNat ≤ 90) (hc : c.toNat = d.toNat + 32) :
      SameLetter c d

theorem sameLetter_iff {c d : Char} : SameLetter c d ↔ c.toLower = d.toLower := by
  constructor
  · intro h
    rw [← Char.toNat_inj, toNat_toLower, toNat_toLower]
    cases h with
    | same => rfl
    | capital hc hd => rw [if_pos hc, if_neg (by omega), hd]
    | small hd hc => rw [if_pos hd, if_neg (by omega), hc]
  · intro h
    rw [← Char.toNat_inj, toNat_toLower, toNat_toLower] at h
    split at h
    · next hc =>
      split at h
      · obtain rfl : c = d := Char.toNat_inj.mp (by omega)
        exact .same c
      · exact .capital hc h.symm
    · split at h
      · next hd => exact .small hd h
      · obtain rfl := Char.toNat_inj.mp h
        exact .same c

/-- Texts are alike if they are as long and differ character by character in the case of ASCII
letters alone. -/
theorem alike_iff_forall₂ {s t : String} :
    alike s t = true ↔ List.Forall₂ SameLetter s.toList t.toList := by
  have hchars : fold s = fold t ↔ s.toList.map Char.toLower = t.toList.map Char.toLower := by
    rw [← String.toList_inj, toList_fold, toList_fold]
  have hletter : SameLetter = fun c d => c.toLower = d.toLower := by
    ext c d
    exact sameLetter_iff
  rw [alike_iff, hchars, hletter, ← List.forall₂_eq_eq_eq, List.forall₂_map_left_iff,
    List.forall₂_map_right_iff]

theorem isBlank_eq_false {c : Char} (hfirst : 65 ≤ c.toNat) (hlast : c.toNat ≤ 122) :
    isBlank c = false := by
  simp only [isBlank, blankRanges, Ranges.includes, Bool.or_false, Bool.and_eq_false_iff,
    Bool.or_eq_false_iff, decide_eq_false_iff_not]
  omega

theorem isBlank_toLower (c : Char) : isBlank c.toLower = isBlank c := by
  rcases toLower_cases c with h | ⟨hfirst, hlast, hsmall⟩
  · rw [h]
  · rw [isBlank_eq_false (by omega) (by omega), isBlank_eq_false (by omega) (by omega)]

theorem toLower_eq_separator_iff (c : Char) :
    c.toLower = ClassName.separator ↔ c = ClassName.separator := by
  rcases toLower_cases c with h | ⟨hfirst, hlast, hsmall⟩
  · rw [h]
  · constructor
    · intro h
      have : c.toLower.toNat = 92 := congrArg Char.toNat h
      omega
    · rintro rfl
      exact absurd hlast (by decide)

theorem contains_separator_map_toLower (cs : List Char) :
    (cs.map Char.toLower).contains ClassName.separator = cs.contains ClassName.separator := by
  rw [Bool.eq_iff_iff, List.contains_iff_mem, List.contains_iff_mem, List.mem_map]
  simp only [toLower_eq_separator_iff, exists_eq_right]

theorem dropWhile_map_toLower (cs : List Char) :
    (cs.map Char.toLower).dropWhile isBlank = (cs.dropWhile isBlank).map Char.toLower := by
  have hblank : isBlank ∘ Char.toLower = isBlank := funext isBlank_toLower
  rw [List.dropWhile_map, hblank]

/-- Trimming does not notice the case of letters. -/
theorem fold_trim (s : String) : fold (trim s) = trim (fold s) := by
  simp only [fold, trim, trimChars, String.toList_ofList, dropWhile_map_toLower,
    ← List.map_reverse]

end Text

/-- The class names differ at most in the case of ASCII letters. -/
def ClassName.Respelled (a b : ClassName) : Prop := Text.alike a.text b.text = true

/-- The type names are the same, but for the case of the ASCII letters of a class name. -/
inductive TypeName.Respelled : TypeName → TypeName → Prop
  | builtin (b : Builtin) : Respelled (.builtin b) (.builtin b)
  | classLike {a b : ClassName} (h : a.Respelled b) : Respelled (.classLike a) (.classLike b)
  | other (word : String) : Respelled (.other word) (.other word)

theorem ClassName.respelled_iff {a b : ClassName} : a.Respelled b ↔ a.key = b.key :=
  Text.alike_iff

theorem TypeName.Respelled.key_eq {t u : TypeName} (h : t.Respelled u) : t.key = u.key := by
  cases h with
  | builtin b => rfl
  | classLike h => exact congrArg TypeKey.classLike (ClassName.respelled_iff.mp h)
  | other word => rfl

namespace TypeName

/-- Texts that differ in case are sorted into the same kind. Only plain words keep their case. -/
theorem ofText_respelled {raw raw' : String} (h : Text.alike raw raw' = true) :
    (ofText raw).Respelled (ofText raw') ∨
      ∃ word word', ofText raw = .other word ∧ ofText raw' = .other word' := by
  have htrim : Text.fold (Text.trim raw) = Text.fold (Text.trim raw') := by
    rw [Text.fold_trim, Text.fold_trim, Text.alike_iff.mp h]
  unfold ofText
  generalize Text.trim raw = t at htrim ⊢
  generalize Text.trim raw' = u at htrim ⊢
  have hchars : t.toList.map Char.toLower = u.toList.map Char.toLower := by
    rw [← Text.toList_fold, ← Text.toList_fold, htrim]
  have hword : Builtin.ofSpelling? t = Builtin.ofSpelling? u := by
    rw [Builtin.ofSpelling?, Builtin.ofSpelling?, htrim]
  have hclass : (TypeName.classLike ⟨t⟩).Respelled (.classLike ⟨u⟩) :=
    .classLike (Text.alike_iff.mpr htrim)
  cases ht : t.toList with
  | nil =>
      rw [ht, List.map_nil, eq_comm, List.map_eq_nil_iff] at hchars
      simp only [ht, hchars]
      exact .inr ⟨t, u, rfl, rfl⟩
  | cons c cs =>
      rw [ht, List.map_cons, eq_comm, List.map_eq_cons_iff] at hchars
      obtain ⟨d, ds, hu, hhead, htail⟩ := hchars
      have hsep : d = ClassName.separator ↔ c = ClassName.separator := by
        rw [← Text.toLower_eq_separator_iff, hhead, Text.toLower_eq_separator_iff]
      have hmore : ds.contains ClassName.separator = cs.contains ClassName.separator := by
        rw [← Text.contains_separator_map_toLower, htail, Text.contains_separator_map_toLower]
      have hrest : Builtin.ofSpelling? (String.ofList ds) =
          Builtin.ofSpelling? (String.ofList cs) := by
        simp only [Builtin.ofSpelling?, Text.fold, String.toList_ofList, htail]
      simp only [ht, hu, hsep, hmore, hrest, hword]
      by_cases hc : c = ClassName.separator
      · simp only [if_pos hc]
        cases cs.contains ClassName.separator with
        | true => exact .inl hclass
        | false =>
            cases Builtin.ofSpelling? (String.ofList cs) with
            | some b => exact .inl (.builtin b)
            | none => exact .inl hclass
      · simp only [if_neg hc]
        cases Builtin.ofSpelling? u with
        | some b => exact .inl (.builtin b)
        | none => exact .inr ⟨t, u, rfl, rfl⟩

end TypeName
end SubscriptLint
