/-!
# Byte measures of text

The bytes of a text are its characters in UTF-8 (`bytes_eq_flatMap`), and positions in a text are
counted in them. A position is usable only where a character begins or the text ends, so cutting a
text at a byte position may fail; `splitAt?_eq_some_iff` and `slice?_eq_some_iff` say exactly when
it does not.
-/

namespace SubscriptLint.Text

/-- The number of bytes of a text. -/
def width : List Char → Nat
  | [] => 0
  | c :: cs => c.utf8Size + width cs

@[simp] theorem width_nil : width [] = 0 := rfl

@[simp] theorem width_cons (c : Char) (cs : List Char) :
    width (c :: cs) = c.utf8Size + width cs := rfl

@[simp] theorem width_append (a b : List Char) : width (a ++ b) = width a + width b := by
  induction a with
  | nil => simp
  | cons c cs ih => simp [ih, Nat.add_assoc]

@[simp] theorem utf8ByteSize_ofList (cs : List Char) :
    (String.ofList cs).utf8ByteSize = width cs := by
  induction cs with
  | nil => simp
  | cons c cs ih =>
    rw [String.ofList_cons, String.utf8ByteSize_append, ih]
    simp

theorem width_toList (s : String) : width s.toList = s.utf8ByteSize := by
  rw [← utf8ByteSize_ofList, String.ofList_toList]

/-- The bytes of a text. -/
def bytes (text : String) : List UInt8 := text.toByteArray.data.toList

theorem bytes_eq_flatMap (text : String) :
    bytes text = text.toList.flatMap String.utf8EncodeChar := by
  rw [bytes, ← String.utf8Encode_toList, List.utf8Encode, List.toList_data_toByteArray]

theorem bytes_ofList (cs : List Char) :
    bytes (String.ofList cs) = cs.flatMap String.utf8EncodeChar := by
  rw [bytes_eq_flatMap, String.toList_ofList]

theorem length_flatMap_utf8EncodeChar (cs : List Char) :
    (cs.flatMap String.utf8EncodeChar).length = width cs := by
  induction cs with
  | nil => rfl
  | cons c cs ih =>
      rw [List.flatMap_cons, List.length_append, ih, String.length_utf8EncodeChar, width_cons]

theorem length_bytes (text : String) : (bytes text).length = text.utf8ByteSize := by
  rw [bytes_eq_flatMap, length_flatMap_utf8EncodeChar, width_toList]

/-- Cuts a text after exactly `n` bytes. It fails past the end and inside a character. -/
def splitAt? : List Char → Nat → Option (List Char × List Char)
  | [], n => if n = 0 then some ([], []) else none
  | c :: cs, n =>
    if n = 0 then some ([], c :: cs)
    else if c.utf8Size ≤ n then
      (splitAt? cs (n - c.utf8Size)).map fun parts => (c :: parts.1, parts.2)
    else none

/-- A cut succeeds exactly at the width of a first part of the text. -/
theorem splitAt?_eq_some_iff {cs a b : List Char} {n : Nat} :
    splitAt? cs n = some (a, b) ↔ a ++ b = cs ∧ width a = n := by
  induction cs generalizing a b n with
  | nil =>
    unfold splitAt?
    split
    · next h =>
      subst h
      constructor
      · rintro ⟨⟩
        simp
      · rintro ⟨h, -⟩
        simp_all
    · next h =>
      constructor
      · rintro ⟨⟩
      · rintro ⟨hab, hw⟩
        obtain ⟨rfl, rfl⟩ := List.append_eq_nil_iff.1 hab
        exact absurd hw.symm h
  | cons c cs ih =>
    have pos := c.utf8Size_pos
    unfold splitAt?
    split
    · next h =>
      subst h
      cases a with
      | nil => simp [eq_comm]
      | cons d ds =>
        have := d.utf8Size_pos
        simp
        omega
    · next h =>
      cases a with
      | nil =>
        split
        · simp
          omega
        · simp
          omega
      | cons d ds =>
        split
        · next hle =>
          simp only [Option.map_eq_some_iff, Prod.mk.injEq, List.cons.injEq, Prod.exists]
          constructor
          · rintro ⟨x, y, hxy, ⟨rfl, rfl⟩, rfl⟩
            obtain ⟨rfl, hw⟩ := ih.1 hxy
            simp
            omega
          · rintro ⟨hab, hw⟩
            simp only [List.cons_append, List.cons.injEq] at hab
            obtain ⟨rfl, hab⟩ := hab
            refine ⟨ds, b, ih.2 ⟨hab, ?_⟩, ⟨rfl, rfl⟩, rfl⟩
            simp at hw
            omega
        · next hle =>
          simp only [reduceCtorEq, false_iff, not_and]
          intro hab hw
          simp only [List.cons_append, List.cons.injEq] at hab
          obtain ⟨rfl, hab⟩ := hab
          simp at hw
          omega

/-- The text between two byte positions. It fails where the range is reversed, leaves the text
or begins or ends inside a character. -/
def slice? (cs : List Char) (start stop : Nat) : Option (List Char) :=
  if start ≤ stop then do
    let (_, rest) ← splitAt? cs start
    let (middle, _) ← splitAt? rest (stop - start)
    return middle
  else none

/-- A slice succeeds exactly on the range that a middle part of the text occupies. -/
theorem slice?_eq_some_iff {cs middle : List Char} {start stop : Nat} :
    slice? cs start stop = some middle ↔
      ∃ before after, cs = before ++ middle ++ after ∧ width before = start ∧
        width before + width middle = stop := by
  unfold slice?
  split
  · next h =>
    simp only [Option.bind_eq_bind, Option.bind_eq_some_iff, Option.pure_def,
      Option.some.injEq, Prod.exists]
    constructor
    · rintro ⟨before, rest, h₁, m, after, h₂, rfl⟩
      obtain ⟨rfl, rfl⟩ := splitAt?_eq_some_iff.1 h₁
      obtain ⟨rfl, hw⟩ := splitAt?_eq_some_iff.1 h₂
      exact ⟨before, after, by simp, rfl, by omega⟩
    · rintro ⟨before, after, rfl, rfl, hw⟩
      refine ⟨before, middle ++ after, splitAt?_eq_some_iff.2 ⟨by simp, rfl⟩, middle, after,
        splitAt?_eq_some_iff.2 ⟨rfl, by omega⟩, rfl⟩
  · next h =>
    simp only [reduceCtorEq, false_iff, not_exists, not_and]
    intro before after _ hs hw
    omega

end SubscriptLint.Text
