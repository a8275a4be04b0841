import SubscriptLint.Proofs.LetterCase
import SubscriptLint.Text.Bytes

/-!
# Texts compared byte by byte

A character above the ASCII range is encoded in several bytes, the first of which tells their number
and the others of which hold six bits each (`EncodedAs`). The bytes of a character therefore differ
from those of a later one at a place that both have, where they are smaller, and texts that are
compared byte by byte are in the order of their code points (`compare_bytes`). All those bytes lie
above the ASCII letters, so it is the same whether capitals are made small among the characters of a
text or among its bytes (`bytes_fold`).
-/

namespace SubscriptLint.Text

/-- A byte behind the first one of a character, and the six bits that it holds. -/
abbrev Continues (b : UInt8) (bits : Nat) : Prop := b.toNat = 128 + bits ∧ bits < 64

/-- The bytes of the character with a code point. -/
inductive EncodedAs : Nat → List UInt8 → Prop
  | one {n : Nat} {x : UInt8} (hn : n < 128) (hx : x.toNat = n) : EncodedAs n [x]
  | two {n a b : Nat} {x y : UInt8} (hn : 128 ≤ n ∧ n < 2048) (hbits : n = 64 * a + b)
      (hx : x.toNat = 192 + a) (hy : Continues y b) : EncodedAs n [x, y]
  | three {n a b c : Nat} {x y z : UInt8} (hn : 2048 ≤ n ∧ n < 65536)
      (hbits : n = 4096 * a + 64 * b + c) (hx : x.toNat = 224 + a) (hy : Continues y b)
      (hz : Continues z c) : EncodedAs n [x, y, z]
  | four {n a b c d : Nat} {x y z w : UInt8} (hn : 65536 ≤ n)
      (hbits : n = 262144 * a + 4096 * b + 64 * c + d) (hx : x.toNat = 240 + a)
      (hy : Continues y b) (hz : Continues z c) (hw : Continues w d) : EncodedAs n [x, y, z, w]

theorem toNat_ofNat_of_lt {n : Nat} (h : n < 256) : (UInt8.ofNat n).toNat = n := by
  rw [UInt8.toNat_ofNat', Nat.mod_eq_of_lt h]

theorem continues_ofNat {n bits : Nat} (hn : n = bits + 128) (hbits : bits < 64) :
    Continues (UInt8.ofNat n) bits := by
  refine ⟨?_, hbits⟩
  rw [toNat_ofNat_of_lt (by omega), hn, Nat.add_comm]

theorem encodedAs (c : Char) : EncodedAs c.toNat (String.utf8EncodeChar c) := by
  have hlast : c.toNat < 0x110000 := by
    have hvalid : c.toNat < 0xD800 ∨ (0xDFFF < c.toNat ∧ c.toNat < 0x110000) := c.valid
    omega
  rw [String.utf8EncodeChar.eq_1, Char.toNat_val]
  generalize c.toNat = n at hlast ⊢
  split
  · exact .one (by omega) (toNat_ofNat_of_lt (by omega))
  · split
    · refine .two (a := n / 64) (b := n % 64) (by omega) (by omega) ?_ ?_
      · rw [toNat_ofNat_of_lt (by omega)]
        omega
      · exact continues_ofNat rfl (Nat.mod_lt _ (by decide))
    · split
      · refine .three (a := n / 4096) (b := n / 64 % 64) (c := n % 64) (by omega) (by omega) ?_ ?_ ?_
        · rw [toNat_ofNat_of_lt (by omega)]
          omega
        · exact continues_ofNat rfl (Nat.mod_lt _ (by decide))
        · exact continues_ofNat rfl (Nat.mod_lt _ (by decide))
      · refine .four (a := n / 262144) (b := n / 4096 % 64) (c := n / 64 % 64) (d := n % 64)
          (by omega) (by omega) ?_ ?_ ?_ ?_
        · rw [toNat_ofNat_of_lt (by omega)]
          omega
        · exact continues_ofNat rfl (Nat.mod_lt _ (by decide))
        · exact continues_ofNat rfl (Nat.mod_lt _ (by decide))
        · exact continues_ofNat rfl (Nat.mod_lt _ (by decide))

theorem compare_cons_eq_lt_iff {x y : UInt8} {xs ys : List UInt8} :
    compare (x :: xs) (y :: ys) = .lt ↔
      x.toNat < y.toNat ∨ x.toNat = y.toNat ∧ compare xs ys = .lt := by
  rw [List.compare_cons_cons, Ordering.then_eq_lt, Std.LawfulEqCmp.compare_eq_iff_eq,
    ← UInt8.toNat_inj]
  exact or_congr_left compareOfLessAndEq_eq_lt

theorem EncodedAs.compare_append {m n : Nat} {us vs : List UInt8} (hu : EncodedAs m us)
    (hv : EncodedAs n vs) (h : m < n) (xs ys : List UInt8) :
    compare (us ++ xs) (vs ++ ys) = .lt := by
  -- The first bytes decide unless both characters have as many; then the bits do, from the left.
  cases hu <;> cases hv <;>
    simp only [List.cons_append, List.nil_append, compare_cons_eq_lt_iff] <;>
    omega

theorem compare_append_left (us xs ys : List UInt8) :
    compare (us ++ xs) (us ++ ys) = compare xs ys := by
  induction us with
  | nil => rfl
  | cons u us ih =>
      have hself : compare u u = .eq := Std.ReflCmp.compare_self
      rw [List.cons_append, List.cons_append, List.compare_cons_cons, hself, ih]
      rfl

theorem compare_flatMap_of_lt {cs ds : List Char} (h : cs < ds) :
    compare (cs.flatMap String.utf8EncodeChar) (ds.flatMap String.utf8EncodeChar) = .lt := by
  induction h with
  | @nil d ds =>
      obtain ⟨x, xs, hx⟩ := List.exists_cons_of_ne_nil (String.utf8EncodeChar_ne_nil (c := d))
      rw [List.flatMap_cons, hx]
      rfl
  | rel hlt => exact (encodedAs _).compare_append (encodedAs _) hlt _ _
  | cons _ ih =>
      rw [List.flatMap_cons, List.flatMap_cons, compare_append_left, ih]

/-- The order of texts by their bytes is their order by code points. -/
theorem compare_bytes (s t : String) : compare (bytes s) (bytes t) = compare s t := by
  have hlt : ∀ s t : String, compare s t = .lt → compare (bytes s) (bytes t) = .lt := by
    intro s t h
    have hbefore : s < t := compareOfLessAndEq_eq_lt.mp h
    rw [bytes_eq_flatMap, bytes_eq_flatMap]
    exact compare_flatMap_of_lt hbefore
  cases h : compare s t with
  | lt => exact hlt s t h
  | eq =>
      obtain rfl : s = t := Std.LawfulEqCmp.compare_eq_iff_eq.mp h
      exact Std.ReflCmp.compare_self
  | gt => exact Std.OrientedCmp.gt_of_lt (hlt t s (Std.OrientedCmp.lt_of_gt h))

theorem bytes_inj {s t : String} : bytes s = bytes t ↔ s = t := by
  rw [bytes, bytes, Array.toList_inj, ← ByteArray.ext_iff, String.toByteArray_inj]

theorem toNat_smallByte (b : UInt8) :
    (smallByte b).toNat = if 65 ≤ b.toNat ∧ b.toNat ≤ 90 then b.toNat + 32 else b.toNat := by
  have hcapital : (65 ≤ b ∧ b ≤ 90) ↔ 65 ≤ b.toNat ∧ b.toNat ≤ 90 := Iff.rfl
  unfold smallByte
  split
  · next h =>
      obtain ⟨hfirst, hlast⟩ := hcapital.mp h
      rw [if_pos (hcapital.mp h), UInt8.toNat_add]
      change (b.toNat + 32) % 256 = _
      omega
  · next h => rw [if_neg (mt hcapital.mpr h)]

theorem smallByte_of_le {b : UInt8} (h : 128 ≤ b.toNat) : smallByte b = b := by
  rw [← UInt8.toNat_inj, toNat_smallByte, if_neg (by omega)]

/-- Every byte of a character above the ASCII range lies above it as well. -/
theorem EncodedAs.le_of_mem {n : Nat} {xs : List UInt8} (h : EncodedAs n xs) (hn : 128 ≤ n)
    {x : UInt8} (hx : x ∈ xs) : 128 ≤ x.toNat := by
  cases h <;> grind

theorem utf8EncodeChar_of_lt {c : Char} (h : c.toNat < 128) :
    String.utf8EncodeChar c = [UInt8.ofNat c.toNat] := by
  rw [String.utf8EncodeChar.eq_1, Char.toNat_val, if_pos (Nat.le_of_lt_succ h)]

theorem map_smallByte_utf8EncodeChar (c : Char) :
    (String.utf8EncodeChar c).map smallByte = String.utf8EncodeChar c.toLower := by
  have hsmall := toNat_toLower c
  by_cases hascii : c.toNat < 128
  · have hstays : c.toLower.toNat < 128 := by
      rw [hsmall]
      split <;> omega
    have hbyte : smallByte (UInt8.ofNat c.toNat) = UInt8.ofNat c.toLower.toNat := by
      rw [← UInt8.toNat_inj, toNat_smallByte, toNat_ofNat_of_lt (by omega),
        toNat_ofNat_of_lt (by omega), hsmall]
    rw [utf8EncodeChar_of_lt hascii, utf8EncodeChar_of_lt hstays, List.map_singleton, hbyte]
  · have hsame : c.toLower = c := by
      rw [← Char.toNat_inj, hsmall, if_neg (by omega)]
    have habove : ∀ b ∈ String.utf8EncodeChar c, smallByte b = b := fun b hb =>
      smallByte_of_le ((encodedAs c).le_of_mem (by omega) hb)
    rw [hsame, List.map_congr_left habove, List.map_id']

/-- A text with small letters has the bytes of the text, the capitals among them made small. -/
theorem bytes_fold (s : String) : bytes (fold s) = (bytes s).map smallByte := by
  rw [bytes_eq_flatMap, bytes_eq_flatMap, toList_fold, List.flatMap_map, List.map_flatMap]
  simp only [map_smallByte_utf8EncodeChar]

/-- Whether two runs of bytes are as long and agree place by place, but for the case of ASCII
letters. -/
def alikeBytes (xs ys : List UInt8) : Bool :=
  xs.length == ys.length && (xs.zip ys).all fun (x, y) => smallByte x == smallByte y

theorem alikeBytes_iff {xs ys : List UInt8} :
    alikeBytes xs ys = true ↔ xs.map smallByte = ys.map smallByte := by
  rw [← List.forall₂_eq_eq_eq, List.forall₂_map_left_iff, List.forall₂_map_right_iff,
    List.forall₂_iff_zip]
  simp only [alikeBytes, Bool.and_eq_true, beq_iff_eq, List.all_eq_true, Prod.forall]

end SubscriptLint.Text
