import SubscriptLint.Proofs.ByteOrder

/-!
# The order and the equality of class names

Class names are ordered, compared and hashed byte by byte, the ASCII capitals made small. The order
is total and takes exactly the equal names for the same (`ClassName.ordered`), and equal names give
the same bytes to a hasher (`ClassName.identified`). An ordered set and a hash set of names therefore
hold a name exactly if they hold an equal one.
-/

namespace SubscriptLint

namespace ClassName

variable {a b c : ClassName}

theorem bytes_eq (name : ClassName) : name.bytes = Text.bytes name.key :=
  (Text.bytes_fold name.text).symm

/-- The order of names by code points is their order by bytes. -/
theorem compare_eq (a b : ClassName) : compare a b = compare a.bytes b.bytes :=
  calc
    compare a b = compare a.key b.key := rfl
    _ = compare (Text.bytes a.key) (Text.bytes b.key) := (Text.compare_bytes a.key b.key).symm
    _ = compare a.bytes b.bytes := by rw [bytes_eq, bytes_eq]

theorem beq_iff_bytes : (a == b) = true ↔ a.bytes = b.bytes := by
  rw [beq_iff, bytes_eq, bytes_eq, Text.bytes_inj]

theorem beq_eq_alikeBytes (a b : ClassName) :
    (a == b) = Text.alikeBytes (Text.bytes a.text) (Text.bytes b.text) := by
  rw [Bool.eq_iff_iff, beq_iff_bytes, Text.alikeBytes_iff]
  rfl

theorem length_bytes (name : ClassName) : name.bytes.length = name.text.utf8ByteSize := by
  rw [bytes, List.length_map, Text.length_bytes]

theorem size_eq_of_beq (h : (a == b) = true) : a.text.utf8ByteSize = b.text.utf8ByteSize := by
  rw [← length_bytes, beq_iff_bytes.mp h, length_bytes]

instance : Std.TransOrd ClassName where
  eq_swap {a b} := by
    rw [compare_eq, compare_eq]
    exact Std.OrientedCmp.eq_swap
  isLE_trans {a b c} hab hbc := by
    rw [compare_eq] at hab hbc ⊢
    exact Std.TransCmp.isLE_trans hab hbc

instance : Std.LawfulBEqOrd ClassName where
  compare_eq_iff_beq {a b} := by
    rw [compare_eq, beq_iff_bytes]
    exact Std.LawfulEqCmp.compare_eq_iff_eq

theorem beq_eq_compare (a b : ClassName) : (a == b) = (compare a b == .eq) := by
  rw [Bool.eq_iff_iff, beq_iff_eq (a := compare a b)]
  exact Std.LawfulBEqCmp.compare_eq_iff_beq.symm

/-- Names hashed by a hasher, which makes a number of the bytes that it is given. -/
abbrev hashedBy (hasher : List UInt8 → UInt64) : Hashable ClassName :=
  ⟨fun name => hasher name.bytes⟩

theorem lawfulHashable (hasher : List UInt8 → UInt64) :
    @LawfulHashable ClassName _ (hashedBy hasher) :=
  let _ := hashedBy hasher
  ⟨fun _ _ h => congrArg hasher (beq_iff_bytes.mp h)⟩

instance : LawfulHashable ClassName := lawfulHashable hash

/-- The order of names is that of their bytes. It is total, and names that it puts neither before
nor behind each other are equal. -/
structure Ordered (a b c : ClassName) : Prop where
  by_bytes : compare a b = compare a.bytes b.bytes
  self : compare a a = .eq
  swap : compare b a = (compare a b).swap
  antisymm : (compare a b).isLE = true → (compare b a).isLE = true → (a == b) = true
  trans : (compare a b).isLE = true → (compare b c).isLE = true → (compare a c).isLE = true
  total : (compare a b).isLE = true ∨ (compare b a).isLE = true
  eq_iff : compare a b = .eq ↔ (a == b) = true

/-- Names are equal if their texts are as long and differ in the case of ASCII letters alone, whether
they are seen as bytes or as characters. They give the same bytes to a hasher then. -/
structure Identified (a b c : ClassName) : Prop where
  by_bytes : (a == b) = Text.alikeBytes (Text.bytes a.text) (Text.bytes b.text)
  self : (a == a) = true
  symm : (a == b) = true → (b == a) = true
  trans : (a == b) = true → (b == c) = true → (a == c) = true
  letters : (a == b) = true ↔ a.text.utf8ByteSize = b.text.utf8ByteSize ∧
    List.Forall₂ Text.SameLetter a.text.toList b.text.toList
  hashed : (a == b) = true ↔ a.bytes = b.bytes

theorem ordered (a b c : ClassName) : Ordered a b c where
  by_bytes := compare_eq a b
  self := Std.ReflCmp.compare_self
  swap := Std.OrientedCmp.eq_swap
  antisymm hab hba := Std.LawfulBEqCmp.compare_eq_iff_beq.mp (Std.OrientedCmp.isLE_antisymm hab hba)
  trans := Std.TransCmp.isLE_trans
  total := by
    have hswap : compare b a = (compare a b).swap := Std.OrientedCmp.eq_swap
    rw [hswap]
    cases compare a b <;> decide
  eq_iff := Std.LawfulBEqCmp.compare_eq_iff_beq

theorem identified (a b c : ClassName) : Identified a b c where
  by_bytes := beq_eq_alikeBytes a b
  self := BEq.rfl
  symm := BEq.symm
  trans := BEq.trans
  letters := by
    have hletters : (a == b) = true ↔ List.Forall₂ Text.SameLetter a.text.toList b.text.toList :=
      beq_iff.trans (Text.alike_iff.symm.trans Text.alike_iff_forall₂)
    exact ⟨fun h => ⟨size_eq_of_beq h, hletters.mp h⟩, fun h => hletters.mpr h.2⟩
  hashed := beq_iff_bytes

/-- The listed names in an ordered set. -/
def orderedSet (names : List ClassName) : Std.TreeSet ClassName := .ofList names

/-- The listed names in a hash set. -/
def hashSet (hasher : List UInt8 → UInt64) (names : List ClassName) :
    @Std.HashSet ClassName _ (hashedBy hasher) :=
  let _ := hashedBy hasher
  .ofList names

variable {names : List ClassName} {name : ClassName}

theorem contains_iff : names.contains name = true ↔ ∃ n ∈ names, (n == name) = true := by
  simp only [List.contains_iff_exists_mem_beq, BEq.comm]

theorem mem_orderedSet_iff : name ∈ orderedSet names ↔ ∃ n ∈ names, (n == name) = true := by
  rw [orderedSet, Std.TreeSet.mem_ofList, contains_iff]

theorem contains_hashSet_iff {hasher : List UInt8 → UInt64} :
    (hashSet hasher names).contains name = true ↔ ∃ n ∈ names, (n == name) = true := by
  let _ := hashedBy hasher
  have _ := lawfulHashable hasher
  rw [hashSet, Std.HashSet.contains_ofList, contains_iff]

theorem key_mem_iff : name.key ∈ names.map key ↔ ∃ n ∈ names, (n == name) = true := by
  simp only [List.mem_map, beq_iff]

end ClassName

end SubscriptLint
