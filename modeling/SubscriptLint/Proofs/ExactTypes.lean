import SubscriptLint.Proofs.CandidateTypes
import Mathlib.Data.List.Dedup

/-!
# Exactly the listed types

What is told of a set by the test whether it has exactly the types of a list. The test counts the members
and looks for every listed type among them, so it tells that there are as many other members as the list
has repetitions (`TypeSet.isExactly_tells`). For a list that has none the set is the one of the listed
types; for any other list the test never says so of that set, and may say so of another one.
-/

namespace SubscriptLint.TypeSet

variable {s : TypeSet} {types : List Builtin}

/-- The members that are not among the listed types. -/
def beyond (s : TypeSet) (types : List Builtin) : List TypeName :=
  s.members.filter fun t => t ∉ ofBuiltins types

/-- What the test for exactly the listed types tells of a set. -/
structure ExactlyTells (s : TypeSet) (types : List Builtin) : Prop where
  /-- All listed types are members, and there are as many others as the list has repetitions. -/
  counts : s.isExactly types = true ↔
    (∀ b ∈ types, .builtin b ∈ s) ∧ (s.beyond types).length + types.dedup.length = types.length
  same_of_nodup : types.Nodup →
    (s.isExactly types = true ↔ s.sameMembers (ofBuiltins types) = true)
  other_of_repeated : ¬types.Nodup → s.isExactly types = true →
    ∃ t ∈ s.members, ∀ b ∈ types, t ≠ .builtin b
  refused_of_repeated : ¬types.Nodup → s.sameMembers (ofBuiltins types) = true →
    s.isExactly types = false

/-- A set of listed types has as many members as the list has different types. -/
theorem size_ofBuiltins (types : List Builtin) : (ofBuiltins types).size = types.dedup.length := by
  have hnodup : (types.dedup.map TypeKey.builtin).Nodup :=
    types.nodup_dedup.map fun _ _ => TypeKey.builtin.inj
  have hkeys : (ofBuiltins types).keys.Perm (types.dedup.map TypeKey.builtin) := by
    apply (List.perm_ext_iff_of_nodup (ofBuiltins types).distinct hnodup).mpr
    intro k
    constructor
    · intro hk
      obtain ⟨t, ht, rfl⟩ := List.mem_map.mp hk
      obtain ⟨b, hb, rfl⟩ := mem_ofBuiltins.mp (mem_iff_exists.mpr ⟨t, ht, rfl⟩)
      exact List.mem_map_of_mem (List.mem_dedup.mpr hb)
    · intro hk
      obtain ⟨b, hb, rfl⟩ := List.mem_map.mp hk
      exact mem_ofBuiltins.mpr ⟨b, List.mem_dedup.mp hb, rfl⟩
  calc
    (ofBuiltins types).size = (ofBuiltins types).keys.length := (List.length_map _).symm
    _ = (types.dedup.map TypeKey.builtin).length := hkeys.length_eq
    _ = types.dedup.length := List.length_map _

/-- The members of a set that has all listed types are these and the others. -/
theorem size_eq_of_forall_mem (h : ∀ b ∈ types, .builtin b ∈ s) :
    s.size = types.dedup.length + (s.beyond types).length := by
  have hlisted : (s.filter fun t => t ∈ ofBuiltins types).sameMembers (ofBuiltins types) = true := by
    apply sameMembers_iff.mpr
    intro u
    rw [mem_filter_of_key, decide_eq_true_iff]
    · refine and_iff_right_of_imp fun hu => ?_
      obtain ⟨b, hb, rfl⟩ := mem_ofBuiltins.mp hu
      exact h b hb
    · intro a b hkey
      simp only [mem_def, hkey]
  have hsplit := List.length_eq_length_filter_add (l := s.members) fun t => t ∈ ofBuiltins types
  calc
    s.size = (s.filter fun t => t ∈ ofBuiltins types).size + (s.beyond types).length := by
      simpa only [size, filter, beyond, decide_not] using hsplit
    _ = types.dedup.length + (s.beyond types).length := by
      rw [size_of_sameMembers hlisted, size_ofBuiltins]

theorem isExactly_counts :
    s.isExactly types = true ↔
      (∀ b ∈ types, .builtin b ∈ s) ∧ (s.beyond types).length + types.dedup.length = types.length := by
  have hall : types.all s.containsBuiltin = true ↔ ∀ b ∈ types, .builtin b ∈ s := by
    simp only [List.all_eq_true, containsBuiltin, contains, decide_eq_true_iff]
  rw [isExactly, Bool.and_eq_true, beq_iff_eq, hall, and_comm]
  apply and_congr_right
  intro hmem
  rw [size_eq_of_forall_mem hmem, Nat.add_comm]

theorem dedup_lt_of_repeated (h : ¬types.Nodup) : types.dedup.length < types.length := by
  refine Nat.lt_of_le_of_ne (List.dedup_sublist types).length_le fun heq => h ?_
  rw [← (List.dedup_sublist types).eq_of_length heq]
  exact types.nodup_dedup

/-- A list with repetitions is said to be exactly a set only if the set has something else. -/
theorem exists_other_of_repeated (hrepeated : ¬types.Nodup) (h : s.isExactly types = true) :
    ∃ t ∈ s.members, ∀ b ∈ types, t ≠ .builtin b := by
  have hcount := (isExactly_counts.mp h).2
  have hlt := dedup_lt_of_repeated hrepeated
  obtain ⟨t, ht⟩ := List.exists_mem_of_length_pos (l := s.beyond types) (by omega)
  obtain ⟨ht, hout⟩ := List.mem_filter.mp ht
  refine ⟨t, ht, ?_⟩
  rintro b hb rfl
  exact of_decide_eq_true hout (mem_ofBuiltins.mpr ⟨b, hb, rfl⟩)

/-- The test tells that all listed types are members, and how many others there are. -/
theorem isExactly_tells (s : TypeSet) (types : List Builtin) : s.ExactlyTells types where
  counts := isExactly_counts
  same_of_nodup hd := by
    rw [isExactly_iff hd, sameMembers_iff]
    simp only [mem_ofBuiltins]
  other_of_repeated := exists_other_of_repeated
  refused_of_repeated hrepeated hsame := by
    rw [Bool.eq_false_iff]
    intro h
    obtain ⟨t, ht, hother⟩ := exists_other_of_repeated hrepeated h
    have hmem := (sameMembers_iff.mp hsame t).mp (mem_iff_exists.mpr ⟨t, ht, rfl⟩)
    obtain ⟨b, hb, rfl⟩ := mem_ofBuiltins.mp hmem
    exact hother b hb rfl

/-- An integer or a string is exactly that in either order, and of an integer listed twice it is told
that it may be something else. An integer is not exactly an integer listed twice. -/
theorem pairSample_told :
    (ofTexts ["string", "INT"]).isExactly [.integer, .string] = true ∧
      (ofTexts ["string", "INT"]).isExactly [.integer, .integer] = true ∧
      (∃ t ∈ (ofTexts ["string", "INT"]).members, ∀ b ∈ [Builtin.integer, .integer], t ≠ .builtin b) ∧
      (ofTexts ["int"]).isExactly [.integer, .integer] = false := by
  have htold := isExactly_tells (ofTexts ["string", "INT"])
  have hrepeated : ¬[Builtin.integer, .integer].Nodup := by decide
  exact ⟨((htold _).same_of_nodup (by decide)).mpr (by decide), by decide,
    (htold _).other_of_repeated hrepeated (by decide),
    (isExactly_tells (ofTexts ["int"]) _).refused_of_repeated hrepeated (by decide)⟩

/-- A set may be told to be exactly the listed types, and not be the set of these. -/
theorem exactly_integer_twice :
    ¬∀ (s : TypeSet) (types : List Builtin),
      s.isExactly types = true ↔ s.sameMembers (ofBuiltins types) = true := by
  intro h
  have hsame := (h (ofBuiltins [.integer, .string]) [.integer, .integer]).mp (by decide)
  exact absurd hsame (by decide)

end SubscriptLint.TypeSet
