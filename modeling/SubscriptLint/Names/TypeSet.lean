import SubscriptLint.Names.TypeName
/-!
# Sets of type names

The types that an expression may have. A set lists its members in the order in which they were
put in, each in the spelling in which it was put in, and holds no two members with one key.
Equality of sets (`sameMembers`) looks at keys only.
-/

namespace SubscriptLint

/-- A set of type names in insertion order. -/
structure TypeSet where
  members : List TypeName
  distinct : (members.map TypeName.key).Nodup

namespace TypeSet

/-- The keys of the members, in order. -/
def keys (s : TypeSet) : List TypeKey :=
  s.members.map TypeName.key

/-- The set without members. -/
def empty : TypeSet := ⟨[], List.nodup_nil⟩

instance : EmptyCollection TypeSet := ⟨empty⟩
instance : Inhabited TypeSet := ⟨empty⟩

instance : Membership TypeName TypeSet := ⟨fun s t => t.key ∈ s.keys⟩

theorem mem_def {s : TypeSet} {t : TypeName} : t ∈ s ↔ t.key ∈ s.keys := Iff.rfl

instance (s : TypeSet) (t : TypeName) : Decidable (t ∈ s) :=
  inferInstanceAs (Decidable (t.key ∈ s.keys))

@[ext] theorem ext {s t : TypeSet} (h : s.members = t.members) : s = t := by
  cases s
  cases t
  cases h
  rfl

/-- The number of members. -/
def size (s : TypeSet) : Nat := s.members.length

/-- Whether the set has no members. -/
def isEmpty (s : TypeSet) : Bool := s.members.isEmpty

/-- Whether the set has a member with the key of `t`. -/
def contains (s : TypeSet) (t : TypeName) : Bool := t ∈ s

/-- Whether the set has the given built-in type. -/
def containsBuiltin (s : TypeSet) (b : Builtin) : Bool := s.contains (.builtin b)

/-- The set with `t` at its end, unless a member has the key of `t` already. -/
def insert? (s : TypeSet) (t : TypeName) : Option TypeSet :=
  if h : t ∈ s then none
  else some ⟨s.members ++ [t], by
    rw [List.map_append, List.nodup_append]
    refine ⟨s.distinct, by simp, ?_⟩
    rintro a ha b hb rfl
    simp only [List.map_cons, List.map_nil, List.mem_singleton] at hb
    rw [hb] at ha
    exact h ha⟩

/-- The set with `t` at its end; a member that has the key of `t` stays as it is. -/
def insert (s : TypeSet) (t : TypeName) : TypeSet :=
  (s.insert? t).getD s

/-- The set without the member that has the key of `t`, if there is one. -/
def erase? (s : TypeSet) (t : TypeName) : Option TypeSet :=
  if t ∈ s then
    some ⟨s.members.filter fun m => m.key ≠ t.key,
      (List.Sublist.map TypeName.key List.filter_sublist).nodup s.distinct⟩
  else none

/-- The set without a member that has the key of `t`. The order of the others is kept. -/
def erase (s : TypeSet) (t : TypeName) : TypeSet :=
  (s.erase? t).getD s

/-- The set with the listed types put in one after the other. -/
def insertMany (s : TypeSet) (types : List TypeName) : TypeSet :=
  types.foldl insert s

/-- The set of the listed types. -/
def ofList (types : List TypeName) : TypeSet :=
  empty.insertMany types

/-- The set of the types that the listed raw texts name. -/
def ofTexts (texts : List String) : TypeSet :=
  ofList (texts.map TypeName.ofText)

/-- The set of the listed built-in types. -/
def ofBuiltins (types : List Builtin) : TypeSet :=
  ofList (types.map .builtin)

/-- The union of two sets; the members of the first come first. -/
def union (s t : TypeSet) : TypeSet :=
  s.insertMany t.members

/-- The members for which `p` holds, in order. -/
def filter (s : TypeSet) (p : TypeName → Bool) : TypeSet :=
  ⟨s.members.filter p, (List.Sublist.map TypeName.key List.filter_sublist).nodup s.distinct⟩

/-- Whether the list has as many entries as the set has members and all of them are in the set. -/
def isExactly (s : TypeSet) (types : List Builtin) : Bool :=
  s.size == types.length && types.all s.containsBuiltin

/-- Whether two sets have the same members, in any order and spelling. -/
def sameMembers (s t : TypeSet) : Bool :=
  s.size == t.size && s.members.all t.contains

/-- The shown form: the members between square brackets. -/
def text (s : TypeSet) : String :=
  "[" ++ ", ".intercalate (s.members.map TypeName.text) ++ "]"

instance : ToString TypeSet := ⟨text⟩

@[simp] theorem members_empty : (∅ : TypeSet).members = [] := rfl

@[simp] theorem not_mem_empty (t : TypeName) : t ∉ (∅ : TypeSet) := List.not_mem_nil

/-- A type is put in as a new last member, or it was there. -/
theorem members_insert (s : TypeSet) (t : TypeName) :
    (s.insert t).members = if t ∈ s then s.members else s.members ++ [t] := by
  unfold insert insert?
  split <;> simp_all

/-- Erasing keeps the members with other keys. -/
theorem members_erase (s : TypeSet) (t : TypeName) :
    (s.erase t).members = s.members.filter fun m => m.key ≠ t.key := by
  unfold erase erase?
  split
  · rfl
  · next h =>
    symm
    simp only [Option.getD_none, List.filter_eq_self, decide_eq_true_eq]
    intro m hm heq
    exact h (mem_def.2 (heq ▸ List.mem_map_of_mem hm))

theorem mem_insert {s : TypeSet} {t u : TypeName} :
    u ∈ s.insert t ↔ u.key = t.key ∨ u ∈ s := by
  simp only [mem_def, keys, members_insert]
  split
  · next h =>
    constructor
    · exact Or.inr
    · rintro (heq | hmem)
      · rw [heq]
        exact h
      · exact hmem
  · simp [or_comm]

theorem mem_erase {s : TypeSet} {t u : TypeName} :
    u ∈ s.erase t ↔ u.key ≠ t.key ∧ u ∈ s := by
  simp only [mem_def, keys, members_erase, List.mem_map, List.mem_filter, decide_eq_true_eq]
  constructor
  · rintro ⟨m, ⟨hm, hne⟩, hk⟩
    exact ⟨hk ▸ hne, m, hm, hk⟩
  · rintro ⟨hne, m, hm, hk⟩
    exact ⟨m, ⟨hm, hk ▸ hne⟩, hk⟩

theorem mem_insertMany {types : List TypeName} {s : TypeSet} {u : TypeName} :
    u ∈ s.insertMany types ↔ u ∈ s ∨ ∃ t ∈ types, u.key = t.key := by
  induction types generalizing s with
  | nil => simp [insertMany]
  | cons t ts ih =>
    change u ∈ (s.insert t).insertMany ts ↔ _
    rw [ih, mem_insert]
    simp only [List.mem_cons, exists_eq_or_imp]
    constructor
    · rintro ((h | h) | h)
      · exact .inr (.inl h)
      · exact .inl h
      · exact .inr (.inr h)
    · rintro (h | h | h)
      · exact .inl (.inr h)
      · exact .inl (.inl h)
      · exact .inr h

/-- Of types that are put in, those stay out that are there already. -/
theorem members_insertMany {types : List TypeName} (hd : (types.map TypeName.key).Nodup)
    (s : TypeSet) : (s.insertMany types).members = s.members ++ types.filter fun t => t ∉ s := by
  induction types generalizing s with
  | nil => exact (List.append_nil _).symm
  | cons t ts ih =>
      obtain ⟨ht, hts⟩ := List.nodup_cons.mp hd
      have hrest : (ts.filter fun u => u ∉ s.insert t) = ts.filter fun u => u ∉ s := by
        apply List.filter_congr
        intro u hu
        have hkey : u.key ≠ t.key := fun h => ht (h ▸ List.mem_map_of_mem hu)
        simp [mem_insert, hkey]
      change ((s.insert t).insertMany ts).members = _
      rw [ih hts, hrest, members_insert]
      by_cases hmem : t ∈ s
      · simp [hmem]
      · simp [hmem]

theorem insertMany_append (s : TypeSet) (a b : List TypeName) :
    s.insertMany (a ++ b) = (s.insertMany a).insertMany b :=
  List.foldl_append

/-- Putting members in again changes nothing, neither their order nor their spelling. -/
theorem insertMany_of_mem {types : List TypeName} {s : TypeSet} (h : ∀ t ∈ types, t ∈ s) :
    s.insertMany types = s := by
  induction types with
  | nil => rfl
  | cons t ts ih =>
    have hinsert : s.insert t = s := by
      ext1
      rw [members_insert, if_pos (h t List.mem_cons_self)]
    change (s.insert t).insertMany ts = s
    rw [hinsert, ih fun u hu => h u (List.mem_cons_of_mem t hu)]

theorem insertMany_twice (s : TypeSet) (types : List TypeName) :
    (s.insertMany types).insertMany types = s.insertMany types :=
  insertMany_of_mem fun t ht => mem_insertMany.mpr (Or.inr ⟨t, ht, rfl⟩)

theorem mem_iff_exists {s : TypeSet} {u : TypeName} : u ∈ s ↔ ∃ t ∈ s.members, u.key = t.key := by
  simp only [mem_def, keys, List.mem_map, eq_comm]

theorem mem_iff_of_builtin {s : TypeSet} {b : Builtin} : .builtin b ∈ s ↔ .builtin b ∈ s.members := by
  rw [mem_iff_exists]
  constructor
  · rintro ⟨m, hm, hkey⟩
    exact TypeName.eq_builtin_of_key hkey.symm ▸ hm
  · exact fun h => ⟨_, h, rfl⟩

theorem mem_ofList {types : List TypeName} {u : TypeName} :
    u ∈ ofList types ↔ ∃ t ∈ types, u.key = t.key := by
  rw [ofList, mem_insertMany]
  exact or_iff_right (not_mem_empty u)

theorem mem_ofBuiltins {types : List Builtin} {t : TypeName} :
    t ∈ ofBuiltins types ↔ ∃ b ∈ types, t = .builtin b := by
  rw [ofBuiltins, mem_ofList]
  constructor
  · rintro ⟨u, hu, hkey⟩
    obtain ⟨b, hb, rfl⟩ := List.mem_map.mp hu
    exact ⟨b, hb, TypeName.eq_builtin_of_key hkey⟩
  · rintro ⟨b, hb, rfl⟩
    exact ⟨_, List.mem_map_of_mem hb, rfl⟩

/-- A set put together from the members of sets has what one of the sets has. -/
theorem mem_ofList_members {sets : List TypeSet} {u : TypeName} :
    u ∈ ofList (sets.flatMap members) ↔ ∃ types ∈ sets, u ∈ types := by
  rw [mem_ofList]
  constructor
  · rintro ⟨t, ht, hkey⟩
    obtain ⟨types, htypes, ht⟩ := List.mem_flatMap.mp ht
    exact ⟨types, htypes, mem_iff_exists.mpr ⟨t, ht, hkey⟩⟩
  · rintro ⟨types, htypes, hu⟩
    obtain ⟨t, ht, hkey⟩ := mem_iff_exists.mp hu
    exact ⟨t, List.mem_flatMap.mpr ⟨types, htypes, ht⟩, hkey⟩

theorem mem_filter {s : TypeSet} {p : TypeName → Bool} {u : TypeName} :
    u ∈ s.filter p ↔ ∃ m ∈ s.members, p m = true ∧ m.key = u.key := by
  simp only [mem_def, keys, filter, List.mem_map, List.mem_filter, and_assoc]

end TypeSet

end SubscriptLint
