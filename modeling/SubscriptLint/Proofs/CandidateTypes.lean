import SubscriptLint.Proofs.SameTypes

/-!
# Candidate types

Which types a container is judged by, in their order and spelling: those known of it that are not
passed over, and behind them what may be in the place of `callable`. There are none exactly if what is
known says nothing of subscripts (`TypeSet.candidates?_exactly`). That a container is the key of a loop
is told before any type is passed over.
-/

namespace SubscriptLint

namespace TypeSet

variable {s c : TypeSet} {t : TypeName}

theorem members_ofBuiltins {types : List Builtin} (hd : types.Nodup) :
    (ofBuiltins types).members = types.map .builtin := by
  have hkeys : ((types.map TypeName.builtin).map TypeName.key).Nodup := by
    rw [List.map_map]
    exact hd.map fun _ _ => TypeKey.builtin.inj
  have hall : ((types.map TypeName.builtin).filter fun t => t ∉ empty) =
      types.map TypeName.builtin :=
    List.filter_eq_self.mpr fun t _ => decide_eq_true (not_mem_empty t)
  rw [ofBuiltins, ofList, members_insertMany hkeys, hall]
  rfl

/-- A set is exactly the listed types, none of which is listed twice, if those are its members. -/
theorem isExactly_iff {types : List Builtin} (hd : types.Nodup) :
    s.isExactly types = true ↔ ∀ t, t ∈ s ↔ ∃ b ∈ types, t = .builtin b := by
  have hsame : s.isExactly types = (ofBuiltins types).sameMembers s := by
    rw [isExactly, sameMembers, size, size, members_ofBuiltins hd, List.length_map, List.all_map,
      Bool.beq_comm]
    rfl
  simp only [hsame, sameMembers_iff, mem_ofBuiltins]
  exact forall_congr' fun t => iff_comm

/-- A container has candidates if it may not be anything, is not the key of a loop, and has types
that are not passed over. -/
theorem candidates?_eq_some_iff :
    s.candidates? = some c ↔
      .builtin .mixed ∉ s ∧ s.isExactly [.integer, .string] = false ∧ c.isEmpty = false ∧
        (s.openCallable.filter fun t => !passedOver.any t.isBuiltin) = c := by
  simp only [candidates?, containsBuiltin, contains, decide_eq_true_eq,
    Option.ite_none_left_eq_some, Option.some.injEq, Bool.not_eq_true]
  constructor
  · rintro ⟨hmixed, hexactly, hkept, rfl⟩
    exact ⟨hmixed, hexactly, hkept, rfl⟩
  · rintro ⟨hmixed, hexactly, hkept, rfl⟩
    exact ⟨hmixed, hexactly, hkept, rfl⟩

/-- The keys of the types that are taken out of what is known of a container. -/
def takenOut : List TypeKey := [Builtin.callable, .null, .object, .never].map .builtin

/-- What is put in the place of `callable`, as far as it is not known of the container already. -/
def openings (s : TypeSet) : List TypeName :=
  if .builtin .callable ∈ s then
    [.builtin .array, .builtin .string].filter fun t => t ∉ s
  else []

theorem members_openCallable (s : TypeSet) :
    s.openCallable.members =
      (s.members.filter fun t => t.key ≠ .builtin .callable) ++ s.openings := by
  unfold openCallable openings
  by_cases hcallable : .builtin .callable ∈ s
  · have herase : s.erase? (.builtin .callable) = some (s.erase (.builtin .callable)) := by
      rw [erase, erase?, if_pos hcallable, Option.getD_some]
    have hkeys : ([TypeName.builtin .array, .builtin .string].map TypeName.key).Nodup := by decide
    simp only [herase, if_pos hcallable, members_insertMany hkeys, members_erase]
    congr 1
    apply List.filter_congr
    intro t ht
    simp only [List.mem_cons, List.not_mem_nil, or_false] at ht
    rcases ht with rfl | rfl
    · simp [mem_erase, TypeName.key]
    · simp [mem_erase, TypeName.key]
  · have herase : s.erase? (.builtin .callable) = none := by rw [erase?, if_neg hcallable]
    simp only [herase, if_neg hcallable, List.append_nil]
    symm
    apply List.filter_eq_self.mpr
    intro t ht
    apply decide_eq_true
    intro hkey
    exact hcallable (mem_iff_exists.mpr ⟨t, ht, hkey.symm⟩)

theorem mem_openings (h : t ∈ s.openings) : t = .builtin .array ∨ t = .builtin .string := by
  unfold openings at h
  split at h
  · simpa using List.mem_of_mem_filter h
  · cases h

theorem any_passedOver_iff :
    passedOver.any t.isBuiltin = true ↔ t.key ∈ passedOver.map TypeKey.builtin := by
  rw [List.any_eq_true, List.mem_map]
  exact exists_congr fun b => and_congr_right fun _ => TypeName.beq_iff.trans eq_comm

/-- What is left of the known types, in their order and spelling, and behind it what is put in the
place of `callable`. -/
theorem members_kept (s : TypeSet) :
    (s.openCallable.filter fun t => !passedOver.any t.isBuiltin).members =
      (s.members.filter fun t => t.key ∉ takenOut) ++ s.openings := by
  have hopenings : (s.openings.filter fun t => !passedOver.any t.isBuiltin) = s.openings := by
    apply List.filter_eq_self.mpr
    intro t ht
    rcases mem_openings ht with rfl | rfl
    · rfl
    · rfl
  have hleft : ∀ t : TypeName, (!passedOver.any t.isBuiltin && decide (t.key ≠ .builtin .callable)) =
      decide (t.key ∉ takenOut) := by
    intro t
    have htaken : t.key ∈ takenOut ↔
        t.key = .builtin .callable ∨ t.key ∈ passedOver.map TypeKey.builtin := List.mem_cons
    rw [← any_passedOver_iff] at htaken
    rw [Bool.eq_iff_iff, decide_eq_true_iff, htaken]
    simp [and_comm]
  change s.openCallable.members.filter (fun t => !passedOver.any t.isBuiltin) = _
  rw [members_openCallable, List.filter_append, List.filter_filter, hopenings]
  simp only [hleft]

/-- What is known of a container says nothing of subscripts. -/
inductive Uninformative (s : TypeSet) : Prop
  /-- The container may be anything. -/
  | anything (h : .builtin .mixed ∈ s)
  /-- The container is exactly an integer or a string. -/
  | loopKey (h : ∀ t, t ∈ s ↔ t = .builtin .integer ∨ t = .builtin .string)
  /-- All types are passed over. -/
  | passedOver (h : ∀ t ∈ s.members,
      t = .builtin .null ∨ t = .builtin .object ∨ t = .builtin .never)

/-- The candidates that a container has by what is known of it. -/
structure CandidatesOf (s c : TypeSet) : Prop where
  members_eq : c.members = (s.members.filter fun t => t.key ∉ takenOut) ++ s.openings
  nonempty : c.members ≠ []
  without : ∀ b ∈ [Builtin.mixed, .callable, .null, .object, .never], .builtin b ∉ c

theorem candidatesOf (h : s.candidates? = some c) : s.CandidatesOf c := by
  obtain ⟨hmixed, -, hempty, rfl⟩ := candidates?_eq_some_iff.mp h
  refine ⟨s.members_kept, List.isEmpty_eq_false_iff.mp hempty, ?_⟩
  intro b hb hmem
  rw [mem_iff_of_builtin, members_kept, List.mem_append] at hmem
  rcases hmem with hmem | hmem
  · obtain ⟨hmem, hleft⟩ := List.mem_filter.mp hmem
    rcases List.mem_cons.mp hb with rfl | hb
    · exact hmixed (mem_iff_of_builtin.mpr hmem)
    · exact of_decide_eq_true hleft (List.mem_map_of_mem hb)
  · rcases mem_openings hmem with hb' | hb'
    · obtain rfl := TypeName.builtin.inj hb'
      exact absurd hb (by decide)
    · obtain rfl := TypeName.builtin.inj hb'
      exact absurd hb (by decide)

/-- Nothing is left exactly if all types are passed over. Where `callable` is one of them, there is
an array left, be it known of the container or put in. -/
theorem isEmpty_kept_iff :
    (s.openCallable.filter fun t => !passedOver.any t.isBuiltin).isEmpty = true ↔
      ∀ t ∈ s.members, t = .builtin .null ∨ t = .builtin .object ∨ t = .builtin .never := by
  rw [isEmpty, List.isEmpty_iff, members_kept, List.append_eq_nil_iff, List.filter_eq_nil_iff]
  constructor
  · rintro ⟨hleft, hopenings⟩ t ht
    have hcallable : .builtin .callable ∉ s := by
      intro hcallable
      rw [openings, if_pos hcallable, List.filter_eq_nil_iff] at hopenings
      have harray : .builtin .array ∈ s := by
        simpa using hopenings (.builtin .array) List.mem_cons_self
      have htaken := hleft _ (mem_iff_of_builtin.mp harray)
      exact htaken (by decide)
    have htaken : t.key ∈ takenOut := by simpa using hleft t ht
    obtain ⟨b, hb, hkey⟩ := List.mem_map.mp htaken
    obtain rfl := TypeName.eq_builtin_of_key hkey.symm
    rcases List.mem_cons.mp hb with rfl | hb
    · exact absurd (mem_iff_of_builtin.mpr ht) hcallable
    · simpa using hb
  · intro h
    have hcallable : .builtin .callable ∉ s := by
      intro hcallable
      rcases h _ (mem_iff_of_builtin.mp hcallable) with h | h | h <;> cases h
    refine ⟨fun t ht => ?_, if_neg hcallable⟩
    rcases h t ht with rfl | rfl | rfl <;> decide

theorem candidates?_eq_none_iff : s.candidates? = none ↔ s.Uninformative := by
  have hloop : s.isExactly [.integer, .string] = true ↔
      ∀ t, t ∈ s ↔ t = .builtin .integer ∨ t = .builtin .string := by
    rw [isExactly_iff (by decide)]
    simp
  constructor
  · intro hnone
    by_contra hinformative
    have hkept := candidates?_eq_some_iff.mpr ⟨fun h => hinformative (.anything h),
      Bool.eq_false_iff.mpr fun h => hinformative (.loopKey (hloop.mp h)),
      Bool.eq_false_iff.mpr fun h => hinformative (.passedOver (isEmpty_kept_iff.mp h)), rfl⟩
    rw [hnone] at hkept
    cases hkept
  · intro huninformative
    rw [Option.eq_none_iff_forall_ne_some]
    intro c hc
    obtain ⟨hmixed, hexactly, hempty, rfl⟩ := candidates?_eq_some_iff.mp hc
    cases huninformative with
    | anything h => exact hmixed h
    | loopKey h => exact absurd (hloop.mpr h) (Bool.eq_false_iff.mp hexactly)
    | passedOver h => exact absurd (isEmpty_kept_iff.mpr h) (Bool.eq_false_iff.mp hempty)

/-- A container that may be nothing besides an integer or a string is not taken for the key of a
loop. -/
theorem candidates?_of_loopKey_or_null
    (h : ∀ t, t ∈ s ↔ t = .builtin .integer ∨ t = .builtin .string ∨ t = .builtin .null) :
    ∃ c, s.candidates? = some c ∧ ∀ t, t ∈ c ↔ t = .builtin .integer ∨ t = .builtin .string := by
  have hinformative : ¬s.Uninformative := by
    intro huninformative
    cases huninformative with
    | anything hmixed => simp [h] at hmixed
    | loopKey hloop => simpa using (hloop (.builtin .null)).mp ((h _).mpr (by simp))
    | passedOver hall =>
        have hinteger : .builtin .integer ∈ s := (h _).mpr (.inl rfl)
        simpa using hall _ (mem_iff_of_builtin.mp hinteger)
  obtain ⟨c, hc⟩ := Option.ne_none_iff_exists'.mp (mt candidates?_eq_none_iff.mp hinformative)
  refine ⟨c, hc, fun t => ?_⟩
  obtain ⟨-, -, -, rfl⟩ := candidates?_eq_some_iff.mp hc
  have hcallable : .builtin .callable ∉ s := by simp [h]
  rw [mem_filter_of_key fun _ _ => passedOver_of_key, mem_openCallable, if_neg hcallable, h]
  constructor
  · rintro ⟨rfl | rfl | rfl, hleft⟩
    · exact .inl rfl
    · exact .inr rfl
    · cases hleft
  · rintro (rfl | rfl)
    · exact ⟨.inl rfl, rfl⟩
    · exact ⟨.inr (.inl rfl), rfl⟩

/-- What the candidates of a container are, and when there are none. -/
structure CandidatesExact (s : TypeSet) : Prop where
  none_iff : s.candidates? = none ↔ s.Uninformative
  some_of : ¬s.Uninformative → ∃ c, s.candidates? = some c ∧ s.CandidatesOf c
  loopKey_or_null :
    (∀ t, t ∈ s ↔ t = .builtin .integer ∨ t = .builtin .string ∨ t = .builtin .null) →
      ∃ c, s.candidates? = some c ∧ ∀ t, t ∈ c ↔ t = .builtin .integer ∨ t = .builtin .string

/-- The candidates of a container are told by what is known of it, down to their order and
spelling. -/
theorem candidates?_exactly (s : TypeSet) : s.CandidatesExact where
  none_iff := candidates?_eq_none_iff
  some_of hinformative := by
    obtain ⟨c, hc⟩ := Option.ne_none_iff_exists'.mp (mt candidates?_eq_none_iff.mp hinformative)
    exact ⟨c, hc, candidatesOf hc⟩
  loopKey_or_null := candidates?_of_loopKey_or_null

/-- Of the first types three are taken out, and `callable` puts in an array behind the others, as there
is a string among them. What may be an integer, a string or nothing is judged, in its own order. -/
theorem callableSample_candidates :
    (∃ c, (ofTexts ["callable", "null", "\\Bag", "STRING", "self", "object"]).candidates? = some c ∧
      CandidatesOf (ofTexts ["callable", "null", "\\Bag", "STRING", "self", "object"]) c ∧
      c.text = "[\\Bag, string, self, array]") ∧
    ∃ c, (ofBuiltins [.string, .null, .integer]).candidates? = some c ∧
      (∀ t, t ∈ c ↔ t = .builtin .integer ∨ t = .builtin .string) ∧
      c.text = "[string, integer]" := by
  constructor
  · have hexact := candidates?_exactly
      (ofTexts ["callable", "null", "\\Bag", "STRING", "self", "object"])
    obtain ⟨c, hc, hof⟩ := hexact.some_of (mt hexact.none_iff.mpr (by decide))
    obtain rfl := Option.some.inj hc
    exact ⟨_, hc, hof, rfl⟩
  · have hmem : ∀ t, t ∈ ofBuiltins [.string, .null, .integer] ↔
        t = .builtin .integer ∨ t = .builtin .string ∨ t = .builtin .null := by
      intro t
      rw [mem_ofBuiltins]
      simp
      tauto
    obtain ⟨c, hc, hof⟩ := (candidates?_exactly _).loopKey_or_null hmem
    obtain rfl := Option.some.inj hc
    exact ⟨_, hc, hof, rfl⟩

end TypeSet

end SubscriptLint
