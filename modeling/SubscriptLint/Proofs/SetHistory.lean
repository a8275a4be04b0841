import SubscriptLint.Proofs.LastEntries
import SubscriptLint.Proofs.SameTypes

/-!
# Sets by their history

A set of types that was put together by insertions and removals, of single types and of lists of them,
is told by what was done (`TypeSet.history_followed`). It has a type if the last event that concerns the
type has put it in. Its members stand in the order of the insertions that have put them in, each in the
spelling of its insertion: a type that is put in once more stays where it is, and as it is, until it has
been taken out.
-/

namespace SubscriptLint

theorem TypeName.beq_eq_false_iff {t u : TypeName} : (t == u) = false ↔ t.key ≠ u.key := by
  rw [Bool.eq_false_iff, Ne, beq_iff]

namespace TypeSet

/-- What is done to a set with a single type. -/
inductive Event
  | put (t : TypeName)
  | drop (t : TypeName)

namespace Event

/-- The type that the event concerns. -/
def type : Event → TypeName
  | put t => t
  | drop t => t

/-- The set after the event. -/
def run (s : TypeSet) : Event → TypeSet
  | put t => s.insert t
  | drop t => s.erase t

/-- Whether a type is in a set after the event, as far as the event concerns it. -/
def leaves? (t : TypeName) : Event → Option Bool
  | put u => if u == t then some true else none
  | drop u => if u == t then some false else none

end Event

/-- What is done to a set. -/
inductive Change
  | insert (t : TypeName)
  | extend (types : List TypeName)
  | erase (t : TypeName)

namespace Change

/-- The set after the change. -/
def run (s : TypeSet) : Change → TypeSet
  | insert t => s.insert t
  | extend types => s.insertMany types
  | erase t => s.erase t

/-- What the change does type by type. -/
def events : Change → List Event
  | insert t => [.put t]
  | extend types => types.map .put
  | erase t => [.drop t]

theorem run_eq_foldl (s : TypeSet) (c : Change) : c.run s = c.events.foldl Event.run s := by
  cases c with
  | insert t => rfl
  | extend types =>
      rw [events, List.foldl_map]
      rfl
  | erase t => rfl

end Change

/-- The set that a run of events makes of the empty one. -/
def ofEvents (events : List Event) : TypeSet := events.foldl Event.run ∅

/-- The set that a run of changes makes of the empty one. -/
def ofChanges (changes : List Change) : TypeSet := changes.foldl Change.run ∅

/-- The last event that concerns a type has put it in. -/
def LastPut (events : List Event) (t : TypeName) : Prop :=
  ∃ before u after, events = before ++ .put u :: after ∧ (u == t) = true ∧
    ∀ e ∈ after, (e.type == t) = false

/-- The insertion at a place of the history has put the type in, where it still is: the type was not
there before, and has not been taken out since. -/
structure StandsAt (events : List Event) (i : Nat) (t : TypeName) : Prop where
  put : events[i]? = some (.put t)
  fresh : ¬LastPut (events.take i) t
  kept : ∀ u, .drop u ∈ events.drop (i + 1) → (u == t) = false

/-- The list has the insertions that stand, in the order of their places. -/
structure Standing (events : List Event) (places : List (Nat × TypeName)) : Prop where
  sorted : (places.map Prod.fst).Pairwise (· < ·)
  mem_iff : ∀ i t, (i, t) ∈ places ↔ StandsAt events i t

/-- The set is the one that a history tells, and answers accordingly. -/
structure FollowsHistory (s : TypeSet) (events : List Event) : Prop where
  distinct : s.members.Pairwise fun t u => (t == u) = false
  contains_iff : ∀ t, s.contains t = true ↔ LastPut events t
  /-- The members are those that the insertions have put in, in their order and spelling. -/
  listed : ∃ places, Standing events places ∧ s.members = places.map Prod.snd ∧
    s.size = places.length
  inserts_iff : ∀ t, (s.insert? t).isSome = true ↔ ∀ u ∈ s.members, (u == t) = false
  erases_iff : ∀ t, (s.erase? t).isSome = true ↔ ∃ u ∈ s.members, (u == t) = true
  same_iff : ∀ other : TypeSet, s.sameMembers other = true ↔
    (∀ t ∈ s.members, other.contains t = true) ∧ ∀ t ∈ other.members, s.contains t = true

variable {s other : TypeSet} {t u : TypeName} {events : List Event} {e : Event} {i : Nat}

namespace Event

theorem leaves?_eq_some_true_iff : e.leaves? t = some true ↔ ∃ u, e = .put u ∧ (u == t) = true := by
  cases e with
  | put u => simp [leaves?]
  | drop u => simp [leaves?]

theorem leaves?_eq_none_iff : e.leaves? t = none ↔ (e.type == t) = false := by
  cases e with
  | put u => simp [leaves?, type]
  | drop u => simp [leaves?, type]

/-- An event settles whether the set has the type that it concerns, and that of no other type. -/
theorem contains_run (s : TypeSet) (e : Event) (t : TypeName) :
    some ((e.run s).contains t) = (e.leaves? t).or (some (s.contains t)) := by
  cases e with
  | put u =>
      simp only [run, leaves?, contains, mem_insert]
      by_cases h : (u == t) = true
      · simp [h, TypeName.beq_iff.mp h]
      · simp [h, Ne.symm (mt TypeName.beq_iff.mpr h)]
  | drop u =>
      simp only [run, leaves?, contains, mem_erase]
      by_cases h : (u == t) = true
      · simp [h, TypeName.beq_iff.mp h]
      · simp [h, Ne.symm (mt TypeName.beq_iff.mpr h)]

end Event

theorem lastPut_iff : LastPut events t ↔ lastAnswer? (Event.leaves? t) events = some true := by
  simp only [LastPut, lastAnswer?_eq_some_iff, Event.leaves?_eq_some_true_iff,
    Event.leaves?_eq_none_iff]
  constructor
  · rintro ⟨before, u, after, hevents, hu, hnone⟩
    exact ⟨before, _, after, hevents, ⟨u, rfl, hu⟩, hnone⟩
  · rintro ⟨before, e, after, hevents, ⟨u, rfl, hu⟩, hnone⟩
    exact ⟨before, u, after, hevents, hu, hnone⟩

theorem contains_ofEvents_iff : (ofEvents events).contains t = true ↔ LastPut events t := by
  have hread := read_foldl (fun s : TypeSet => some (s.contains t))
    (fun s e => e.contains_run s t) ∅ events
  have hempty : (∅ : TypeSet).contains t = false := rfl
  rw [lastPut_iff, ← Option.some_inj, ofEvents, hread, hempty]
  cases lastAnswer? (Event.leaves? t) events <;> simp

theorem mem_ofEvents_iff : t ∈ ofEvents events ↔ LastPut events t :=
  decide_eq_true_iff.symm.trans contains_ofEvents_iff

theorem ofEvents_append (events : List Event) (e : Event) :
    ofEvents (events ++ [e]) = e.run (ofEvents events) :=
  List.foldl_concat ..

theorem StandsAt.lt_length (h : StandsAt events i t) : i < events.length :=
  (List.getElem?_eq_some_iff.mp h.put).1

/-- An insertion stands after one more event unless it is undone by it. -/
theorem standsAt_append_of_lt (hi : i < events.length) :
    StandsAt (events ++ [e]) i t ↔
      StandsAt events i t ∧ ∀ u, e = .drop u → (u == t) = false := by
  have hput : (events ++ [e])[i]? = events[i]? := List.getElem?_append_left hi
  have htake : (events ++ [e]).take i = events.take i :=
    List.take_append_of_le_length (Nat.le_of_lt hi)
  have hdrop : (events ++ [e]).drop (i + 1) = events.drop (i + 1) ++ [e] :=
    List.drop_append_of_le_length hi
  constructor
  · rintro ⟨hat, hfresh, hkept⟩
    rw [hput] at hat
    rw [htake] at hfresh
    rw [hdrop] at hkept
    refine ⟨⟨hat, hfresh, fun u hu => hkept u (List.mem_append_left _ hu)⟩, ?_⟩
    rintro u rfl
    exact hkept u List.mem_append_cons_self
  · rintro ⟨⟨hat, hfresh, hkept⟩, he⟩
    refine ⟨hput.trans hat, htake ▸ hfresh, fun u hu => ?_⟩
    rw [hdrop, List.mem_append, List.mem_singleton] at hu
    rcases hu with hu | rfl
    · exact hkept u hu
    · exact he u rfl

/-- The last event stands if it puts in a type that was not there. -/
theorem standsAt_append_length :
    StandsAt (events ++ [e]) events.length t ↔ e = .put t ∧ ¬LastPut events t := by
  have hput : (events ++ [e])[events.length]? = some e := List.getElem?_concat_length
  have htake : (events ++ [e]).take events.length = events := List.take_left
  have hdrop : (events ++ [e]).drop (events.length + 1) = [] := List.drop_eq_nil_of_le (by simp)
  constructor
  · rintro ⟨hat, hfresh, -⟩
    rw [htake] at hfresh
    exact ⟨Option.some.inj (hput.symm.trans hat), hfresh⟩
  · rintro ⟨rfl, hfresh⟩
    refine ⟨hput, htake.symm ▸ hfresh, fun u hu => ?_⟩
    rw [hdrop] at hu
    cases hu

theorem standsAt_append_iff :
    StandsAt (events ++ [e]) i t ↔
      (StandsAt events i t ∧ ∀ u, e = .drop u → (u == t) = false) ∨
        (i = events.length ∧ e = .put t ∧ ¬LastPut events t) := by
  constructor
  · intro h
    rcases Nat.lt_or_eq_of_le (Nat.le_of_lt_succ (List.length_append ▸ h.lt_length)) with hlt | rfl
    · exact .inl ((standsAt_append_of_lt hlt).mp h)
    · exact .inr ⟨rfl, standsAt_append_length.mp h⟩
  · rintro (h | ⟨rfl, h⟩)
    · exact (standsAt_append_of_lt h.1.lt_length).mpr h
    · exact standsAt_append_length.mpr h

namespace Standing

variable {places : List (Nat × TypeName)}

theorem nil : Standing [] [] :=
  ⟨List.Pairwise.nil,
    fun i _ => iff_of_false List.not_mem_nil fun h => Nat.not_lt_zero i h.lt_length⟩

/-- Putting in a type that is there changes nothing. -/
theorem put_known (h : Standing events places) (hu : LastPut events u) :
    Standing (events ++ [.put u]) places := by
  refine ⟨h.sorted, fun i t => ?_⟩
  rw [h.mem_iff, standsAt_append_iff]
  constructor
  · exact fun hstands => .inl ⟨hstands, nofun⟩
  · rintro (⟨hstands, -⟩ | ⟨-, heq, hfresh⟩)
    · exact hstands
    · exact absurd (Event.put.inj heq ▸ hu) hfresh

/-- Another type is put in behind all others. -/
theorem put_fresh (h : Standing events places) (hu : ¬LastPut events u) :
    Standing (events ++ [.put u]) (places ++ [(events.length, u)]) := by
  constructor
  · rw [List.map_append, List.pairwise_append]
    refine ⟨h.sorted, List.pairwise_singleton _ _, ?_⟩
    intro i hi j hj
    obtain ⟨⟨i, t⟩, hp, rfl⟩ := List.mem_map.mp hi
    rw [List.mem_singleton.mp hj]
    exact ((h.mem_iff i t).mp hp).lt_length
  · intro i t
    rw [List.mem_append, h.mem_iff, standsAt_append_iff, List.mem_singleton, Prod.mk.injEq]
    constructor
    · rintro (hstands | ⟨rfl, rfl⟩)
      · exact .inl ⟨hstands, nofun⟩
      · exact .inr ⟨rfl, rfl, hu⟩
    · rintro (⟨hstands, -⟩ | ⟨rfl, heq, -⟩)
      · exact .inl hstands
      · exact .inr ⟨rfl, (Event.put.inj heq).symm⟩

/-- Taking a type out undoes its insertion and leaves the others in their order. -/
theorem drop (h : Standing events places) (u : TypeName) :
    Standing (events ++ [.drop u]) (places.filter fun p => p.2.key ≠ u.key) := by
  refine ⟨h.sorted.sublist (List.filter_sublist.map Prod.fst), fun i t => ?_⟩
  rw [List.mem_filter, h.mem_iff, standsAt_append_iff, decide_eq_true_iff]
  constructor
  · rintro ⟨hstands, hne⟩
    refine .inl ⟨hstands, ?_⟩
    rintro u' ⟨⟩
    exact TypeName.beq_eq_false_iff.mpr hne.symm
  · rintro (⟨hstands, hkept⟩ | ⟨-, heq, -⟩)
    · exact ⟨hstands, (TypeName.beq_eq_false_iff.mp (hkept u rfl)).symm⟩
    · cases heq

end Standing

/-- The members of a set are those of the insertions that stand. -/
theorem exists_standing (events : List Event) :
    ∃ places, Standing events places ∧ (ofEvents events).members = places.map Prod.snd := by
  induction events using List.reverseRecOn with
  | nil => exact ⟨[], .nil, rfl⟩
  | append_singleton events e ih =>
      obtain ⟨places, hstanding, hmembers⟩ := ih
      rw [ofEvents_append]
      cases e with
      | put u =>
          rw [Event.run, members_insert, hmembers]
          by_cases hu : LastPut events u
          · refine ⟨places, hstanding.put_known hu, ?_⟩
            rw [if_pos (mem_ofEvents_iff.mpr hu)]
          · refine ⟨_, hstanding.put_fresh hu, ?_⟩
            rw [if_neg (mt mem_ofEvents_iff.mp hu), List.map_append]
            rfl
      | drop u =>
          refine ⟨_, hstanding.drop u, ?_⟩
          rw [Event.run, members_erase, hmembers, List.filter_map]
          rfl

theorem ofChanges_eq (changes : List Change) :
    ofChanges changes = ofEvents (changes.flatMap Change.events) := by
  have hrun : Change.run = fun s c => c.events.foldl Event.run s := by
    ext1 s
    ext1 c
    exact c.run_eq_foldl s
  rw [ofChanges, ofEvents, List.foldl_flatMap, hrun]

theorem pairwise_members (s : TypeSet) : s.members.Pairwise fun t u => (t == u) = false :=
  (List.pairwise_map.mp s.distinct).imp TypeName.beq_eq_false_iff.mpr

theorem mem_iff_exists_beq : t ∈ s ↔ ∃ u ∈ s.members, (u == t) = true := by
  rw [mem_iff_exists]
  exact exists_congr fun u => and_congr_right fun _ => eq_comm.trans TypeName.beq_iff.symm

theorem isSome_insert?_iff : (s.insert? t).isSome = true ↔ t ∉ s := by
  unfold insert?
  split
  · next h => exact iff_of_false Bool.false_ne_true (not_not_intro h)
  · next h => exact iff_of_true rfl h

theorem isSome_erase?_iff : (s.erase? t).isSome = true ↔ t ∈ s := by
  unfold erase?
  split
  · next h => exact iff_of_true rfl h
  · next h => exact iff_of_false Bool.false_ne_true h

/-- Sets are the same if each has every member of the other. -/
theorem sameMembers_iff_contains :
    s.sameMembers other = true ↔
      (∀ t ∈ s.members, other.contains t = true) ∧ ∀ t ∈ other.members, s.contains t = true := by
  have hsub : ∀ a b : TypeSet,
      (∀ t ∈ a.members, b.contains t = true) ↔ ∀ u, u ∈ a → u ∈ b := by
    intro a b
    constructor
    · intro h u hu
      obtain ⟨t, ht, hkey⟩ := mem_iff_exists.mp hu
      rw [mem_def, hkey]
      exact of_decide_eq_true (h t ht)
    · intro h t ht
      exact decide_eq_true (h t (mem_iff_exists.mpr ⟨t, ht, rfl⟩))
  rw [sameMembers_iff, hsub, hsub]
  exact forall_congr' (fun u => iff_def) |>.trans forall_and

/-- A set is what the history of its changes tells. -/
theorem history_followed (changes : List Change) :
    (ofChanges changes).FollowsHistory (changes.flatMap Change.events) := by
  rw [ofChanges_eq]
  refine ⟨pairwise_members _, fun t => contains_ofEvents_iff, ?_, fun t => ?_, fun t => ?_,
    fun other => sameMembers_iff_contains⟩
  · obtain ⟨places, hstanding, hmembers⟩ := exists_standing (changes.flatMap Change.events)
    refine ⟨places, hstanding, hmembers, ?_⟩
    rw [size, hmembers, List.length_map]
  · rw [isSome_insert?_iff, mem_iff_exists_beq]
    simp
  · rw [isSome_erase?_iff, mem_iff_exists_beq]

/-- A class stays as it was spelled until it is taken out, and is the last one when it is put in again. -/
example :
    (ofChanges [.extend [.ofText "\\Foo", .ofText "int"], .insert (.ofText "\\FOO")]).text =
        "[\\Foo, integer]" ∧
      (ofChanges [.extend [.ofText "\\Foo", .ofText "int"], .erase (.ofText "\\foo"),
        .extend [.ofText "integer", .ofText "\\FOO"]]).text = "[integer, \\FOO]" :=
  ⟨rfl, rfl⟩

end TypeSet

end SubscriptLint
