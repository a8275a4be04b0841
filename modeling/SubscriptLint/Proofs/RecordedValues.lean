import SubscriptLint.Facts.SideTable
import SubscriptLint.Proofs.LastEntries

/-!
# Recorded values

Whatever room was made in a side table, and in whichever order, it is a partial map: an expression has
the value that was recorded for it last, and none if none was (`SideTable.recorded_last`). Rows of other
modules and slots of other expressions come into being with every call, but they hold nothing.
-/

namespace SubscriptLint.SideTable

variable {α : Type} {t u : SideTable α}

/-- A call that changes a table. -/
inductive Call (α : Type)
  | reserve (module count : Nat)
  | set (module expr : Nat) (value : α)

namespace Call

/-- The table after a call, if what is to be recorded can have a slot. -/
def run? (t : SideTable α) : Call α → Option (SideTable α)
  | reserve module count => some (t.reserve module count)
  | set module expr value => t.set? module expr value

/-- The table after a call, whether or not there can be a slot. -/
def run (t : SideTable α) : Call α → SideTable α
  | reserve module count => t.reserve module count
  | set module expr value => t.set module expr value

/-- There can be a slot for what the call records. -/
def Fits : Call α → Prop
  | reserve _ _ => True
  | set _ expr _ => expr < limit

instance : (c : Call α) → Decidable c.Fits
  | reserve _ _ => isTrue trivial
  | set _ expr _ => inferInstanceAs (Decidable (expr < limit))

/-- The value that the call records for an expression. -/
def recorded? (m e : Nat) : Call α → Option α
  | reserve _ _ => none
  | set module expr value => if module = m ∧ expr = e then some value else none

theorem run?_of_fits {c : Call α} (h : c.Fits) : c.run? t = some (c.run t) := by
  cases c with
  | reserve module count => rfl
  | set module expr value => exact set?_eq_some_iff.mpr ⟨h, rfl⟩

theorem get?_run (t : SideTable α) (c : Call α) (m e : Nat) :
    (c.run t).get? m e = (c.recorded? m e).or (t.get? m e) := by
  cases c with
  | reserve module count => exact get?_reserve t module count m e
  | set module expr value =>
      rw [run, get?_set, recorded?]
      split <;> rfl

theorem recorded?_eq_some_iff {m e : Nat} {c : Call α} {value : α} :
    c.recorded? m e = some value ↔ c = .set m e value := by
  cases c with
  | reserve module count => exact iff_of_false nofun nofun
  | set module expr value' =>
      rw [recorded?, Option.ite_none_right_eq_some, Option.some.injEq, set.injEq, and_assoc]

theorem recorded?_eq_none_iff {m e : Nat} {c : Call α} :
    c.recorded? m e = none ↔ ∀ value, c ≠ .set m e value := by
  simp only [Option.eq_none_iff_forall_ne_some, Ne, recorded?_eq_some_iff]

end Call

/-- The table after a run of calls, if every value that is recorded can have a slot. -/
def runAll? (t : SideTable α) (calls : List (Call α)) : Option (SideTable α) :=
  calls.foldlM Call.run? t

theorem runAll?_of_fits {calls : List (Call α)} (h : ∀ c ∈ calls, c.Fits) (t : SideTable α) :
    t.runAll? calls = some (calls.foldl Call.run t) := by
  induction calls generalizing t with
  | nil => rfl
  | cons c calls ih =>
      rw [runAll?, List.foldlM_cons, Call.run?_of_fits (h c List.mem_cons_self)]
      exact ih (fun c' hc' => h c' (List.mem_cons_of_mem c hc')) (c.run t)

/-- A table is the partial map that a run of calls makes of the empty one, and stays one with every
further call. -/
structure IsMapOf (t : SideTable α) (calls : List (Call α)) : Prop where
  /-- The last value that was recorded for an expression is the one it has. -/
  some_iff : ∀ m e value, t.get? m e = some value ↔
    ∃ before after, calls = before ++ .set m e value :: after ∧
      ∀ value', .set m e value' ∉ after
  none_iff : ∀ m e, t.get? m e = none ↔ ∀ value, .set m e value ∉ calls
  /-- Making room changes no value, however much room there was. -/
  reserve : ∀ module count m e, (t.reserve module count).get? m e = t.get? m e
  /-- Recording a value changes none at another place, and the value can be read. -/
  set : ∀ module expr value, expr < limit →
    ∃ u, t.set? module expr value = some u ∧ u.get? module expr = some value ∧
      ∀ m e, (m, e) ≠ (module, expr) → u.get? m e = t.get? m e

theorem get?_foldl_run (calls : List (Call α)) (m e : Nat) :
    (calls.foldl Call.run (∅ : SideTable α)).get? m e = lastAnswer? (Call.recorded? m e) calls := by
  have hempty : (∅ : SideTable α).get? m e = none := rfl
  rw [read_foldl (fun t => t.get? m e) (fun t c => c.get?_run t m e) ∅ calls, hempty,
    Option.or_none]

theorem get?_foldl_run_eq_some_iff {calls : List (Call α)} {m e : Nat} {value : α} :
    (calls.foldl Call.run (∅ : SideTable α)).get? m e = some value ↔
      ∃ before after, calls = before ++ .set m e value :: after ∧
        ∀ value', .set m e value' ∉ after := by
  rw [get?_foldl_run, lastAnswer?_eq_some_iff]
  simp only [Call.recorded?_eq_some_iff, Call.recorded?_eq_none_iff]
  constructor
  · rintro ⟨before, c, after, hcalls, rfl, hnone⟩
    exact ⟨before, after, hcalls, fun value' hmem => hnone _ hmem value' rfl⟩
  · rintro ⟨before, after, hcalls, hnone⟩
    refine ⟨before, _, after, hcalls, rfl, ?_⟩
    rintro c hc value' rfl
    exact hnone value' hc

theorem get?_foldl_run_eq_none_iff {calls : List (Call α)} {m e : Nat} :
    (calls.foldl Call.run (∅ : SideTable α)).get? m e = none ↔
      ∀ value, .set m e value ∉ calls := by
  rw [get?_foldl_run, lastAnswer?_eq_none_iff]
  simp only [Call.recorded?_eq_none_iff]
  constructor
  · exact fun hnone value hmem => hnone _ hmem value rfl
  · rintro hnone c hc value rfl
    exact hnone value hc

/-- A value that can have a slot is read in its place, and nothing else is changed. -/
theorem exists_set?_of_lt (t : SideTable α) (module : Nat) {expr : Nat} (value : α)
    (h : expr < limit) :
    ∃ u, t.set? module expr value = some u ∧ u.get? module expr = some value ∧
      ∀ m e, (m, e) ≠ (module, expr) → u.get? m e = t.get? m e := by
  refine ⟨_, set?_eq_some_iff.mpr ⟨h, rfl⟩, ?_, ?_⟩
  · rw [get?_set, if_pos ⟨rfl, rfl⟩]
  · intro m e hne
    rw [get?_set, if_neg]
    rintro ⟨rfl, rfl⟩
    exact hne rfl

/-- After any run of calls an expression has the value that was recorded for it last. -/
theorem recorded_last {calls : List (Call α)} (h : ∀ c ∈ calls, c.Fits) :
    ∃ t, (∅ : SideTable α).runAll? calls = some t ∧ t.IsMapOf calls := by
  refine ⟨_, runAll?_of_fits h ∅, ?_⟩
  constructor
  · exact fun m e value => get?_foldl_run_eq_some_iff
  · exact fun m e => get?_foldl_run_eq_none_iff
  · exact get?_reserve _
  · exact fun module expr value hexpr => exists_set?_of_lt _ module value hexpr

/-- Room that is made between and behind the values, less of it than there was and in rows that were
not there. -/
def recordingSample : List (Call String) :=
  [.reserve 2 5, .set 3 1 "a", .set 0 7 "b", .reserve 3 0, .set 3 1 "c", .reserve 9 1]

/-- The second value in one place is read, and nothing in the room that was made. -/
theorem recordingSample_last :
    ∃ t, (∅ : SideTable String).runAll? recordingSample = some t ∧ t.IsMapOf recordingSample ∧
      [(3, 1), (0, 7), (3, 0), (2, 4), (9, 0), (10, 0)].map (fun p => t.get? p.1 p.2) =
        [some "c", some "b", none, none, none, none] := by
  obtain ⟨t, ht, hmap⟩ := recorded_last (show ∀ c ∈ recordingSample, c.Fits by decide)
  have hread : ((∅ : SideTable String).runAll? recordingSample).map (fun t =>
      [(3, 1), (0, 7), (3, 0), (2, 4), (9, 0), (10, 0)].map fun p => t.get? p.1 p.2) =
        some [some "c", some "b", none, none, none, none] := rfl
  rw [ht] at hread
  exact ⟨t, ht, hmap, Option.some.inj hread⟩

end SubscriptLint.SideTable
