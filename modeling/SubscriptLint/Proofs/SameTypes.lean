import SubscriptLint.Proofs.Analysis
import SubscriptLint.Proofs.InheritedSearch
import Mathlib.Data.List.Perm.Subperm

/-!
# Sets of the same types

The verdict on a container depends on which types are known of it, and neither on their order nor
on their spelling (`Catalog.verdict_of_sameMembers`). Going through the candidates ends at the first
one that refuses, so it is the order-free `Catalog.judged` that is followed here, and followed for
two catalogs at once: all that is asked of them is that they say the same of every single type.
-/

namespace SubscriptLint

namespace TypeSet

variable {s t : TypeSet} {u v : TypeName}

/-- Sets that are the same list the same keys. Neither lists a key twice, so being as many and
being contained is enough. -/
theorem perm_keys_of_sameMembers (h : s.sameMembers t = true) : s.keys.Perm t.keys := by
  obtain ⟨hsize, hall⟩ := Bool.and_eq_true_iff.mp h
  have hlength : t.keys.length ≤ s.keys.length := by
    rw [keys, keys, List.length_map, List.length_map]
    exact Nat.le_of_eq (beq_iff_eq.mp hsize).symm
  have hsubset : s.keys ⊆ t.keys := by
    intro k hk
    obtain ⟨m, hm, rfl⟩ := List.mem_map.mp hk
    exact of_decide_eq_true (List.all_eq_true.mp hall m hm)
  exact (List.subperm_of_subset s.distinct hsubset).perm_of_length_le hlength

/-- Sets are the same exactly if they have the same members. -/
theorem sameMembers_iff : s.sameMembers t = true ↔ ∀ u, u ∈ s ↔ u ∈ t := by
  constructor
  · intro h u
    exact (perm_keys_of_sameMembers h).mem_iff
  · intro h
    have hkey : ∀ k, k ∈ s.keys ↔ k ∈ t.keys := by
      intro k
      constructor
      · intro hk
        obtain ⟨m, -, rfl⟩ := List.mem_map.mp hk
        exact (h m).mp hk
      · intro hk
        obtain ⟨m, -, rfl⟩ := List.mem_map.mp hk
        exact (h m).mpr hk
    have hlength := ((List.perm_ext_iff_of_nodup s.distinct t.distinct).mpr hkey).length_eq
    rw [List.length_map, List.length_map] at hlength
    apply Bool.and_eq_true_iff.mpr
    refine ⟨beq_iff_eq.mpr hlength, List.all_eq_true.mpr ?_⟩
    intro m hm
    exact decide_eq_true ((h m).mp (mem_iff_exists.mpr ⟨m, hm, rfl⟩))

/-- What one set lists, another one that contains it lists too, in some spelling. -/
theorem exists_member_of_forall_mem (h : ∀ u, u ∈ s → u ∈ t) {m : TypeName} (hm : m ∈ s.members) :
    ∃ m' ∈ t.members, m.key = m'.key :=
  mem_iff_exists.mp (h m (mem_iff_exists.mpr ⟨m, hm, rfl⟩))

theorem size_of_sameMembers (h : s.sameMembers t = true) : s.size = t.size :=
  beq_iff_eq.mp (Bool.and_eq_true_iff.mp h).1

theorem contains_of_sameMembers (h : s.sameMembers t = true) (u : TypeName) :
    s.contains u = t.contains u :=
  decide_eq_decide.mpr (sameMembers_iff.mp h u)

theorem isExactly_of_sameMembers (h : s.sameMembers t = true) (types : List Builtin) :
    s.isExactly types = t.isExactly types := by
  have hcontains : s.containsBuiltin = t.containsBuiltin :=
    funext fun b => contains_of_sameMembers h (.builtin b)
  rw [isExactly, isExactly, size_of_sameMembers h, hcontains]

theorem isEmpty_of_sameMembers (h : s.sameMembers t = true) : s.isEmpty = t.isEmpty := by
  have hsize : s.members.length = t.members.length := size_of_sameMembers h
  rw [isEmpty, isEmpty, Bool.eq_iff_iff, List.isEmpty_iff_length_eq_zero,
    List.isEmpty_iff_length_eq_zero, hsize]

/-- Where members with one key are kept or dropped together, those that are kept are found by
their keys. -/
theorem mem_filter_of_key {p : TypeName → Bool} (hp : ∀ a b : TypeName, a.key = b.key → p a = p b)
    {u : TypeName} : u ∈ s.filter p ↔ u ∈ s ∧ p u = true := by
  rw [mem_filter, mem_iff_exists]
  constructor
  · rintro ⟨m, hm, hpm, hkey⟩
    exact ⟨⟨m, hm, hkey.symm⟩, hp m u hkey ▸ hpm⟩
  · rintro ⟨⟨m, hm, hkey⟩, hpu⟩
    exact ⟨m, hm, hp u m hkey ▸ hpu, hkey.symm⟩

theorem mem_openCallable {u : TypeName} :
    u ∈ s.openCallable ↔
      if .builtin .callable ∈ s then
        (u.key ≠ .builtin .callable ∧ u ∈ s) ∨ u.key = .builtin .array ∨ u.key = .builtin .string
      else u ∈ s := by
  by_cases hcallable : .builtin .callable ∈ s
  · have herase : s.erase? (.builtin .callable) = some (s.erase (.builtin .callable)) := by
      rw [erase, erase?, if_pos hcallable, Option.getD_some]
    simp only [openCallable, herase, if_pos hcallable, mem_insertMany, mem_erase]
    simp [TypeName.key]
  · have herase : s.erase? (.builtin .callable) = none := by rw [erase?, if_neg hcallable]
    simp only [openCallable, herase, if_neg hcallable]

/-- The built-in types that are passed over are told by their keys. -/
theorem passedOver_of_key (h : u.key = v.key) :
    (!passedOver.any u.isBuiltin) = !passedOver.any v.isBuiltin := by
  have hbuiltin : u.isBuiltin = v.isBuiltin := by
    funext c
    exact congrArg (· == (TypeName.builtin c).key) h
  rw [hbuiltin]

/-- Sets that are the same have the same candidates, or both have none. -/
theorem candidates?_of_sameMembers (h : s.sameMembers t = true) :
    Option.Rel (fun c d => c.sameMembers d = true) s.candidates? t.candidates? := by
  have hmem := sameMembers_iff.mp h
  have hopen : ∀ u, u ∈ s.openCallable ↔ u ∈ t.openCallable := by
    intro u
    simp only [mem_openCallable, hmem]
  have hkept : (s.openCallable.filter fun u => !passedOver.any u.isBuiltin).sameMembers
      (t.openCallable.filter fun u => !passedOver.any u.isBuiltin) = true := by
    apply sameMembers_iff.mpr
    intro u
    rw [mem_filter_of_key fun _ _ => passedOver_of_key,
      mem_filter_of_key fun _ _ => passedOver_of_key, hopen]
  have hmixed : s.containsBuiltin .mixed = t.containsBuiltin .mixed :=
    contains_of_sameMembers h (.builtin .mixed)
  unfold candidates?
  rw [hmixed, isExactly_of_sameMembers h]
  simp only [isEmpty_of_sameMembers hkept]
  split
  · exact .none
  · split
    · exact .none
    · split
      · exact .none
      · exact .some hkept

end TypeSet

/-- The verdicts are of one kind and name the same types, in any order and spelling. -/
inductive Verdict.Same : Verdict → Verdict → Prop
  | supported {s t : TypeSet} (h : s.sameMembers t = true) : Same (.supported s) (.supported t)
  | unsupported {s t : TypeSet} (h : s.sameMembers t = true) :
      Same (.unsupported s) (.unsupported t)

/-- Two types say the same about a container, in any order and spelling of the index types. -/
inductive Bearing.Same : Bearing → Bearing → Prop
  | refuses : Same .refuses .refuses
  | silent : Same .silent .silent
  | accepts {s t : TypeSet} (h : s.sameMembers t = true) : Same (.accepts s) (.accepts t)

namespace Catalog

variable {cat other : Catalog}

/-- The catalogs say the same of every type, in whatever spelling they are asked. -/
def Agrees (cat other : Catalog) : Prop :=
  ∀ t u : TypeName, t.key = u.key → (cat.bearing t).Same (other.bearing u)

/-- Catalogs say the same of every type if they do of every class. -/
theorem agrees_of_classIndexTypes?
    (h : ∀ a b : ClassName, a.key = b.key →
      Option.Rel (fun s t => s.sameMembers t = true) (cat.classIndexTypes? a)
        (other.classIndexTypes? b)) : cat.Agrees other := by
  intro t u hkey
  cases t with
  | builtin b =>
      cases u with
      | builtin b' =>
          obtain rfl := TypeKey.builtin.inj hkey
          cases b with
          | array => exact .accepts rfl
          | string => exact .accepts rfl
          | _ => exact .refuses
      | classLike name => cases hkey
      | other word => cases hkey
  | classLike a =>
      cases u with
      | builtin b => cases hkey
      | classLike b =>
          have hclass := h a b (TypeKey.classLike.inj hkey)
          rw [bearing, bearing]
          generalize cat.classIndexTypes? a = x at hclass ⊢
          generalize other.classIndexTypes? b = y at hclass ⊢
          cases hclass with
          | none => exact .silent
          | some htypes => exact .accepts htypes
      | other word => cases hkey
  | other word =>
      cases u with
      | builtin b => cases hkey
      | classLike name => cases hkey
      | other word' => exact .refuses

theorem agrees_refl (cat : Catalog) : cat.Agrees cat := by
  apply agrees_of_classIndexTypes?
  intro a b hkey
  rw [classIndexTypes?, classIndexTypes?, declarations_congr hkey]
  split
  · exact .none
  · exact .some (TypeSet.sameMembers_iff.mpr fun _ => Iff.rfl)

namespace Agrees

variable {s t c d : TypeSet}

/-- What one of the candidates says, one of the same candidates says to the other catalog. -/
theorem exists_bearing_iff (h : cat.Agrees other) (hcd : c.sameMembers d = true)
    {P : Bearing → Prop} (hP : ∀ {a b : Bearing}, a.Same b → (P a ↔ P b)) :
    (∃ b ∈ c.members.map cat.bearing, P b) ↔ ∃ b ∈ d.members.map other.bearing, P b := by
  have hmem := TypeSet.sameMembers_iff.mp hcd
  simp only [List.mem_map, exists_exists_and_eq_and]
  constructor
  · rintro ⟨m, hm, hPm⟩
    obtain ⟨m', hm', hkey⟩ := TypeSet.exists_member_of_forall_mem (fun u => (hmem u).mp) hm
    exact ⟨m', hm', (hP (h m m' hkey)).mp hPm⟩
  · rintro ⟨m, hm, hPm⟩
    obtain ⟨m', hm', hkey⟩ := TypeSet.exists_member_of_forall_mem (fun u => (hmem u).mpr) hm
    exact ⟨m', hm', (hP (h m' m hkey.symm)).mpr hPm⟩

theorem any_isRefusal (h : cat.Agrees other) (hcd : c.sameMembers d = true) :
    (c.members.map cat.bearing).any Bearing.isRefusal =
      (d.members.map other.bearing).any Bearing.isRefusal := by
  rw [Bool.eq_iff_iff, List.any_eq_true, List.any_eq_true]
  apply h.exists_bearing_iff hcd
  intro a b hab
  cases hab <;> rfl

theorem isEmpty_accepted (h : cat.Agrees other) (hcd : c.sameMembers d = true) :
    ((c.members.map cat.bearing).filterMap Bearing.accepted?).isEmpty =
      ((d.members.map other.bearing).filterMap Bearing.accepted?).isEmpty := by
  have hsome := h.exists_bearing_iff hcd (P := fun b => b.accepted?.isSome = true) (by
    intro a b hab
    cases hab <;> rfl)
  rw [Bool.eq_iff_iff, List.isEmpty_iff, List.isEmpty_iff, List.filterMap_eq_nil_iff,
    List.filterMap_eq_nil_iff]
  simp only [← Option.not_isSome_iff_eq_none]
  simpa only [not_exists, not_and] using not_congr hsome

/-- The index types that are accepted altogether are the same. -/
theorem sameMembers_accepted (h : cat.Agrees other) (hcd : c.sameMembers d = true) :
    TypeSet.sameMembers
      (.ofList (((c.members.map cat.bearing).filterMap Bearing.accepted?).flatMap TypeSet.members))
      (.ofList
        (((d.members.map other.bearing).filterMap Bearing.accepted?).flatMap TypeSet.members)) =
      true := by
  have hmem : ∀ (bs : List Bearing) (u : TypeName),
      u ∈ TypeSet.ofList ((bs.filterMap Bearing.accepted?).flatMap TypeSet.members) ↔
        ∃ b ∈ bs, ∃ types, b.accepted? = some types ∧ u ∈ types := by
    intro bs u
    rw [TypeSet.mem_ofList_members]
    constructor
    · rintro ⟨types, htypes, hu⟩
      obtain ⟨b, hb, heq⟩ := List.mem_filterMap.mp htypes
      exact ⟨b, hb, types, heq, hu⟩
    · rintro ⟨b, hb, types, heq, hu⟩
      exact ⟨types, List.mem_filterMap.mpr ⟨b, hb, heq⟩, hu⟩
  apply TypeSet.sameMembers_iff.mpr
  intro u
  rw [hmem, hmem]
  apply h.exists_bearing_iff hcd
  intro a b hab
  cases hab with
  | refuses => rfl
  | silent => rfl
  | accepts htypes =>
      simp only [Bearing.accepted?, Option.some.injEq, exists_eq_left']
      exact TypeSet.sameMembers_iff.mp htypes u

/-- Catalogs that say the same of every type judge a container the same. -/
theorem judged_same (h : cat.Agrees other) (hst : s.sameMembers t = true) :
    (cat.judged s).Same (other.judged t) := by
  have hcandidates := TypeSet.candidates?_of_sameMembers hst
  unfold judged
  generalize s.candidates? = x at hcandidates ⊢
  generalize t.candidates? = y at hcandidates ⊢
  cases hcandidates with
  | none => exact .supported rfl
  | some hcd =>
      simp only [h.any_isRefusal hcd, h.isEmpty_accepted hcd]
      split
      · exact .unsupported hcd
      · exact .supported (h.sameMembers_accepted hcd)

theorem verdict_same (h : cat.Agrees other) (hst : s.sameMembers t = true) :
    (cat.verdict s).Same (other.verdict t) := by
  rw [verdict_eq_judged, verdict_eq_judged]
  exact h.judged_same hst

end Agrees

/-- A container that may be of the same types has the same candidates and the same verdict, in
whatever order and spelling the types are listed. -/
theorem verdict_of_sameMembers (cat : Catalog) {s t : TypeSet} (h : s.sameMembers t = true) :
    Option.Rel (fun c d => c.sameMembers d = true) s.candidates? t.candidates? ∧
      (cat.verdict s).Same (cat.verdict t) :=
  ⟨TypeSet.candidates?_of_sameMembers h, cat.agrees_refl.verdict_same h⟩

/-- A class that takes integers as indexes. -/
def bagSample : Catalog :=
  .ofList
    [{ name := ⟨"\\Bag"⟩
       methods := [⟨"offsetGet", [⟨"i", some (.ofTexts ["int"])⟩]⟩, ⟨"offsetSet", []⟩] }]

/-- The index types are listed in the order in which the candidates come up, and are the same. -/
theorem bagSample_verdict_of_sameMembers :
    (TypeSet.ofTexts ["array", "\\Bag"]).sameMembers (.ofTexts ["\\BAG", "array"]) = true ∧
      (bagSample.verdict (.ofTexts ["array", "\\Bag"])).Same
        (bagSample.verdict (.ofTexts ["\\BAG", "array"])) ∧
      (bagSample.verdict (.ofTexts ["array", "\\Bag"])).types.text = "[string, integer]" ∧
      (bagSample.verdict (.ofTexts ["\\BAG", "array"])).types.text = "[integer, string]" := by
  have hsame : (TypeSet.ofTexts ["array", "\\Bag"]).sameMembers (.ofTexts ["\\BAG", "array"]) =
      true := rfl
  exact ⟨hsame, (bagSample.verdict_of_sameMembers hsame).2, rfl, rfl⟩

end Catalog

end SubscriptLint
