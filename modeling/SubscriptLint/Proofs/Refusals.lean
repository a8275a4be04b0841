import SubscriptLint.Proofs.Construction
import SubscriptLint.Proofs.Routes
import Mathlib.Data.List.TakeWhile

/-!
# Refused blueprints

A blueprint is refused at the first file at fault: one whose path an earlier file has, or else one
with a variable without a name, wherever in a statement it stands (`Blueprint.refused_at_first`). A
text that is too large is the only other reason (`FileBlueprint.buildAll_eq_error_iff`).
-/

namespace SubscriptLint

namespace Text

/-- Nothing is left of a trimmed text exactly if all its characters are blank. -/
theorem trim_eq_empty_iff {s : String} : trim s = "" ↔ isBlankText s = true := by
  have hfront : (∀ c ∈ s.toList.dropWhile isBlank, isBlank c) ↔ ∀ c ∈ s.toList, isBlank c := by
    constructor
    · intro h c hc
      rw [← List.takeWhile_append_dropWhile (p := isBlank) (l := s.toList)] at hc
      rcases List.mem_append.mp hc with hc | hc
      · exact List.mem_takeWhile_imp hc
      · exact h c hc
    · exact fun h c hc => h c ((List.dropWhile_sublist isBlank).mem hc)
  rw [trim, ← String.toList_inj, String.toList_ofList, String.toList_empty, trimChars,
    List.reverse_eq_nil_iff, List.dropWhile_eq_nil_iff, isBlankText, List.all_eq_true, ← hfront]
  simp only [List.mem_reverse]

end Text

namespace Expr

variable {α : Type}

/-- A variable of which no name is left when it is trimmed, or an expression that has one in it. -/
inductive Nameless : Expr α → Prop
  | var {n : α} {name : String} (h : Text.trim name = "") : Nameless (.var n name)
  | container {n : α} {c : Expr α} {index : Option (Expr α)} {bracket : Bracket} {closed : Bool}
      (h : Nameless c) : Nameless (.access n (some c) index bracket closed)
  | index {n : α} {container : Option (Expr α)} {i : Expr α} {bracket : Bracket} {closed : Bool}
      (h : Nameless i) : Nameless (.access n container (some i) bracket closed)
  | target {n : α} {target value : Expr α} (h : Nameless target) :
      Nameless (.assign n target value)
  | value {n : α} {target value : Expr α} (h : Nameless value) : Nameless (.assign n target value)
  | argument {n : α} {callee : String} {args : List (Expr α)} {a : Expr α} (ha : a ∈ args)
      (h : Nameless a) : Nameless (.call n callee args)
  | object {n : α} {object : Expr α} {name : String} (h : Nameless object) :
      Nameless (.property n object name)

theorem Nameless.of_part {e p : Expr α} (hp : p ∈ e.parts) (h : p.Nameless) : e.Nameless := by
  cases e with
  | var n name => cases hp
  | literal n text => cases hp
  | access n container index bracket closed =>
      rw [parts, List.mem_append, Option.mem_toList, Option.mem_toList] at hp
      rcases hp with rfl | rfl
      · exact .container h
      · exact .index h
  | assign n target value =>
      rw [parts, List.mem_pair] at hp
      rcases hp with rfl | rfl
      · exact .target h
      · exact .value h
  | call n callee args => exact .argument hp h
  | property n object name =>
      obtain rfl := List.mem_singleton.mp hp
      exact .object h

theorem nameless_iff {e : Expr α} :
    e.Nameless ↔ e.isNameless = true ∨ ∃ p ∈ e.parts, p.Nameless := by
  constructor
  · intro h
    cases h with
    | var h => exact .inl (Text.trim_eq_empty_iff.mp h)
    | container h => exact .inr ⟨_, by simp [parts], h⟩
    | index h => exact .inr ⟨_, by simp [parts], h⟩
    | target h => exact .inr ⟨_, by simp [parts], h⟩
    | value h => exact .inr ⟨_, by simp [parts], h⟩
    | argument ha h => exact .inr ⟨_, ha, h⟩
    | object h => exact .inr ⟨_, by simp [parts], h⟩
  · rintro (h | ⟨p, hp, h⟩)
    · cases e with
      | var n name => exact .var (Text.trim_eq_empty_iff.mpr h)
      | _ => cases h
    · exact .of_part hp h

theorem any_visits (target : Bool) (e : Expr α) :
    ((e.visits target).any fun v => v.expr.isNameless) = e.hasNameless := by
  rw [hasNameless, visits_eq_cons target, visits_eq_cons false]
  rfl

theorem hasNameless_eq (e : Expr α) :
    e.hasNameless = (e.isNameless || e.parts.any hasNameless) := by
  have hparts : (e.parts.zipIdx.any fun q => q.1.hasNameless) = e.parts.any hasNameless := by
    conv_rhs => rw [← List.zipIdx_map_fst 0 e.parts, List.any_map]
    rfl
  rw [← hparts, hasNameless, visits_eq_cons, List.any_cons, List.any_flatMap]
  simp only [any_visits]

/-- The walk finds every variable without a name, and nothing else. -/
theorem hasNameless_iff {e : Expr α} : e.hasNameless = true ↔ e.Nameless := by
  induction e using parts_induction with
  | step e ih =>
      rw [hasNameless_eq, nameless_iff, Bool.or_eq_true, List.any_eq_true]
      exact or_congr_right (exists_congr fun p => and_congr_right (ih p))

instance (e : Expr α) : Decidable e.Nameless :=
  decidable_of_iff (e.hasNameless = true) hasNameless_iff

end Expr

namespace FileBlueprint

variable {f : FileBlueprint} {number i : Nat} {t : TypeTable} {error : BuildError}

theorem namelessStatement?_eq_none_iff :
    f.namelessStatement? = none ↔ ∀ e ∈ f.statements, ¬e.Nameless := by
  simp only [namelessStatement?, List.findIdx?_eq_none_iff, ← Expr.hasNameless_iff,
    Bool.not_eq_true]

theorem namelessStatement?_eq_some_iff :
    f.namelessStatement? = some i ↔
      ∃ e, f.statements[i]? = some e ∧ e.Nameless ∧ ∀ d ∈ f.statements.take i, ¬d.Nameless := by
  simp only [namelessStatement?, List.findIdx?_eq_some_iff_getElem, ← Expr.hasNameless_iff,
    List.getElem?_eq_some_iff, List.mem_take_iff_getElem]
  constructor
  · rintro ⟨hi, hname, hfirst⟩
    refine ⟨_, ⟨hi, rfl⟩, hname, ?_⟩
    rintro _ ⟨j, hj, rfl⟩
    exact hfirst j (by omega)
  · rintro ⟨_, ⟨hi, rfl⟩, hname, hfirst⟩
    exact ⟨hi, hname, fun j hj => hfirst _ ⟨j, by omega, rfl⟩⟩

/-- What is wrong with a file behind files that have the given paths. That its path is used again
goes before what its statements hold. -/
inductive Faulty (f : FileBlueprint) (paths : List String) : BuildError → Prop
  | duplicate (h : f.path ∈ paths) : f.Faulty paths (.duplicateFile f.path)
  | nameless {i : Nat} {e : Expr TypeNote} (hnew : f.path ∉ paths)
      (he : f.statements[i]? = some e) (h : e.Nameless)
      (hfirst : ∀ d ∈ f.statements.take i, ¬d.Nameless) :
      f.Faulty paths (.namelessVariable f.path i)

/-- What a file is refused for behind files that have the given paths. -/
inductive Refused (f : FileBlueprint) (paths : List String) : BuildError → Prop
  | fault {error : BuildError} (h : f.Faulty paths error) : f.Refused paths error
  | size (hnew : f.path ∉ paths) (hnames : ∀ e ∈ f.statements, ¬e.Nameless)
      (h : Source.limit ≤ f.text.utf8ByteSize) :
      f.Refused paths (.tooLarge f.path f.text.utf8ByteSize)

theorem build_eq_error_iff :
    f.build number t = .error error ↔
      (∃ i, f.namelessStatement? = some i ∧ error = .namelessVariable f.path i) ∨
        f.namelessStatement? = none ∧ Source.limit ≤ f.text.utf8ByteSize ∧
          error = .tooLarge f.path f.text.utf8ByteSize := by
  unfold build
  cases hn : f.namelessStatement? with
  | some i => simp [eq_comm]
  | none =>
      rw [layOut_eq]
      by_cases hfits : f.text.utf8ByteSize < Source.limit
      · simp [Source.ofContents?, hfits, Nat.not_le_of_lt hfits]
      · simp [Source.ofContents?, hfits, Nat.le_of_not_lt hfits, eq_comm]

theorem refused_iff (number : Nat) (t : TypeTable) {paths : List String} :
    f.Refused paths error ↔
      f.path ∈ paths ∧ error = .duplicateFile f.path ∨
        f.path ∉ paths ∧ f.build number t = .error error := by
  rw [build_eq_error_iff]
  constructor
  · intro h
    cases h with
    | fault h =>
        cases h with
        | duplicate h => exact .inl ⟨h, rfl⟩
        | nameless hnew he h hfirst =>
            have hi := namelessStatement?_eq_some_iff.mpr ⟨_, he, h, hfirst⟩
            exact .inr ⟨hnew, .inl ⟨_, hi, rfl⟩⟩
    | size hnew hnames h =>
        exact .inr ⟨hnew, .inr ⟨namelessStatement?_eq_none_iff.mpr hnames, h, rfl⟩⟩
  · rintro (⟨h, rfl⟩ | ⟨hnew, ⟨i, hi, rfl⟩ | ⟨hnone, h, rfl⟩⟩)
    · exact .fault (.duplicate h)
    · obtain ⟨e, he, h, hfirst⟩ := namelessStatement?_eq_some_iff.mp hi
      exact .fault (.nameless hnew he h hfirst)
    · exact .size hnew (namelessStatement?_eq_none_iff.mp hnone) h

/-- The order of the earlier files does not matter. -/
theorem refused_congr {ps qs : List String} (hperm : ps.Perm qs) :
    f.Refused ps error ↔ f.Refused qs error := by
  rw [refused_iff 0 {}, refused_iff 0 {}, hperm.mem_iff]

theorem buildAll_cons_eq_error_iff {fs : List FileBlueprint} {paths : List String} :
    buildAll (f :: fs) paths number t = .error error ↔
      f.Refused paths error ∨
        f.path ∉ paths ∧ ∃ m t', f.build number t = .ok (m, t') ∧
          buildAll fs (f.path :: paths) (number + 1) t' = .error error := by
  rw [refused_iff number t, buildAll]
  by_cases hpath : f.path ∈ paths
  · simp [hpath, throw, throwThe, MonadExceptOf.throw, bind, Except.bind, eq_comm]
  · cases hb : f.build number t with
    | error e => simp [hpath, bind, Except.bind]
    | ok r =>
        obtain ⟨m, t'⟩ := r
        cases hr : buildAll fs (f.path :: paths) (number + 1) t' with
        | error e => simp [hpath, hr, bind, Except.bind]
        | ok q => simp [hpath, hr, bind, Except.bind, pure, Except.pure]

/-- Building files fails at the first one that is refused: those before it are built, and what
follows it does not matter. -/
theorem buildAll_eq_error_iff {fs : List FileBlueprint} {paths : List String} :
    buildAll fs paths number t = .error error ↔
      ∃ before f after, fs = before ++ f :: after ∧
        (∃ r, buildAll before paths number t = .ok r) ∧
        f.Refused (before.map path ++ paths) error := by
  -- The number and the table change from file to file; what a file is refused for needs neither.
  induction fs generalizing paths number t with
  | nil => simp [buildAll]
  | cons f fs ih =>
      rw [buildAll_cons_eq_error_iff]
      constructor
      · rintro (h | ⟨hnew, m, t', hbuild, hrest⟩)
        · exact ⟨[], f, fs, rfl, ⟨_, rfl⟩, h⟩
        · obtain ⟨before, g, after, rfl, ⟨⟨ms, u⟩, hbefore⟩, h⟩ := ih.mp hrest
          refine ⟨f :: before, g, after, rfl, ⟨(m :: ms, u), ?_⟩, ?_⟩
          · exact buildAll_cons_eq_ok_iff.mpr ⟨hnew, m, ms, t', rfl, hbuild, hbefore⟩
          · exact (refused_congr List.perm_middle).mp h
      · rintro ⟨before, g, after, heq, ⟨⟨ms, u⟩, hbefore⟩, h⟩
        cases before with
        | nil =>
            obtain ⟨rfl, rfl⟩ := List.cons.inj heq
            exact .inl h
        | cons f' before =>
            obtain ⟨rfl, rfl⟩ := List.cons.inj heq
            obtain ⟨hnew, m, ms', t', -, hbuild, hrest⟩ := buildAll_cons_eq_ok_iff.mp hbefore
            refine .inr ⟨hnew, m, t', hbuild, ih.mpr ⟨before, g, after, rfl, ⟨_, hrest⟩, ?_⟩⟩
            exact (refused_congr List.perm_middle).mpr h

end FileBlueprint

namespace Blueprint

variable {b : Blueprint} {error : BuildError}

theorem build_eq_error_iff_buildAll :
    b.build = .error error ↔ FileBlueprint.buildAll b.files [] 0 {} = .error error := by
  unfold build
  cases FileBlueprint.buildAll b.files [] 0 {} <;> simp [bind, Except.bind, pure, Except.pure]

theorem exists_build_iff_no_nameless :
    (∃ p, b.build = .ok p) ↔
      (b.files.map FileBlueprint.path).Nodup ∧
        ∀ f ∈ b.files, (∀ e ∈ f.statements, ¬e.Nameless) ∧
          f.text.utf8ByteSize < Source.limit := by
  simp only [exists_build_iff, FileBlueprint.namelessStatement?_eq_none_iff]

theorem exists_buildAll_iff {fs : List FileBlueprint} :
    (∃ r, FileBlueprint.buildAll fs [] 0 {} = .ok r) ↔ ∃ p, build ⟨[], fs⟩ = .ok p := by
  simp only [build_eq_ok_iff_buildAll]
  constructor
  · rintro ⟨⟨ms, u⟩, h⟩
    exact ⟨⟨ms, u, _⟩, h, rfl⟩
  · rintro ⟨p, h, -⟩
    exact ⟨_, h⟩

/-- A blueprint is refused at the first file that is, and for what that file is refused for. -/
theorem build_eq_error_iff :
    b.build = .error error ↔
      ∃ before f after, b.files = before ++ f :: after ∧
        (before.map FileBlueprint.path).Nodup ∧
        (∀ g ∈ before, (∀ e ∈ g.statements, ¬e.Nameless) ∧
          g.text.utf8ByteSize < Source.limit) ∧
        f.Refused (before.map FileBlueprint.path) error := by
  simp only [build_eq_error_iff_buildAll, FileBlueprint.buildAll_eq_error_iff, List.append_nil,
    exists_buildAll_iff, exists_build_iff_no_nameless, and_assoc]

end Blueprint

end SubscriptLint
