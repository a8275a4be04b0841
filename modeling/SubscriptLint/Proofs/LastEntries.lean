import Mathlib.Data.List.Basic

/-!
# Last entries

Where the entries of a list are gone through in order and each of them may settle a question anew, the
answer is the one of the last entry that has an answer (`read_foldl`).
-/

namespace SubscriptLint

variable {σ α β : Type} {answer? : α → Option β} {entry : α} {entries : List α}

/-- The answer of the last entry that has one. -/
def lastAnswer? (answer? : α → Option β) (entries : List α) : Option β :=
  entries.reverse.findSome? answer?

theorem lastAnswer?_append (answer? : α → Option β) (before after : List α) :
    lastAnswer? answer? (before ++ after) =
      (lastAnswer? answer? after).or (lastAnswer? answer? before) := by
  rw [lastAnswer?, List.reverse_append, List.findSome?_append]
  rfl

theorem lastAnswer?_singleton (answer? : α → Option β) (entry : α) :
    lastAnswer? answer? [entry] = answer? entry := by
  rw [lastAnswer?, List.reverse_singleton, List.findSome?_singleton]

theorem lastAnswer?_eq_none_iff :
    lastAnswer? answer? entries = none ↔ ∀ entry ∈ entries, answer? entry = none := by
  simp only [lastAnswer?, List.findSome?_eq_none_iff, List.mem_reverse]

/-- An answer is the last one if the entry that gives it has none behind it that has an answer. -/
theorem lastAnswer?_eq_some_iff {answer : β} :
    lastAnswer? answer? entries = some answer ↔
      ∃ before entry after, entries = before ++ entry :: after ∧ answer? entry = some answer ∧
        ∀ later ∈ after, answer? later = none := by
  rw [lastAnswer?, List.findSome?_eq_some_iff]
  constructor
  · rintro ⟨after, entry, before, hsplit, hanswer, hnone⟩
    refine ⟨before.reverse, entry, after.reverse, ?_, hanswer, ?_⟩
    · rw [← List.reverse_reverse entries, hsplit]
      simp
    · exact fun later hlater => hnone later (List.mem_reverse.mp hlater)
  · rintro ⟨before, entry, after, rfl, hanswer, hnone⟩
    refine ⟨after.reverse, entry, before.reverse, by simp, hanswer, ?_⟩
    exact fun later hlater => hnone later (List.mem_reverse.mp hlater)

/-- If what is read after a step is the answer of its entry, or else what was read before, then what
is read after all steps is the last answer. -/
theorem read_foldl (read : σ → Option β) {step : σ → α → σ}
    (h : ∀ s entry, read (step s entry) = (answer? entry).or (read s)) (s : σ) (entries : List α) :
    read (entries.foldl step s) = (lastAnswer? answer? entries).or (read s) := by
  induction entries generalizing s with
  | nil => rfl
  | cons entry entries ih =>
      have hcons : lastAnswer? answer? (entry :: entries) =
          (lastAnswer? answer? entries).or (answer? entry) := by
        rw [← List.singleton_append, lastAnswer?_append, lastAnswer?_singleton]
      rw [List.foldl_cons, ih, h, hcons, Option.or_assoc]

end SubscriptLint
