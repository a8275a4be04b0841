/-!
# Ranges of code points

Properties of characters that are given as tables.
-/

namespace SubscriptLint.Text

/-- Code points as ranges in ascending order, both ends included. -/
abbrev Ranges := List (Nat × Nat)

namespace Ranges

/-- Whether a character lies in one of the ranges. -/
def includes : Ranges → Char → Bool
  | [], _ => false
  | (first, last) :: rest, c =>
    first ≤ c.toNat && (c.toNat ≤ last || includes rest c)

/-- A character in the first range is included. -/
theorem includes_cons_of_le {first last : Nat} {rest : Ranges} {c : Char}
    (h : first ≤ c.toNat) (h' : c.toNat ≤ last) : includes ((first, last) :: rest) c := by
  simp [includes, h, h']

/-- Nothing below the first range is included. -/
theorem le_of_includes_cons {first last : Nat} {rest : Ranges} {c : Char}
    (h : includes ((first, last) :: rest) c) : first ≤ c.toNat := by
  simp only [includes, Bool.and_eq_true, decide_eq_true_eq] at h
  exact h.1

end Ranges

end SubscriptLint.Text
