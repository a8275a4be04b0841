/-!
# ASCII case

Class and method names are compared without regard to the case of ASCII letters. The comparison
goes through a folded text; letters outside ASCII keep their case.
-/

namespace SubscriptLint.Text

/-- The text with its ASCII capitals made small. -/
def fold (s : String) : String :=
  String.ofList (s.toList.map Char.toLower)

/-- The byte, made small if it is an ASCII capital. -/
def smallByte (b : UInt8) : UInt8 :=
  if 65 ≤ b ∧ b ≤ 90 then b + 32 else b

/-- Two texts are alike if they differ at most in the case of ASCII letters. -/
def alike (s t : String) : Bool :=
  fold s == fold t

@[simp] theorem toList_fold (s : String) : (fold s).toList = s.toList.map Char.toLower := by
  simp [fold]

theorem alike_iff {s t : String} : alike s t ↔ fold s = fold t := by
  simp [alike]

end SubscriptLint.Text
