/-!
# Nearest binary numbers

Non-negative numbers with a significand of 53 bits and a bounded binary exponent, as documents
hold them. Every operation takes the exact result, which is a fraction, to the nearest such
number; it fails where the result is too large to have one.
-/

namespace SubscriptLint

/-- The number `significand * 2 ^ exponent`. The significand has as many bits as it may have,
unless the exponent is the least one. -/
structure Binary where
  significand : Nat
  exponent : Int
  deriving DecidableEq, Repr

namespace Binary

/-- The number of bits of a significand. -/
def precision : Nat := 53

/-- The exponent of the smallest numbers. -/
def leastExponent : Int := -1074

/-- The exponent of the largest numbers. -/
def greatestExponent : Int := 971

/-- The least significand that has all its bits. -/
def fullSignificand : Nat := Nat.pow 2 (precision - 1)

/-- The number zero. -/
def zero : Binary := ⟨0, leastExponent⟩

/-- Whether a number is zero. -/
def isZero (b : Binary) : Bool := b.significand = 0

/-- The quotient of two integers to the nearest integer; a half goes to the even one. -/
def roundDiv (num den : Nat) : Nat :=
  let whole := num / den
  let rest := 2 * (num % den)
  if rest < den ∨ (rest = den ∧ whole % 2 = 0) then whole else whole + 1

/-- The numerator and the denominator of `num / den * base ^ exponent`. -/
def scale (base num den : Nat) (exponent : Int) : Nat × Nat :=
  (num * Nat.pow base exponent.toNat, den * Nat.pow base (-exponent).toNat)

/-- The exponent at which a fraction has a significand of all bits, or the least exponent. -/
def exponentOf (num den : Nat) : Int :=
  let e : Int := num.log2 - den.log2 - (precision - 1 : Nat)
  let (n, d) := scale 2 num den (-e)
  max leastExponent (if n / d < fullSignificand then e - 1 else e)

/-- The number nearest to a fraction. -/
def ofFraction? (num den : Nat) : Option Binary :=
  if num = 0 then some zero
  else
    let e := exponentOf num den
    let (n, d) := scale 2 num den (-e)
    let s := roundDiv n d
    let b : Binary := if s = 2 * fullSignificand then ⟨fullSignificand, e + 1⟩ else ⟨s, e⟩
    if b.exponent ≤ greatestExponent then some b else none

/-- The number nearest to `significand * 10 ^ exponent`. -/
def ofDecimal? (significand : Nat) (exponent : Int) : Option Binary :=
  let (n, d) := scale 10 significand 1 exponent
  ofFraction? n d

/-- The number nearest to a product. -/
def times? (a b : Binary) : Option Binary :=
  let (n, d) := scale 2 (a.significand * b.significand) 1 (a.exponent + b.exponent)
  ofFraction? n d

/-- The number nearest to a quotient. -/
def over? (a b : Binary) : Option Binary :=
  let (n, d) := scale 2 a.significand b.significand (a.exponent - b.exponent)
  ofFraction? n d

end Binary

end SubscriptLint
