import SubscriptLint.Decimal.Nearest
/-!
# Shortest decimal numbers

The decimal number with the fewest digits among those that are nearer to a binary number than to
any other one, and the way in which it is written.
-/

namespace SubscriptLint

namespace Binary

/-- The power of ten of the first digit of a number that is not zero. -/
def order (b : Binary) : Int :=
  let (num, den) := scale 2 b.significand 1 b.exponent
  if den ≤ num then (Nat.toDigits 10 (num / den)).length - 1
  else
    -- The smallest number has its first digit at the place 324 behind the point.
    match (List.range 324).find? fun i => den ≤ num * Nat.pow 10 (i + 1) with
    | some i => -(i + 1 : Nat)
    | none => 0

/-- Whether a decimal number rounds to a binary one. The numbers that do lie between the middles
to its neighbours, which belong to them if the significand is even. All is counted in quarters
of the last place, since the neighbour below may be half as far away as the one above. -/
def isNear (b : Binary) (significand : Nat) (exponent : Int) : Bool :=
  let (d, scaled) := scale 10 significand 1 exponent
  let (n, unit) := scale 2 1 1 (b.exponent - 2)
  let point := d * unit
  let below := if b.significand = fullSignificand ∧ leastExponent < b.exponent then 1 else 2
  let low := (4 * b.significand - below) * n * scaled
  let high := (4 * b.significand + 2) * n * scaled
  if b.significand % 2 = 0 then low ≤ point && point ≤ high else low < point && point < high

/-- The decimal number with so many digits that is nearest to a binary one, if it rounds to it,
as a significand and a power of ten. -/
def decimal? (b : Binary) (digits : Nat) : Option (Nat × Int) :=
  let e := b.order + 1 - digits
  let (n, d) := scale 2 b.significand 1 b.exponent
  let (n, d) := scale 10 n d (-e)
  let nearest := roundDiv n d
  let other := if nearest = n / d then nearest + 1 else n / d
  if b.isNear nearest e then some (nearest, e)
  else if b.isNear other e then some (other, e)
  else none

/-- The shortest decimal number that rounds to a binary one. Seventeen digits are always enough. -/
def shortest (b : Binary) : Nat × Int :=
  ((List.range 17).findSome? fun i => b.decimal? (i + 1)).getD (b.significand, b.exponent)

end Binary

namespace Decimal

/-- The largest power of ten of a number that is written without an exponent, and one more. -/
def widest : Int := 16

/-- The power of ten below which a number smaller than one is written with an exponent. -/
def narrowest : Int := -5

/-- A number of zeros. -/
def zeros (n : Int) : List Char := List.replicate n.toNat '0'

/-- The written form of a power of ten. It always has a sign. -/
def exponentDigits (n : Int) : List Char :=
  (if 0 ≤ n then '+' else '-') :: Nat.toDigits 10 n.natAbs

/-- The written form without an exponent of digits of which the last one stands at a power of ten.
There is always a point in it. -/
def positional (digits : List Char) (exponent : Int) : List Char :=
  let point := digits.length + exponent
  if 0 ≤ exponent then digits ++ zeros exponent ++ ['.', '0']
  else if 0 < point then digits.take point.toNat ++ '.' :: digits.drop point.toNat
  else '0' :: '.' :: (zeros (-point) ++ digits)

/-- The written form of digits of which the last one stands at a power of ten. There is always a
point or an exponent in it. -/
def written (digits : List Char) (exponent : Int) : List Char :=
  let point := digits.length + exponent
  if narrowest < point ∧ point ≤ widest then positional digits exponent
  else
    let fraction := if digits.length = 1 then [] else '.' :: digits.drop 1
    digits.take 1 ++ fraction ++ 'e' :: exponentDigits (point - 1)

/-- The digits of the shortest decimal number that rounds to a binary one, without zeros at their
end, and the power of ten of the last of them. -/
def digitsOf (b : Binary) : List Char × Int :=
  let (significand, exponent) := b.shortest
  let digits := Nat.toDigits 10 significand
  let kept := (digits.reverse.dropWhile (· = '0')).reverse
  (kept, exponent + (digits.length - kept.length))

/-- The written form of a binary number. -/
def ofBinary (b : Binary) : List Char :=
  if b.isZero then ['0', '.', '0'] else written (digitsOf b).1 (digitsOf b).2

/-- The written form of a binary number without an exponent. -/
def positionalOfBinary (b : Binary) : List Char :=
  if b.isZero then ['0', '.', '0'] else positional (digitsOf b).1 (digitsOf b).2

end Decimal

end SubscriptLint
