import SubscriptLint.Decimal.Shortest
import SubscriptLint.Document.Json.Glyph
import SubscriptLint.Document.Node
import SubscriptLint.Text.Digits
/-!
# JSON numbers

How numbers are written, and their values: integers of 64 bits, and binary numbers for all others.
A number that is too large has no value; it may be passed over.
-/

namespace SubscriptLint.Json

/-- The parts of a number as it is written. -/
structure NumberParts where
  negative : Bool
  whole : List Char
  fraction : List Char := []
  exponent : Int := 0
  /-- The number has a fraction or an exponent. -/
  decimal : Bool := false
  /-- The mark behind the digit with which the exponent becomes too large. -/
  steep : Option Mark := none

/-- What is wrong where a digit is missing. The end of the text is only told to one who reads. -/
def noDigit (stop : Mark) : List Glyph → Faults
  | [] => ⟨⟨.endInValue, stop⟩, ⟨.wrongNumber, stop⟩⟩
  | g :: _ => .both ⟨.wrongNumber, behindByte g⟩

/-- What follows the minus sign of a number, if it has one. -/
def minus : List Glyph → Bool × List Glyph
  | [] => (false, [])
  | g :: gs => if g.char = '-' then (true, gs) else (false, g :: gs)

/-- Whether a number begins with a minus sign, and what follows its sign, if it has one. -/
def sign : List Glyph → Bool × List Glyph
  | [] => (false, [])
  | g :: gs =>
    if g.char = '-' then (true, gs) else if g.char = '+' then (false, gs) else (false, g :: gs)

/-- A number without its fraction and exponent, and what follows it. A zero has no digit behind
it. -/
def wholePart (stop : Mark) (gs : List Glyph) : Except Faults (NumberParts × List Glyph) :=
  let (negative, gs) := minus gs
  match Glyph.charsWhile Char.isDigit gs with
  | [] => .error (noDigit stop gs)
  | '0' :: _ :: _ => .error (.both ⟨.wrongNumber, behindFirstByte stop (gs.drop 1)⟩)
  | whole => .ok (⟨negative, whole, [], 0, false, none⟩, Glyph.dropChars Char.isDigit gs)

/-- A number with its fraction, if it has one. -/
def withFraction (stop : Mark) (n : NumberParts) (gs : List Glyph) :
    Except Faults (NumberParts × List Glyph) :=
  match gs with
  | [] => .ok (n, [])
  | g :: rest =>
    if g.char = '.' then
      match Glyph.charsWhile Char.isDigit rest with
      | [] => .error (noDigit stop rest)
      | fraction =>
        .ok ({ n with fraction, decimal := true }, Glyph.dropChars Char.isDigit rest)
    else .ok (n, g :: rest)

/-- The greatest exponent that is read. -/
def greatestExponent : Nat := 0x7FFFFFFF

/-- The mark behind the digit with which an exponent becomes too large. -/
def steep? (stop : Mark) (value : Nat) : List Glyph → Option Mark
  | [] => none
  | g :: gs =>
    let next := value * 10 + (g.char.toNat - '0'.toNat)
    if !g.char.isDigit then none
    else if greatestExponent < next then some (Glyph.markOf stop gs)
    else steep? stop next gs

/-- A number with its exponent, if it has one. -/
def withExponent (stop : Mark) (n : NumberParts) (gs : List Glyph) :
    Except Faults (NumberParts × List Glyph) :=
  match gs with
  | [] => .ok (n, [])
  | g :: rest =>
    if g.char = 'e' ∨ g.char = 'E' then
      let (negative, rest) := sign rest
      match Glyph.charsWhile Char.isDigit rest with
      | [] => .error (noDigit stop rest)
      | digits =>
        let size : Int := Text.decimalValue digits
        .ok ({ n with
          exponent := if negative then -size else size
          decimal := true
          steep := if negative then none else steep? stop 0 rest },
          Glyph.dropChars Char.isDigit rest)
    else .ok (n, g :: rest)

/-- Goes on reading digits for as long as the integer fits in 64 bits, and counts them. -/
def accumulate (value : Nat) : List Char → Nat × Nat
  | [] => (value, 0)
  | c :: cs =>
    let next := value * 10 + (c.toNat - '0'.toNat)
    if next ≤ Scalar.greatestNatural then
      let (value, count) := accumulate next cs
      (value, count + 1)
    else (value, 0)

/-- The greatest power of ten by which a number is scaled at once. -/
def greatestPower : Nat := 308

/-- A number scaled by a power of ten, step by step if the power is small. Every step is rounded.
It fails if the result is too large. -/
def scaled? (b : Binary) (exponent : Int) : Option Binary :=
  if exponent.natAbs ≤ greatestPower then do
    let power ← Binary.ofDecimal? 1 exponent.natAbs
    if 0 ≤ exponent then b.times? power else b.over? power
  else if b.isZero then some b
  else if _large : 0 ≤ exponent then none
  else do
    let power ← Binary.ofDecimal? 1 greatestPower
    let b ← b.over? power
    scaled? b (exponent + greatestPower)
termination_by exponent.natAbs
decreasing_by
  simp only [greatestPower] at *
  omega

/-- The binary number that is read for a number. Of its digits only so many are looked at as fit
in 64 bits; of those before the point, the others count as zeros. -/
def NumberParts.binary? (n : NumberParts) : Option Binary := do
  let (value, before) := accumulate 0 n.whole
  let (value, behind) := accumulate value n.fraction
  let b ← Binary.ofFraction? value 1
  scaled? b (n.exponent + n.whole.length - before - behind)

/-- The value of a number that ends at a mark. It is an integer if it is written as one and fits in
64 bits; but a negative zero is none. -/
def NumberParts.scalar (n : NumberParts) (stop : Mark) : Except Fault Scalar :=
  let value := Text.decimalValue n.whole
  if !n.decimal && !n.negative && value ≤ Scalar.greatestNatural then .ok (.natural value)
  else if !n.decimal && n.negative && 0 < value && value ≤ Scalar.greatestNegative then
    .ok (.negative value)
  else
    match n.binary? with
    | some b =>
      .ok (.decimal ((if n.negative then "-" else "") ++ String.ofList (Decimal.ofBinary b)))
    | none => .error ⟨.numberTooLarge, n.steep.getD stop⟩

/-- A number, and what follows it. -/
def number (stop : Mark) (gs : List Glyph) :
    Except Faults (Except Fault Scalar × List Glyph) := do
  let (n, gs) ← wholePart stop gs
  let (n, gs) ← withFraction stop n gs
  let (n, gs) ← withExponent stop n gs
  return (n.scalar (Glyph.markOf stop gs), gs)

theorem minus_le (gs : List Glyph) : (minus gs).2.length ≤ gs.length := by
  unfold minus
  split
  · simp
  · split <;> simp

theorem sign_le (gs : List Glyph) : (sign gs).2.length ≤ gs.length := by
  unfold sign
  split
  · simp
  · split
    · simp
    · split <;> simp

theorem wholePart_shorter {stop : Mark} {gs rest : List Glyph} {n : NumberParts}
    (h : wholePart stop gs = .ok (n, rest)) : rest.length < gs.length := by
  have hle := minus_le gs
  unfold wholePart at h
  simp only at h
  split at h
  · simp at h
  · simp at h
  · next hne _ =>
    simp only [Except.ok.injEq, Prod.mk.injEq] at h
    rw [← h.2]
    have hsum := congrArg List.length
      (List.takeWhile_append_dropWhile (p := fun g : Glyph => g.char.isDigit) (l := (minus gs).2))
    have hpos : 0 < ((minus gs).2.takeWhile fun g => g.char.isDigit).length := by
      rw [List.length_pos_iff]
      intro hnil
      exact hne (by simp [Glyph.charsWhile, hnil])
    rw [List.length_append] at hsum
    unfold Glyph.dropChars
    omega

theorem withFraction_le {stop : Mark} {gs rest : List Glyph} {n m : NumberParts}
    (h : withFraction stop n gs = .ok (m, rest)) : rest.length ≤ gs.length := by
  unfold withFraction at h
  split at h
  · simp only [Except.ok.injEq, Prod.mk.injEq] at h
    simp [← h.2]
  · next tail =>
    split at h
    · split at h
      · simp at h
      · simp only [Except.ok.injEq, Prod.mk.injEq] at h
        have := Glyph.length_dropChars_le (p := Char.isDigit) tail
        rw [← h.2, List.length_cons]
        omega
    · simp only [Except.ok.injEq, Prod.mk.injEq] at h
      exact Nat.le_of_eq (congrArg List.length h.2.symm)

theorem withExponent_le {stop : Mark} {gs rest : List Glyph} {n m : NumberParts}
    (h : withExponent stop n gs = .ok (m, rest)) : rest.length ≤ gs.length := by
  unfold withExponent at h
  split at h
  · simp only [Except.ok.injEq, Prod.mk.injEq] at h
    simp [← h.2]
  · next tail =>
    split at h
    · simp only at h
      split at h
      · simp at h
      · simp only [Except.ok.injEq, Prod.mk.injEq] at h
        have := Glyph.length_dropChars_le (p := Char.isDigit) (sign tail).2
        have := sign_le tail
        rw [← h.2, List.length_cons]
        omega
    · simp only [Except.ok.injEq, Prod.mk.injEq] at h
      exact Nat.le_of_eq (congrArg List.length h.2.symm)

/-- A number takes something from the text. -/
theorem number_shorter {stop : Mark} {gs rest : List Glyph} {value : Except Fault Scalar}
    (h : number stop gs = .ok (value, rest)) : rest.length < gs.length := by
  unfold number at h
  cases h₁ : wholePart stop gs with
  | error f => simp [h₁, bind, Except.bind] at h
  | ok a =>
    cases h₂ : withFraction stop a.1 a.2 with
    | error f => simp [h₁, h₂, bind, Except.bind] at h
    | ok b =>
      cases h₃ : withExponent stop b.1 b.2 with
      | error f => simp [h₁, h₂, h₃, bind, Except.bind] at h
      | ok c =>
        simp only [h₁, h₂, h₃, bind, Except.bind, pure, Except.pure, Except.ok.injEq,
          Prod.mk.injEq] at h
        have := wholePart_shorter h₁
        have := withFraction_le h₂
        have := withExponent_le h₃
        rw [← h.2]
        omega

end SubscriptLint.Json
