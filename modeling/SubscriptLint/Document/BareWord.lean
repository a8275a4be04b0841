import SubscriptLint.Decimal.Shortest
import SubscriptLint.Document.Node
import SubscriptLint.Text.Digits
/-!
# Bare words

The values that bare words have by themselves or by a tag: they may stand for nothing, for a truth
value or for a number, and all others are texts.
-/

namespace SubscriptLint

namespace BareWord

/-- The words that stand for no value. -/
def nullWords : List String := ["~", "null", "Null", "NULL"]

/-- The words that stand for truth. -/
def trueWords : List String := ["true", "True", "TRUE"]

/-- The words that stand for falsehood. -/
def falseWords : List String := ["false", "False", "FALSE"]

/-- Whether a word stands for no value, as no word does too. -/
def isNull (word : String) : Bool := word.isEmpty || nullWords.contains word

/-- The truth value that a word stands for. -/
def bool? (word : String) : Option Bool :=
  if trueWords.contains word then some true
  else if falseWords.contains word then some false
  else none

/-- A text without a plus sign at its beginning. -/
def withoutPlus : List Char → List Char
  | '+' :: rest => rest
  | cs => cs

/-- A text without a sign at its beginning. -/
def withoutSign : List Char → List Char
  | '+' :: rest => rest
  | '-' :: rest => rest
  | cs => cs

/-- Whether a word has digits alone, with a zero in front: such a word is no number. -/
def isZeroPadded (cs : List Char) : Bool :=
  match withoutSign cs with
  | '0' :: d :: rest => (d :: rest).all Char.isDigit
  | _ => false

/-- The number that a word stands for, apart from its sign. The base may be given in front. -/
def magnitude? (cs : List Char) : Option Nat :=
  match cs with
  | '0' :: 'x' :: rest => Text.numberOf? 16 rest
  | '0' :: 'o' :: rest => Text.numberOf? 8 rest
  | '0' :: 'b' :: rest => Text.numberOf? 2 rest
  | _ => Text.numberOf? 10 cs

/-- The magnitude of the integer that a word stands for, and whether it has a minus sign. -/
def integer? (cs : List Char) : Option (Bool × Nat) :=
  if isZeroPadded cs then none
  else
    match cs with
    | '-' :: rest => (magnitude? rest).map (true, ·)
    | _ => (magnitude? (withoutPlus cs)).map (false, ·)

/-- The greatest integer that is told from a number with a fraction: it fits in 128 bits. -/
def greatestWide : Nat := 0xFFFFFFFFFFFFFFFFFFFFFFFFFFFFFFFF

/-- The greatest magnitude of a negative integer that is told from a number with a fraction. -/
def greatestWideNegative : Nat := 0x80000000000000000000000000000000

/-- The value of an integer, if it is not too large for one. -/
def integerScalar? (negative : Bool) (magnitude : Nat) : Option Scalar :=
  if negative then
    if magnitude ≤ Scalar.greatestNegative then some (.negative magnitude)
    else if magnitude ≤ greatestWideNegative then some (.wide (-(magnitude : Int)))
    else none
  else if magnitude ≤ Scalar.greatestNatural then some (.natural magnitude)
  else if magnitude ≤ greatestWide then some (.wide magnitude)
  else none

/-- The value of a word that stands for an integer. -/
def wordInteger? (word : String) : Option Scalar :=
  (integer? word.toList).bind fun n => integerScalar? n.1 n.2

/-- The words for numbers that are not finite, and how these are shown. -/
def unboundedWords : List (String × String) :=
  [".inf", ".Inf", ".INF", "+.inf", "+.Inf", "+.INF"].map (·, "inf")
    ++ ["-.inf", "-.Inf", "-.INF"].map (·, "-inf") ++ [".nan", ".NaN", ".NAN"].map (·, "NaN")

/-- Whether a text is empty or the exponent of a number. -/
def isExponent : List Char → Bool
  | [] => true
  | e :: rest =>
    (e = 'e' || e = 'E') && !(withoutSign rest).isEmpty && (withoutSign rest).all Char.isDigit

/-- The exponent that a text is, if it is not empty. -/
def exponentOf (cs : List Char) : Int :=
  match cs with
  | _ :: '-' :: digits => -(Text.decimalValue digits : Int)
  | _ :: digits => Text.decimalValue (withoutPlus digits)
  | [] => 0

/-- The number of digits before the point that the largest numbers have. -/
def widestWhole : Int := 309

/-- The number of zeros behind the point from which on a number is too small to be told from
zero. -/
def narrowestFraction : Int := 400

/-- The binary number nearest to `significand * 10 ^ exponent`, if it is finite. -/
def binary? (significand : Nat) (exponent : Int) : Option Binary :=
  let whole := (Nat.toDigits 10 significand).length + exponent
  if significand = 0 || whole < -narrowestFraction then some .zero
  else if whole ≤ widestWhole then Binary.ofDecimal? significand exponent
  else none

/-- A number with a point, an exponent or more digits than an integer has, as it is shown. -/
def fraction? (cs : List Char) : Option String :=
  let digits := withoutSign cs
  let before := digits.takeWhile Char.isDigit
  let rest := digits.dropWhile Char.isDigit
  let (behind, rest) := match rest with
    | '.' :: rest => (rest.takeWhile Char.isDigit, rest.dropWhile Char.isDigit)
    | _ => ([], rest)
  if !(before.isEmpty && behind.isEmpty) && isExponent rest then
    (binary? (Text.decimalValue (before ++ behind)) (exponentOf rest - behind.length)).map fun b =>
      String.ofList (cs.takeWhile (· = '-') ++ Decimal.positionalOfBinary b)
  else none

/-- The value of a word that stands for a number that is no integer. -/
def wordDecimal? (word : String) : Option Scalar :=
  ((unboundedWords.lookup word).or (fraction? word.toList)).map .decimal

/-- The value that a bare word has by itself. -/
def value (word : String) : Scalar :=
  if isNull word then .null
  else
    match bool? word with
    | some b => .bool b
    | none =>
      match wordInteger? word with
      | some n => n
      | none =>
        match if isZeroPadded word.toList then none else wordDecimal? word with
        | some n => n
        | none => .text word

/-- The value that a scalar has by its tag, if it is one that the tag allows. -/
def taggedValue? (tag : ValueTag) (isBare : Bool) (word : String) : Option Scalar :=
  match tag with
  | .truth => (bool? word).map .bool
  | .integer => wordInteger? word
  | .decimal => wordDecimal? word
  | .null => if nullWords.contains word then some .null else none
  | .variant _ | .obscure => some (if isBare then value word else .text word)
  | .foreign => some (.text word)

end BareWord

end SubscriptLint
