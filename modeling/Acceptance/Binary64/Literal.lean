import Acceptance.Binary64.Rounding

namespace Acceptance.Binary64

/-! Reading a number from a text: an optional sign, then the name of a number that is not
finite, or decimal digits with an optional point and an optional exponent. At least one digit
must stand before the exponent, on either side of the point. -/

/-- The number `coefficient * 10^exponent` with a sign. -/
structure Decimal where
  negative : Bool
  coefficient : Nat
  exponent : Int
deriving DecidableEq

namespace Decimal

/-- The nearest number. Exponents so large or so small that no digit matters are settled
without computing their power of ten: a coefficient of at least one exceeds every finite
number from `10^310` on, and a coefficient below `2^(n+1)` stays below `10^(n+1)`, so
below half a unit once the exponent is at most `-325 - n`. -/
def round (decimal : Decimal) : Binary64 :=
  if decimal.coefficient = 0 then
    zero decimal.negative
  else if 309 < decimal.exponent then
    .infinite decimal.negative
  else if decimal.exponent + decimal.coefficient.log2 < -324 then
    zero decimal.negative
  else
    match decimal.exponent with
    | .ofNat power =>
        ofRatio decimal.negative (decimal.coefficient * Nat.pow 10 power * unitsOfOne) 1
    | .negSucc power =>
        ofRatio decimal.negative (decimal.coefficient * unitsOfOne) (Nat.pow 10 (power + 1))

example : round ⟨false, 1, 0⟩ = ofBits 0x3ff0000000000000 := by decide +kernel
example : round ⟨true, 25, -325⟩ = ofBits 0x8000000000000001 := by decide +kernel
example : round ⟨false, 1, 400⟩ = .infinite false := by decide +kernel

end Decimal

/-! ### The grammar of literals -/

def readSign : List Char → Bool × List Char
  | '-' :: rest => (true, rest)
  | '+' :: rest => (false, rest)
  | text => (false, text)

def digitValue (digit : Char) : Nat :=
  digit.toNat - '0'.toNat

def digitsValue (digits : List Char) : Nat :=
  digits.foldl (fun value digit => 10 * value + digitValue digit) 0

/-- The exponent at the end of a literal; without one it is zero. -/
def readExponent : List Char → Option Int
  | [] => some 0
  | mark :: rest =>
      if mark = 'e' ∨ mark = 'E' then
        let signed := readSign rest
        if signed.2 ≠ [] ∧ signed.2.all Char.isDigit then
          some (if signed.1 then -(digitsValue signed.2) else digitsValue signed.2)
        else
          none
      else
        none

/-- The digits after a point, and what follows them; without a point there are none. -/
def readFraction : List Char → List Char × List Char
  | '.' :: rest => (rest.takeWhile Char.isDigit, rest.dropWhile Char.isDigit)
  | text => ([], text)

def readDecimal (negative : Bool) (text : List Char) : Option Decimal :=
  let whole := text.takeWhile Char.isDigit
  let later := readFraction (text.dropWhile Char.isDigit)
  if whole = [] ∧ later.1 = [] then
    none
  else
    (readExponent later.2).map fun exponent =>
      ⟨negative, digitsValue (whole ++ later.1), exponent - later.1.length⟩

/-- The number nearest to a decimal literal with an optional sign. A literal beyond the
finite numbers rounds to infinity. -/
def ofDecimalText (text : List Char) : Option Binary64 :=
  let signed := readSign text
  (readDecimal signed.1 signed.2).map Decimal.round

/-- Whether the text is this word in small letters, but for the case of its ASCII letters. -/
def isWord (word : String) (text : List Char) : Bool :=
  text.map Char.toLower = word.toList

/-- The number that is read from the whole text. The numbers that are not finite have names,
whose letter case is ignored. -/
def ofText (text : List Char) : Option Binary64 :=
  let signed := readSign text
  if isWord "nan" signed.2 then
    some .nan
  else if isWord "inf" signed.2 || isWord "infinity" signed.2 then
    some (.infinite signed.1)
  else
    ofDecimalText text

/-- The one spelling of a number that is not finite, with an optional sign. -/
def isNonFiniteLiteral (text : List Char) : Bool :=
  let unsigned := (readSign text).2
  unsigned = "NaN".toList || unsigned = "Infinity".toList

example : ofDecimalText "-1e400".toList = some (.infinite true) := by decide +kernel
example : ofText "-.5e1".toList = some (ofBits 0xc014000000000000) := by decide +kernel
example : ofText "-iNf".toList = some (.infinite true) := by decide +kernel

end Acceptance.Binary64
