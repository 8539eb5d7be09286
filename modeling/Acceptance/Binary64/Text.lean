import Acceptance.Binary64.Shortest

namespace Acceptance.Binary64

/-! The two written forms of a number.

The plain form is always positional: `150`, `0.0000001`. The literal form shows that
the value is a double-precision number: whole values end in `.0`, and values below
`10^-4` or from `10^16` on have one digit before the point and an exponent: `1.5e-5`. -/

/-- Digits with the power of ten of the last one, written without an exponent. -/
def positional (digits : List Char) : Int → List Char
  | .ofNat zeros => digits ++ List.replicate zeros '0'
  | .negSucc places =>
      let fraction := places + 1
      if fraction < digits.length then
        digits.take (digits.length - fraction) ++
          '.' :: digits.drop (digits.length - fraction)
      else
        '0' :: '.' :: List.replicate (fraction - digits.length) '0' ++ digits

/-- Digits with the power of ten of the first one, written with an exponent. -/
def scientific (digits : List Char) (leading : Int) : List Char :=
  let coefficient :=
    match digits with
    | [] => []
    | [digit] => [digit]
    | digit :: rest => digit :: '.' :: rest
  coefficient ++ 'e' :: (toString leading).toList

def signText (negative : Bool) : List Char :=
  if negative then ['-'] else []

def plainMagnitude (magnitude : Nat) : List Char :=
  if magnitude = 0 then
    ['0']
  else
    let shown := shortest magnitude
    positional shown.1 shown.2

def literalMagnitude (magnitude : Nat) : List Char :=
  if magnitude = 0 then
    "0.0".toList
  else
    let shown := shortest magnitude
    let leading := shown.2 + shown.1.length - 1
    if leading < -4 ∨ 16 ≤ leading then
      scientific shown.1 leading
    else if 0 ≤ shown.2 then
      positional shown.1 shown.2 ++ ".0".toList
    else
      positional shown.1 shown.2

def plainCharacters : Binary64 → List Char
  | .finite negative magnitude => signText negative ++ plainMagnitude magnitude
  | .infinite negative => signText negative ++ "inf".toList
  | .nan => "NaN".toList

def literalCharacters : Binary64 → List Char
  | .finite negative magnitude => signText negative ++ literalMagnitude magnitude
  | .infinite negative => signText negative ++ "inf".toList
  | .nan => "NaN".toList

def plainText (number : Binary64) : String :=
  String.ofList number.plainCharacters

def literalText (number : Binary64) : String :=
  String.ofList number.literalCharacters

example : literalCharacters (ofBits 0x4062c00000000000) = "150.0".toList := by
  decide +kernel
example : plainCharacters (ofBits 0x4062c00000000000) = "150".toList := by
  decide +kernel
example : literalCharacters (ofBits 0x4341c37937e08000) = "1e16".toList := by
  decide +kernel

end Acceptance.Binary64
