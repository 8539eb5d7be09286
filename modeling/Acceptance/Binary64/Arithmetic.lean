import Acceptance.Binary64.Rounding

namespace Acceptance.Binary64

/-! Sums and products: computed exactly in units, then rounded once. -/

/-- An exact sum of zero is a positive zero, unless both terms are negative zeros. -/
def add : Binary64 → Binary64 → Binary64
  | .finite leftNegative left, .finite rightNegative right =>
      let sum := signedUnits leftNegative left + signedUnits rightNegative right
      if sum = 0 then
        zero (leftNegative && rightNegative)
      else
        ofRatio (sum < 0) sum.natAbs 1
  | .finite _ _, .infinite negative => .infinite negative
  | .infinite negative, .finite _ _ => .infinite negative
  | .infinite left, .infinite right => if left = right then .infinite left else .nan
  | .nan, _ => .nan
  | _, .nan => .nan

def subtract (left right : Binary64) : Binary64 :=
  left.add right.negate

/-- The product of two counts of units is a count of units of `2^-2148`. Infinity times
zero is not a number. -/
def multiply : Binary64 → Binary64 → Binary64
  | .finite leftNegative left, .finite rightNegative right =>
      ofRatio (leftNegative ^^ rightNegative) (units left * units right) unitsOfOne
  | .finite leftNegative left, .infinite rightNegative =>
      if left.val = 0 then .nan else .infinite (leftNegative ^^ rightNegative)
  | .infinite leftNegative, .finite rightNegative right =>
      if right.val = 0 then .nan else .infinite (leftNegative ^^ rightNegative)
  | .infinite left, .infinite right => .infinite (left ^^ right)
  | .nan, _ => .nan
  | _, .nan => .nan

example :
    add (ofRatio false unitsOfOne 10) (ofRatio false (2 * unitsOfOne) 10) =
      ofBits 0x3fd3333333333334 := by
  decide +kernel

end Acceptance.Binary64
