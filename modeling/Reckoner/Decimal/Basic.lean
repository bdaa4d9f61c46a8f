import Reckoner.Double.Arithmetic

set_option autoImplicit false

namespace Reckoner

-- The exact ratio may be astronomically long, as for one digit with an
-- exponent of ten million. Such numbers are answered from their size alone,
-- and the ratio is formed only when its length is bounded by that of the
-- coefficient.
structure Decimal where
  coefficient : Nat
  exponent : Int
deriving DecidableEq

namespace Decimal

def ratio (d : Decimal) : Nat × Nat :=
  match d.exponent with
  | .ofNat up => (d.coefficient * Nat.pow 10 up * Nat.pow 2 1074, 1)
  | .negSucc down => (d.coefficient * Nat.pow 2 1074, Nat.pow 10 (down + 1))

def rounded (negative : Bool) (d : Decimal) : Double :=
  Double.round negative d.ratio.1 d.ratio.2

def overflows (d : Decimal) : Bool := d.coefficient != 0 && decide (400 ≤ d.exponent)

-- Below half of the least positive double: every factor of ten in the
-- denominator takes away at least three bits of the coefficient, and more
-- than 1075 bits are missing in the end.
def underflows (d : Decimal) : Bool :=
  decide ((Nat.log2 d.coefficient + 1080 : Int) < -3 * d.exponent)

def toDouble (negative : Bool) (d : Decimal) : Double :=
  if d.coefficient = 0 || d.underflows then Double.zero negative
  else if d.overflows then .infinite negative
  else d.rounded negative

end Decimal

end Reckoner
