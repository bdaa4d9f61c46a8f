import Reckoner.Double.Basic

set_option autoImplicit false

namespace Reckoner.Double

-- The number modulo the prime 2⁶¹ − 1, with its sign. The unit 2⁻¹⁰⁷⁴ counts
-- as 2²⁴, since 2⁶¹ counts as one and 1074 + 24 is a multiple of 61. The
-- value −1 is avoided, and "not a number" has no fingerprint.
def fingerprint : Double → Option Int
  | .nan => none
  | .infinite negative => some (if negative then -314159 else 314159)
  | .finite negative m =>
    let residue : Int := (m.units * Nat.pow 2 24 % (Nat.pow 2 61 - 1) : Nat)
    let signed := if negative then -residue else residue
    some (if signed = -1 then -2 else signed)

end Reckoner.Double
