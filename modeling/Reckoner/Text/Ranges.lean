set_option autoImplicit false

namespace Reckoner.Text

structure CharRange where
  first : Nat
  last : Nat
deriving DecidableEq

def CharRange.holds (range : CharRange) (c : Char) : Bool :=
  range.first ≤ c.toNat && c.toNat ≤ range.last

def inRanges (ranges : List CharRange) (c : Char) : Bool := ranges.any (·.holds c)

end Reckoner.Text
