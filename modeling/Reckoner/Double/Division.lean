import Reckoner.Double.Arithmetic

set_option autoImplicit false

namespace Reckoner

def Magnitude.one : Magnitude := ⟨1023 * Nat.pow 2 52, by decide⟩

namespace Double

def copySign : Double → Double → Double
  | .nan, _ => .nan
  | .infinite _, y => .infinite y.isNegative
  | .finite _ m, y => .finite y.isNegative m

def strictDiv? (x y : Double) : Option Double := if y.isZero then none else some (x.div y)

def guardedDiv? (x y : Double) : Option Double :=
  if y.eq (zero false) then
    if x.eq (zero false) || x.isNan then some .nan
    else some ((copySign (.infinite false) x).mul (copySign (.finite false Magnitude.one) y))
  else strictDiv? x y

end Double

end Reckoner
