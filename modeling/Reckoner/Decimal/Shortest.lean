import Reckoner.Decimal.Basic

set_option autoImplicit false

namespace Reckoner.Decimal

-- For each power of ten, from one above the number downwards, the two
-- multiples of that power around the number are tried. The first grid on
-- which one of them reads back gives the fewest digits.
def gridRatio (m : Magnitude) (exponent : Int) : Nat × Nat :=
  match exponent with
  | .ofNat up => (m.units, Nat.pow 2 1074 * Nat.pow 10 up)
  | .negSucc down => (m.units * Nat.pow 10 (down + 1), Nat.pow 2 1074)

def readsBack (m : Magnitude) (d : Decimal) : Bool := d.toDouble false == .finite false m

def onGrid (m : Magnitude) (exponent : Int) : Option Decimal :=
  let (num, den) := gridRatio m exponent
  let below : Decimal := ⟨num / den, exponent⟩
  let above : Decimal := ⟨num / den + 1, exponent⟩
  match readsBack m below, readsBack m above with
  | true, true => some ⟨nearest num den, exponent⟩
  | true, false => some below
  | false, true => some above
  | false, false => none

def exact (m : Magnitude) : Decimal := ⟨m.units * Nat.pow 5 1074, -1074⟩

def firstOnGrid (m : Magnitude) : (count : Nat) → (exponent : Int) → Decimal
  | 0, _ => exact m
  | count + 1, exponent =>
    match onGrid m exponent with
    | some d => d
    | none => firstOnGrid m count (exponent - 1)

def startExponent (m : Magnitude) : Int :=
  (((Nat.log2 m.units : Int) - 1073) * 30103).fdiv 100000 + 1

def shortest (m : Magnitude) : Decimal :=
  if m.index = 0 then ⟨0, 0⟩ else firstOnGrid m 20 (startExponent m)

end Reckoner.Decimal
