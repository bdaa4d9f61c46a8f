set_option autoImplicit false

namespace Reckoner

-- Magnitudes are numbered in increasing order; the number of a magnitude is
-- the word of its exponent and fraction bits. Units count the least positive
-- magnitude, two to the minus 1074. Powers are written with Nat.pow, which
-- means the same whatever else is imported.
structure Magnitude where
  index : Nat
  bounded : index < 2047 * Nat.pow 2 52
deriving DecidableEq

namespace Magnitude

def shift (m : Magnitude) : Nat := m.index / Nat.pow 2 52 - 1

def significand (m : Magnitude) : Nat := m.index - m.shift * Nat.pow 2 52

def units (m : Magnitude) : Nat := m.significand * Nat.pow 2 m.shift

def zero : Magnitude := ⟨0, by decide⟩

end Magnitude

inductive Double where
  | nan
  | infinite (negative : Bool)
  | finite (negative : Bool) (magnitude : Magnitude)
deriving DecidableEq

namespace Double

def ofIndex (negative : Bool) (index : Nat) : Double :=
  if bounded : index < 2047 * Nat.pow 2 52 then .finite negative ⟨index, bounded⟩ else .infinite negative

def zero (negative : Bool) : Double := .finite negative Magnitude.zero

def ofBits (word : Nat) : Double :=
  let negative := word / Nat.pow 2 63 % 2 == 1
  let index := word % Nat.pow 2 63
  if index ≤ 2047 * Nat.pow 2 52 then ofIndex negative index else .nan

def signWord (negative : Bool) : Nat := if negative then Nat.pow 2 63 else 0

def toBits : Double → Nat
  | .nan => 2047 * Nat.pow 2 52 + Nat.pow 2 51
  | .infinite negative => signWord negative + 2047 * Nat.pow 2 52
  | .finite negative m => signWord negative + m.index

def isNan : Double → Bool
  | .nan => true
  | _ => false

def isNegative : Double → Bool
  | .nan => false
  | .infinite negative => negative
  | .finite negative _ => negative

def isZero : Double → Bool
  | .finite _ m => m.index == 0
  | _ => false

end Double

end Reckoner
