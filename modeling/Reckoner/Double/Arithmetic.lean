import Reckoner.Double.Basic

set_option autoImplicit false

namespace Reckoner

def nearest (num den : Nat) : Nat :=
  let below := num / den
  let twice := 2 * (num % den)
  if twice < den then below
  else if den < twice then below + 1
  else below + below % 2

namespace Double

def round (negative : Bool) (num den : Nat) : Double :=
  let shift := Nat.log2 (num / den) - 52
  ofIndex negative (shift * Nat.pow 2 52 + nearest num (den * Nat.pow 2 shift))

def neg : Double → Double
  | .nan => .nan
  | .infinite negative => .infinite (!negative)
  | .finite negative m => .finite (!negative) m

def addFinite (s : Bool) (m : Magnitude) (t : Bool) (n : Magnitude) : Double :=
  if s = t then round s (m.units + n.units) 1
  else if m.units = n.units then zero false
  else if n.units < m.units then round s (m.units - n.units) 1
  else round t (n.units - m.units) 1

def add : Double → Double → Double
  | .nan, _ => .nan
  | _, .nan => .nan
  | .infinite s, .infinite t => if s = t then .infinite s else .nan
  | .infinite s, .finite _ _ => .infinite s
  | .finite _ _, .infinite t => .infinite t
  | .finite s m, .finite t n => addFinite s m t n

def sub (a b : Double) : Double := add a (neg b)

def mul : Double → Double → Double
  | .nan, _ => .nan
  | _, .nan => .nan
  | .infinite s, .infinite t => .infinite (xor s t)
  | .infinite s, .finite t n => if n.units = 0 then .nan else .infinite (xor s t)
  | .finite s m, .infinite t => if m.units = 0 then .nan else .infinite (xor s t)
  | .finite s m, .finite t n => round (xor s t) (m.units * n.units) (Nat.pow 2 1074)

def divFinite (s : Bool) (m : Magnitude) (t : Bool) (n : Magnitude) : Double :=
  if n.units = 0 then
    if m.units = 0 then .nan else .infinite (xor s t)
  else round (xor s t) (m.units * Nat.pow 2 1074) n.units

def div : Double → Double → Double
  | .nan, _ => .nan
  | _, .nan => .nan
  | .infinite _, .infinite _ => .nan
  | .infinite s, .finite t _ => .infinite (xor s t)
  | .finite s _, .infinite t => zero (xor s t)
  | .finite s m, .finite t n => divFinite s m t n

def eq : Double → Double → Bool
  | .infinite s, .infinite t => s == t
  | .finite s m, .finite t n => m.index == n.index && (s == t || m.index == 0)
  | _, _ => false

end Double

end Reckoner
