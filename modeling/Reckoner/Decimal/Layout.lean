import Reckoner.Decimal.Shortest

set_option autoImplicit false

namespace Reckoner

structure Layout where
  positionalFrom : Int
  positionalUpTo : Int
  exponentWidth : Nat
  wholeEnding : String
  nan : String
  infinity : String

def Layout.result : Layout where
  positionalFrom := -4
  positionalUpTo := 16
  exponentWidth := 2
  wholeEnding := ""
  nan := "NaN"
  infinity := "Infinity"

namespace Decimal

def zeros (count : Nat) : List Char := List.replicate count '0'

def positional (ending : String) (digits : List Char) (point : Int) : List Char :=
  if point ≤ 0 then '0' :: '.' :: (zeros (-point).toNat ++ digits)
  else if digits.length ≤ point.toNat then
    digits ++ zeros (point.toNat - digits.length) ++ ending.toList
  else digits.take point.toNat ++ '.' :: digits.drop point.toNat

def writeExponent (width : Nat) (exponent : Int) : List Char :=
  let digits := Nat.toDigits 10 exponent.natAbs
  (if exponent < 0 then '-' else '+') :: (zeros (width - digits.length) ++ digits)

def scientific (width : Nat) (digits : List Char) (exponent : Int) : List Char :=
  let fraction := match digits.drop 1 with
    | [] => []
    | more => '.' :: more
  digits.take 1 ++ fraction ++ 'e' :: writeExponent width exponent

def write (layout : Layout) (d : Decimal) : List Char :=
  let digits := Nat.toDigits 10 d.coefficient
  let point : Int := digits.length + d.exponent
  if layout.positionalFrom < point ∧ point ≤ layout.positionalUpTo then
    positional layout.wholeEnding digits point
  else scientific layout.exponentWidth digits (point - 1)

end Decimal

namespace Double

def signText (negative : Bool) : String := if negative then "-" else ""

def write (layout : Layout) : Double → String
  | .nan => layout.nan
  | .infinite negative => signText negative ++ layout.infinity
  | .finite negative m =>
    signText negative ++ String.ofList ((Decimal.shortest m).write layout)

def text (x : Double) : String := x.write Layout.result

end Double

end Reckoner
