import Reckoner.Decimal.Layout
import Reckoner.Text.Blank
import Reckoner.Text.DecimalDigit

set_option autoImplicit false

namespace Reckoner.Numeral


-- The blanks that may surround a numeral: all but the four information
-- separators.
def isMargin (c : Char) : Bool := Text.isBlank c && !(0x1c ≤ c.toNat && c.toNat ≤ 0x1f)

def trim (cs : List Char) : List Char :=
  ((cs.dropWhile isMargin).reverse.dropWhile isMargin).reverse

def groupsFit (before : Char) : List Char → Bool
  | [] => before != '_'
  | c :: rest =>
    (c != '_' || before.isDigit) && (before != '_' || c.isDigit) && groupsFit c rest

def joinGroups (cs : List Char) : Option (List Char) :=
  if groupsFit ' ' cs then some (cs.filter (· != '_')) else none

def digitsValue (digits : List Char) : Nat := Nat.ofDigitChars 10 digits 0

def takeSign : List Char → Bool × List Char
  | '-' :: rest => (true, rest)
  | '+' :: rest => (false, rest)
  | rest => (false, rest)

def signed (negative : Bool) (n : Nat) : Int := if negative then -n else n

def exponent? : List Char → Option Int
  | [] => some 0
  | mark :: rest =>
    let (negative, digits) := takeSign rest
    if (mark = 'e' ∨ mark = 'E') ∧ digits ≠ [] ∧ digits.all Char.isDigit then
      some (signed negative (digitsValue digits))
    else none

def takeFraction : List Char → List Char × List Char
  | '.' :: rest => (rest.takeWhile Char.isDigit, rest.dropWhile Char.isDigit)
  | rest => ([], rest)

def decimal? (cs : List Char) : Option Decimal :=
  let whole := cs.takeWhile Char.isDigit
  let (fraction, rest) := takeFraction (cs.dropWhile Char.isDigit)
  if whole = [] ∧ fraction = [] then none
  else (exponent? rest).map fun exponent =>
    ⟨digitsValue (whole ++ fraction), exponent - fraction.length⟩

def unsigned? (negative : Bool) (cs : List Char) : Option Double :=
  match String.ofList (cs.map Char.toLower) with
  | "inf" => some (.infinite negative)
  | "infinity" => some (.infinite negative)
  | "nan" => some .nan
  | _ => (decimal? cs).map (·.toDouble negative)

def read? (text : String) : Option Double :=
  (joinGroups (trim (text.toList.map Text.plainDigit))).bind fun cs =>
    let (negative, rest) := takeSign cs
    unsigned? negative rest

end Reckoner.Numeral
