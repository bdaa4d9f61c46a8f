import Reckoner.Form.Problem
import Reckoner.Numeral

set_option autoImplicit false

namespace Reckoner.Form

def splitSign : List Char → Bool × List Char
  | '-' :: rest => (true, rest)
  | '+' :: '-' :: rest => (false, '+' :: '-' :: rest)
  | '+' :: rest => (false, rest)
  | cs => (false, cs)

def dropZeroFraction (cs : List Char) : List Char :=
  match cs.dropWhile (· != '.') with
  | '.' :: rest => if rest ≠ [] ∧ rest.all (· == '0') then cs.takeWhile (· != '.') else cs
  | _ => cs

-- The text from the first digit that counts on, or from a minus sign that
-- stands there. Zeros in front may be grouped by low lines in any way; what
-- stands last before a point or the end stays.
def dropLeadingZeros (cs : List Char) : List Char :=
  if cs.head? ≠ some '0' then cs
  else
    let zeros := cs.takeWhile fun c => c == '0' || c == '_'
    match cs.drop zeros.length with
    | [] => zeros.drop (zeros.length - 1)
    | '.' :: rest => zeros.drop (zeros.length - 1) ++ '.' :: rest
    | rest => rest

def dropLowLines (cs : List Char) : List Char :=
  let doubled := (cs.zip cs.tail).any (· == ('_', '_'))
  if cs.head? = some '_' ∨ cs.getLast? = some '_' ∨ doubled then cs
  else cs.filter (· != '_')

def integerTextLimit : Nat := 4300

def readInteger (cs : List Char) : Checked Int :=
  let (negative, digits) := match cs with
    | '-' :: digits => (true, digits)
    | digits => (false, digits)
  let read := digits.takeWhile Char.isDigit
  if read.head? = some '0' ∧ read ≠ ['0'] then .fail .unreadableInteger
  else if integerTextLimit < read.length then .fail .oversizedInteger
  else if read = [] ∨ read ≠ digits then .fail .unreadableInteger
  else .ok (Numeral.signed negative (Numeral.digitsValue read))

def integerOfText (text : String) : Checked Int :=
  let (negative, rest) := splitSign (Numeral.trim text.toList)
  let digits := dropLowLines (dropZeroFraction (dropLeadingZeros rest))
  readInteger (if negative then '-' :: digits else digits)

def integerBound : Nat := Nat.pow 2 63

def integerOfDouble (x : Double) : Checked Int :=
  match x, Value.wholeNumber? x with
  | _, some n => if n.natAbs < integerBound then .ok n else .fail .oversizedInteger
  | .finite _ _, none => .fail .fractionalInteger
  | _, none => .fail .unboundedInteger

def checkInteger : Value → Checked Int
  | .bool b => .ok (if b then 1 else 0)
  | .int n => .ok n
  | .float x => integerOfDouble x
  | .text s => integerOfText s
  | _ => .fail .notInteger

def checkPositive (v : Value) : Checked Nat :=
  match checkInteger v with
  | .ok n => if 1 ≤ n then .ok n.toNat else .fail .belowOne
  | .error ps => .error ps

end Reckoner.Form
