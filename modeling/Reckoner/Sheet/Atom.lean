import Reckoner.Form.Value
import Reckoner.Operator

set_option autoImplicit false

namespace Reckoner

inductive Atom where
  | value (v : Form.Value)
  | operator (o : Operator)
  | ranked (o : Operator)
  | fieldNames (names : List String)

namespace Atom

def null : Atom := .value .null

def kindName : Atom → String
  | value .null => "NoneType"
  | value (.bool _) => "bool"
  | value (.int _) => "int"
  | value (.float _) => "float"
  | value (.text _) => "str"
  | value (.list _) => "list"
  | value (.record _) => "dict"
  | operator _ => "BinaryOperator"
  | ranked _ => "tuple"
  | fieldNames _ => "set"

def shown : Atom → String
  | value v => v.shown
  | operator o => o.shown
  | ranked o => o.rankedText
  | fieldNames names => "\x7b" ++ ", ".intercalate (names.map Text.quoted) ++ "\x7d"

def text : Atom → String
  | value (.text s) => s
  | operator o => o.text
  | a => a.shown

def equal : Atom → Atom → Bool
  | value v, value w => v.equal w
  | operator o, operator p => o == p
  | ranked o, ranked p => o == p
  | fieldNames names, fieldNames names' => names == names'
  | _, _ => false

def isSmall (n : Int) : Bool := -5 ≤ n && n ≤ 256

def isShort (s : String) : Bool := s.length ≤ 1 && s.toList.all (·.toNat < 256)

-- Whether two given atoms are one and the same. Operators, truth values and
-- nothing exist once, and so do small numbers, short texts and the floats
-- that are not finite; all else may be equal but is never the same.
def isSame : Atom → Atom → Bool
  | value .null, value .null => true
  | value (.bool a), value (.bool b) => a == b
  | value (.int m), value (.int n) => m == n && isSmall m
  | value (.text s), value (.text t) => s == t && isShort s
  | value (.float .nan), value (.float .nan) => true
  | value (.float (.infinite a)), value (.float (.infinite b)) => a == b
  | operator o, operator p => o == p
  | _, _ => false

end Atom

end Reckoner
