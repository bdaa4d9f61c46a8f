import Reckoner.Double.Arithmetic

set_option autoImplicit false

namespace Reckoner

inductive Operator where
  | plus
  | minus
  | times
  | dividedBy
deriving DecidableEq

namespace Operator

def all : List Operator := [plus, minus, times, dividedBy]

def name : Operator → String
  | plus => "PLUS"
  | minus => "MINUS"
  | times => "TIMES"
  | dividedBy => "DIVIDED_BY"

def symbol : Operator → Char
  | plus => '+'
  | minus => '-'
  | times => '*'
  | dividedBy => '/'

def text (o : Operator) : String := String.singleton o.symbol

def rank : Operator → Nat
  | plus => 100
  | minus => 100
  | times => 200
  | dividedBy => 200

def rankedText (o : Operator) : String := "('" ++ o.text ++ "', " ++ toString o.rank ++ ")"

def shown (o : Operator) : String := "<BinaryOperator." ++ o.name ++ ": " ++ o.rankedText ++ ">"

def ofSymbol? (c : Char) : Option Operator := all.find? (·.symbol == c)

def ofText? (text : String) : Option Operator := all.find? (·.text == text)

def apply : Operator → Double → Double → Double
  | plus => Double.add
  | minus => Double.sub
  | times => Double.mul
  | dividedBy => Double.div

end Operator

end Reckoner
