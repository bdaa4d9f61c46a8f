import Reckoner.Operator

set_option autoImplicit false

namespace Reckoner

inductive Expr where
  | literal (text : String)
  | binary (left : Expr) (operator : Operator) (right : Expr)
  | incomplete (left : Expr) (operator : Operator)
deriving DecidableEq

namespace Expr

def text : Expr → String
  | literal text => text
  | binary left o right => left.text ++ o.text ++ right.text
  | incomplete left o => left.text ++ o.text

def isComplete : Expr → Bool
  | literal _ => true
  | binary left _ right => left.isComplete && right.isComplete
  | incomplete _ _ => false

def size : Expr → Nat
  | literal _ => 1
  | binary left _ right => left.size + right.size + 1
  | incomplete left _ => left.size + 1

inductive Pending where
  | tree (e : Expr)
  | symbol (o : Operator)

def Pending.weight : Pending → Nat
  | tree e => 2 * e.size
  | symbol _ => 1

def weight : List Pending → Nat
  | [] => 0
  | pending :: rest => pending.weight + weight rest

def writePending : List Pending → String → String
  | [], written => written
  | .symbol o :: rest, written => writePending rest (written.push o.symbol)
  | .tree (literal text) :: rest, written => writePending rest (written ++ text)
  | .tree (binary left o right) :: rest, written =>
    writePending (.tree left :: .symbol o :: .tree right :: rest) written
  | .tree (incomplete left o) :: rest, written =>
    writePending (.tree left :: .symbol o :: rest) written
termination_by pending => weight pending
decreasing_by
  all_goals simp [weight, Pending.weight, size]
  all_goals omega

def render (e : Expr) : String := writePending [.tree e] ""

inductive Postfix where
  | operand (text : String)
  | operation (o : Operator)
  | dangling (o : Operator)
deriving DecidableEq

def postfixOnto : Expr → List Postfix → List Postfix
  | literal text, rest => .operand text :: rest
  | binary left o right, rest =>
    left.postfixOnto (right.postfixOnto (.operation o :: rest))
  | incomplete left o, rest => left.postfixOnto (.dangling o :: rest)

end Expr

end Reckoner
