import Reckoner.Expr.Simplify
import Reckoner.Form.Field

set_option autoImplicit false

namespace Reckoner.Form

def checkLiteral (form : Value) : Checked String := required form "text" checkFilledText

def operatorProblems (fields : List (String × Value)) : List Problem :=
  match fields.lookup "operator" with
  | none => [⟨["operator"], .missing⟩]
  | some _ => [⟨["operator"], .notOperator⟩]

def sideProblems (fields : List (String × Value)) (nested : List (String × List Problem)) :
    List Problem × List Problem :=
  let left := match nested.lookup "left" with
    | none => [⟨["left"], .missing⟩]
    | some ps => ps.map (·.under "left")
  let right := match fields.lookup "right", nested.lookup "right" with
    | some .null, _ => []
    | _, some ps => ps.map (·.under "right")
    | _, none => []
  (left, right)

def notExpression : List Problem :=
  [⟨[Shape.literal.name], .notExpression .literal⟩, ⟨[Shape.node.name], .notExpression .node⟩]

mutual

def expressionProblems : Value → List Problem
  | .record fields =>
    match (checkLiteral (.record fields)).problems with
    | [] => []
    | literal =>
      let (left, right) := sideProblems fields (fieldProblems fields)
      literal.map (·.under Shape.literal.name)
        ++ (left ++ operatorProblems fields ++ right).map (·.under Shape.node.name)
  | _ => notExpression

def fieldProblems : List (String × Value) → List (String × List Problem)
  | [] => []
  | (key, v) :: rest => (key, expressionProblems v) :: fieldProblems rest

end

def checkExpression (v : Value) : Checked String :=
  match expressionProblems v with
  | [] => checkLiteral v
  | ps => .error ps

end Reckoner.Form
