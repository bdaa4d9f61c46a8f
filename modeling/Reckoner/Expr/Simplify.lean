import Reckoner.Expr.Basic
import Reckoner.Numeral
import Reckoner.Text.Quoted

set_option autoImplicit false

namespace Reckoner

inductive SimplifyError where
  | incomplete (text : String)
  | notNumeral (text : String)
  -- A join found no two operands. No tree leads there.
  | missingOperands
deriving DecidableEq

def notNumeralMessage (text : String) : String :=
  "could not convert string to float: " ++ Text.quoted text

def SimplifyError.message : SimplifyError → String
  | incomplete text => "Cannot simplify incomplete expression: " ++ text
  | notNumeral text => notNumeralMessage text
  | missingOperands => "pop from empty list"

def literalValue (text : String) : Except SimplifyError Double :=
  match Numeral.read? text with
  | some x => .ok x
  | none => .error (.notNumeral text)

namespace Expr

def ofDouble (x : Double) : Expr := .literal x.text

def value : Expr → Except SimplifyError Double
  | literal text => literalValue text
  | incomplete left o => .error (.incomplete (incomplete left o).text)
  | binary left o right =>
    match left.value with
    | .error e => .error e
    | .ok x =>
      match right.value with
      | .error e => .error e
      | .ok y => .ok (o.apply x y)

structure Operand where
  expr : Expr
  unchanged : Bool
deriving DecidableEq

def simplifyLiteral (text : String) : Except SimplifyError Operand :=
  match literalValue text with
  | .error e => .error e
  | .ok x => .ok (if x.text = text then ⟨.literal text, true⟩ else ⟨ofDouble x, false⟩)

def combine (node : Expr) (o : Operator) (left right : Operand) : Except SimplifyError Operand :=
  match left.expr, right.expr with
  | literal l, literal r =>
    match literalValue l with
    | .error e => .error e
    | .ok x =>
      match literalValue r with
      | .error e => .error e
      | .ok y => .ok ⟨ofDouble (o.apply x y), false⟩
  | l, r => .ok (if left.unchanged && right.unchanged then ⟨node, true⟩ else ⟨.binary l o r, false⟩)

-- The walk keeps every operand as the text of a number in its shortest form,
-- so that each partial result is written and read again; the value is the
-- same computation on doubles alone, by recursion on the tree.
inductive Task where
  | visit (e : Expr)
  | join (left : Expr) (o : Operator) (right : Expr)

def Task.weight : Task → Nat
  | visit e => 2 * e.size
  | join _ _ _ => 1

def workload : List Task → Nat
  | [] => 0
  | task :: rest => task.weight + workload rest

def runTasks : List Task → List Operand → Except SimplifyError (List Operand)
  | [], operands => .ok operands
  | .visit (literal text) :: tasks, operands =>
    match simplifyLiteral text with
    | .error e => .error e
    | .ok operand => runTasks tasks (operand :: operands)
  | .visit (incomplete left o) :: _, _ => .error (.incomplete (incomplete left o).render)
  | .visit (binary left o right) :: tasks, operands =>
    runTasks (.visit left :: .visit right :: .join left o right :: tasks) operands
  | .join left o right :: tasks, r :: l :: operands =>
    match combine (.binary left o right) o l r with
    | .error e => .error e
    | .ok operand => runTasks tasks (operand :: operands)
  | .join _ _ _ :: _, _ => .error .missingOperands
termination_by tasks => workload tasks
decreasing_by
  all_goals simp [workload, Task.weight, size]
  all_goals omega

def simplifyOperand (e : Expr) : Except SimplifyError Operand :=
  match runTasks [.visit e] [] with
  | .error error => .error error
  | .ok (operand :: _) => .ok operand
  | .ok [] => .error .missingOperands

def simplify (e : Expr) : Except SimplifyError Expr :=
  match e.simplifyOperand with
  | .error error => .error error
  | .ok operand => .ok operand.expr

end Expr

end Reckoner
