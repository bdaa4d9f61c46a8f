import Reckoner.Calculation
import Reckoner.Form.Field

set_option autoImplicit false

namespace Reckoner

structure Request where
  expression : String
  lineNumber : Nat
deriving DecidableEq

inductive Outcome where
  | result (text : String)
  | failure (message : String)
deriving DecidableEq

structure Entry where
  expression : String
  lineNumber : Nat
  outcome : Outcome
deriving DecidableEq

namespace Request

def checkExpression (v : Form.Value) : Form.Checked String :=
  match Form.checkText v with
  | .error ps => .error ps
  | .ok text =>
    if Text.allBlank text.toList then .fail (.brokenRule "Expression cannot be empty") else .ok text

def ofForm (form : Form.Value) : Form.Checked Request :=
  match (Form.required form "expression" checkExpression).both
      (Form.withDefault form "line_number" 1 Form.checkPositive) with
  | .ok (expression, lineNumber) => .ok ⟨expression, lineNumber⟩
  | .error ps => .error ps

def ofLine (expression : String) (lineNumber : Nat) : Form.Checked Request :=
  ofForm (.record [("expression", .text expression), ("line_number", .int lineNumber)])

end Request

namespace Outcome

def succeeded : Outcome → Bool
  | result _ => true
  | failure _ => false

def result? : Outcome → Option String
  | result text => some text
  | failure _ => none

def failure? : Outcome → Option String
  | result _ => none
  | failure message => some message

end Outcome

namespace Entry

def outcomeOf : Option String → Option String → Form.Checked Outcome
  | some text, none => .ok (.result text)
  | none, some message => .ok (.failure message)
  | _, _ => .fail (.brokenRule "Exactly one of 'result' and 'error' must be set")

def ofForm (form : Form.Value) : Form.Checked Entry :=
  let optional (name : String) := Form.withDefault form name none (Form.orNull Form.checkText)
  match ((Form.required form "expression" Form.checkText).both
      (Form.withDefault form "line_number" 1 Form.checkPositive)).both
      ((optional "result").both (optional "error")) with
  | .error ps => .error ps
  | .ok ((expression, lineNumber), (result, error)) =>
    match outcomeOf result error with
    | .ok outcome => .ok ⟨expression, lineNumber, outcome⟩
    | .error ps => .error ps

def line (e : Entry) : String :=
  match e.outcome with
  | .result text => e.expression ++ " = " ++ text
  | .failure message => e.expression ++ " -> ERROR: " ++ message

def record (e : Entry) : Log.Record :=
  match e.outcome with
  | .result text =>
    ⟨.info, "🧮✅ Line " ++ toString e.lineNumber ++ ": " ++ e.expression ++ " = " ++ text⟩
  | .failure message =>
    ⟨.error, "🧮❌ Line " ++ toString e.lineNumber ++ " failed: " ++ message
      ++ "\nInvalid arithmetic expression, could not evaluate: " ++ Text.quoted e.expression⟩

end Entry

def Request.answer (r : Request) : Except CalculationError Entry :=
  match calculate r.expression with
  | .ok text => .ok ⟨r.expression, r.lineNumber, .result text⟩
  | .error (.parse e) => .ok ⟨r.expression, r.lineNumber, .failure e.message⟩
  | .error e => .error e

end Reckoner
