import Reckoner.Expr.Parser
import Reckoner.Expr.Simplify
import Reckoner.Log

set_option autoImplicit false

namespace Reckoner

inductive CalculationError where
  | parse (e : ParseError)
  | simplify (e : SimplifyError)
  | notNumber (text : String)
deriving DecidableEq

def CalculationError.message : CalculationError → String
  | parse e => e.message
  | simplify e => e.message
  | notNumber text => "Expression does not reduce to a number: " ++ text

def reduceText (text : String) : Except CalculationError Expr :=
  match parse text with
  | .error e => .error (.parse e)
  | .ok tree =>
    match tree.simplify with
    | .error e => .error (.simplify e)
    | .ok result => .ok result

def evaluate (text : String) : Except CalculationError Double :=
  match reduceText text with
  | .error e => .error e
  | .ok (.literal result) =>
    match literalValue result with
    | .error e => .error (.simplify e)
    | .ok x => .ok x
  | .ok tree => .error (.notNumber tree.render)

def calculate (text : String) : Except CalculationError String :=
  match reduceText text with
  | .error e => .error e
  | .ok tree => .ok tree.render

structure Calculation where
  output : String
  records : List Log.Record
  failure : Option CalculationError
deriving DecidableEq

def Calculation.run (text : String) : Calculation :=
  let given : Log.Record := ⟨.debug, "Expression string: " ++ Text.quoted text⟩
  match parse text with
  | .error e => ⟨"", [given], some (.parse e)⟩
  | .ok tree =>
    let records := [given, ⟨.debug, "Parsed expression: " ++ Text.quoted tree.render⟩]
    match tree.simplify with
    | .error e => ⟨"", records, some (.simplify e)⟩
    | .ok result => ⟨result.render ++ "\n", records, none⟩

end Reckoner
