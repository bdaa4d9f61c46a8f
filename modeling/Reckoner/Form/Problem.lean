import Reckoner.Form.Value

set_option autoImplicit false

namespace Reckoner.Form

inductive Shape where
  | literal
  | node
deriving DecidableEq

def Shape.name : Shape → String
  | literal => "NumberLiteral"
  | node => "BinaryNode"

inductive Complaint where
  | missing
  | notText
  | emptyText
  | notInteger
  | unreadableInteger
  | fractionalInteger
  | oversizedInteger
  | unboundedInteger
  | belowOne
  | notFlag
  | unreadableFlag
  | notPath
  | notFile
  | brokenRule (rule : String)
  | notOperator
  | notExpression (shape : Shape)
  | frozen
  | unknownField (name : String)
deriving DecidableEq

def Complaint.message : Complaint → String
  | missing => "Field required"
  | notText => "Input should be a valid string"
  | emptyText => "String should have at least 1 character"
  | notInteger => "Input should be a valid integer"
  | unreadableInteger => "Input should be a valid integer, unable to parse string as an integer"
  | fractionalInteger => "Input should be a valid integer, got a number with a fractional part"
  | oversizedInteger => "Unable to parse input string as an integer, exceeded maximum size"
  | unboundedInteger => "Input should be a finite number"
  | belowOne => "Input should be greater than or equal to 1"
  | notFlag => "Input should be a valid boolean"
  | unreadableFlag => "Input should be a valid boolean, unable to interpret input"
  | notPath => "Input is not a valid path for <class 'pathlib.Path'>"
  | notFile => "Path does not point to a file"
  | brokenRule rule => "Value error, " ++ rule
  | notOperator => "Input should be ('+', 100), ('-', 100), ('*', 200) or ('/', 200)"
  | notExpression shape => "Input should be a valid dictionary or instance of " ++ shape.name
  | frozen => "Instance is frozen"
  | unknownField name => "Object has no attribute '" ++ name ++ "'"

structure Problem where
  location : List String
  complaint : Complaint
deriving DecidableEq

def Problem.under (step : String) (p : Problem) : Problem :=
  { p with location := step :: p.location }

abbrev Checked (α : Type) := Except (List Problem) α

namespace Checked

def fail {α : Type} (complaint : Complaint) : Checked α := .error [⟨[], complaint⟩]

def problems {α : Type} : Checked α → List Problem
  | .ok _ => []
  | .error ps => ps

def under {α : Type} (step : String) : Checked α → Checked α
  | .ok a => .ok a
  | .error ps => .error (ps.map (·.under step))

def both {α β : Type} (a : Checked α) (b : Checked β) : Checked (α × β) :=
  match a, b with
  | .ok x, .ok y => .ok (x, y)
  | a, b => .error (a.problems ++ b.problems)

end Checked

end Reckoner.Form
