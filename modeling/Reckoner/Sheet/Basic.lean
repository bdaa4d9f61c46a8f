import Reckoner.Expr.Equality
import Reckoner.Expr.Parser
import Reckoner.Form.Expression
import Reckoner.Sheet.Atom

set_option autoImplicit false

namespace Reckoner

-- Cells refer to one another, so that a part of one expression can be a part
-- of another one, and a change to it is seen in both. Two cells are different
-- things even if they hold the same; an atom that exists once has one cell.
inductive Cell where
  | literal (text : String)
  | node (left : Nat) (operator : Operator) (right : Option Nat)
  | atom (a : Atom)

structure Sheet where
  cells : Array Cell
  names : List (String × Nat)
  notes : List ((Nat × String) × Nat)

inductive Subject where
  | tree (e : Expr)
  | atom (a : Atom)

inductive SubjectError where
  | notExpression (a : Atom)
  | simplify (e : SimplifyError)

def SubjectError.message : SubjectError → String
  | notExpression a => "Not an expression: " ++ a.shown
  | simplify e => e.message

namespace Subject

def tree? : Subject → Option Expr
  | tree e => some e
  | atom _ => none

def text : Subject → String
  | tree e => e.render
  | atom a => a.text

def render : Subject → Except SubjectError String
  | tree e => .ok e.render
  | atom (.value (.text s)) => .ok s
  | atom a => .error (.notExpression a)

def simplify : Subject → Except SubjectError Expr.Operand
  | tree e =>
    match e.simplifyOperand with
    | .ok operand => .ok operand
    | .error error => .error (.simplify error)
  | atom a => .error (.notExpression a)

def equal : Subject → Subject → Except SimplifyError Bool
  | tree a, tree b => a.equal b
  | atom a, atom b => .ok (a.equal b)
  | _, _ => .ok false

end Subject

namespace Sheet

def empty : Sheet := ⟨#[], [], []⟩

def add (s : Sheet) (cell : Cell) : Nat × Sheet :=
  (s.cells.size, { s with cells := s.cells.push cell })

def replace (s : Sheet) (i : Nat) (cell : Cell) : Sheet :=
  { s with cells := s.cells.setIfInBounds i cell }

def addAtom (s : Sheet) (a : Atom) : Nat × Sheet :=
  let here := s.cells.findIdx? fun cell => match cell with
    | .atom b => b.isSame a
    | _ => false
  match here with
  | some i => (i, s)
  | none => s.add (.atom a)

def note? (s : Sheet) (i : Nat) (name : String) : Option Nat := s.notes.lookup (i, name)

def setNote (s : Sheet) (i : Nat) (name : String) (j : Nat) : Sheet :=
  { s with notes := ((i, name), j) :: s.notes.filter (·.1 != (i, name)) }

def exprFrom (s : Sheet) : (fuel : Nat) → Nat → Option Expr
  | 0, _ => none
  | fuel + 1, i =>
    match s.cells[i]? with
    | some (.literal text) => some (.literal text)
    | some (.node left o none) => (s.exprFrom fuel left).map (.incomplete · o)
    | some (.node left o (some right)) =>
      (s.exprFrom fuel left).bind fun l => (s.exprFrom fuel right).map fun r => .binary l o r
    | _ => none

def expr? (s : Sheet) (i : Nat) : Option Expr := s.exprFrom (s.cells.size + 1) i

def subject (s : Sheet) (i : Nat) : Subject :=
  match s.cells[i]? with
  | some (.atom a) => .atom a
  | _ =>
    match s.expr? i with
    | some e => .tree e
    | none => .atom .null

def addExpr (s : Sheet) : Expr → Nat × Sheet
  | .literal text => s.add (.literal text)
  | .incomplete left o =>
    let (l, s) := s.addExpr left
    s.add (.node l o none)
  | .binary left o right =>
    let (l, s) := s.addExpr left
    let (r, s) := s.addExpr right
    s.add (.node l o (some r))

def name (s : Sheet) (name : String) (i : Nat) : Sheet :=
  { s with names := (name, i) :: s.names.filter (·.1 != name) }

def named? (s : Sheet) (name : String) : Option Nat := s.names.lookup name

def checkSide (s : Sheet) (i : Nat) : Form.Checked (Nat × Sheet) :=
  match s.cells[i]? with
  | some (.atom (.value v)) =>
    match Form.checkExpression v with
    | .ok text => .ok (s.add (.literal text))
    | .error ps => .error ps
  | some (.atom _) => .error Form.notExpression
  | _ => .ok (i, s)

def checkRight (s : Sheet) (i : Nat) : Form.Checked (Option Nat × Sheet) :=
  match s.cells[i]? with
  | some (.atom (.value .null)) => .ok (none, s)
  | _ =>
    match s.checkSide i with
    | .ok (i, s) => .ok (some i, s)
    | .error ps => .error ps

def checkOperator (s : Sheet) (i : Nat) : Form.Checked Operator :=
  match s.cells[i]? with
  | some (.atom (.operator o)) => .ok o
  | some (.atom (.ranked o)) => .ok o
  | _ => .fail .notOperator

def addNode (s : Sheet) (left : Nat) (o : Option Operator) (right : Nat) :
    Form.Checked (Nat × Sheet) :=
  let l := (s.checkSide left).under "left"
  let operator : Form.Checked Operator := match o with
    | some o => .ok o
    | none => Form.Checked.under "operator" (.fail .notOperator)
  let after := match l with
    | .ok (_, s) => s
    | .error _ => s
  match (l.both operator).both ((after.checkRight right).under "right") with
  | .ok (((l, _), o), (r, s)) => .ok (s.add (.node l o r))
  | .error ps => .error ps

end Sheet

end Reckoner
