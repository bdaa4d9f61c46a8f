import Reckoner.Cursor
import Reckoner.Expr.Basic
import Reckoner.Text.Blank

set_option autoImplicit false

namespace Reckoner

-- A new operator first completes every waiting node that binds at least as
-- tightly, so that operators of equal rank group to the left and the ranks on
-- the stack increase to the top.
structure Waiting where
  left : Expr
  operator : Operator
deriving DecidableEq

namespace Waiting

def complete (w : Waiting) (right : Expr) : Expr := .binary w.left w.operator right

def expr (w : Waiting) : Expr := .incomplete w.left w.operator

end Waiting

namespace Parser

structure State where
  cursor : Cursor
  operand : Option Expr
  stack : List Waiting

def start (text : List Char) : State := ⟨Cursor.start text, none, []⟩

def fold (rank : Nat) : List Waiting → Expr → Expr × List Waiting
  | [], operand => (operand, [])
  | w :: stack, operand =>
    if rank ≤ w.operator.rank then fold rank stack (w.complete operand) else (operand, w :: stack)

def failAt {α : Type} (cause : ParseError.Cause) (position : Nat) : Except ParseError α :=
  .error ⟨cause, some position⟩

def stepNumber (s : State) : Except ParseError State :=
  match s.cursor.readNumber with
  | (.error e, _) => .error e
  | (.ok literal, cursor) =>
    match s.operand with
    | some _ => failAt (.unexpectedNumber literal) s.cursor.position
    | none => .ok { s with cursor := cursor, operand := some (.literal literal) }

def stepOperator (s : State) (o : Operator) : Except ParseError State :=
  match s.operand with
  | none => failAt (.unexpectedOperator o.text) s.cursor.position
  | some operand =>
    let (left, stack) := fold o.rank s.stack operand
    .ok ⟨s.cursor.next, none, ⟨left, o⟩ :: stack⟩

def step (s : State) (c : Char) : Except ParseError State :=
  if startsNumber c then stepNumber s
  else match Operator.ofSymbol? c with
    | some o => stepOperator s o
    | none =>
      if Text.isBlank c then .ok { s with cursor := s.cursor.next }
      else failAt (.unrecognizedCharacter (String.singleton c)) s.cursor.position

def scan : (turns : Nat) → State → Except ParseError State
  | 0, s => .ok s
  | turns + 1, s =>
    match s.cursor.current? with
    | none => .ok s
    | some c =>
      match step s c with
      | .error e => .error e
      | .ok s' => scan turns s'

def finish : List Waiting → Option Expr → Except ParseError Expr
  | [], some operand => .ok operand
  | [], none => .error ⟨.emptyInput, none⟩
  | w :: _, none => .error ⟨.missingOperand w.expr.render, none⟩
  | w :: stack, some operand => finish stack (some (w.complete operand))

end Parser

def parseChars (cs : List Char) : Except ParseError Expr :=
  if Text.allBlank cs then .error ⟨.emptyInput, none⟩
  else match Parser.scan cs.length (Parser.start cs) with
    | .error e => .error e
    | .ok s => Parser.finish s.stack s.operand

def parse (text : String) : Except ParseError Expr := parseChars text.toList

end Reckoner
