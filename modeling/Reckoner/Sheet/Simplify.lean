import Reckoner.Sheet.Field

set_option autoImplicit false

namespace Reckoner.Sheet

def simplify (s : Sheet) (i : Nat) : Except SubjectError (Nat × Sheet) :=
  match (s.subject i).simplify with
  | .error e => .error e
  | .ok operand => .ok (if operand.unchanged then (i, s) else s.addExpr operand.expr)

inductive NewSide where
  | same
  | draft (d : Draft)

inductive CombineError where
  | draft (e : DraftError)
  | simplify (e : SimplifyError)
  | field (e : FieldError)

def buildSide (s : Sheet) (i : Nat) (field : String) : NewSide → Except CombineError (Nat × Sheet)
  | .draft d =>
    match s.build d with
    | .ok result => .ok result
    | .error e => .error (.draft e)
  | .same =>
    match s.part i field with
    | .ok result => .ok result
    | .error e => .error (.field e)

def isOwnRight (s : Sheet) (own : Option Nat) (i : Nat) : Bool :=
  match own with
  | some j => i == j
  | none =>
    match s.cells[i]? with
    | some (.atom (.value .null)) => true
    | _ => false

def combineNode (s : Sheet) (i left : Nat) (o : Operator) (right : Option Nat)
    (newLeft newRight : Nat) : Except CombineError (Nat × Sheet) :=
  let ownLeft := newLeft == left
  let ownRight := s.isOwnRight right newRight
  match (s.subject newLeft).tree?, (s.subject newRight).tree?, (s.subject i).tree? with
  | some l, some r, some node =>
    match node.combine o ⟨l, ownLeft⟩ ⟨r, ownRight⟩ with
    | .error e => .error (.simplify e)
    | .ok operand => .ok (if operand.unchanged then (i, s) else s.addExpr operand.expr)
  | _, _, _ =>
    if ownLeft && ownRight then .ok (i, s)
    else match s.addNode newLeft (some o) newRight with
      | .ok result => .ok result
      | .error ps => .error (.draft (.invalid ps))

def isLiteral (s : Sheet) (i : Nat) : Bool :=
  match s.cells[i]? with
  | some (.literal _) => true
  | _ => false

def combine (s : Sheet) (i newLeft newRight : Nat) : Except CombineError (Nat × Sheet) :=
  match s.cells[i]? with
  | some (.node left o right) => s.combineNode i left o right newLeft newRight
  | _ =>
    let missed := if s.isLiteral newLeft && s.isLiteral newRight then "operator" else "left"
    match s.part i missed with
    | .error e => .error (.field e)
    | .ok result => .ok result

def recombine (s : Sheet) (node : Draft) (newLeft newRight : NewSide) :
    Except CombineError (Nat × Nat × Sheet) :=
  match s.build node with
  | .error e => .error (.draft e)
  | .ok (i, s) =>
    match s.buildSide i "left" newLeft with
    | .error e => .error e
    | .ok (l, s) =>
      match s.buildSide i "right" newRight with
      | .error e => .error e
      | .ok (r, s) =>
        match s.combine i l r with
        | .error e => .error e
        | .ok (result, s) => .ok (i, result, s)

end Reckoner.Sheet
