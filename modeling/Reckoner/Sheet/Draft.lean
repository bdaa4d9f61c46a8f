import Reckoner.Sheet.Basic

set_option autoImplicit false

namespace Reckoner

inductive Draft where
  | number (text : Form.Value)
  | double (x : Double)
  | numeral (text : String)
  | parsed (text : String)
  | node (left : Draft) (operator : Option Operator) (right : Draft)
  | chain (first leaf : Form.Value) (operator : Option Operator) (leftwards : Bool) (count : Nat)
  | cell (name : String)
  | value (v : Form.Value)
deriving Inhabited

inductive DraftError where
  | invalid (problems : List Form.Problem)
  | parse (e : ParseError)
  | notNumeral (text : String)
  | unknownName (name : String)

namespace Sheet

def find (s : Sheet) (name : String) : Except DraftError Nat :=
  match s.named? name with
  | some i => .ok i
  | none => .error (.unknownName name)

def ofChecked {α : Type} : Form.Checked α → Except DraftError α
  | .ok a => .ok a
  | .error ps => .error (.invalid ps)

def addLiteral (s : Sheet) (text : Form.Value) : Except DraftError (Nat × Sheet) :=
  match (Form.checkFilledText text).under "text" with
  | .ok text => .ok (s.add (.literal text))
  | .error ps => .error (.invalid ps)

def addChain (s : Sheet) (i : Nat) (leaf : Form.Value) (o : Option Operator) (leftwards : Bool) :
    Nat → Except DraftError (Nat × Sheet)
  | 0 => .ok (i, s)
  | count + 1 =>
    match s.addLiteral leaf with
    | .error e => .error e
    | .ok (l, s) =>
      match if leftwards then s.addNode i o l else s.addNode l o i with
      | .error ps => .error (.invalid ps)
      | .ok (i, s) => s.addChain i leaf o leftwards count

def build (s : Sheet) : Draft → Except DraftError (Nat × Sheet)
  | .number text => s.addLiteral text
  | .double x => s.addLiteral (.text x.text)
  | .numeral text =>
    match Numeral.read? text with
    | some x => s.addLiteral (.text x.text)
    | none => .error (.notNumeral text)
  | .parsed text =>
    match parse text with
    | .ok e => .ok (s.addExpr e)
    | .error e => .error (.parse e)
  | .node left o right =>
    match s.build left with
    | .error e => .error e
    | .ok (l, s) =>
      match s.build right with
      | .error e => .error e
      | .ok (r, s) => ofChecked (s.addNode l o r)
  | .chain first leaf o leftwards count =>
    match s.addLiteral first with
    | .error e => .error e
    | .ok (i, s) => s.addChain i leaf o leftwards count
  | .cell name =>
    match s.find name with
    | .ok i => .ok (i, s)
    | .error e => .error e
  | .value v => .ok (s.addAtom (.value v))

end Sheet

def Draft.subject (d : Draft) : Except DraftError Subject :=
  match Sheet.empty.build d with
  | .ok (i, s) => .ok (s.subject i)
  | .error e => .error e

end Reckoner
