import Reckoner.Sheet.Draft

set_option autoImplicit false

namespace Reckoner.Sheet

-- Under a name that starts with a low line anything may be kept at a literal
-- or a node, and under nearly every name at an operator; these notes show
-- nowhere but where they are asked for.
inductive Field where
  | left
  | operator
  | right
deriving DecidableEq

def Field.ofName? : String → Option Field
  | "left" => some left
  | "operator" => some operator
  | "right" => some right
  | _ => none

def computedNames : List String := ["is_complete", "model_extra", "model_fields_set"]

def fixedNames : List String := ["name", "value"]

def isFreeName (name : String) : Bool := ['_'].isPrefixOf name.toList

inductive FieldError where
  | computed (name : String)
  | fixed (name : String)
  | unknown (shape : Form.Shape) (name : String)
  | notInAtom (kind name : String)
  | notNumeral (text : String)
deriving DecidableEq

def FieldError.message : FieldError → String
  | computed name => "property '" ++ name ++ "' of '" ++ Form.Shape.node.name
      ++ "' object has no setter"
  | fixed name => "<enum 'Enum'> cannot set attribute '" ++ name ++ "'"
  | unknown shape name => "'" ++ shape.name ++ "' object has no attribute " ++ Text.quoted name
  | notInAtom kind name => "'" ++ kind ++ "' object has no attribute '" ++ name ++ "'"
  | notNumeral text => notNumeralMessage text

inductive EditError where
  | draft (e : DraftError)
  | field (e : FieldError)

def symbolAsOperator (s : Sheet) (i : Nat) : Nat × Sheet :=
  match s.cells[i]? with
  | some (.atom (.value (.text t))) =>
    match Operator.ofText? t with
    | some o => s.addAtom (.operator o)
    | none => (i, s)
  | _ => (i, s)

def buildFor (s : Sheet) (field : String) (d : Draft) : Except DraftError (Nat × Sheet) :=
  match s.build d with
  | .error e => .error e
  | .ok (i, s) => .ok (if field = "operator" then s.symbolAsOperator i else (i, s))

def setField (s : Sheet) (i left : Nat) (o : Operator) (right : Option Nat) (field : Field)
    (value : Nat) : Form.Checked Sheet :=
  match field with
  | .left =>
    match (s.checkSide value).under "left" with
    | .ok (l, s) => .ok (s.replace i (.node l o right))
    | .error ps => .error ps
  | .right =>
    match (s.checkRight value).under "right" with
    | .ok (r, s) => .ok (s.replace i (.node left o r))
    | .error ps => .error ps
  | .operator =>
    match (s.checkOperator value).under "operator" with
    | .ok o => .ok (s.replace i (.node left o right))
    | .error ps => .error ps

def invalid (field : String) (complaint : Form.Complaint) : EditError :=
  .draft (.invalid [⟨[field], complaint⟩])

def assignToNode (s : Sheet) (i left : Nat) (o : Operator) (right : Option Nat) (field : String)
    (value : Nat) : Except EditError Sheet :=
  match Field.ofName? field with
  | some f =>
    match s.setField i left o right f value with
    | .ok s => .ok s
    | .error ps => .error (.draft (.invalid ps))
  | none =>
    if computedNames.contains field then .error (.field (.computed field))
    else .error (invalid field (.unknownField field))

def assign (s : Sheet) (i : Nat) (field : String) (d : Draft) : Except EditError Sheet :=
  match s.buildFor field d with
  | .error e => .error (.draft e)
  | .ok (value, s) =>
    match s.cells[i]? with
    | some (.node left o right) =>
      if isFreeName field then .ok (s.setNote i field value)
      else s.assignToNode i left o right field value
    | some (.literal _) =>
      if isFreeName field then .ok (s.setNote i field value)
      else .error (invalid field .frozen)
    | some (.atom (.operator _)) =>
      if fixedNames.contains field then .error (.field (.fixed field))
      else .ok (s.setNote i field value)
    | some (.atom a) => .error (.field (.notInAtom a.kindName field))
    | none => .ok s

inductive Part where
  | cell (i : Nat)
  | atom (a : Atom)
  | kept (a : Atom)
  | fresh (a : Atom)

def fieldNames : Form.Shape → List String
  | .literal => ["text"]
  | .node => ["left", "operator", "right"]

def assignmentRule : Form.Shape → String
  | .literal => "frozen"
  | .node => "validate_assignment"

def commonPart (shape : Form.Shape) (field : String) : Except FieldError Part :=
  match field with
  | "model_extra" => .ok (.atom .null)
  | "model_fields_set" => .ok (.kept (.fieldNames (fieldNames shape)))
  | "model_config" => .ok (.kept (.value (.record [(assignmentRule shape, .bool true)])))
  | "model_computed_fields" => .ok (.kept (.value (.record [])))
  | _ => .error (.unknown shape field)

def nodePart (left : Nat) (o : Operator) (right : Option Nat) (field : String) :
    Except FieldError Part :=
  if field = "is_complete" then .ok (.atom (.value (.bool right.isSome)))
  else match Field.ofName? field, right with
  | some .left, _ => .ok (.cell left)
  | some .right, some right => .ok (.cell right)
  | some .right, none => .ok (.atom .null)
  | some .operator, _ => .ok (.atom (.operator o))
  | none, _ => commonPart .node field

def literalPart (text field : String) : Except FieldError Part :=
  if field = "text" then
    .ok (if Atom.isShort text then .atom (.value (.text text)) else .kept (.value (.text text)))
  else if field = "value" then
    match Numeral.read? text with
    | some x => .ok (.fresh (.value (.float x)))
    | none => .error (.notNumeral text)
  else commonPart .literal field

def operatorPart (o : Operator) (field : String) : Except FieldError Part :=
  match field with
  | "symbol" => .ok (.atom (.value (.text o.text)))
  | "precedence" => .ok (.atom (.value (.int o.rank)))
  | "name" => .ok (.kept (.value (.text o.name)))
  | "value" => .ok (.kept (.ranked o))
  | _ => .error (.notInAtom (Atom.operator o).kindName field)

def partNamed (s : Sheet) (i : Nat) (field : String) : Except FieldError Part :=
  match s.note? i field with
  | some j => .ok (.cell j)
  | none =>
    match s.cells[i]? with
    | some (.node left o right) => nodePart left o right field
    | some (.literal text) => literalPart text field
    | some (.atom (.operator o)) => operatorPart o field
    | some (.atom a) => .error (.notInAtom a.kindName field)
    | none => .ok (.atom .null)

def part (s : Sheet) (i : Nat) (field : String) : Except FieldError (Nat × Sheet) :=
  match s.partNamed i field with
  | .error e => .error e
  | .ok (.cell j) => .ok (j, s)
  | .ok (.atom a) => .ok (s.addAtom a)
  | .ok (.fresh a) => .ok (s.add (.atom a))
  | .ok (.kept a) =>
    let (j, s) := s.add (.atom a)
    .ok (j, s.setNote i field j)

end Reckoner.Sheet
