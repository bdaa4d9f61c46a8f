import Reckoner.Expr.Simplify

set_option autoImplicit false

namespace Reckoner

def literalsEqual (a b : String) : Except SimplifyError Bool :=
  if a = b then .ok true
  else match literalValue a with
    | .error e => .error e
    | .ok x =>
      match literalValue b with
      | .error e => .error e
      | .ok y => .ok (x.eq y)

def Expr.equal : Expr → Expr → Except SimplifyError Bool
  | literal a, literal b => literalsEqual a b
  | binary left o right, binary left' o' right' =>
    match left.equal left' with
    | .error e => .error e
    | .ok false => .ok false
    | .ok true => if o = o' then right.equal right' else .ok false
  | incomplete left o, incomplete left' o' =>
    match left.equal left' with
    | .error e => .error e
    | .ok same => .ok (same && o == o')
  | binary left _ _, incomplete left' _ =>
    match left.equal left' with
    | .error e => .error e
    | .ok _ => .ok false
  | incomplete left _, binary left' _ _ =>
    match left.equal left' with
    | .error e => .error e
    | .ok _ => .ok false
  | _, _ => .ok false

end Reckoner
