import Reckoner.Form.Integer

set_option autoImplicit false

namespace Reckoner.Form

def checkText : Value → Checked String
  | .text s => .ok s
  | _ => .fail .notText

def checkFilledText (v : Value) : Checked String :=
  match checkText v with
  | .ok "" => .fail .emptyText
  | other => other

def flagWords (flag : Bool) : List String :=
  if flag then ["1", "on", "t", "true", "y", "yes"] else ["0", "off", "f", "false", "n", "no"]

def flagOfText? (text : String) : Option Bool :=
  let word := String.ofList (text.toList.map Char.toLower)
  if (flagWords true).contains word then some true
  else if (flagWords false).contains word then some false
  else none

def flagOfInteger (n : Int) : Checked Bool :=
  if n = 1 then .ok true
  else if n = 0 then .ok false
  else if -(integerBound : Int) ≤ n ∧ n < integerBound then .fail .unreadableFlag
  else .fail .notFlag

def checkFlag : Value → Checked Bool
  | .bool b => .ok b
  | .int n => flagOfInteger n
  | .float x =>
    match integerOfDouble x with
    | .ok n => flagOfInteger n
    | .error _ => .fail .notFlag
  | .text s =>
    match flagOfText? s with
    | some b => .ok b
    | none => .fail .unreadableFlag
  | _ => .fail .notFlag

def required {α : Type} (form : Value) (name : String) (check : Value → Checked α) : Checked α :=
  match form.field? name with
  | some v => (check v).under name
  | none => Checked.under name (.fail .missing)

def withDefault {α : Type} (form : Value) (name : String) (value : α)
    (check : Value → Checked α) : Checked α :=
  match form.field? name with
  | some v => (check v).under name
  | none => .ok value

def orNull {α : Type} (check : Value → Checked α) : Value → Checked (Option α)
  | .null => .ok none
  | v =>
    match check v with
    | .ok a => .ok (some a)
    | .error ps => .error ps

end Reckoner.Form
