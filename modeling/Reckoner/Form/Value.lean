import Reckoner.Decimal.Layout
import Reckoner.Text.Quoted

set_option autoImplicit false

namespace Reckoner.Form

inductive Value where
  | null
  | bool (b : Bool)
  | int (n : Int)
  | float (x : Double)
  | text (s : String)
  | list (items : List Value)
  | record (fields : List (String × Value))
deriving Inhabited

def shownNumbers : Layout :=
  { Layout.result with wholeEnding := ".0", nan := "nan", infinity := "inf" }

namespace Value

mutual

def shown : Value → String
  | null => "None"
  | bool true => "True"
  | bool false => "False"
  | int n => toString n
  | float x => x.write shownNumbers
  | text s => Text.quoted s
  | list items => "[" ++ ", ".intercalate (shownItems items) ++ "]"
  | record fields => "\x7b" ++ ", ".intercalate (shownFields fields) ++ "\x7d"

def shownItems : List Value → List String
  | [] => []
  | item :: rest => item.shown :: shownItems rest

def shownFields : List (String × Value) → List String
  | [] => []
  | (key, value) :: rest => (Text.quoted key ++ ": " ++ value.shown) :: shownFields rest

end

def field? (v : Value) (key : String) : Option Value :=
  match v with
  | record fields => fields.lookup key
  | _ => none

def wholeNumber? : Double → Option Int
  | .finite negative m =>
    if m.units % Nat.pow 2 1074 = 0 then
      some (if negative then -(m.units / Nat.pow 2 1074 : Nat) else (m.units / Nat.pow 2 1074 : Nat))
    else none
  | _ => none

def number? : Value → Option (Int ⊕ Double)
  | bool b => some (.inl (if b then 1 else 0))
  | int n => some (.inl n)
  | float x => some (match wholeNumber? x with
    | some n => .inl n
    | none => .inr x)
  | _ => none

def numbersEqual : Int ⊕ Double → Int ⊕ Double → Bool
  | .inl a, .inl b => a == b
  | .inr x, .inr y => x.eq y
  | _, _ => false

def bothNan : Value → Value → Bool
  | float .nan, float .nan => true
  | _, _ => false

mutual

def equal : Value → Value → Bool
  | null, null => true
  | text a, text b => a == b
  | list as, list bs => equalItems as bs
  | record fields, record fields' => fields.length == fields'.length && equalFields fields fields'
  | a, b =>
    match a.number?, b.number? with
    | some x, some y => numbersEqual x y
    | _, _ => false

def equalItems : List Value → List Value → Bool
  | [], [] => true
  | a :: as, b :: bs => (bothNan a b || a.equal b) && equalItems as bs
  | _, _ => false

def equalFields : List (String × Value) → List (String × Value) → Bool
  | [], _ => true
  | (key, a) :: rest, fields =>
    match fields.lookup key with
    | some b => (bothNan a b || a.equal b) && equalFields rest fields
    | none => false

end

end Value

end Reckoner.Form
