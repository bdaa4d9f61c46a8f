import Reckoner.ParseError

set_option autoImplicit false

namespace Reckoner

structure Cursor where
  text : List Char
  position : Nat
  rest : List Char
  rest_eq : rest = text.drop position

namespace Cursor

def start (text : List Char) : Cursor := ⟨text, 0, text, rfl⟩

def current? (c : Cursor) : Option Char := c.rest.head?

def advance (c : Cursor) (count : Nat) : Cursor :=
  ⟨c.text, c.position + count, c.rest.drop count, by rw [c.rest_eq, List.drop_drop]⟩

def next (c : Cursor) : Cursor := c.advance 1

def take? (c : Cursor) : Option (Char × Cursor) :=
  c.current?.map fun character => (character, c.next)

end Cursor

def startsNumber (c : Char) : Bool := c == '.' || c.isDigit

def textStartsNumber (text : String) : Bool :=
  text == "." || (decide ("0" ≤ text) && decide (text ≤ "9"))

inductive NumberScan where
  | found (literal : List Char)
  | openPoint (literal : List Char)
  | absent
deriving DecidableEq

def scanNumber (cs : List Char) : NumberScan :=
  let whole := cs.takeWhile Char.isDigit
  match cs.dropWhile Char.isDigit with
  | '.' :: behind =>
    match behind.takeWhile Char.isDigit with
    | [] => .openPoint (whole ++ ['.'])
    | fraction => .found (whole ++ '.' :: fraction)
  | _ => if whole = [] then .absent else .found whole

namespace Cursor

def readNumber (c : Cursor) : Except ParseError String × Cursor :=
  match scanNumber c.rest with
  | .found literal => (.ok (String.ofList literal), c.advance literal.length)
  | .openPoint literal =>
    let behind := c.advance literal.length
    (.error ⟨.missingFractionalDigit (String.ofList literal), some behind.position⟩, behind)
  | .absent =>
    (.error ⟨.invalidLiteralStart (c.current?.map String.singleton), some c.position⟩, c)

end Cursor

end Reckoner
