import Reckoner.Text.Blank

set_option autoImplicit false

namespace Reckoner.Text

def lineBreakRanges : List CharRange := [
  ⟨0xa, 0xd⟩, ⟨0x1c, 0x1e⟩, ⟨0x85, 0x85⟩, ⟨0x2028, 0x2029⟩]

def isLineBreak (c : Char) : Bool := inRanges lineBreakRanges c

def lines : List Char → List (List Char)
  | [] => []
  | '\r' :: '\n' :: rest => [] :: lines rest
  | c :: rest =>
    if isLineBreak c then [] :: lines rest
    else match lines rest with
      | [] => [[c]]
      | line :: more => (c :: line) :: more

def unifyBreaks : List Char → List Char
  | [] => []
  | '\r' :: '\n' :: rest => '\n' :: unifyBreaks rest
  | c :: rest => (if c = '\r' then '\n' else c) :: unifyBreaks rest

def contentLines (cs : List Char) : List (List Char) := ((lines cs).map strip).filter (· ≠ [])

end Reckoner.Text
