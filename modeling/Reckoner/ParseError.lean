import Reckoner.Text.Quoted

set_option autoImplicit false

namespace Reckoner

namespace ParseError

inductive Cause where
  | emptyInput
  | unexpectedNumber (literal : String)
  | unexpectedOperator (symbol : String)
  | unrecognizedCharacter (character : String)
  | missingFractionalDigit (literal : String)
  | missingOperand (incomplete : String)
  | invalidLiteralStart (character : Option String)
  | other (message : String)
deriving DecidableEq

def Cause.summary : Cause → String
  | emptyInput => "Missing expression."
  | unexpectedNumber literal => "Expected operator, but found number (" ++ literal ++ ") instead."
  | unexpectedOperator symbol => "Expected number, but found operator (" ++ symbol ++ ") instead."
  | unrecognizedCharacter character =>
    "Unrecognized expression character: " ++ Text.quoted character
  | missingFractionalDigit literal =>
    "Missing fractional digit after decimal point in " ++ Text.quoted literal ++ "."
  | missingOperand incomplete => "Missing right-hand side number for " ++ incomplete ++ "."
  | invalidLiteralStart none => "Missing number start character ('.' or digit)."
  | invalidLiteralStart (some character) =>
    "Expected number start character ('.' or digit), but found " ++ Text.quoted character
      ++ " instead."
  | other message => message

end ParseError

structure ParseError where
  cause : ParseError.Cause
  position : Option Int
deriving DecidableEq

def ParseError.message (e : ParseError) : String :=
  match e.position with
  | none => e.cause.summary
  | some position => e.cause.summary ++ " (at position " ++ toString position ++ ")"

end Reckoner
