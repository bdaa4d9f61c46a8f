import Reckoner.Form.Problem
import Reckoner.Text.DecimalDigit

set_option autoImplicit false

namespace Reckoner.Command

inductive Switch where
  | help
  | verbose
  | file
  | output
deriving DecidableEq

namespace Switch

def spellings : List (String × Switch) := [
  ("-h", help), ("--help", help), ("-v", verbose), ("--verbose", verbose), ("-f", file),
  ("--file", file), ("-o", output), ("--output", output)]

def takesValue : Switch → Bool
  | help => false
  | verbose => false
  | file => true
  | output => true

def title (s : Switch) : String :=
  "/".intercalate ((spellings.filter (·.2 == s)).map (·.1))

def ofSpelling? (spelling : String) : Option Switch := spellings.lookup spelling

end Switch

inductive UsageError where
  | ambiguous (argument : String) (candidates : List String)
  | missingValue (s : Switch)
  | ignoredValue (s : Switch) (value : String)
  | unrecognized (arguments : List String)
  | invalid (problems : List Form.Problem)
deriving DecidableEq

def problemLines (p : Form.Problem) : List String :=
  let field := if p.location = [] then [] else [".".intercalate p.location]
  field ++ ["  " ++ p.complaint.message]

def UsageError.message : UsageError → String
  | ambiguous argument candidates =>
    "ambiguous option: " ++ argument ++ " could match " ++ ", ".intercalate candidates
  | missingValue s => "argument " ++ s.title ++ ": expected one argument"
  | ignoredValue s value =>
    "argument " ++ s.title ++ ": ignored explicit argument " ++ Text.quoted value
  | unrecognized arguments => "unrecognized arguments: " ++ " ".intercalate arguments
  | invalid problems =>
    "\n".intercalate ((toString problems.length ++ " validation error"
      ++ (if problems.length = 1 then "" else "s") ++ " for CliArgs")
        :: problems.flatMap problemLines)

inductive Token where
  | word
  | separator
  | switch (s : Switch) (short : Bool) (value : Option String)
  | unknown
deriving DecidableEq

namespace Token

def isDigit (c : Char) : Bool := (Text.digitValue? c).isSome

def isDigitsToEnd (cs : List Char) : Bool :=
  let rest := cs.dropWhile isDigit
  cs.takeWhile isDigit != [] && (rest == [] || rest == ['\n'])

def isNegativeNumber : List Char → Bool
  | '-' :: cs =>
    isDigitsToEnd cs ||
      match cs.dropWhile isDigit with
      | '.' :: fraction => isDigitsToEnd fraction
      | _ => false
  | _ => false

def isOpening (start spelling : List Char) : Bool := start.isPrefixOf spelling

def splitAtEquals (cs : List Char) : List Char × Option (List Char) :=
  (cs.takeWhile (· != '='), match cs.dropWhile (· != '=') with
    | [] => none
    | _ :: value => some value)

def longCandidates (cs : List Char) : List (String × Switch × Option String) :=
  let (start, value) := splitAtEquals cs
  (Switch.spellings.filter fun (spelling, _) => isOpening start spelling.toList).map
    fun (spelling, s) => (spelling, s, value.map String.ofList)

def shortCandidates (cs : List Char) : List (String × Switch × Option String) :=
  (Switch.spellings.filter fun (spelling, _) => spelling.toList == cs.take 2).map
    fun (spelling, s) => (spelling, s, some (String.ofList (cs.drop 2)))

def isLong (cs : List Char) : Bool := isOpening ['-', '-'] cs

def ofAssignment? (cs : List Char) : Option Token :=
  match splitAtEquals cs with
  | (spelling, some value) =>
    (Switch.ofSpelling? (String.ofList spelling)).map fun s =>
      .switch s (!isLong spelling) (some (String.ofList value))
  | _ => none

def ofAbbreviation (cs : List Char) : Except UsageError Token :=
  match if isLong cs then longCandidates cs else shortCandidates cs with
  | [(spelling, s, value)] => .ok (.switch s (!isLong spelling.toList) value)
  | [] => .ok (if isNegativeNumber cs || cs.contains ' ' then .word else .unknown)
  | candidates => .error (.ambiguous (String.ofList cs) (candidates.map (·.1)))

def ofArgument (argument : String) : Except UsageError Token :=
  let cs := argument.toList
  if cs = ['-', '-'] then .ok .separator
  else if cs.head? ≠ some '-' ∨ cs = ['-'] then .ok .word
  else match Switch.ofSpelling? argument with
    | some s => .ok (.switch s (!isLong cs) none)
    | none =>
      match ofAssignment? cs with
      | some token => .ok token
      | none => ofAbbreviation cs

end Token

def tokens : List String → Except UsageError (List (String × Token))
  | [] => .ok []
  | argument :: rest =>
    match Token.ofArgument argument with
    | .error e => .error e
    | .ok .separator => .ok ((argument, .separator) :: rest.map fun word => (word, .word))
    | .ok token =>
      match tokens rest with
      | .error e => .error e
      | .ok later => .ok ((argument, token) :: later)

end Reckoner.Command
