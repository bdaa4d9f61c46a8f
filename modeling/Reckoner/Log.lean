set_option autoImplicit false

namespace Reckoner

namespace Log

inductive Level where
  | debug
  | info
  | warning
  | error
  | critical
deriving DecidableEq

def Level.weight : Level → Nat
  | debug => 10
  | info => 20
  | warning => 30
  | error => 40
  | critical => 50

def Level.name : Level → String
  | debug => "DEBUG"
  | info => "INFO"
  | warning => "WARNING"
  | error => "ERROR"
  | critical => "CRITICAL"

def Level.all : List Level := [debug, info, warning, error, critical]

structure Record where
  level : Level
  message : String
deriving DecidableEq

def loggerName : String := "arithmetic_calculator"

def Record.line (r : Record) : String :=
  "[" ++ r.level.name ++ "] " ++ loggerName ++ ": " ++ r.message ++ "\n"

def threshold (verbose : Bool) : Level := if verbose then .debug else .warning

def print (verbose : Bool) (records : List Record) : String :=
  String.join
    ((records.filter fun r => (threshold verbose).weight ≤ r.level.weight).map Record.line)

structure Console where
  past : List String
  current : String
  verbose : Option Bool
deriving DecidableEq

namespace Console

def start : Console := ⟨[], "", none⟩

def configure (c : Console) (verbose : Bool) : Console := ⟨c.past ++ [c.current], "", some verbose⟩

def log (c : Console) (r : Record) : Console :=
  match c.verbose with
  | some verbose => { c with current := c.current ++ print verbose [r] }
  | none =>
    if Level.warning.weight ≤ r.level.weight then
      { c with current := c.current ++ r.message ++ "\n" }
    else c

def streams (c : Console) : List String := c.past ++ [c.current]

end Console

end Log

end Reckoner
