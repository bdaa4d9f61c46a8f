import Reckoner.Text.Quoted

set_option autoImplicit false

namespace Reckoner

structure Path where
  root : String
  parts : List String
deriving DecidableEq

namespace Path

def pieces : List Char → List (List Char)
  | [] => [[]]
  | '/' :: rest => [] :: pieces rest
  | c :: rest =>
    match pieces rest with
    | [] => [[c]]
    | piece :: more => (c :: piece) :: more

def rootOf : List Char → String
  | '/' :: '/' :: '/' :: _ => "/"
  | '/' :: '/' :: _ => "//"
  | '/' :: _ => "/"
  | _ => ""

def ofText (text : String) : Path where
  root := rootOf text.toList
  parts := ((pieces text.toList).filter fun piece => piece ≠ [] ∧ piece ≠ ['.']).map String.ofList

def text (p : Path) : String :=
  if p.root = "" ∧ p.parts = [] then "." else p.root ++ "/".intercalate p.parts

def name (p : Path) : String := p.parts.getLast?.getD ""

def withName (p : Path) (name : String) : Path := { p with parts := p.parts.dropLast ++ [name] }

def lastEnding (name : List Char) : List Char :=
  let tail := (name.reverse.takeWhile (· != '.')).reverse
  if tail ≠ [] ∧ tail.length + 1 < name.length then '.' :: tail else []

def suffix (p : Path) : String := String.ofList (lastEnding p.name.toList)

def dotted : List Char → List (List Char)
  | [] => []
  | c :: rest =>
    if c = '.' then ('.' :: rest.takeWhile (· != '.')) :: dotted (rest.dropWhile (· != '.'))
    else dotted rest
termination_by cs => cs.length
decreasing_by
  · have := (List.dropWhile_sublist (l := rest) (· != '.')).length_le
    simp; omega
  · simp

def endings (name : List Char) : List (List Char) :=
  if name.getLast? = some '.' then [] else dotted (name.dropWhile (· == '.'))

def suffixes (p : Path) : List String := (endings p.name.toList).map String.ofList

def resultsName (name : List Char) : List Char :=
  let ending := (endings name).flatten
  name.take (name.length - ending.length)
    ++ ending.map (fun c => if c = '.' then '_' else c) ++ "_results.txt".toList

def results? (p : Path) : Option Path :=
  if p.name = "" then none else some (p.withName (String.ofList (resultsName p.name.toList)))

def emptyNameMessage (p : Path) : String :=
  "PosixPath(" ++ Text.quoted p.text ++ ") has an empty name"

end Path

end Reckoner
