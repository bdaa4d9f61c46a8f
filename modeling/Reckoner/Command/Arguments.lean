import Reckoner.Command.Switch
import Reckoner.Folder.Basic

set_option autoImplicit false

namespace Reckoner.Command

-- The arguments are read twice. The first reading obeys the switches and
-- leaves out the words, wherever they stand; the second takes the words of
-- the expression. Only words that stand together are taken, and the first
-- separator among them is dropped, so that words behind a separator are read
-- as switches only when the separator was dropped in the first reading.
structure Wishes where
  verbose : Bool
  file : Form.Value
  output : Form.Value

def Wishes.none : Wishes := ⟨false, .null, .null⟩

inductive Stop where
  | help
  | usage (e : UsageError)
  | access (e : Folder.AccessError)
deriving DecidableEq

def attachedValue (value : String) : Form.Value := if value = "--" then .list [] else .text value

def cluster (s : Switch) (short : Bool) :
    List Char → Except UsageError (List (Switch × Option String))
  | [] => if s.takesValue then .ok [(s, some "")] else .error (.ignoredValue s "")
  | c :: rest =>
    if s.takesValue then .ok [(s, some (String.ofList (c :: rest)))]
    else if !short then .error (.ignoredValue s (String.ofList (c :: rest)))
    else match Switch.ofSpelling? (String.ofList ['-', c]) with
      | none => .error (.ignoredValue s (String.ofList (c :: rest)))
      | some s' =>
        if rest = [] then .ok [(s, none), (s', none)]
        else match cluster s' short rest with
          | .error e => .error e
          | .ok later => .ok ((s, none) :: later)

def switchesOf (s : Switch) (short : Bool) (value : Option String) :
    Except UsageError (List (Switch × Option String)) :=
  match value with
  | none => .ok [(s, none)]
  | some value => cluster s short value.toList

def awaiting (switches : List (Switch × Option String)) : Option Switch :=
  match switches.getLast? with
  | some (s, none) => if s.takesValue then some s else none
  | _ => none

def obey (wishes : Wishes) (s : Switch) (value : Form.Value) : Except Stop Wishes :=
  match s with
  | .help => .error .help
  | .verbose => .ok { wishes with verbose := true }
  | .file => .ok { wishes with file := value }
  | .output => .ok { wishes with output := value }

def obeyAll (wishes : Wishes) (next : String) : List (Switch × Option String) → Except Stop Wishes
  | [] => .ok wishes
  | (s, value) :: rest =>
    match obey wishes s (match value with
      | some value => attachedValue value
      | none => .text next) with
    | .error stop => .error stop
    | .ok wishes => obeyAll wishes next rest

inductive Phase where
  | before
  | taking
  | closed
deriving DecidableEq

structure Reading where
  wishes : Wishes
  phase : Phase
  words : List String
  left : List String

namespace Reading

def start (wishes : Wishes) : Reading := ⟨wishes, .before, [], []⟩

def leave (r : Reading) (arguments : List String) : Reading :=
  { r with phase := .closed, left := r.left ++ arguments }

def word (taking : Bool) (r : Reading) (argument : String) : Reading :=
  if taking && r.phase != .closed then { r with phase := .taking, words := r.words ++ [argument] }
  else r.leave [argument]

def separator (taking : Bool) (r : Reading) (argument : String) (rest : List String) : Reading :=
  if r.phase = .closed then r.leave (argument :: rest)
  else if taking then { r with phase := .closed, words := r.words ++ rest }
  else r.leave rest

def interrupt (r : Reading) : Reading :=
  if r.phase = .taking then { r with phase := .closed } else r

end Reading

def read (taking : Bool) (r : Reading) : List (String × Token) → Except Stop Reading
  | [] => .ok r
  | (argument, .word) :: rest => read taking (r.word taking argument) rest
  | (argument, .separator) :: rest => .ok (r.separator taking argument (rest.map (·.1)))
  | (argument, .unknown) :: rest =>
    let r := r.interrupt
    read taking { r with left := r.left ++ [argument] } rest
  | (_, .switch s short value) :: rest =>
    match switchesOf s short value with
    | .error e => .error (.usage e)
    | .ok switches =>
      match awaiting switches, rest with
      | none, rest =>
        match obeyAll r.wishes "" switches with
        | .error stop => .error stop
        | .ok wishes => read taking { r.interrupt with wishes := wishes } rest
      | some _, (next, .word) :: rest =>
        match obeyAll r.wishes next switches with
        | .error stop => .error stop
        | .ok wishes => read taking { r.interrupt with wishes := wishes } rest
      | some s, _ => .error (.usage (.missingValue s))

def readAll (taking : Bool) (wishes : Wishes) (arguments : List String) : Except Stop Reading :=
  match tokens arguments with
  | .error e => .error (.usage e)
  | .ok tokens => read taking (.start wishes) tokens

def readArguments (arguments : List String) : Except Stop (Wishes × List String) :=
  match readAll false .none arguments with
  | .error stop => .error stop
  | .ok first =>
    match readAll true first.wishes first.left with
    | .error stop => .error stop
    | .ok second =>
      if second.left = [] then .ok (second.wishes, second.words)
      else .error (.usage (.unrecognized second.left))

end Reckoner.Command
