import Reckoner.Batch.Run
import Reckoner.Command.Arguments

set_option autoImplicit false

namespace Reckoner.Command

structure Settings where
  expression : String
  verbose : Bool
  file : Option Path
  output : Option Path
deriving DecidableEq

namespace Settings

def hasWork (s : Settings) : Bool := s.expression != "" || s.file.isSome

def checkSources (s : Settings) : Form.Checked Settings :=
  if s.expression ≠ "" ∧ s.file.isSome then
    .fail (.brokenRule "Give either an expression or --file, not both")
  else if s.output.isSome ∧ s.file = none then .fail (.brokenRule "--output requires --file")
  else .ok s

def checkForm (f : Folder) (form : Form.Value) : Form.Checked Settings :=
  match ((Form.withDefault form "expression" "" Form.checkText).both
      (Form.withDefault form "verbose" false Form.checkFlag)).both
      ((Form.withDefault form "file_path" none (Form.orNull (Form.checkFile f))).both
        (Form.withDefault form "output_path" none (Form.orNull Form.checkPath))) with
  | .error ps => .error ps
  | .ok ((expression, verbose), (file, output)) => checkSources ⟨expression, verbose, file, output⟩

def ofForm (f : Folder) (form : Form.Value) : Except Folder.AccessError (Form.Checked Settings) :=
  Form.checkedWithFile f form "file_path" (checkForm f form)

def ofArguments (f : Folder) (arguments : List String) : Except Stop Settings :=
  match readArguments arguments with
  | .error stop => .error stop
  | .ok (wishes, words) =>
    match ofForm f (.record [("expression", .text (" ".intercalate words)),
        ("verbose", .bool wishes.verbose), ("file_path", wishes.file),
        ("output_path", wishes.output)]) with
    | .ok (.ok settings) => .ok settings
    | .ok (.error problems) => .error (.usage (.invalid problems))
    | .error e => .error (.access e)

end Settings

end Reckoner.Command
