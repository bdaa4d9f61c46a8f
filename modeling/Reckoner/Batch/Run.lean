import Reckoner.Batch.Request
import Reckoner.Folder.Reading

set_option autoImplicit false

namespace Reckoner

namespace Batch

inductive Failure where
  | read (e : ReadError)
  | write (e : Folder.AccessError)
  | invalid (problems : List Form.Problem)
  | calculation (e : CalculationError)

def Failure.isRefusal : Failure → Bool
  | read e => e.isRefusal
  | write e => e.isRefusal
  | invalid _ => true
  | calculation _ => true

def Failure.message : Failure → String
  | read e => e.message
  | write e => e.message
  | invalid problems => "\n".intercalate (problems.map (·.complaint.message))
  | calculation e => e.message

structure Answers where
  entries : List Entry
  failure : Option Failure

def answerFrom (lineNumber : Nat) : List String → Answers
  | [] => ⟨[], none⟩
  | expression :: rest =>
    match Request.ofLine expression lineNumber with
    | .error problems => ⟨[], some (.invalid problems)⟩
    | .ok request =>
      match request.answer with
      | .error e => ⟨[], some (.calculation e)⟩
      | .ok entry =>
        let later := answerFrom (lineNumber + 1) rest
        ⟨entry :: later.entries, later.failure⟩

def resultsText (entries : List Entry) : String :=
  String.join (entries.map fun e => e.line ++ "\n")

structure Report where
  entries : Except Failure (List Entry)
  records : List Log.Record
  folder : Folder

def startRecord (input : Path) : Log.Record :=
  ⟨.info, "📄 Evaluating expressions from " ++ input.text⟩

def endRecord (entries : List Entry) (output : Path) : Log.Record :=
  let failed := (entries.filter (!·.outcome.succeeded)).length
  ⟨.info, "📄✅ " ++ toString entries.length ++ " expressions evaluated (" ++ toString failed
    ++ " failed), results in " ++ output.text⟩

-- The input is read as a whole before the output is opened. From then on each
-- line is answered on its own, and a line that is no expression stops
-- nothing.
def run (f : Folder) (input output : Path) : Report :=
  let first := startRecord input
  match f.readExpressions input with
  | .error e => ⟨.error (.read e), [first], f⟩
  | .ok expressions =>
    let answers := answerFrom 1 expressions
    match f.write output (resultsText answers.entries).toUTF8 with
    | .error e => ⟨.error (.write e), [first], f⟩
    | .ok written =>
      let records := first :: answers.entries.map Entry.record
      match answers.failure with
      | some failure => ⟨.error failure, records, written⟩
      | none => ⟨.ok answers.entries, records ++ [endRecord answers.entries output], written⟩

end Batch

namespace Form

def checkPath : Value → Checked Path
  | .text s => .ok (Path.ofText s)
  | _ => .fail .notPath

def checkFile (f : Folder) (v : Value) : Checked Path :=
  match checkPath v with
  | .error ps => .error ps
  | .ok p => if f.isFile p then .ok p else .fail .notFile

def obstacle? (f : Folder) (form : Value) (name : String) : Option Folder.AccessError :=
  match form.field? name with
  | some (.text s) => f.obstacle? (Path.ofText s)
  | _ => none

def checkedWithFile {α : Type} (f : Folder) (form : Value) (name : String) (result : Checked α) :
    Except Folder.AccessError (Checked α) :=
  match obstacle? f form name with
  | some e => .error e
  | none => .ok result

end Form

def Batch.pathsOfForm (f : Folder) (form : Form.Value) :
    Except Folder.AccessError (Form.Checked (Path × Path)) :=
  Form.checkedWithFile f form "input_file"
    ((Form.required form "input_file" (Form.checkFile f)).both
      (Form.required form "output_file" Form.checkPath))

end Reckoner
