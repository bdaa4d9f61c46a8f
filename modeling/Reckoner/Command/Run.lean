import Reckoner.Command.Settings

set_option autoImplicit false

namespace Reckoner.Command

def usageText : String :=
  "usage: arithmetic-calculator [-h] [-v] [-f FILE_PATH] [-o OUTPUT_PATH]\n" ++
  "                             [expression ...]\n"

def helpText : String :=
  usageText ++ "\n" ++
  "Evaluate mathematical expressions and print the result.\n\n" ++
  "positional arguments:\n" ++
  "  expression            The expression to evaluate. Several arguments are\n" ++
  "                        joined with spaces.\n\n" ++
  "options:\n" ++
  "  -h, --help            show this help message and exit\n" ++
  "  -v, --verbose         Whether or not to show verbose logs.\n" ++
  "  -f FILE_PATH, --file FILE_PATH\n" ++
  "                        Text file or .zip/.tar.xz/.7z archive with one\n" ++
  "                        expression per line.\n" ++
  "  -o OUTPUT_PATH, --output OUTPUT_PATH\n" ++
  "                        Where to write batch results (default:\n" ++
  "                        <input>_results.txt next to the input).\n"

def usageMessage (e : UsageError) : String :=
  usageText ++ "arithmetic-calculator: error: " ++ e.message ++ "\n"

inductive Ending where
  | exit (status : Nat)
  | broken (failure : Batch.Failure)

structure Run where
  stdout : String
  stderr : String
  ending : Ending

def stopped : Stop → Run
  | .help => ⟨helpText, "", .exit 0⟩
  | .usage e => ⟨"", usageMessage e, .exit 2⟩
  | .access e => ⟨"", "", .broken (.read (.access e))⟩

def errorLine (message : String) : String := "error: " ++ message ++ "\n"

def runExpression (verbose : Bool) (expression : String) : Run :=
  let calculation := Calculation.run expression
  let trace := Log.print verbose calculation.records
  match calculation.failure with
  | none => ⟨calculation.output, trace, .exit 0⟩
  | some (.parse e) => ⟨calculation.output, trace ++ errorLine e.message, .exit 1⟩
  | some e => ⟨calculation.output, trace, .broken (.calculation e)⟩

def batchStatus (entries : List Entry) : Nat :=
  if entries.all (·.outcome.succeeded) then 0 else 1

def runBatch (f : Folder) (verbose : Bool) (input : Path) (output : Option Path) : Run × Folder :=
  match output.or input.results? with
  | none => (⟨"", "", .broken (.read (.unnamed input))⟩, f)
  | some output =>
    let report := Batch.run f input output
    let trace := Log.print verbose report.records
    match report.entries with
    | .ok entries => (⟨"", trace, .exit (batchStatus entries)⟩, report.folder)
    | .error failure =>
      if failure.isRefusal then (⟨"", trace ++ errorLine failure.message, .exit 1⟩, report.folder)
      else (⟨"", trace, .broken failure⟩, report.folder)

def run (f : Folder) (arguments : List String) : Run × Folder :=
  match Settings.ofArguments f arguments with
  | .error stop => (stopped stop, f)
  | .ok settings =>
    match settings.file with
    | some input => runBatch f settings.verbose input settings.output
    | none =>
      if settings.expression = "" then (⟨helpText, "", .exit 0⟩, f)
      else (runExpression settings.verbose settings.expression, f)

def runAll (f : Folder) : List (List String) → List Run × Folder
  | [] => ([], f)
  | arguments :: rest =>
    let (first, f) := run f arguments
    let (later, f) := runAll f rest
    (first :: later, f)

end Reckoner.Command
