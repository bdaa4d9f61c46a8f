import Reckoner.Command.Run

set_option autoImplicit false

namespace Reckoner.Command

-- The input file is read before the run, and what the run writes is written
-- after it. A file is taken as bytes, so that an archive on disk counts as no
-- archive.
def inputPath? (arguments : List String) : Option Path :=
  match readArguments arguments with
  | .ok (wishes, _) =>
    match wishes.file with
    | .text s => some (Path.ofText s)
    | _ => none
  | .error _ => none

def outputPath? (arguments : List String) : Option Path :=
  match readArguments arguments with
  | .ok (wishes, _) =>
    match wishes.output with
    | .text s => some (Path.ofText s)
    | _ => none
  | .error _ => none

def folderOnDisk (arguments : List String) : IO Folder := do
  let f := match outputPath? arguments with
    | some path => Folder.empty.putWay path
    | none => Folder.empty
  match inputPath? arguments with
  | none => pure f
  | some path =>
    try
      let bytes ← IO.FS.readBinFile path.text
      pure ((f.putWay path).put (Folder.placeOf path) (.file (.bytes bytes)))
    catch _ => pure f

def placeText : List String → String
  | "/" :: names => "/" ++ "/".intercalate names
  | names => "/".intercalate names

end Reckoner.Command

def main (arguments : List String) : IO UInt32 := do
  let before ← Reckoner.Command.folderOnDisk arguments
  let (run, after) := Reckoner.Command.run before arguments
  for (names, bytes) in before.written after do
    IO.FS.writeBinFile (Reckoner.Command.placeText names) bytes
  (← IO.getStderr).putStr run.stderr
  (← IO.getStdout).putStr run.stdout
  match run.ending with
  | .exit status => pure (UInt32.ofNat status)
  | .broken failure => do
    (← IO.getStderr).putStrLn failure.message
    pure 1
