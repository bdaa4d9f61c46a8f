import Reckoner.Folder.Archive
import Reckoner.Text.Lines
import Reckoner.Text.Utf8

set_option autoImplicit false

namespace Reckoner

inductive ReadError where
  | access (e : Folder.AccessError)
  | unnamed (p : Path)
  | unsupported (suffix : String)
  | notArchive (format : Folder.Format)
  | archive (e : Folder.ArchiveError)
  | undecodable (fault : Utf8.Fault)
deriving DecidableEq

namespace ReadError

def message : ReadError → String
  | access e => e.message
  | unnamed p => p.emptyNameMessage
  | unsupported suffix =>
    "📄❌ Unsupported archive format: " ++ suffix ++ " (expected .txt or one of .zip, .tar.xz, .7z)"
  | notArchive format => format.refusal
  | archive (.noText format) => "📄❌ No .txt file found in " ++ format.name ++ " archive"
  | archive .outside => "outside the destination"
  | archive (.badPath name) => "Specified path is bad: " ++ name
  | archive .wayTaken => "File exists"
  | archive (.special name) => Text.quoted name ++ " is a special file"
  | archive (.absoluteLink name) => Text.quoted name ++ " is a link to an absolute path"
  | archive .linkOutside => "link outside the destination"
  | archive (.missingTarget target) => Text.quoted ("linkname " ++ Text.quoted target ++ " not found")
  | archive .endlessLink => "Too many levels of symbolic links"
  | archive (.access e) => e.message
  | undecodable fault => fault.message

def isRefusal : ReadError → Bool
  | access e => e.isRefusal
  | unnamed _ => true
  | unsupported _ => true
  | archive (.noText _) => true
  | archive (.access e) => e.isRefusal
  | undecodable _ => true
  | _ => false

end ReadError

namespace Folder

def formatOf? (p : Path) : Option Format :=
  if p.suffix = ".zip" then some .zip
  else if p.suffixes.drop (p.suffixes.length - 2) = [".tar", ".xz"] then some .tarXz
  else if p.suffix = ".7z" then some .sevenZip
  else none

def decodeText (bytes : ByteArray) : Except ReadError String :=
  match Utf8.decode bytes with
  | .ok text => .ok (String.ofList (Text.unifyBreaks text.toList))
  | .error fault => .error (.undecodable fault)

def members (format : Format) : Content → Except ReadError (List Member)
  | .archive actual members =>
    if actual = format then .ok members else .error (.notArchive format)
  | .bytes _ => .error (.notArchive format)

def readArchiveWith (release : TarRelease) (f : Folder) (p : Path) : Except ReadError String :=
  match formatOf? p with
  | none => .error (.unsupported p.suffix)
  | some format =>
    match f.content p with
    | .error e => .error (.access e)
    | .ok content =>
      match members format content with
      | .error e => .error e
      | .ok members =>
        match extract release format members with
        | .error e => .error (.archive e)
        | .ok bytes => decodeText bytes

def readArchive (f : Folder) (p : Path) : Except ReadError String := readArchiveWith .late f p

def readTextFile (f : Folder) (p : Path) : Except ReadError String :=
  match f.content p with
  | .error e => .error (.access e)
  | .ok (.bytes bytes) => decodeText bytes
  | .ok (.archive _ _) => .error (.undecodable ⟨0, 1, 0, .invalidStart⟩)

def readText (f : Folder) (p : Path) : Except ReadError String :=
  if p.suffix = ".txt" then f.readTextFile p else f.readArchive p

def expressionsOf (text : String) : List String :=
  (Text.contentLines text.toList).map String.ofList

def readExpressions (f : Folder) (p : Path) : Except ReadError (List String) :=
  match f.readText p with
  | .ok text => .ok (expressionsOf text)
  | .error e => .error e

end Folder

end Reckoner
