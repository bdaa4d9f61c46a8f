import Reckoner.Folder.Path

set_option autoImplicit false

namespace Reckoner

namespace Folder

inductive Format where
  | zip
  | tarXz
  | sevenZip
deriving DecidableEq

inductive Item where
  | bytes (bytes : ByteArray)
  | hardLink (target : String)
  | softLink (target : String)
  | special

instance : Coe ByteArray Item := ⟨Item.bytes⟩

-- A directory has no item. Only a tar archive holds links and special files.
structure Member where
  name : String
  item : Option Item

inductive Content where
  | bytes (bytes : ByteArray)
  | archive (format : Format) (members : List Member)

inductive Entry where
  | file (content : Content)
  | directory

inductive AccessError where
  | notFound
  | isDirectory
  | notDirectory
  | tooLong
  | nullCharacter
deriving DecidableEq

def AccessError.message : AccessError → String
  | notFound => "No such file or directory"
  | isDirectory => "Is a directory"
  | notDirectory => "Not a directory"
  | tooLong => "File name too long"
  | nullCharacter => "embedded null byte"

def AccessError.isRefusal : AccessError → Bool
  | nullCharacter => true
  | _ => false

def nameLimit : Nat := 255

def pathLimit : Nat := 4095

def isLongName (name : String) : Bool := nameLimit < name.utf8ByteSize

end Folder

-- A place is given by the names on the way to it. Places outside the folder
-- start with two dots or with a slash, for the directory above and for the
-- root; of the outside nothing is known at first but these directories
-- themselves. Each place has one entry; the folder itself is the place
-- without names.
structure Folder where
  entries : List (List String × Folder.Entry)

namespace Folder

def empty : Folder := ⟨[]⟩

def root : List String := ["/"]

def isUpward (names : List String) : Bool := names.all (· == "..")

def isInside (names : List String) : Bool := names.head? != some ".." && names.head? != some "/"

def entry? (f : Folder) (names : List String) : Option Entry :=
  if isUpward names ∨ names = root then some .directory else f.entries.lookup names

def put (f : Folder) (names : List String) (entry : Entry) : Folder :=
  ⟨f.entries.filter (·.1 != names) ++ [(names, entry)]⟩

def putDirectory (f : Folder) (names : List String) : Folder :=
  match f.entry? names with
  | some _ => f
  | none => f.put names .directory

def putParents (f : Folder) (names : List String) : Folder :=
  (List.range names.length).foldl (fun f depth => f.putDirectory (names.take depth)) f

def above (names : List String) : List String :=
  if isUpward names then names ++ [".."]
  else if names = root then root
  else names.dropLast

def start (p : Path) : List String := if p.root = "" then [] else root

def placeOf (p : Path) : List String :=
  p.parts.foldl (fun here part => if part = ".." then above here else here ++ [part]) (start p)

def putWay (f : Folder) (p : Path) : Folder :=
  (List.range p.parts.length).foldl
    (fun f depth => f.putDirectory (placeOf { p with parts := p.parts.take depth })) f

def follow (f : Folder) (here : List String) : List String → Except AccessError (List String)
  | [] => .ok here
  | part :: rest =>
    if part = ".." then follow f (above here) rest
    else if isLongName part then .error .tooLong
    else if rest = [] then .ok (here ++ [part])
    else match f.entry? (here ++ [part]) with
      | some .directory => follow f (here ++ [part]) rest
      | some (.file _) => .error .notDirectory
      | none => .error .notFound

def locate (f : Folder) (p : Path) : Except AccessError (List String) :=
  if p.text.toList.contains '\x00' then .error .nullCharacter
  else if pathLimit < p.text.utf8ByteSize then .error .tooLong
  else f.follow (start p) p.parts

def content (f : Folder) (p : Path) : Except AccessError Content :=
  match f.locate p with
  | .error e => .error e
  | .ok names =>
    match f.entry? names with
    | some (.file content) => .ok content
    | some .directory => .error .isDirectory
    | none => .error .notFound

def isFile (f : Folder) (p : Path) : Bool :=
  match f.content p with
  | .ok _ => true
  | .error _ => false

def obstacle? (f : Folder) (p : Path) : Option AccessError :=
  match f.content p with
  | .error .tooLong => some .tooLong
  | _ => none

def write (f : Folder) (p : Path) (bytes : ByteArray) : Except AccessError Folder :=
  match f.locate p with
  | .error e => .error e
  | .ok names =>
    match f.entry? names with
    | some .directory => .error .isDirectory
    | some (.file _) => .ok (f.put names (.file (.bytes bytes)))
    | none =>
      match f.entry? names.dropLast with
      | some .directory => .ok (f.put names (.file (.bytes bytes)))
      | some (.file _) => .error .notDirectory
      | none => .error .notFound

def bytes? (f : Folder) (names : List String) : Option ByteArray :=
  match f.entry? names with
  | some (.file (.bytes bytes)) => some bytes
  | _ => none

def written (before after : Folder) : List (List String × ByteArray) :=
  after.entries.filterMap fun (names, _) =>
    match after.bytes? names with
    | none => none
    | some bytes => if before.bytes? names == some bytes then none else some (names, bytes)

def changes (before after : Folder) : List (List String × ByteArray) :=
  (before.written after).filter fun (names, _) => isInside names

def install (f : Folder) (names : List String) (entry : Entry) : Folder :=
  match entry with
  | .directory => (f.putParents names).putDirectory names
  | .file _ => (f.putParents names).put names entry

end Folder

end Reckoner
