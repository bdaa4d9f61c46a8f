import Reckoner.Folder.Basic

set_option autoImplicit false

namespace Reckoner.Folder

def Format.name : Format → String
  | zip => "zip"
  | tarXz => "tar.xz"
  | sevenZip => "7z"

def Format.refusal : Format → String
  | zip => "File is not a zip file"
  | tarXz => "not an lzma file"
  | sevenZip => "not a 7z file"

inductive ArchiveError where
  | noText (format : Format)
  | outside
  | badPath (name : String)
  | wayTaken
  | special (name : String)
  | absoluteLink (name : String)
  | linkOutside
  | missingTarget (target : String)
  | endlessLink
  | access (e : AccessError)
deriving DecidableEq

def isTextName (name : String) : Bool := ".txt".toList.isSuffixOf name.toList

def trimSlashes (name : String) : String :=
  String.ofList (name.toList.reverse.dropWhile (· == '/')).reverse

def cutAtNull (name : String) : String := String.ofList (name.toList.takeWhile (· != '\x00'))

def withSlash (name : String) : String := trimSlashes name ++ "/"

def Item.kept : Item → ByteArray
  | .bytes own => own
  | .hardLink target => target.toUTF8
  | .softLink target => target.toUTF8
  | .special => ByteArray.empty

def zipMember (m : Member) : Member :=
  match m.item with
  | some item => ⟨cutAtNull m.name, some item.kept⟩
  | none =>
    let name := cutAtNull (withSlash m.name)
    ⟨name, if ['/'].isSuffixOf name.toList then none else some ByteArray.empty⟩

-- A tar archive keeps a text in a field of fixed width, which a null character
-- ends. Longer texts and those beyond ASCII are kept in a record of their own,
-- names without slashes behind.
def isRecorded (text : String) : Bool := 100 < text.length || text.toList.any (127 < ·.toNat)

def tarName (name : String) : String := if isRecorded name then trimSlashes name else cutAtNull name

def tarTarget (target : String) : String := if isRecorded target then target else cutAtNull target

def tarItem : Item → Item
  | .hardLink target => .hardLink (tarTarget target)
  | .softLink target => .softLink (tarTarget target)
  | item => item

def tarMember (m : Member) : Member :=
  match m.item with
  | some item => ⟨tarName m.name, some (tarItem item)⟩
  | none => ⟨trimSlashes (tarName (withSlash m.name)), none⟩

def sevenZipMember (m : Member) : Member :=
  let name := cutAtNull (Path.ofText m.name).text
  ⟨String.ofList (name.toList.map fun c => if c = '\\' then '/' else c), m.item.map fun item => item.kept⟩

def Format.listed : Format → Member → Member
  | zip => zipMember
  | tarXz => tarMember
  | sevenZip => sevenZipMember

def Member.isFile (m : Member) : Bool :=
  match m.item with
  | some (.bytes _) => true
  | _ => false

def Format.counts (format : Format) (m : Member) : Bool :=
  format != tarXz || m.isFile

def textName? (format : Format) (members : List Member) : Option String :=
  ((members.filter format.counts).map (·.name)).find? isTextName

def Member.place (m : Member) : List String := placeOf (Path.ofText m.name)

def Member.target? (m : Member) : Option (List String) :=
  match m.item with
  | some (.hardLink target) => some (placeOf (Path.ofText target))
  | _ => none

-- A hard link stands for the last member before it that lies at its target.
-- Members are given from the last one on.
def led (target : Option (List String)) : List Member → List Member
  | [] => []
  | m :: earlier => if target = some m.place then m :: led m.target? earlier else led target earlier

def trail (format : Format) (members : List Member) (name : String) : List Member :=
  let row := if format = .sevenZip then members else members.reverse
  match row.dropWhile (·.name != name) with
  | [] => []
  | m :: earlier => m :: led m.target? earlier

def Member.entry (m : Member) : Entry :=
  match m.item with
  | some (.bytes bytes) => .file (.bytes bytes)
  | _ => .directory

def settle (here : List String) : List String → Option (List String)
  | [] => some here
  | part :: rest =>
    if part = ".." then (if here = [] then none else settle here.dropLast rest)
    else settle (here ++ [part]) rest

def unpackAt (names : List String) (m : Member) : Except ArchiveError Folder :=
  if names.any isLongName then .error (.access .tooLong) else .ok (empty.install names m.entry)

def unpackZip (m : Member) : Except ArchiveError Folder :=
  unpackAt ((Path.ofText m.name).parts.filter (· != "..")) m

inductive TarRelease where
  | early
  | late
deriving DecidableEq

def linkFault? (name : String) (here : List String) (target : String) : Option ArchiveError :=
  let p := Path.ofText target
  if p.root ≠ "" then some (.absoluteLink name)
  else if target.toList.contains '\x00' then some (.access .nullCharacter)
  else if settle [] (here ++ p.parts) = none then some .linkOutside
  else none

def fault? (m : Member) : Option ArchiveError :=
  match m.item with
  | some (.hardLink target) => linkFault? m.name [] target
  | some (.softLink target) => linkFault? m.name (Path.ofText m.name).parts.dropLast target
  | some .special => some (.special m.name)
  | _ => none

-- Early releases refuse a way that ends at a directory which they have made
-- on it, as in b/../b.
def tarWay (release : TarRelease) (name : String) : Except ArchiveError Folder :=
  let pieces := (Path.pieces name.toList).filter (· ≠ [])
  let parts := (Path.ofText name).parts
  let way : Path := ⟨"", parts.dropLast⟩
  let made := empty.putWay way
  let taken := made.entry? (placeOf way) |>.isSome
  if way.parts.any isLongName then .error (.access .tooLong)
  else if release = .early ∧ way.parts ≠ [] ∧ pieces.dropLast.getLast? ≠ some ['.'] ∧ taken then .error .wayTaken
  else .ok (empty.putWay ⟨"", parts⟩)

def putSoftLink (f : Folder) (link : List String) : List String → List String → Except ArchiveError Folder
  | _, [] => .ok (f.putDirectory link)
  | here, part :: rest =>
    if part = ".." then putSoftLink f link (above here) rest
    else if isLongName part then .error (.access .tooLong)
    else match f.entry? (here ++ [part]) with
      | some .directory => putSoftLink f link (here ++ [part]) rest
      | _ => if here ++ [part] = link then .error .endlessLink else .ok f

def putItem (f : Folder) (p : Path) (names : List String) : Option Item → Except ArchiveError Folder
  | none => .ok (f.putDirectory names)
  | some (.bytes bytes) =>
    match f.write ⟨"", p.parts⟩ bytes with
    | .ok f => .ok f
    | .error e => .error (.access e)
  | some (.softLink target) =>
    let aim := Path.ofText target
    if p.root ≠ "" ∨ aim.root ≠ "" ∨ target = "" then .ok f
    else putSoftLink f names names.dropLast aim.parts
  | some (.hardLink _) => .ok f
  | some .special => .error (.special p.text)

def unpackTar (release : TarRelease) (m : Member) (led : List Member) : Except ArchiveError Folder :=
  let p := Path.ofText m.name
  if m.name.toList.contains '\x00' then .error (.access .nullCharacter)
  else match settle [] p.parts with
  | none => .error .outside
  | some names =>
    match fault? m with
    | some e => .error e
    | none =>
      match tarWay release m.name with
      | .error e => .error e
      | .ok f =>
        match m.item, led with
        | some (.hardLink target), [] =>
          match f.content (Path.ofText target) with
          | .error .isDirectory => .ok f
          | _ => .error (.missingTarget target)
        | _, _ => putItem f p names (led.getLastD m).item

def startsWithDrive (name : String) : Bool :=
  match name.toList with
  | letter :: ':' :: _ => letter.isAlpha
  | _ => false

def unpackSevenZip (m : Member) : Except ArchiveError Folder :=
  let name := String.ofList (m.name.toList.dropWhile (· == '/'))
  let parts := (Path.ofText name).parts
  if startsWithDrive name ∨ parts.contains ".." then .error (.badPath name)
  else unpackAt parts m

def unpack (release : TarRelease) (format : Format) (m : Member) (led : List Member) : Except ArchiveError Folder :=
  match format with
  | .zip => unpackZip m
  | .tarXz => unpackTar release m led
  | .sevenZip => unpackSevenZip m

def extract (release : TarRelease) (format : Format) (given : List Member) : Except ArchiveError ByteArray :=
  let members := given.map format.listed
  match textName? format members with
  | none => .error (.noText format)
  | some name =>
    match trail format members name with
    | [] => .error (.noText format)
    | m :: led =>
      match unpack release format m led with
      | .error e => .error e
      | .ok f =>
        match f.content (Path.ofText name) with
        | .ok (.bytes bytes) => .ok bytes
        | .ok (.archive _ _) => .error (.access .notFound)
        | .error e => .error (.access e)

end Reckoner.Folder
