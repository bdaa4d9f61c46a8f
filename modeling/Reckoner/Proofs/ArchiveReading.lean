import Mathlib.Data.List.DropRight
import Reckoner.Proofs.Unpacking

set_option autoImplicit false

namespace Reckoner

namespace Folder

structure HasArchive (f : Folder) (p : Path) (format : Format) (given : List Member) : Prop where
  named : formatOf? p = some format
  content : f.content p = .ok (.archive format given)
  plain : format ≠ .tarXz → ∀ m ∈ given, ∀ item, m.item = some item → ∃ bytes, item = .bytes bytes

def readTrail (release : TarRelease) (format : Format) : List Member → Except ReadError String
  | [] => .error (.archive (.noText format))
  | m :: led =>
    match unpackedBytes release format m led with
    | .error e => .error (.archive e)
    | .ok bytes => decodeText bytes

theorem archive_reads (release : TarRelease) (f : Folder) (p : Path) (format : Format) (given : List Member)
    (held : f.HasArchive p format given) (listed : format ≠ .sevenZip) :
    f.readArchiveWith release p = readTrail release format (trailOf format (given.map format.listed)) := by
  simp only [readArchiveWith, held.named, held.content, members, if_true, extract_trail release format listed]
  cases trailOf format (given.map format.listed) with
  | nil => rfl
  | cons m led => rfl

theorem same_trail (release : TarRelease) (f f' : Folder) (p p' : Path) (format : Format) (given given' taken : List Member)
    (listed : format ≠ .sevenZip) (held : f.HasArchive p format given) (held' : f'.HasArchive p' format given')
    (placed : IsTrail format (given.map format.listed) taken) (placed' : IsTrail format (given'.map format.listed) taken) :
    f'.readArchiveWith release p' = f.readArchiveWith release p := by
  rw [archive_reads release f p format given held listed, archive_reads release f' p' format given' held' listed,
    (trail_iff format listed _ taken).mpr placed, (trail_iff format listed _ taken).mpr placed']

theorem zip_file (m : Member) (item : Item) (given : m.item = some item) :
    (zipMember m).item = some (.bytes item.kept) := by
  rw [zipMember, given]

theorem zip_directory (m : Member) (given : m.item = none) :
    (zipMember m).item = if ['/'].isSuffixOf (cutAtNull (withSlash m.name)).toList then none else some (.bytes ByteArray.empty) := by
  rw [zipMember, given]

theorem zip_target (m : Member) : (zipMember m).target? = none := by
  rw [Member.target?]
  cases given : m.item with
  | some item => rw [zip_file m item given]
  | none =>
      rw [zip_directory m given]
      by_cases slash : ['/'].isSuffixOf (cutAtNull (withSlash m.name)).toList = true
      · rw [if_pos slash]
      · rw [if_neg slash]

theorem zip_trail (given taken : List Member) (placed : IsTrail .zip (given.map zipMember) taken) : taken.length ≤ 1 := by
  cases placed with
  | unnamed untitled => simp
  | named before after rest m split first last leads =>
      have member : m ∈ given.map zipMember := by simp [split]
      obtain ⟨g, -, rfl⟩ := List.mem_map.mp member
      cases leads with
      | plain before m item => simp
      | lost before m place link nowhere => simp
      | on before after m o rest link last further => simp [zip_target] at link

theorem leads_members (before : List Member) (m : Member) (rest : List Member) (leads : Leads before m rest) :
    ∀ o ∈ rest, o ∈ before := by
  induction leads with
  | plain before m item => simp
  | lost before m place link nowhere => simp
  | on before after m o rest link last further ih =>
      intro passed member
      cases List.mem_cons.mp member with
      | inl same => simp [same]
      | inr later => exact List.mem_append_left _ (ih passed later)

theorem trail_members (format : Format) (members taken : List Member) (placed : IsTrail format members taken) :
    ∀ o ∈ taken, o ∈ members := by
  cases placed with
  | unnamed untitled => simp
  | named before after rest m split first last leads =>
      intro o member
      rw [split]
      cases List.mem_cons.mp member with
      | inl same => simp [same]
      | inr later => exact List.mem_append_left _ (leads_members before m rest leads o later)

-- What a member has to give: its own bytes. A directory of a zip archive whose
-- name is cut before its slash is taken for an empty file.
def Member.Holds (format : Format) (m : Member) (bytes : ByteArray) : Prop :=
  m.item = some (.bytes bytes) ∨ format = .zip ∧ m.item = none ∧ '\x00' ∈ m.name.toList ∧ bytes = ByteArray.empty

theorem cut_whole (name : String) (whole : '\x00' ∉ name.toList) : cutAtNull name = name := by
  have all : ∀ c ∈ name.toList, (c != '\x00') = true := by
    intro c member
    exact bne_iff_ne.mpr fun same => whole (same ▸ member)
  rw [cutAtNull, List.takeWhile_eq_self_iff.mpr all, String.ofList_toList]

theorem with_slash_whole (name : String) (whole : '\x00' ∉ name.toList) : '\x00' ∉ (withSlash name).toList := by
  rw [withSlash, String.toList_append, trimSlashes, String.toList_ofList]
  intro member
  cases List.mem_append.mp member with
  | inl within =>
      have kept := (List.dropWhile_sublist _).subset (List.mem_reverse.mp within)
      exact whole (List.mem_reverse.mp kept)
  | inr slash => simp at slash

theorem slash_behind (name : String) (whole : '\x00' ∉ name.toList) :
    ['/'].isSuffixOf (cutAtNull (withSlash name)).toList = true := by
  rw [cut_whole _ (with_slash_whole name whole), withSlash, String.toList_append, List.isSuffixOf_iff_suffix]
  exact List.suffix_append _ _

theorem tar_item_bytes (item : Item) (bytes : ByteArray) (listed : tarItem item = .bytes bytes) : item = .bytes bytes := by
  cases item with
  | bytes own => exact listed
  | hardLink target => contradiction
  | softLink target => contradiction
  | special => contradiction

theorem zip_holds (g : Member) (bytes : ByteArray) (plain : ∀ item, g.item = some item → ∃ own, item = .bytes own)
    (held : (zipMember g).item = some (.bytes bytes)) : g.Holds .zip bytes := by
  cases given : g.item with
  | some item =>
      obtain ⟨own, rfl⟩ := plain item given
      rw [zip_file g _ given] at held
      exact .inl (given.trans held)
  | none =>
      rw [zip_directory g given] at held
      by_cases slash : ['/'].isSuffixOf (cutAtNull (withSlash g.name)).toList = true
      · rw [if_pos slash] at held
        contradiction
      · rw [if_neg slash] at held
        have cut : '\x00' ∈ g.name.toList := by
          by_contra whole
          exact slash (slash_behind g.name whole)
        exact .inr ⟨rfl, given, cut, (Item.bytes.inj (Option.some.inj held)).symm⟩

theorem tar_holds (g : Member) (bytes : ByteArray) (held : (tarMember g).item = some (.bytes bytes)) :
    g.Holds .tarXz bytes := by
  rw [tarMember] at held
  cases given : g.item with
  | some item =>
      simp only [given, Option.some.injEq] at held
      exact .inl (by rw [given, tar_item_bytes item bytes held])
  | none => simp [given] at held

theorem listed_holds (format : Format) (known : format ≠ .sevenZip) (g : Member) (bytes : ByteArray)
    (plain : format ≠ .tarXz → ∀ item, g.item = some item → ∃ own, item = .bytes own)
    (held : (format.listed g).item = some (.bytes bytes)) : g.Holds format bytes := by
  cases format with
  | zip => exact zip_holds g bytes (plain (by decide)) held
  | tarXz => exact tar_holds g bytes held
  | sevenZip => exact absurd rfl known

theorem read_trail_ok (release : TarRelease) (format : Format) (taken : List Member) (text : String)
    (alone : format ≠ .tarXz → taken.length ≤ 1) (read : readTrail release format taken = .ok text) :
    ∃ last bytes decoded, taken.getLast? = some last ∧ last.item = some (.bytes bytes) ∧
      Utf8.decode bytes = .ok decoded ∧ text = String.ofList (Text.unifyBreaks decoded.toList) := by
  cases taken with
  | nil => contradiction
  | cons m led =>
      have single : format ≠ .tarXz → led = [] := by
        intro other
        have short := alone other
        rw [List.length_cons] at short
        exact List.length_eq_zero_iff.mp (by omega)
      rw [readTrail] at read
      split at read
      · contradiction
      · next bytes unpacked =>
          rw [decodeText] at read
          split at read
          · next decoded decodes =>
              refine ⟨led.getLastD m, bytes, decoded, ?_, ?_, decodes, (Except.ok.inj read).symm⟩
              · rw [List.getLast?_cons, List.getLastD_eq_getLast?]
              · exact unpacked_bytes release format m led bytes single unpacked
          · contradiction

theorem read_trail_unnamed (release : TarRelease) (format : Format) (taken : List Member) :
    readTrail release format taken = .error (.archive (.noText format)) ↔ taken = [] := by
  cases taken with
  | nil => exact ⟨fun _ => rfl, fun _ => rfl⟩
  | cons m led =>
      refine ⟨?_, by simp⟩
      intro unnamed
      rw [readTrail] at unnamed
      split at unnamed
      · next e failed =>
          rw [ReadError.archive.inj (Except.error.inj unnamed)] at failed
          exact absurd failed (unpacked_named release format format m led)
      · rw [decodeText] at unnamed
        split at unnamed
        · contradiction
        · simp at unnamed

theorem read_trail_releases (release : TarRelease) (format : Format) (taken : List Member) :
    readTrail release format taken = readTrail .late format taken ∨
      readTrail release format taken = .error (.archive .wayTaken) := by
  cases taken with
  | nil => exact .inl rfl
  | cons m led =>
      obtain same | refused := unpacked_releases release format m led
      · exact .inl (by simp only [readTrail, same])
      · exact .inr (by simp only [readTrail, refused])

theorem archive_releases (release : TarRelease) (f : Folder) (p : Path) (format : Format) (given : List Member)
    (held : f.HasArchive p format given) (listed : format ≠ .sevenZip) :
    f.readArchiveWith release p = f.readArchive p ∨ f.readArchiveWith release p = .error (.archive .wayTaken) := by
  rw [readArchive, archive_reads release f p format given held listed, archive_reads .late f p format given held listed]
  exact read_trail_releases release format _

theorem archive_success (release : TarRelease) (f : Folder) (p : Path) (format : Format) (given taken : List Member)
    (text : String) (held : f.HasArchive p format given) (listed : format ≠ .sevenZip)
    (placed : IsTrail format (given.map format.listed) taken) (read : f.readArchiveWith release p = .ok text) :
    ∃ g ∈ given, ∃ bytes decoded, taken.getLast? = some (format.listed g) ∧ g.Holds format bytes ∧
      Utf8.decode bytes = .ok decoded ∧ text = String.ofList (Text.unifyBreaks decoded.toList) := by
  rw [archive_reads release f p format given held listed, (trail_iff format listed _ taken).mpr placed] at read
  have alone : format ≠ .tarXz → taken.length ≤ 1 := by
    intro other
    cases format with
    | zip => exact zip_trail given taken placed
    | tarXz => exact absurd rfl other
    | sevenZip => exact absurd rfl listed
  obtain ⟨last, bytes, decoded, final, own, decodes, unified⟩ := read_trail_ok release format taken text alone read
  obtain ⟨g, member, rfl⟩ := List.mem_map.mp (trail_members format _ taken placed last (List.mem_of_getLast? final))
  exact ⟨g, member, bytes, decoded, final, listed_holds format listed g bytes (fun other => held.plain other g member) own,
    decodes, unified⟩

theorem archive_unnamed (release : TarRelease) (f : Folder) (p : Path) (format : Format) (given : List Member)
    (held : f.HasArchive p format given) (listed : format ≠ .sevenZip) :
    f.readArchiveWith release p = .error (.archive (.noText format)) ↔
      ∀ m ∈ given.map format.listed, ¬ IsTextMember format m := by
  rw [archive_reads release f p format given held listed, read_trail_unnamed, trail_of_empty format listed]

theorem trim_chars (name : String) : (trimSlashes name).toList.reverse = name.toList.reverse.dropWhile (· == '/') := by
  rw [trimSlashes, String.toList_ofList, List.reverse_reverse]

theorem trim_trimmed (name : String) : trimSlashes (trimSlashes name) = trimSlashes name := by
  conv => lhs; rw [trimSlashes, trim_chars, List.dropWhile_idempotent]
  rw [trimSlashes]

theorem trim_slash (name : String) : trimSlashes (withSlash name) = trimSlashes name := by
  have turned : (withSlash name).toList.reverse = '/' :: (trimSlashes name).toList.reverse := by
    rw [withSlash, String.toList_append, List.reverse_append]
    rfl
  rw [trimSlashes, turned, List.dropWhile_cons_of_pos (by decide)]
  exact trim_trimmed name

theorem tar_name_trimmed (name : String) (whole : '\x00' ∉ name.toList) : trimSlashes (tarName name) = trimSlashes name := by
  rw [tarName]
  split
  · exact trim_trimmed name
  · rw [cut_whole name whole]

theorem listed_name (format : Format) (m : Member) (listed : format ≠ .sevenZip) (whole : '\x00' ∉ m.name.toList) :
    trimSlashes (format.listed m).name = trimSlashes m.name := by
  have slashed := with_slash_whole m.name whole
  cases format with
  | zip =>
      rw [Format.listed, zipMember]
      cases m.item with
      | some item => exact congrArg trimSlashes (cut_whole m.name whole)
      | none => exact (congrArg trimSlashes (cut_whole _ slashed)).trans (trim_slash m.name)
  | tarXz =>
      rw [Format.listed, tarMember]
      cases m.item with
      | some item => exact tar_name_trimmed m.name whole
      | none => exact (trim_trimmed _).trans ((tar_name_trimmed _ slashed).trans (trim_slash m.name))
  | sevenZip => exact absurd rfl listed

theorem listed_unchanged (format : Format) (m : Member) (listed : format ≠ .sevenZip) (whole : '\x00' ∉ m.name.toList)
    (trimmed : trimSlashes m.name = m.name) (item : m.item ≠ none) : (format.listed m).name = m.name := by
  obtain ⟨own, given⟩ := Option.ne_none_iff_exists'.mp item
  cases format with
  | zip =>
      rw [Format.listed, zipMember, given]
      exact cut_whole m.name whole
  | tarXz =>
      rw [Format.listed, tarMember, given]
      by_cases recorded : isRecorded m.name
      · exact (if_pos recorded).trans trimmed
      · exact (if_neg recorded).trans (cut_whole m.name whole)
  | sevenZip => exact absurd rfl listed

theorem inserted_reads (release : TarRelease) (f f' : Folder) (p p' : Path) (format : Format)
    (given given' taken : List Member) (listed : format ≠ .sevenZip) (held : f.HasArchive p format given)
    (held' : f'.HasArchive p' format given') (placed : IsTrail format (given.map format.listed) taken)
    (inserted : Inserted (fun o => Beside taken (format.listed o)) given given') :
    f'.readArchiveWith release p' = f.readArchiveWith release p := by
  have within := inserted_mapped _ (Beside taken) format.listed given given' inserted (fun _ beside => beside)
  exact same_trail release f f' p p' format given given' taken listed held held' placed
    (trail_inserted format _ _ taken placed within)

theorem appended_reads (release : TarRelease) (f f' : Folder) (p p' : Path) (format : Format)
    (given extra rest : List Member) (m : Member) (listed : format ≠ .sevenZip) (held : f.HasArchive p format given)
    (held' : f'.HasArchive p' format (given ++ extra)) (placed : IsTrail format (given.map format.listed) (m :: rest))
    (others : ∀ o ∈ extra, trimSlashes (format.listed o).name ≠ m.name) :
    f'.readArchiveWith release p' = f.readArchiveWith release p := by
  have apart : ∀ o ∈ extra.map format.listed, trimSlashes o.name ≠ m.name := by
    intro o member
    obtain ⟨raw, inside, rfl⟩ := List.mem_map.mp member
    exact others raw inside
  have still := trail_appended format _ _ m rest placed apart
  rw [← List.map_append] at still
  exact same_trail release f f' p p' format given _ _ listed held held' placed still

end Folder

def linkedText : List Folder.Member :=
  [⟨"old.txt", none⟩, ⟨"sums.txt", some "0".toUTF8⟩, ⟨"data.bin", some "1+1\r\n".toUTF8⟩,
    ⟨"sums.txt", some (.hardLink "./data.bin")⟩]

def surroundedText : List Folder.Member :=
  [⟨"readme", some "?".toUTF8⟩, ⟨"old.txt", none⟩, ⟨"sums.txt", some "0".toUTF8⟩, ⟨"data.bin", some "1+1\r\n".toUTF8⟩,
    ⟨"notes/", none⟩, ⟨"sums.txt", some (.hardLink "./data.bin")⟩]

def repeatedText : List Folder.Member := [⟨"sums.txt", some "0".toUTF8⟩, ⟨"sums.txt", some "2+2\r".toUTF8⟩]

def tarFolder (members : List Folder.Member) : Folder := ⟨[(["sums.tar.xz"], .file (.archive .tarXz members))]⟩

def tarPath : Path := Path.ofText "sums.tar.xz"

def zipFolder (members : List Folder.Member) : Folder := ⟨[(["sums.zip"], .file (.archive .zip members))]⟩

def zipPath : Path := Path.ofText "sums.zip"

theorem tar_folder_held (members : List Folder.Member) : (tarFolder members).HasArchive tarPath .tarXz members :=
  ⟨by decide +kernel, rfl, fun other => absurd rfl other⟩

theorem zip_folder_held (members : List Folder.Member)
    (plain : ∀ m ∈ members, ∀ item, m.item = some item → ∃ bytes, item = .bytes bytes) :
    (zipFolder members).HasArchive zipPath .zip members :=
  ⟨by decide +kernel, rfl, fun _ => plain⟩

theorem tar_folder_reads (members : List Folder.Member) (taken : List Folder.Member)
    (trail : Folder.trailOf .tarXz (members.map Folder.tarMember) = taken) :
    (tarFolder members).readArchive tarPath = Folder.readTrail .late .tarXz taken := by
  rw [← trail]
  exact Folder.archive_reads .late _ _ _ _ (tar_folder_held members) (by decide)

def lostText : List Folder.Member := [⟨"sums.txt", some "0".toUTF8⟩, ⟨"sums.txt", some (.hardLink "data.bin")⟩]

def foundText : List Folder.Member :=
  [⟨"sums.txt", some "0".toUTF8⟩, ⟨"data.bin", some "2+2".toUTF8⟩, ⟨"sums.txt", some (.hardLink "data.bin")⟩]

end Reckoner
