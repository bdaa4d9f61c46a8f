import Reckoner.Proofs.ArchiveChoice

set_option autoImplicit false

namespace Reckoner.Folder

def HoldsOnly (f : Folder) (entry : Entry) : Prop := ∀ names content, (names, .file content) ∈ f.entries → .file content = entry

theorem empty_holds (entry : Entry) : empty.HoldsOnly entry := by
  intro names content member
  contradiction

theorem put_holds (f : Folder) (names : List String) (fresh entry : Entry) (only : f.HoldsOnly entry)
    (allowed : ∀ content, fresh = .file content → fresh = entry) : (f.put names fresh).HoldsOnly entry := by
  intro place content member
  cases List.mem_append.mp member with
  | inl kept => exact only place content (List.mem_filter.mp kept).1
  | inr new =>
      obtain ⟨-, rfl⟩ := Prod.mk.inj (List.mem_singleton.mp new)
      exact allowed content rfl

theorem put_directory_holds (f : Folder) (names : List String) (entry : Entry) (only : f.HoldsOnly entry) :
    (f.putDirectory names).HoldsOnly entry := by
  rw [putDirectory]
  split
  · exact only
  · exact put_holds f names .directory entry only (by simp)

theorem directories_hold (places : Nat → List String) (depths : List Nat) (f : Folder) (entry : Entry)
    (only : f.HoldsOnly entry) : (depths.foldl (fun f depth => f.putDirectory (places depth)) f).HoldsOnly entry := by
  induction depths generalizing f with
  | nil => exact only
  | cons depth depths ih => exact ih _ (put_directory_holds f _ entry only)

theorem install_holds (f : Folder) (names : List String) (entry : Entry) (only : f.HoldsOnly entry) :
    (f.install names entry).HoldsOnly entry := by
  have way := directories_hold (names.take ·) (List.range names.length) f entry only
  cases entry with
  | directory => exact put_directory_holds _ names .directory way
  | file content => exact put_holds _ names (.file content) (.file content) way (fun _ _ => rfl)

theorem unpack_at_holds (names : List String) (m : Member) (f : Folder) (unpacked : unpackAt names m = .ok f) :
    f.HoldsOnly m.entry := by
  rw [unpackAt] at unpacked
  by_cases long : names.any isLongName
  · rw [if_pos long] at unpacked
    contradiction
  · rw [if_neg long] at unpacked
    rw [← Except.ok.inj unpacked]
    exact install_holds empty names m.entry (empty_holds m.entry)

theorem write_holds (f g : Folder) (p : Path) (bytes : ByteArray) (only : f.HoldsOnly (.file (.bytes bytes)))
    (written : f.write p bytes = .ok g) : g.HoldsOnly (.file (.bytes bytes)) := by
  obtain ⟨names, -, -, rfl⟩ := write_cases f g p bytes written
  exact put_holds f names _ _ only (fun _ _ => rfl)

theorem put_soft_link_cases (f : Folder) (link here parts : List String) :
    putSoftLink f link here parts = .ok f ∨ putSoftLink f link here parts = .ok (f.putDirectory link) ∨
      putSoftLink f link here parts = .error (.access .tooLong) ∨ putSoftLink f link here parts = .error .endlessLink := by
  induction parts generalizing here with
  | nil => exact .inr (.inl rfl)
  | cons part rest ih =>
      rw [putSoftLink]
      by_cases up : part = ".."
      · rw [if_pos up]
        exact ih _
      · rw [if_neg up]
        by_cases long : isLongName part
        · rw [if_pos long]
          exact .inr (.inr (.inl rfl))
        · rw [if_neg long]
          split
          · exact ih _
          · by_cases own : here ++ [part] = link
            · rw [if_pos own]
              exact .inr (.inr (.inr rfl))
            · rw [if_neg own]
              exact .inl rfl

theorem put_soft_link_holds (f g : Folder) (link here parts : List String) (entry : Entry) (only : f.HoldsOnly entry)
    (put : putSoftLink f link here parts = .ok g) : g.HoldsOnly entry := by
  obtain dangling | directory | long | endless := put_soft_link_cases f link here parts
  · exact Except.ok.inj (dangling.symm.trans put) ▸ only
  · exact Except.ok.inj (directory.symm.trans put) ▸ put_directory_holds f link entry only
  · rw [long] at put
    contradiction
  · rw [endless] at put
    contradiction

theorem put_item_holds (f g : Folder) (p : Path) (names : List String) (m : Member) (clear : ∀ entry, f.HoldsOnly entry)
    (put : putItem f p names m.item = .ok g) : g.HoldsOnly m.entry := by
  cases held : m.item with
  | none =>
      rw [held, putItem] at put
      exact Except.ok.inj put ▸ put_directory_holds f names m.entry (clear m.entry)
  | some item =>
      rw [held] at put
      cases item with
      | bytes bytes =>
          rw [putItem] at put
          split at put
          · next g' written =>
              have entry : m.entry = .file (.bytes bytes) := by rw [Member.entry, held]
              rw [← Except.ok.inj put, entry]
              exact write_holds f g' _ bytes (clear _) written
          · contradiction
      | hardLink target =>
          rw [putItem] at put
          exact Except.ok.inj put ▸ clear m.entry
      | softLink target =>
          simp only [putItem] at put
          split at put
          · exact Except.ok.inj put ▸ clear m.entry
          · exact put_soft_link_holds f g names _ _ m.entry (clear m.entry) put
      | special =>
          rw [putItem] at put
          contradiction

theorem tar_way_clear (release : TarRelease) (name : String) (f : Folder) (way : tarWay release name = .ok f) (entry : Entry) :
    f.HoldsOnly entry := by
  simp only [tarWay] at way
  split at way
  · contradiction
  · split at way
    · contradiction
    · exact Except.ok.inj way ▸ directories_hold _ _ empty entry (empty_holds entry)

theorem unpack_tar_cases (release : TarRelease) (m : Member) (led : List Member) :
    (∃ e, unpackTar release m led = .error e ∧ (e = .access .nullCharacter ∨ e = .outside ∨ fault? m = some e ∨
      tarWay release m.name = .error e ∨ ∃ target, e = .missingTarget target)) ∨
    ∃ f, tarWay release m.name = .ok f ∧ (unpackTar release m led = .ok f ∨
      ∃ names, unpackTar release m led = putItem f (Path.ofText m.name) names (led.getLastD m).item) := by
  simp only [unpackTar]
  split
  · exact .inl ⟨_, rfl, .inl rfl⟩
  · split
    · exact .inl ⟨_, rfl, .inr (.inl rfl)⟩
    · next names _ =>
        split
        · next e fault => exact .inl ⟨e, rfl, .inr (.inr (.inl fault))⟩
        · split
          · next e failed => exact .inl ⟨e, rfl, .inr (.inr (.inr (.inl failed)))⟩
          · next f made =>
              split
              · next target _ =>
                  split
                  · exact .inr ⟨f, made, .inl rfl⟩
                  · exact .inl ⟨_, rfl, .inr (.inr (.inr (.inr ⟨target, rfl⟩)))⟩
              · exact .inr ⟨f, made, .inr ⟨names, rfl⟩⟩

theorem unpack_tar_holds (release : TarRelease) (m : Member) (led : List Member) (f : Folder)
    (unpacked : unpackTar release m led = .ok f) : f.HoldsOnly (led.getLastD m).entry := by
  obtain ⟨e, failed, -⟩ | ⟨way, made, result⟩ := unpack_tar_cases release m led
  · rw [failed] at unpacked
    contradiction
  · have clear := tar_way_clear release m.name way made
    obtain empty | ⟨names, put⟩ := result
    · exact Except.ok.inj (empty.symm.trans unpacked) ▸ clear _
    · exact put_item_holds way f _ names _ clear (put.symm.trans unpacked)

theorem unpack_holds (release : TarRelease) (format : Format) (m : Member) (led : List Member) (f : Folder)
    (alone : format ≠ .tarXz → led = []) (unpacked : unpack release format m led = .ok f) :
    f.HoldsOnly (led.getLastD m).entry := by
  cases format with
  | zip =>
      rw [alone (by decide)]
      exact unpack_at_holds _ m f unpacked
  | tarXz => exact unpack_tar_holds release m led f unpacked
  | sevenZip =>
      rw [alone (by decide)]
      rw [unpack, unpackSevenZip] at unpacked
      split at unpacked
      · contradiction
      · exact unpack_at_holds _ m f unpacked

theorem content_holds (f : Folder) (p : Path) (content : Content) (entry : Entry) (only : f.HoldsOnly entry)
    (read : f.content p = .ok content) : entry = .file content := by
  rw [Folder.content] at read
  split at read
  · contradiction
  · next names _ =>
      split at read
      · next held found =>
          obtain rfl := Except.ok.inj read
          unfold entry? at found
          split at found
          · simp at found
          · obtain ⟨front, behind, split, -⟩ := List.lookup_eq_some_iff.mp found
            exact (only names held (by rw [split]; simp)).symm
      · contradiction
      · contradiction

theorem entry_bytes (m : Member) (bytes : ByteArray) (file : m.entry = .file (.bytes bytes)) :
    m.item = some (.bytes bytes) := by
  rw [Member.entry] at file
  split at file
  · next own held =>
      obtain rfl := Content.bytes.inj (Entry.file.inj file)
      exact held
  · contradiction

theorem unpacked_bytes (release : TarRelease) (format : Format) (m : Member) (led : List Member) (bytes : ByteArray)
    (alone : format ≠ .tarXz → led = []) (read : unpackedBytes release format m led = .ok bytes) :
    (led.getLastD m).item = some (.bytes bytes) := by
  rw [unpackedBytes] at read
  split at read
  · contradiction
  · next f unpacked =>
      have only := unpack_holds release format m led f alone unpacked
      split at read
      · next own found =>
          rw [← Except.ok.inj read]
          exact entry_bytes _ own (content_holds f _ _ _ only found)
      · contradiction
      · contradiction

theorem unpack_at_named (names : List String) (m : Member) (format : Format) :
    unpackAt names m ≠ .error (.noText format) := by
  rw [unpackAt]
  split <;> simp

theorem put_soft_link_named (f : Folder) (link here parts : List String) (format : Format) :
    putSoftLink f link here parts ≠ .error (.noText format) := by
  obtain result | result | result | result := put_soft_link_cases f link here parts
  all_goals simp [result]

theorem put_item_named (f : Folder) (p : Path) (names : List String) (item : Option Item) (format : Format) :
    putItem f p names item ≠ .error (.noText format) := by
  cases item with
  | none => simp [putItem]
  | some item =>
      cases item with
      | bytes bytes =>
          rw [putItem]
          split <;> simp
      | hardLink target => simp [putItem]
      | softLink target =>
          simp only [putItem]
          split
          · simp
          · exact put_soft_link_named f names _ _ format
      | special => simp [putItem]

theorem link_fault_named (name target : String) (here : List String) (format : Format) :
    linkFault? name here target ≠ some (.noText format) := by
  simp only [linkFault?]
  repeat' split
  all_goals simp

theorem fault_named (m : Member) (format : Format) : fault? m ≠ some (.noText format) := by
  rw [fault?]
  split
  · exact link_fault_named _ _ _ format
  · exact link_fault_named _ _ _ format
  · simp
  · simp

theorem tar_way_named (release : TarRelease) (name : String) (format : Format) :
    tarWay release name ≠ .error (.noText format) := by
  simp only [tarWay]
  repeat' split
  all_goals simp

theorem unpack_tar_named (release : TarRelease) (m : Member) (led : List Member) (format : Format) :
    unpackTar release m led ≠ .error (.noText format) := by
  intro unnamed
  obtain ⟨e, failed, reason⟩ | ⟨f, -, result⟩ := unpack_tar_cases release m led
  · obtain rfl := Except.error.inj (failed.symm.trans unnamed)
    obtain other | other | fault | way | ⟨target, other⟩ := reason
    · contradiction
    · contradiction
    · exact fault_named m format fault
    · exact tar_way_named release m.name format way
    · contradiction
  · obtain empty | ⟨names, put⟩ := result
    · rw [empty] at unnamed
      contradiction
    · exact put_item_named f _ names _ format (put.symm.trans unnamed)

theorem unpack_named (release : TarRelease) (format other : Format) (m : Member) (led : List Member) :
    unpack release format m led ≠ .error (.noText other) := by
  cases format with
  | zip => exact unpack_at_named _ m other
  | tarXz => exact unpack_tar_named release m led other
  | sevenZip =>
      simp only [unpack, unpackSevenZip]
      split
      · simp
      · exact unpack_at_named _ m other

theorem unpacked_named (release : TarRelease) (format other : Format) (m : Member) (led : List Member) :
    unpackedBytes release format m led ≠ .error (.noText other) := by
  rw [unpackedBytes]
  split
  · next e failed =>
      intro same
      rw [Except.error.inj same] at failed
      exact unpack_named release format other m led failed
  · split <;> simp

theorem tar_way_releases (release : TarRelease) (name : String) :
    tarWay release name = tarWay .late name ∨ tarWay release name = .error .wayTaken := by
  cases release with
  | late => exact .inl rfl
  | early =>
      simp only [tarWay]
      split
      · exact .inl rfl
      · split
        · exact .inr rfl
        · exact .inl (by simp)

theorem unpack_tar_releases (release : TarRelease) (m : Member) (led : List Member) :
    unpackTar release m led = unpackTar .late m led ∨ unpackTar release m led = .error .wayTaken := by
  obtain same | taken := tar_way_releases release m.name
  · exact .inl (by simp only [unpackTar, same])
  · simp only [unpackTar, taken]
    split
    · exact .inl rfl
    · cases settle [] (Path.ofText m.name).parts with
      | none => exact .inl rfl
      | some names =>
          cases fault? m with
          | some e => exact .inl rfl
          | none => exact .inr rfl

theorem unpacked_releases (release : TarRelease) (format : Format) (m : Member) (led : List Member) :
    unpackedBytes release format m led = unpackedBytes .late format m led ∨
      unpackedBytes release format m led = .error .wayTaken := by
  cases format with
  | zip => exact .inl rfl
  | sevenZip => exact .inl rfl
  | tarXz =>
      obtain same | taken := unpack_tar_releases release m led
      · exact .inl (by simp only [unpackedBytes, unpack, same])
      · exact .inr (by simp only [unpackedBytes, unpack, taken])

example : unpackedBytes .late .tarXz ⟨"b/../sums.txt", some "3".toUTF8⟩ [] = .ok "3".toUTF8 := rfl

example : unpackedBytes .early .tarXz ⟨"b/../sums.txt", some "3".toUTF8⟩ [] = .error .wayTaken := rfl

end Reckoner.Folder
