import Reckoner.Folder.Reading

set_option autoImplicit false

namespace Reckoner.Folder

theorem lookup_kept (keep : List String → Bool) (entries : List (List String × Entry)) (names : List String) :
    (entries.filter fun entry => keep entry.1).lookup names = if keep names then entries.lookup names else none := by
  induction entries with
  | nil => simp
  | cons entry tail ih =>
      obtain ⟨key, held⟩ := entry
      by_cases same : names = key
      · cases kept : keep key with
        | true => simp [same, kept]
        | false =>
            rw [same] at ih ⊢
            rw [List.filter_cons_of_neg (by simp [kept]), ih, kept, if_neg Bool.false_ne_true, if_neg Bool.false_ne_true]
      · have skipped : (names == key) = false := beq_false_of_ne same
        cases kept : keep key with
        | true => rw [List.filter_cons_of_pos (by simp [kept]), List.lookup_cons, List.lookup_cons, skipped, ih]
        | false => rw [List.filter_cons_of_neg (by simp [kept]), List.lookup_cons, skipped, ih]

theorem put_entry (f : Folder) (names : List String) (entry : Entry) (inside : ¬ (isUpward names ∨ names = root)) :
    entry? (f.put names entry) names = some entry := by
  have gone := lookup_kept (· != names) f.entries names
  rw [put, entry?, if_neg inside, List.lookup_append, gone]
  simp

theorem put_others (f : Folder) (names other : List String) (entry : Entry) (different : other ≠ names) :
    entry? (f.put names entry) other = f.entry? other := by
  have skipped : (other == names) = false := beq_false_of_ne different
  have stays := lookup_kept (· != names) f.entries other
  rw [put, entry?, entry?, List.lookup_append, stays]
  simp [List.lookup_cons, skipped, different]

theorem follow_put (f : Folder) (names here place parts : List String) (entry : Entry)
    (free : f.entry? names ≠ some .directory) (followed : f.follow here parts = .ok place) :
    (f.put names entry).follow here parts = .ok place := by
  induction parts generalizing here with
  | nil => exact followed
  | cons part rest ih =>
      rw [follow] at followed ⊢
      by_cases upward : part = ".."
      · rw [if_pos upward] at followed ⊢
        exact ih _ followed
      · rw [if_neg upward] at followed ⊢
        by_cases long : isLongName part
        · rw [if_pos long] at followed
          contradiction
        · rw [if_neg long] at followed ⊢
          by_cases last : rest = []
          · rw [if_pos last] at followed ⊢
            exact followed
          · rw [if_neg last] at followed ⊢
            cases next : f.entry? (here ++ [part]) with
            | none =>
                rw [next] at followed
                contradiction
            | some held =>
                cases held with
                | file content =>
                    rw [next] at followed
                    contradiction
                | directory =>
                    have different : here ++ [part] ≠ names := by
                      intro same
                      exact free (same ▸ next)
                    rw [put_others f names _ entry different, next]
                    rw [next] at followed
                    exact ih _ followed

theorem locate_put (f : Folder) (p : Path) (names place : List String) (entry : Entry)
    (free : f.entry? names ≠ some .directory) (located : f.locate p = .ok place) :
    (f.put names entry).locate p = .ok place := by
  rw [locate] at located ⊢
  by_cases null : p.text.toList.contains '\x00'
  · rw [if_pos null] at located
    contradiction
  · rw [if_neg null] at located ⊢
    by_cases long : pathLimit < p.text.utf8ByteSize
    · rw [if_pos long] at located
      contradiction
    · rw [if_neg long] at located ⊢
      exact follow_put f names (start p) place p.parts entry free located

theorem write_cases (f g : Folder) (p : Path) (bytes : ByteArray) (written : f.write p bytes = .ok g) :
    ∃ names, f.locate p = .ok names ∧ f.entry? names ≠ some .directory ∧ g = f.put names (.file (.bytes bytes)) := by
  rw [write] at written
  cases located : f.locate p with
  | error e =>
      rw [located] at written
      contradiction
  | ok names =>
      simp only [located] at written
      refine ⟨names, rfl, ?_⟩
      cases held : f.entry? names with
      | some entry =>
          cases entry with
          | directory => simp [held] at written
          | file content =>
              simp only [held, Except.ok.injEq] at written
              exact ⟨by simp, written.symm⟩
      | none =>
          simp only [held] at written
          refine ⟨by simp, ?_⟩
          cases parent : f.entry? names.dropLast with
          | none => simp [parent] at written
          | some entry =>
              cases entry with
              | file content => simp [parent] at written
              | directory =>
                  simp only [parent, Except.ok.injEq] at written
                  exact written.symm

theorem written_content (f g : Folder) (p : Path) (bytes : ByteArray) (written : f.write p bytes = .ok g) :
    g.content p = .ok (.bytes bytes) := by
  obtain ⟨names, located, free, rfl⟩ := write_cases f g p bytes written
  have inside : ¬ (isUpward names ∨ names = root) := by
    intro outside
    exact free (if_pos outside)
  rw [content, locate_put f p names names _ free located]
  simp only [put_entry f names _ inside]

theorem write_other (f g : Folder) (p : Path) (bytes other : ByteArray) (written : f.write p bytes = .ok g) :
    ∃ h, f.write p other = .ok h := by
  rw [write] at written ⊢
  split at written
  · contradiction
  · next names located =>
      split at written
      · contradiction
      · exact ⟨_, rfl⟩
      · split at written
        · exact ⟨_, rfl⟩
        · contradiction
        · contradiction

def Opens (f : Folder) (p : Path) : Prop := ∃ g, f.write p ByteArray.empty = .ok g

theorem opens_iff (f : Folder) (p : Path) (bytes : ByteArray) : f.Opens p ↔ ∃ g, f.write p bytes = .ok g := by
  refine ⟨?_, ?_⟩
  · intro opens
    obtain ⟨g, written⟩ := opens
    exact write_other f g p _ bytes written
  · intro opens
    obtain ⟨g, written⟩ := opens
    exact write_other f g p bytes _ written

theorem decode_written (text : String) : Utf8.decode text.toUTF8 = .ok text := by
  rw [Utf8.decode, String.fromUTF8?, String.toUTF8_eq_toByteArray, dif_pos text.isValidUTF8]
  rfl

theorem decode_text (text : String) : decodeText text.toUTF8 = .ok (String.ofList (Text.unifyBreaks text.toList)) := by
  rw [decodeText, decode_written]

end Reckoner.Folder
