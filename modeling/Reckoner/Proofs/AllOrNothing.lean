import Reckoner.Proofs.Decoding

set_option autoImplicit false

namespace Reckoner

namespace Folder

theorem written_elsewhere (f g : Folder) (p : Path) (bytes : ByteArray) (written : f.write p bytes = .ok g) :
    ∃ place, f.locate p = .ok place ∧ ∀ names, names ≠ place → g.entry? names = f.entry? names := by
  obtain ⟨place, located, -, rfl⟩ := write_cases f g p bytes written
  exact ⟨place, located, fun names different => put_others f place names _ different⟩

end Folder

namespace Batch

structure Completed (f : Folder) (output : Path) (expressions : List String) (report : Report)
    (entries : List Entry) : Prop where
  returned : report.entries = .ok entries
  asked : entries.map (·.expression) = expressions
  answered : ∀ e ∈ entries, Request.answer ⟨e.expression, e.lineNumber⟩ = .ok e
  written : ∃ text : String, report.folder.content output = .ok (.bytes text.toUTF8) ∧
    Text.lines text.toList = entries.map fun e => e.line.toList
  elsewhere : ∃ place, f.locate output = .ok place ∧
    ∀ names, names ≠ place → report.folder.entry? names = f.entry? names

theorem run_unread (f : Folder) (input output : Path) (e : ReadError) (unread : f.readExpressions input = .error e) :
    (run f input output).entries = .error (.read e) ∧ (run f input output).folder = f := by
  simp only [run, unread, and_self]

theorem entry_answered (expressions : List String) (lineNumber : Nat) (e : Entry)
    (member : e ∈ entriesFrom lineNumber expressions) : Request.answer ⟨e.expression, e.lineNumber⟩ = .ok e := by
  obtain ⟨line, -, rfl⟩ := List.mem_map.mp member
  exact request_outcome _

theorem run_completed (f : Folder) (input output : Path) (expressions : List String) (opens : f.Opens output)
    (read : f.readExpressions input = .ok expressions) :
    Completed f output expressions (run f input output) (entriesFrom 1 expressions) := by
  obtain ⟨c, readable, rfl⟩ := Folder.expressions_cases f input expressions read
  obtain ⟨returned, written⟩ := run_written f input output c readable opens
  exact {
    returned
    asked := (entries_map (·.expression) id (fun _ _ => rfl) _ 1).trans (List.map_id _)
    answered := entry_answered _ 1
    written := (run_lines f input output _ returned).2
    elsewhere := Folder.written_elsewhere f _ output _ written }

end Batch

theorem batch_all_or_nothing (f : Folder) (input output : Path) (opens : f.Opens output) :
    (∀ e, f.readExpressions input = .error e →
      (Batch.run f input output).entries = .error (.read e) ∧ (Batch.run f input output).folder = f) ∧
    ∀ expressions, f.readExpressions input = .ok expressions →
      ∃ entries, Batch.Completed f output expressions (Batch.run f input output) entries :=
  ⟨Batch.run_unread f input output, fun expressions read =>
    ⟨_, Batch.run_completed f input output expressions opens read⟩⟩

def textless : Folder := ⟨[(["notes.zip"], .file (.archive .zip [⟨"notes.md", some "1+1".toUTF8⟩])),
  (["old.txt"], .file (.bytes "1 = 1\n".toUTF8))]⟩

theorem batch_all_or_nothing_in_place :
    (∃ entries, Batch.Completed sums (Path.ofText "sums.txt") ["1+", "2*3", "x = 1"]
      (Batch.run sums (Path.ofText "sums.txt") (Path.ofText "sums.txt")) entries) ∧
      textless.readExpressions (Path.ofText "notes.zip") = .error (.archive (.noText .zip)) ∧
      (Batch.run textless (Path.ofText "notes.zip") (Path.ofText "old.txt")).entries =
        .error (.read (.archive (.noText .zip))) ∧
      (Batch.run textless (Path.ofText "notes.zip") (Path.ofText "old.txt")).folder = textless := by
  have opens : sums.Opens (Path.ofText "sums.txt") := ⟨_, rfl⟩
  have read : sums.readExpressions (Path.ofText "sums.txt") = .ok ["1+", "2*3", "x = 1"] := by
    rw [Folder.readExpressions, sums_readable]
    rfl
  have oldOpens : textless.Opens (Path.ofText "old.txt") := ⟨_, rfl⟩
  have unread : textless.readExpressions (Path.ofText "notes.zip") = .error (.archive (.noText .zip)) := rfl
  have completed := (batch_all_or_nothing sums (Path.ofText "sums.txt") _ opens).2 _ read
  exact ⟨completed, unread, (batch_all_or_nothing textless _ _ oldOpens).1 _ unread⟩

end Reckoner
