import Reckoner.Command.Run
import Reckoner.Proofs.Grammar
import Reckoner.Proofs.Outcome

set_option autoImplicit false

namespace Reckoner

namespace Batch

structure LineByLine (content : String) (entries : List Entry) : Prop where
  counted : entries.length = (Text.filledLines content.toList).length
  each : ∀ i line, (Text.filledLines content.toList)[i]? = some line →
    ∃ request entry, Request.ofLine (String.ofList (Text.strip line)) (i + 1) = .ok request ∧
      request.answer = .ok entry ∧ entries[i]? = some entry

theorem filled_expression (c : String) (i : Nat) (line : List Char)
    (found : (Text.filledLines c.toList)[i]? = some line) :
    (Folder.expressionsOf c)[i]? = some (String.ofList (Text.strip line)) := by
  rw [Folder.expressionsOf, Text.content_lines_filled, List.getElem?_map, List.getElem?_map, found]
  rfl

theorem entries_for (c : String) : LineByLine c (entriesFrom 1 (Folder.expressionsOf c)) where
  counted := by
    rw [entriesFrom, List.length_map, List.length_zipIdx, Folder.expressionsOf, Text.content_lines_filled,
      List.length_map, List.length_map]
  each := by
    intro i line found
    have expression := filled_expression c i line found
    have filled := Folder.expression_filled c _ (List.mem_of_getElem? expression)
    refine ⟨_, _, Request.line_ok _ (i + 1) filled (by omega), request_outcome _, ?_⟩
    exact entry_at _ i _ expression

theorem all_succeed (c : String) :
    (entriesFrom 1 (Folder.expressionsOf c)).all (·.outcome.succeeded) = true ↔
      ∀ line ∈ Text.filledLines c.toList, Text.strip line ∈ Grammar.sentence := by
  have outcomes := entries_map (·.outcome.succeeded) (fun t => (outcomeOf t).succeeded) (fun _ _ => rfl)
    (Folder.expressionsOf c) 1
  have views : (entriesFrom 1 (Folder.expressionsOf c)).all (·.outcome.succeeded) =
      (Folder.expressionsOf c).all fun t => (outcomeOf t).succeeded := by
    have all := congrArg (List.all · id) outcomes
    simp only [List.all_map] at all
    exact all
  rw [views, List.all_eq_true, Folder.expressionsOf, Text.content_lines_filled]
  simp only [List.mem_map, forall_exists_index, and_imp, forall_apply_eq_imp_iff₂, outcome_succeeds, accepted_iff,
    String.toList_ofList]

theorem run_answers (f : Folder) (input output : Path) (c : String) (readable : f.readText input = .ok c)
    (opens : f.Opens output) :
    ∃ entries, (run f input output).entries = .ok entries ∧ LineByLine c entries ∧
      String.join (entries.map fun e => e.line ++ "\n") = resultsFor c ∧
      (run f input output).folder.content output = .ok (.bytes (resultsFor c).toUTF8) := by
  obtain ⟨entries, content⟩ := run_content f input output c readable opens
  refine ⟨_, entries, entries_for c, ?_, content⟩
  rw [resultsFor, answers_from _ 1 (Nat.le_refl 1) (Folder.expression_filled c)]
  rfl

end Batch

namespace Command

theorem batch_ending (f : Folder) (verbose : Bool) (input output : Path) (given : Option Path) (c : String)
    (target : given.or input.results? = some output) (readable : f.readText input = .ok c) (opens : f.Opens output) :
    (runBatch f verbose input given).1.ending = .exit (batchStatus (Batch.entriesFrom 1 (Folder.expressionsOf c))) := by
  have entries := (Batch.run_content f input output c readable opens).1
  simp only [runBatch, target, entries]

theorem file_run (f : Folder) (arguments : List String) (settings : Settings) (input : Path)
    (read : Settings.ofArguments f arguments = .ok settings) (given : settings.file = some input) :
    run f arguments = runBatch f settings.verbose input settings.output := by
  simp only [run, read, given]

theorem batch_status (c : String) :
    (batchStatus (Batch.entriesFrom 1 (Folder.expressionsOf c)) = 0 ↔
      ∀ line ∈ Text.filledLines c.toList, Text.strip line ∈ Grammar.sentence) ∧
    (batchStatus (Batch.entriesFrom 1 (Folder.expressionsOf c)) = 1 ↔
      ¬ ∀ line ∈ Text.filledLines c.toList, Text.strip line ∈ Grammar.sentence) := by
  rw [← Batch.all_succeed, batchStatus]
  split
  · next all => simp [all]
  · next some => simp [some]

end Command

theorem batch_lines_stand_alone :
    (∀ f input output c, Folder.readText f input = .ok c → f.Opens output →
      ∃ entries, (Batch.run f input output).entries = .ok entries ∧ Batch.LineByLine c entries ∧
        String.join (entries.map fun e => e.line ++ "\n") = Batch.resultsFor c ∧
        (Batch.run f input output).folder.content output = .ok (.bytes (Batch.resultsFor c).toUTF8)) ∧
    (∀ first second, Batch.resultsFor (first ++ "\n" ++ second) = Batch.resultsFor first ++ Batch.resultsFor second) ∧
    ∀ f arguments settings input output c, Command.Settings.ofArguments f arguments = .ok settings →
      settings.file = some input → settings.output.or input.results? = some output →
      Folder.readText f input = .ok c → f.Opens output →
        ((Command.run f arguments).1.ending = .exit 0 ↔
          ∀ line ∈ Text.filledLines c.toList, Text.strip line ∈ Grammar.sentence) ∧
        ((Command.run f arguments).1.ending = .exit 1 ↔
          ¬ ∀ line ∈ Text.filledLines c.toList, Text.strip line ∈ Grammar.sentence) := by
  refine ⟨Batch.run_answers, Batch.results_seam, ?_⟩
  intro f arguments settings input output c read given target readable opens
  have ending := Command.batch_ending f settings.verbose input output settings.output c target readable opens
  rw [Command.file_run f arguments settings input read given, ending]
  simp only [Command.Ending.exit.injEq]
  exact Command.batch_status c

def sums : Folder := ⟨[(["sums.txt"], .file (.bytes "1+\r\n\n 2*3\x85x = 1".toUTF8))]⟩

def sumsText : String := "1+\n\n 2*3\x85x = 1"

def sumsResults : String :=
  "1+ -> ERROR: Missing right-hand side number for 1+.\n2*3 = 6\n" ++
    "x = 1 -> ERROR: Unrecognized expression character: 'x' (at position 0)\n"

theorem sums_readable : sums.readText (Path.ofText "sums.txt") = .ok sumsText := by
  have file : sums.readText (Path.ofText "sums.txt") = Folder.decodeText "1+\r\n\n 2*3\x85x = 1".toUTF8 := rfl
  rw [file, Folder.decode_text]
  rfl

theorem batch_lines_stand_alone_with_errors :
    Folder.readText sums (Path.ofText "sums.txt") = .ok sumsText ∧ sums.Opens (Path.ofText "results.txt") ∧
      (∃ entries request entry,
        (Batch.run sums (Path.ofText "sums.txt") (Path.ofText "results.txt")).entries = .ok entries ∧
        entries.length = 3 ∧ Request.ofLine "2*3" 2 = .ok request ∧ request.answer = .ok entry ∧
        entries[1]? = some entry) ∧
      (Batch.run sums (Path.ofText "sums.txt") (Path.ofText "results.txt")).folder.content (Path.ofText "results.txt") =
        .ok (.bytes sumsResults.toUTF8) ∧
      (Command.run sums ["-f", "sums.txt", "-o", "results.txt"]).1.ending = .exit 1 := by
  have opens : sums.Opens (Path.ofText "results.txt") := ⟨_, rfl⟩
  obtain ⟨entries, done, lines, -, content⟩ := batch_lines_stand_alone.1 sums _ _ sumsText sums_readable opens
  refine ⟨sums_readable, opens, ?_, ?_, ?_⟩
  · obtain ⟨request, entry, valid, answered, second⟩ := lines.each 1 " 2*3".toList rfl
    exact ⟨entries, request, entry, done, lines.counted, valid, answered, second⟩
  · have results : Batch.resultsFor sumsText = sumsResults := by decide +kernel
    rw [content, results]
  · have settings : Command.Settings.ofArguments sums ["-f", "sums.txt", "-o", "results.txt"] =
        .ok ⟨"", false, some (Path.ofText "sums.txt"), some (Path.ofText "results.txt")⟩ := rfl
    refine (batch_lines_stand_alone.2.2 sums _ _ _ _ sumsText settings rfl rfl sums_readable opens).2.mpr ?_
    intro all
    have accepted := all "1+".toList (by decide +kernel)
    obtain ⟨tree, parsed⟩ := (accepted_iff "1+").mpr accepted
    obtain ⟨e, rejected⟩ : ∃ e, parse "1+" = .error e := ⟨_, rfl⟩
    exact absurd (parsed.symm.trans rejected) (by simp)

end Reckoner
