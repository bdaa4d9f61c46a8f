import Reckoner.Proofs.Batch
import Reckoner.Proofs.Wording

set_option autoImplicit false

namespace Reckoner

theorem result_quiet (x : Double) : Quiet none x.text.toList := by
  cases x with
  | nan => exact Quiet.all none _ rfl
  | infinite negative => cases negative <;> exact Quiet.all none _ rfl
  | finite negative m =>
      have sign : Quiet none (Double.signText negative).toList := by
        cases negative <;> exact Quiet.all none _ rfl
      refine Quiet.joined none _ _ sign ?_
      rw [String.toList_ofList]
      intro c member
      cases Decimal.write_plain (Decimal.shortest m) c member with
      | inl digit => exact .inr (quiet_digit c digit)
      | inr mark => exact Quiet.all none ['.', 'e', '+', '-'] rfl c mark

theorem accepted_without (cs : List Char) (tree : Expr) (accepted : parseChars cs = .ok tree) :
    '=' ∉ cs ∧ '>' ∉ cs := by
  obtain ⟨m, reached, -⟩ := (accepts_iff cs).mp ⟨tree, accepted⟩
  have equals : ∀ m : Mode, m.next '=' = none := by
    intro m
    cases m <;> rfl
  have arrow : ∀ m : Mode, m.next '>' = none := by
    intro m
    cases m <;> rfl
  exact ⟨Mode.run_without '=' equals cs .operand m reached, Mode.run_without '>' arrow cs .operand m reached⟩

def resultMark : List Char := [' ', '=', ' ']

def errorMark : List Char := [' ', '-', '>', ' ', 'E', 'R', 'R', 'O', 'R', ':', ' ']

inductive LineShape (t line : List Char) : Prop where
  | result (text : List Char) (written : line = t ++ (resultMark ++ text)) (noEquals : '=' ∉ t) (noArrow : '>' ∉ t)
      (quiet : Quiet none text)
  | failure (odd : Option Char) (message : List Char) (written : line = t ++ (errorMark ++ message))
      (unbroken : ∀ c, odd = some c → Text.isLineBreak c = false) (quiet : Quiet odd message)

theorem answer_line_shape (t : String) : LineShape t.toList (Batch.answerLine t).toList := by
  cases calculate_cases t with
  | inl rejected =>
      obtain ⟨e, parsed, calculated⟩ := rejected
      obtain ⟨odd, unbroken, quiet⟩ := rejection_worded t.toList e parsed
      refine .failure odd e.message.toList ?_ unbroken quiet
      rw [Batch.line_rejected t e calculated, String.toList_append, String.toList_append]
      rfl
  | inr accepted =>
      obtain ⟨tree, x, parsed, calculated⟩ := accepted
      obtain ⟨noEquals, noArrow⟩ := accepted_without t.toList tree parsed
      refine .result x.text.toList ?_ noEquals noArrow (result_quiet x)
      rw [Batch.line_accepted t x.text calculated, String.toList_append, String.toList_append]
      rfl

theorem mark_again (between first second : List Char) (k : Nat) (bound : k < errorMark.length)
    (same : errorMark ++ first = between ++ (errorMark ++ second)) :
    (errorMark ++ first)[between.length + k]? = errorMark[k]? := by
  rw [same, List.getElem?_append_right (Nat.le_add_right _ _), Nat.add_sub_cancel_left,
    List.getElem?_append_left bound]

theorem mark_behind (between first second : List Char) (k : Nat) (c : Char)
    (same : errorMark ++ first = between ++ (errorMark ++ second)) (inMark : errorMark[k]? = some c)
    (past : errorMark.length ≤ between.length + k) : c ∈ first := by
  have again := mark_again between first second k (List.getElem?_eq_some_iff.mp inMark).1 same
  rw [List.getElem?_append_right past, inMark] at again
  exact List.mem_of_getElem? again

theorem marks_apart (between first second : List Char) (odd : Option Char)
    (same : errorMark ++ first = between ++ (errorMark ++ second)) (quiet : Quiet odd first) : between = [] := by
  cases between with
  | nil => rfl
  | cons c rest =>
      have far : errorMark.length ≤ (c :: rest).length + 2 := by
        apply Nat.le_of_not_lt
        intro near
        have again := mark_again (c :: rest) first second 2 (by decide) same
        rw [List.getElem?_append_left near] at again
        have once : ∀ i < errorMark.length, errorMark[i]? = errorMark[2]? → i = 2 := by decide
        have place := once _ near again
        rw [List.length_cons] at place
        omega
      have arrow := mark_behind (c :: rest) first second 2 '>' same rfl far
      have letter := mark_behind (c :: rest) first second 8 'R' same rfl (by omega)
      cases quiet '>' arrow with
      | inr isQuiet => contradiction
      | inl named =>
          cases quiet 'R' letter with
          | inr isQuiet => contradiction
          | inl other =>
              rw [named] at other
              contradiction

theorem error_texts (t other first second : List Char) (odd otherOdd : Option Char)
    (same : t ++ (errorMark ++ first) = other ++ (errorMark ++ second)) (quiet : Quiet odd first)
    (otherQuiet : Quiet otherOdd second) : t = other := by
  cases List.append_eq_append_iff.mp same with
  | inl longer =>
      obtain ⟨between, rfl, marks⟩ := longer
      rw [marks_apart between first second odd marks quiet, List.append_nil]
  | inr shorter =>
      obtain ⟨between, rfl, marks⟩ := shorter
      rw [marks_apart between second first otherOdd marks otherQuiet, List.append_nil]

theorem result_texts (t other first second : List Char)
    (same : t ++ (resultMark ++ first) = other ++ (resultMark ++ second)) (noEquals : '=' ∉ t)
    (quiet : Quiet none first) : t = other := by
  have front : '=' ∉ t ++ [' '] := by simpa using noEquals
  have behind : '=' ∉ ' ' :: first := by
    intro member
    cases List.mem_cons.mp member with
    | inl blank => contradiction
    | inr inText => cases quiet '=' inText <;> contradiction
  have equals : (t ++ [' ']) ++ '=' :: (' ' :: first) = (other ++ [' ']) ++ '=' :: (' ' :: second) := by
    simpa [resultMark] using same
  exact List.append_cancel_right ((List.append_cons_inj_of_notMem front behind).mp equals).1

theorem result_no_arrow (t text : List Char) (noArrow : '>' ∉ t) (quiet : Quiet none text) :
    '>' ∉ t ++ (resultMark ++ text) := by
  intro member
  cases List.mem_append.mp member with
  | inl inFront => exact noArrow inFront
  | inr behind =>
      cases List.mem_append.mp behind with
      | inl inMark => exact absurd inMark (by decide)
      | inr inText => cases quiet '>' inText <;> contradiction

theorem error_arrow (t message : List Char) : '>' ∈ t ++ (errorMark ++ message) := by
  refine List.mem_append_right t (List.mem_append_left message ?_)
  decide

theorem shape_text (t other line : List Char) (shape : LineShape t line) (otherShape : LineShape other line) :
    t = other := by
  cases shape with
  | result text written noEquals noArrow quiet =>
      cases otherShape with
      | result otherText otherWritten _ _ _ =>
          exact result_texts t other text otherText (written.symm.trans otherWritten) noEquals quiet
      | failure _ message otherWritten _ _ =>
          have arrow := error_arrow other message
          rw [← otherWritten, written] at arrow
          exact absurd arrow (result_no_arrow t text noArrow quiet)
  | failure odd message written _ quiet =>
      cases otherShape with
      | result otherText otherWritten _ otherNoArrow otherQuiet =>
          have arrow := error_arrow t message
          rw [← written, otherWritten] at arrow
          exact absurd arrow (result_no_arrow other otherText otherNoArrow otherQuiet)
      | failure otherOdd otherMessage otherWritten _ otherQuiet =>
          exact error_texts t other message otherMessage odd otherOdd (written.symm.trans otherWritten) quiet otherQuiet

theorem mark_unbroken (mark : List Char) (unbroken : mark.all (!Text.isLineBreak ·) = true) :
    ∀ c ∈ mark, Text.isLineBreak c = false := by
  intro c member
  simpa using List.all_eq_true.mp unbroken c member

theorem shape_unbroken (t line : List Char) (shape : LineShape t line) (unbroken : ∀ c ∈ t, Text.isLineBreak c = false) :
    ∀ c ∈ line, Text.isLineBreak c = false := by
  cases shape with
  | result text written _ _ quiet =>
      have mark := mark_unbroken resultMark rfl
      have behind := Quiet.unbroken none text quiet (by simp)
      rw [written, List.forall_mem_append, List.forall_mem_append]
      exact ⟨unbroken, mark, behind⟩
  | failure odd message written named quiet =>
      have mark := mark_unbroken errorMark rfl
      have behind := Quiet.unbroken odd message quiet named
      rw [written, List.forall_mem_append, List.forall_mem_append]
      exact ⟨unbroken, mark, behind⟩

namespace Batch

theorem answer_line_text (t other : String) (same : answerLine t = answerLine other) : t = other := by
  have otherShape := answer_line_shape other
  rw [← same] at otherShape
  exact String.toList_inj.mp (shape_text _ _ _ (answer_line_shape t) otherShape)

theorem answer_lines (expressions : List String)
    (unbroken : ∀ t ∈ expressions, ∀ c ∈ t.toList, Text.isLineBreak c = false) :
    Text.lines (String.join (expressions.map fun t => answerLine t ++ "\n")).toList =
      expressions.map fun t => (answerLine t).toList := by
  induction expressions with
  | nil => rfl
  | cons t rest ih =>
      have later := ih (fun other member => unbroken other (List.mem_cons_of_mem _ member))
      have line := shape_unbroken _ _ (answer_line_shape t) (unbroken t List.mem_cons_self)
      rw [List.map_cons, String.join_cons, String.append_assoc, String.toList_append, String.toList_append]
      rw [show "\n".toList = ['\n'] from rfl, List.singleton_append, Text.lines_ended _ _ line, later, List.map_cons]

theorem results_lines (c : String) :
    Text.lines (resultsFor c).toList = (Folder.expressionsOf c).map fun t => (answerLine t).toList := by
  rw [results_for]
  exact answer_lines _ (Folder.expression_unbroken c)

theorem equal_texts (first second : String) (same : resultsFor first = resultsFor second) :
    Folder.expressionsOf first = Folder.expressionsOf second := by
  have lines := results_lines first
  rw [same, results_lines second] at lines
  refine (List.map_inj_right ?_).mp lines.symm
  intro t other equal
  exact answer_line_text t other (String.toList_inj.mp equal)

theorem run_lines (f : Folder) (input output : Path) (entries : List Entry)
    (done : (run f input output).entries = .ok entries) :
    (∀ e ∈ entries, ∀ c ∈ e.line.toList, Text.isLineBreak c = false) ∧
      ∃ text : String, (run f input output).folder.content output = .ok (.bytes text.toUTF8) ∧
        Text.lines text.toList = entries.map fun e => e.line.toList := by
  obtain ⟨c, readable, opens⟩ := run_done f input output entries done
  obtain ⟨answered, content⟩ := run_content f input output c readable opens
  obtain rfl := Except.ok.inj (done.symm.trans answered)
  have views := entries_map (·.line.toList) (fun t => (answerLine t).toList) (fun _ _ => rfl) (Folder.expressionsOf c) 1
  refine ⟨?_, _, content, (results_lines c).trans views.symm⟩
  intro e member d inLine
  have listed : e.line.toList ∈ (Folder.expressionsOf c).map fun t => (answerLine t).toList :=
    views ▸ List.mem_map_of_mem member
  obtain ⟨t, inTexts, line⟩ := List.mem_map.mp listed
  rw [← line] at inLine
  exact shape_unbroken _ _ (answer_line_shape t) (Folder.expression_unbroken c t inTexts) d inLine

theorem equal_lines (first second : Request) (entry other : Entry) (answered : first.answer = .ok entry)
    (otherAnswered : second.answer = .ok other) (same : entry.line = other.line) :
    first.expression = second.expression ∧ entry.outcome = other.outcome := by
  rw [request_outcome] at answered otherAnswered
  obtain rfl := Except.ok.inj answered
  obtain rfl := Except.ok.inj otherAnswered
  have texts : first.expression = second.expression := answer_line_text _ _ same
  exact ⟨texts, congrArg outcomeOf texts⟩

theorem equal_results (f g : Folder) (input output source target : Path) (entries others : List Entry)
    (done : (run f input output).entries = .ok entries) (otherDone : (run g source target).entries = .ok others)
    (same : (run f input output).folder.content output = (run g source target).folder.content target) :
    ∃ expressions, f.readExpressions input = .ok expressions ∧ g.readExpressions source = .ok expressions ∧
      entries = others := by
  obtain ⟨c, readable, opens⟩ := run_done f input output entries done
  obtain ⟨d, otherReadable, otherOpens⟩ := run_done g source target others otherDone
  obtain ⟨answered, content⟩ := run_content f input output c readable opens
  obtain ⟨otherAnswered, otherContent⟩ := run_content g source target d otherReadable otherOpens
  rw [content, otherContent] at same
  have bytes : (resultsFor c).toUTF8 = (resultsFor d).toUTF8 := Folder.Content.bytes.inj (Except.ok.inj same)
  have expressions := equal_texts c d (String.toByteArray_inj.mp bytes)
  obtain rfl := Except.ok.inj (done.symm.trans answered)
  obtain rfl := Except.ok.inj (otherDone.symm.trans otherAnswered)
  refine ⟨Folder.expressionsOf c, ?_, ?_, by rw [expressions]⟩
  · rw [Folder.readExpressions, readable]
  · rw [Folder.readExpressions, otherReadable, expressions]

end Batch

theorem results_file_decodes :
    (∀ f input output entries, (Batch.run f input output).entries = .ok entries →
      (∀ e ∈ entries, ∀ c ∈ (Entry.line e).toList, Text.isLineBreak c = false) ∧
        ∃ text : String, (Batch.run f input output).folder.content output = .ok (.bytes text.toUTF8) ∧
          Text.lines text.toList = entries.map fun e => e.line.toList) ∧
    (∀ first second entry other, Request.answer first = .ok entry → Request.answer second = .ok other →
      entry.line = other.line → first.expression = second.expression ∧ entry.outcome = other.outcome) ∧
    ∀ f g input output source target entries others, (Batch.run f input output).entries = .ok entries →
      (Batch.run g source target).entries = .ok others →
      (Batch.run f input output).folder.content output = (Batch.run g source target).folder.content target →
        ∃ expressions, f.readExpressions input = .ok expressions ∧ g.readExpressions source = .ok expressions ∧
          entries = others :=
  ⟨Batch.run_lines, Batch.equal_lines, Batch.equal_results⟩

def spacedSums : Folder := ⟨[(["spaced.txt"], .file (.bytes "\n1+  \r2*3\n\u2028x = 1\n".toUTF8))]⟩

def spacedSumsText : String := "\n1+  \n2*3\n\u2028x = 1\n"

theorem spaced_sums_readable : spacedSums.readText (Path.ofText "spaced.txt") = .ok spacedSumsText := by
  have file : spacedSums.readText (Path.ofText "spaced.txt") =
      Folder.decodeText "\n1+  \r2*3\n\u2028x = 1\n".toUTF8 := rfl
  rw [file, Folder.decode_text]
  rfl

theorem results_file_decodes_other_breaks :
    (∀ c ∈ (Entry.mk "x = 1" 3 (outcomeOf "x = 1")).line.toList, Text.isLineBreak c = false) ∧
      (∃ text : String, (Batch.run sums (Path.ofText "sums.txt") (Path.ofText "results.txt")).folder.content
        (Path.ofText "results.txt") = .ok (.bytes text.toUTF8) ∧ (Text.lines text.toList).length = 3) ∧
      (∃ entry other, Request.answer ⟨"x = 1", 3⟩ = .ok entry ∧ Request.answer ⟨"x = 1", 7⟩ = .ok other ∧
        entry.line = other.line ∧ entry.outcome = other.outcome) ∧
      ∃ expressions, sums.readExpressions (Path.ofText "sums.txt") = .ok expressions ∧
        spacedSums.readExpressions (Path.ofText "spaced.txt") = .ok expressions := by
  have opens : sums.Opens (Path.ofText "results.txt") := ⟨_, rfl⟩
  have spacedOpens : spacedSums.Opens (Path.ofText "results.txt") := ⟨_, rfl⟩
  obtain ⟨done, content⟩ := Batch.run_content sums _ _ sumsText sums_readable opens
  obtain ⟨spacedDone, spacedContent⟩ := Batch.run_content spacedSums _ _ spacedSumsText spaced_sums_readable spacedOpens
  have same : Batch.resultsFor sumsText = Batch.resultsFor spacedSumsText := by decide +kernel
  refine ⟨?_, ?_, ?_, ?_⟩
  · have third := Batch.entry_at (Folder.expressionsOf sumsText) 2 "x = 1" rfl
    exact (results_file_decodes.1 sums _ _ _ done).1 _ (List.mem_of_getElem? third)
  · obtain ⟨-, text, written, lines⟩ := results_file_decodes.1 sums _ _ _ done
    refine ⟨text, written, ?_⟩
    rw [lines, List.length_map, Batch.entriesFrom, List.length_map, List.length_zipIdx]
    rfl
  · refine ⟨_, _, request_outcome _, request_outcome _, rfl, ?_⟩
    exact (results_file_decodes.2.1 _ _ _ _ (request_outcome _) (request_outcome _) rfl).2
  · obtain ⟨expressions, read, spacedRead, -⟩ :=
      results_file_decodes.2.2 sums spacedSums _ _ _ _ _ _ done spacedDone (by rw [content, spacedContent, same])
    exact ⟨expressions, read, spacedRead⟩

end Reckoner
