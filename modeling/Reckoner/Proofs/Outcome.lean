import Reckoner.Proofs.Agreement
import Reckoner.Proofs.LineText
import Reckoner.Proofs.Writing
import Reckoner.Batch.Run

set_option autoImplicit false

namespace Reckoner

theorem calculate_cases (t : String) :
    (∃ e, parse t = .error e ∧ calculate t = .error (.parse e)) ∨
      ∃ tree x, parse t = .ok tree ∧ calculate t = .ok (Double.text x) := by
  cases parsed : parse t with
  | error e => exact .inl ⟨e, rfl, by rw [calculate, reduceText, parsed]⟩
  | ok tree =>
      obtain ⟨x, valued⟩ := parsed_value t tree parsed
      have simplified : tree.simplify = .ok (.literal x.text) := by
        rw [Expr.simplify_value, valued]
        rfl
      refine .inr ⟨tree, x, rfl, ?_⟩
      rw [calculate, reduceText, parsed]
      simp only [simplified, Expr.render_text, Expr.text]

def outcomeOf (t : String) : Outcome :=
  match calculate t with
  | .ok text => .result text
  | .error e => .failure e.message

theorem outcome_rejected (t : String) (e : ParseError) (calculated : calculate t = .error (.parse e)) :
    outcomeOf t = .failure e.message := by
  rw [outcomeOf, calculated]
  rfl

theorem outcome_accepted (t text : String) (calculated : calculate t = .ok text) : outcomeOf t = .result text := by
  rw [outcomeOf, calculated]

theorem request_outcome (r : Request) : r.answer = .ok ⟨r.expression, r.lineNumber, outcomeOf r.expression⟩ := by
  rw [Request.answer]
  cases calculate_cases r.expression with
  | inl rejected =>
      obtain ⟨e, -, calculated⟩ := rejected
      rw [calculated, outcome_rejected r.expression e calculated]
  | inr accepted =>
      obtain ⟨-, x, -, calculated⟩ := accepted
      rw [calculated, outcome_accepted r.expression _ calculated]

theorem outcome_succeeds (t : String) : (outcomeOf t).succeeded = true ↔ ∃ tree, parse t = .ok tree := by
  cases calculate_cases t with
  | inl rejected =>
      obtain ⟨e, parsed, calculated⟩ := rejected
      rw [outcome_rejected t e calculated, parsed]
      simp [Outcome.succeeded]
  | inr accepted =>
      obtain ⟨tree, x, parsed, calculated⟩ := accepted
      rw [outcome_accepted t _ calculated, parsed]
      simp [Outcome.succeeded]

namespace Folder

theorem expressions_cases (f : Folder) (p : Path) (expressions : List String)
    (read : f.readExpressions p = .ok expressions) : ∃ c, f.readText p = .ok c ∧ expressions = expressionsOf c := by
  rw [readExpressions] at read
  cases readable : f.readText p with
  | error e =>
      rw [readable] at read
      contradiction
  | ok c =>
      rw [readable] at read
      exact ⟨c, rfl, (Except.ok.inj read).symm⟩

theorem expressions_seam (first second : String) :
    expressionsOf (first ++ "\n" ++ second) = expressionsOf first ++ expressionsOf second := by
  have joined : (first ++ "\n" ++ second).toList = first.toList ++ '\n' :: second.toList := by simp
  rw [expressionsOf, joined, Text.content_lines_filled, Text.filled_lines_seam, List.map_append, List.map_append,
    ← Text.content_lines_filled, ← Text.content_lines_filled, expressionsOf, expressionsOf]

theorem expression_filled (c t : String) (member : t ∈ expressionsOf c) : Text.strip t.toList ≠ [] := by
  obtain ⟨line, inLines, rfl⟩ := List.mem_map.mp member
  rw [String.toList_ofList]
  exact Text.content_line_filled c.toList line inLines

theorem expression_unbroken (c t : String) (member : t ∈ expressionsOf c) :
    ∀ d ∈ t.toList, Text.isLineBreak d = false := by
  obtain ⟨line, inLines, rfl⟩ := List.mem_map.mp member
  rw [String.toList_ofList]
  exact Text.content_line_unbroken c.toList line inLines

end Folder

namespace Batch

def entriesFrom (lineNumber : Nat) (expressions : List String) : List Entry :=
  (expressions.zipIdx lineNumber).map fun line => ⟨line.1, line.2, outcomeOf line.1⟩

theorem answers_from (expressions : List String) (lineNumber : Nat) (counted : 1 ≤ lineNumber)
    (filled : ∀ t ∈ expressions, Text.strip t.toList ≠ []) :
    answerFrom lineNumber expressions = ⟨entriesFrom lineNumber expressions, none⟩ := by
  induction expressions generalizing lineNumber with
  | nil => rfl
  | cons t rest ih =>
      have request := Request.line_ok t lineNumber (filled t List.mem_cons_self) counted
      have later := ih (lineNumber + 1) (by omega) (fun other member => filled other (List.mem_cons_of_mem _ member))
      simp only [answerFrom, request, request_outcome, later]
      rfl

def resultsFor (content : String) : String := resultsText (answerFrom 1 (Folder.expressionsOf content)).entries

theorem entries_map {α : Type} (view : Entry → α) (viewOf : String → α)
    (same : ∀ t lineNumber, view ⟨t, lineNumber, outcomeOf t⟩ = viewOf t) (expressions : List String)
    (lineNumber : Nat) : (entriesFrom lineNumber expressions).map view = expressions.map viewOf := by
  rw [entriesFrom, List.map_map]
  induction expressions generalizing lineNumber with
  | nil => rfl
  | cons t rest ih =>
      rw [List.zipIdx_cons, List.map_cons, List.map_cons, ih]
      exact congrArg (· :: _) (same t lineNumber)

def answerLine (t : String) : String := (Entry.mk t 1 (outcomeOf t)).line

theorem line_rejected (t : String) (e : ParseError) (calculated : calculate t = .error (.parse e)) :
    answerLine t = t ++ (" -> ERROR: " ++ e.message) := by
  rw [answerLine, outcome_rejected t e calculated, ← String.append_assoc]
  rfl

theorem line_accepted (t text : String) (calculated : calculate t = .ok text) :
    answerLine t = t ++ (" = " ++ text) := by
  rw [answerLine, outcome_accepted t text calculated, ← String.append_assoc]
  rfl

theorem results_text (expressions : List String) (lineNumber : Nat) :
    resultsText (entriesFrom lineNumber expressions) = String.join (expressions.map fun t => answerLine t ++ "\n") :=
  congrArg String.join (entries_map (·.line ++ "\n") _ (fun _ _ => rfl) expressions lineNumber)

theorem results_for (content : String) :
    resultsFor content = String.join ((Folder.expressionsOf content).map fun t => answerLine t ++ "\n") := by
  rw [resultsFor, answers_from _ 1 (Nat.le_refl 1) (Folder.expression_filled content)]
  exact results_text _ 1

theorem results_seam (first second : String) :
    resultsFor (first ++ "\n" ++ second) = resultsFor first ++ resultsFor second := by
  rw [results_for, Folder.expressions_seam, List.map_append, String.join_append, results_for, results_for]

theorem run_written (f : Folder) (input output : Path) (c : String) (readable : f.readText input = .ok c)
    (opens : f.Opens output) :
    (run f input output).entries = .ok (entriesFrom 1 (Folder.expressionsOf c)) ∧
      f.write output (resultsFor c).toUTF8 = .ok (run f input output).folder := by
  have expressions : f.readExpressions input = .ok (Folder.expressionsOf c) := by
    rw [Folder.readExpressions, readable]
  have answers := answers_from _ 1 (Nat.le_refl 1) (Folder.expression_filled c)
  obtain ⟨g, written⟩ := (Folder.opens_iff f output (resultsFor c).toUTF8).mp opens
  rw [resultsFor, answers] at written
  refine ⟨?_, ?_⟩
  · simp only [run, expressions, answers, written]
  · simp only [run, expressions, answers, resultsFor, written]

theorem run_content (f : Folder) (input output : Path) (c : String) (readable : f.readText input = .ok c)
    (opens : f.Opens output) :
    (run f input output).entries = .ok (entriesFrom 1 (Folder.expressionsOf c)) ∧
      (run f input output).folder.content output = .ok (.bytes (resultsFor c).toUTF8) := by
  obtain ⟨answered, written⟩ := run_written f input output c readable opens
  exact ⟨answered, Folder.written_content f _ output _ written⟩

theorem run_done (f : Folder) (input output : Path) (entries : List Entry)
    (done : (run f input output).entries = .ok entries) : ∃ c, f.readText input = .ok c ∧ f.Opens output := by
  cases readable : f.readText input with
  | error e =>
      simp only [run, Folder.readExpressions, readable] at done
      contradiction
  | ok c =>
      refine ⟨c, rfl, ?_⟩
      simp only [run, Folder.readExpressions, readable] at done
      cases written : f.write output (resultsFor c).toUTF8 with
      | ok g => exact (Folder.opens_iff f output _).mpr ⟨g, written⟩
      | error e =>
          rw [resultsFor] at written
          simp only [written] at done
          contradiction

theorem entry_at (expressions : List String) (i : Nat) (t : String) (found : expressions[i]? = some t) :
    (entriesFrom 1 expressions)[i]? = some ⟨t, i + 1, outcomeOf t⟩ := by
  rw [entriesFrom, List.getElem?_map, List.getElem?_zipIdx, found]
  simp [Nat.add_comm]

end Batch

end Reckoner
