import Reckoner.Proofs.FieldCheck
import Reckoner.Proofs.LiteralValue
import Reckoner.Proofs.Viability

set_option autoImplicit false

namespace Reckoner

theorem fault_not_empty (l : Lexeme) (position : Nat) : (l.fault position).cause ≠ .emptyInput := by
  cases l <;> simp [Lexeme.fault]

theorem stuck_not_empty (m : Mode) (position : Nat) (cs : List Char) (e : ParseError)
    (stuck : Parser.Stuck m position cs e) : e.cause ≠ .emptyInput := by
  cases stuck with
  | intro before behind l held m' fits reached agrees blocked => exact fault_not_empty l _

theorem filled_not_empty (t : String) (e : ParseError) (filled : Text.strip t.toList ≠ [])
    (rejected : parse t = .error e) : e.cause ≠ .emptyInput := by
  have outcome := parse_mode t.toList
  rw [parse] at rejected
  rw [rejected] at outcome
  rw [Ne, Text.strip_nil] at filled
  cases outcome with
  | inl stuck => exact stuck_not_empty _ 0 t.toList e stuck
  | inr due =>
      have missing := due.2
      rw [if_neg filled] at missing
      obtain ⟨incomplete, rfl⟩ := missing
      simp

structure Refused (request : Request) (e : ParseError) : Prop where
  parsed : parse request.expression = .error e
  evaluated : evaluate request.expression = .error (.parse e)
  written : (Calculation.run request.expression).output = ""
  failed : (Calculation.run request.expression).failure = some (.parse e)
  answered : request.answer = .ok ⟨request.expression, request.lineNumber, .failure e.message⟩

structure Reduced (request : Request) (r : String) : Prop where
  parsed : ∃ tree, parse request.expression = .ok tree ∧ tree.simplify = .ok (.literal r)
  evaluated : ∃ x, evaluate request.expression = .ok x ∧ x.text = r
  written : (Calculation.run request.expression).output = r ++ "\n"
  failed : (Calculation.run request.expression).failure = none
  answered : request.answer = .ok ⟨request.expression, request.lineNumber, .result r⟩

theorem rejected_everywhere (request : Request) (e : ParseError) (rejected : parse request.expression = .error e) :
    Refused request e where
  parsed := rejected
  evaluated := by simp only [evaluate, reduceText, rejected]
  written := by simp only [Calculation.run, rejected]
  failed := by simp only [Calculation.run, rejected]
  answered := by simp only [Request.answer, calculate, reduceText, rejected]

theorem accepted_everywhere (request : Request) (tree : Expr) (accepted : parse request.expression = .ok tree) :
    ∃ r, Reduced request r := by
  obtain ⟨x, valued⟩ := parsed_value request.expression tree accepted
  have reduced : tree.simplify = .ok (.literal x.text) := by
    rw [Expr.simplify_value, valued]
    rfl
  have rendered : (Expr.literal x.text).render = x.text := Expr.render_text _
  refine ⟨x.text, ?_⟩
  constructor
  · exact ⟨tree, accepted, reduced⟩
  · exact ⟨x, by simp only [evaluate, reduceText, accepted, reduced, Expr.literal_text_value], rfl⟩
  · simp only [Calculation.run, accepted, reduced, rendered]
  · simp only [Calculation.run, accepted, reduced]
  · simp only [Request.answer, calculate, reduceText, accepted, reduced, rendered]

theorem entry_points_agree :
    (∀ t lineNumber, Text.strip t.toList ≠ [] → 1 ≤ lineNumber →
      Request.ofLine t lineNumber = .ok ⟨t, lineNumber⟩) ∧
    ∀ form request, Request.ofForm form = .ok request →
      ((∃ e, e.cause ≠ .emptyInput ∧ Refused request e) ∨ ∃ r, Reduced request r) ∧
      ∃ entry, request.answer = .ok entry ∧ Entry.ofForm entry.form = .ok entry := by
  refine ⟨Request.line_ok, ?_⟩
  intro form request valid
  obtain ⟨filled, counted⟩ := Request.form_filled form request valid
  cases parsed : parse request.expression with
  | error e =>
      have refused := rejected_everywhere request e parsed
      exact ⟨.inl ⟨e, filled_not_empty request.expression e filled parsed, refused⟩, _, refused.answered,
        Entry.form_accepted _ counted⟩
  | ok tree =>
      obtain ⟨r, reduced⟩ := accepted_everywhere request tree parsed
      exact ⟨.inr ⟨r, reduced⟩, _, reduced.answered, Entry.form_accepted _ counted⟩

def doubledOperator : Form.Value := .record [("line_number", .text "07"), ("expression", .text "1 +* 2")]

theorem entry_points_agree_on_doubled_operator :
    Request.ofForm doubledOperator = .ok ⟨"1 +* 2", 7⟩ ∧
      Refused ⟨"1 +* 2", 7⟩ ⟨.unexpectedOperator "*", some 3⟩ ∧
      Text.strip "6/4".toList ≠ [] ∧ Request.ofLine "6/4" 2 = .ok ⟨"6/4", 2⟩ := by
  have valid : Request.ofForm doubledOperator = .ok ⟨"1 +* 2", 7⟩ := rfl
  have rejected : parse "1 +* 2" = .error ⟨.unexpectedOperator "*", some 3⟩ := rfl
  have filled : Text.strip "6/4".toList ≠ [] := by decide
  refine ⟨valid, ?_, filled, entry_points_agree.1 "6/4" 2 filled (by decide)⟩
  cases (entry_points_agree.2 doubledOperator ⟨"1 +* 2", 7⟩ valid).1 with
  | inl failure =>
      obtain ⟨e, -, refused⟩ := failure
      rw [Except.error.inj (refused.parsed.symm.trans rejected)] at refused
      exact refused
  | inr success =>
      obtain ⟨r, reduced⟩ := success
      obtain ⟨tree, accepted, -⟩ := reduced.parsed
      exact absurd (accepted.symm.trans rejected) (by simp)

end Reckoner
