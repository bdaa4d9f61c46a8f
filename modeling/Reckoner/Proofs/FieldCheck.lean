import Mathlib.Data.List.TakeWhile
import Reckoner.Batch.Request

set_option autoImplicit false

namespace Reckoner

namespace Text

theorem drop_blanks_nil (cs : List Char) : dropBlanks cs = [] ↔ allBlank cs = true := by
  rw [dropBlanks, List.dropWhile_eq_nil_iff, allBlank, List.all_eq_true]

theorem drop_blanks_all (cs : List Char) : allBlank (dropBlanks cs) = allBlank cs := by
  have front : allBlank (cs.takeWhile isBlank) = true := List.all_takeWhile
  have parts : cs.takeWhile isBlank ++ dropBlanks cs = cs := List.takeWhile_append_dropWhile
  calc allBlank (dropBlanks cs)
      = (allBlank (cs.takeWhile isBlank) && allBlank (dropBlanks cs)) := by rw [front, Bool.true_and]
    _ = allBlank (cs.takeWhile isBlank ++ dropBlanks cs) := List.all_append.symm
    _ = allBlank cs := by rw [parts]

theorem strip_nil (cs : List Char) : strip cs = [] ↔ allBlank cs = true := by
  rw [strip, List.reverse_eq_nil_iff, drop_blanks_nil, allBlank, List.all_reverse]
  exact Bool.coe_iff_coe.mpr (drop_blanks_all cs)

end Text

namespace Form

namespace Checked

theorem both_ok {α β : Type} (a : Checked α) (b : Checked β) (x : α) (y : β) :
    a.both b = .ok (x, y) ↔ a = .ok x ∧ b = .ok y := by
  cases a with
  | error ps => simp [both]
  | ok x' => cases b <;> simp [both]

theorem under_ok {α : Type} (step : String) (a : Checked α) (x : α) : a.under step = .ok x ↔ a = .ok x := by
  cases a <;> simp [under]

end Checked

theorem required_ok {α : Type} (form : Value) (name : String) (check : Value → Checked α) (x : α) :
    required form name check = .ok x ↔ ∃ v, form.field? name = some v ∧ check v = .ok x := by
  rw [required]
  cases form.field? name with
  | none => simp [Checked.fail, Checked.under]
  | some v => simp [Checked.under_ok]

theorem with_default_ok {α : Type} (form : Value) (name : String) (value : α) (check : Value → Checked α) (x : α) :
    withDefault form name value check = .ok x ↔
      (∃ v, form.field? name = some v ∧ check v = .ok x) ∨ (form.field? name = none ∧ value = x) := by
  rw [withDefault]
  cases form.field? name with
  | none => simp
  | some v => simp [Checked.under_ok]

theorem positive_int (n : Nat) (counted : 1 ≤ n) : checkPositive (.int n) = .ok n := by
  have positive : (1 : Int) ≤ n := by omega
  rw [checkPositive, checkInteger]
  simp only [if_pos positive, Int.toNat_natCast]

theorem positive_ok (v : Value) (n : Nat) (checked : checkPositive v = .ok n) : 1 ≤ n := by
  rw [checkPositive] at checked
  split at checked
  · split at checked
    · next positive =>
        rw [← Except.ok.inj checked]
        omega
    · contradiction
  · contradiction

end Form

namespace Request

theorem expression_ok (v : Form.Value) (t : String) :
    checkExpression v = .ok t ↔ v = .text t ∧ Text.strip t.toList ≠ [] := by
  rw [Ne, Text.strip_nil, checkExpression]
  cases v with
  | text s =>
      by_cases blank : Text.allBlank s.toList = true
      · rw [Form.checkText]
        simp only [if_pos blank, Form.Checked.fail, Form.Value.text.injEq, reduceCtorEq, false_iff]
        rintro ⟨rfl, filled⟩
        exact filled blank
      · rw [Form.checkText]
        simp only [if_neg blank, Except.ok.injEq, Form.Value.text.injEq]
        constructor
        · intro same
          exact ⟨same, same ▸ blank⟩
        · intro both
          exact both.1
  | _ => simp [Form.checkText, Form.Checked.fail]

theorem form_ok (form : Form.Value) (request : Request) :
    ofForm form = .ok request ↔
      Form.required form "expression" checkExpression = .ok request.expression ∧
        Form.withDefault form "line_number" 1 Form.checkPositive = .ok request.lineNumber := by
  rw [← Form.Checked.both_ok, ofForm]
  cases (Form.required form "expression" checkExpression).both
      (Form.withDefault form "line_number" 1 Form.checkPositive) with
  | error ps => simp
  | ok fields =>
      obtain ⟨expression, lineNumber⟩ := fields
      obtain ⟨t, n⟩ := request
      simp

theorem form_filled (form : Form.Value) (request : Request) (valid : ofForm form = .ok request) :
    Text.strip request.expression.toList ≠ [] ∧ 1 ≤ request.lineNumber := by
  obtain ⟨expression, lineNumber⟩ := (form_ok form request).mp valid
  obtain ⟨v, -, checked⟩ := (Form.required_ok _ _ _ _).mp expression
  refine ⟨((expression_ok v request.expression).mp checked).2, ?_⟩
  cases (Form.with_default_ok _ _ _ _ _).mp lineNumber with
  | inl given =>
      obtain ⟨number, -, positive⟩ := given
      exact Form.positive_ok number request.lineNumber positive
  | inr absent => exact Nat.le_of_eq absent.2

theorem line_ok (t : String) (lineNumber : Nat) (filled : Text.strip t.toList ≠ []) (counted : 1 ≤ lineNumber) :
    ofLine t lineNumber = .ok ⟨t, lineNumber⟩ := by
  apply (form_ok _ _).mpr
  constructor
  · exact (Form.required_ok _ _ _ _).mpr ⟨.text t, rfl, (expression_ok _ t).mpr ⟨rfl, filled⟩⟩
  · exact (Form.with_default_ok _ _ _ _ _).mpr (.inl ⟨.int lineNumber, rfl, Form.positive_int lineNumber counted⟩)

end Request

namespace Outcome

def field : Outcome → String × Form.Value
  | result text => ("result", .text text)
  | failure message => ("error", .text message)

end Outcome

namespace Entry

def form (e : Entry) : Form.Value :=
  .record [("expression", .text e.expression), ("line_number", .int e.lineNumber), e.outcome.field]

theorem outcome_fields (e : Entry) :
    Form.withDefault e.form "result" none (Form.orNull Form.checkText) = .ok e.outcome.result? ∧
      Form.withDefault e.form "error" none (Form.orNull Form.checkText) = .ok e.outcome.failure? := by
  obtain ⟨expression, lineNumber, outcome⟩ := e
  cases outcome with
  | result text => exact ⟨rfl, rfl⟩
  | failure message => exact ⟨rfl, rfl⟩

theorem one_outcome (o : Outcome) : outcomeOf o.result? o.failure? = .ok o := by
  cases o <;> rfl

theorem form_accepted (e : Entry) (counted : 1 ≤ e.lineNumber) : ofForm e.form = .ok e := by
  have expression : Form.required e.form "expression" Form.checkText = .ok e.expression := rfl
  have lineNumber : Form.withDefault e.form "line_number" 1 Form.checkPositive = .ok e.lineNumber :=
    (Form.with_default_ok _ _ _ _ _).mpr (.inl ⟨.int e.lineNumber, rfl, Form.positive_int e.lineNumber counted⟩)
  obtain ⟨result, failure⟩ := outcome_fields e
  simp only [ofForm, expression, lineNumber, result, failure, Form.Checked.both, one_outcome]

end Entry

end Reckoner
