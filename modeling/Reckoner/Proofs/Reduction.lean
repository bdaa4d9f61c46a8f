import Reckoner.Proofs.NumeralText
import Reckoner.Proofs.Rendering

set_option autoImplicit false

namespace Reckoner.Expr

theorem literal_text_value (x : Double) : literalValue x.text = .ok x := by
  rw [literalValue, Numeral.read_text]

def reduced (e : Expr) (x : Double) : Operand := ⟨ofDouble x, decide (e = ofDouble x)⟩

theorem simplify_literal (text : String) (x : Double) (value : literalValue text = .ok x) :
    simplifyLiteral text = .ok (reduced (.literal text) x) := by
  simp only [simplifyLiteral, value, reduced, ofDouble, literal.injEq]
  split
  · next same => rw [same, decide_eq_true rfl]
  · next other => rw [decide_eq_false (fun same => other same.symm)]

theorem combine_reduced (left right : Expr) (o : Operator) (x y : Double) :
    combine (.binary left o right) o (reduced left x) (reduced right y) =
      .ok (reduced (.binary left o right) (o.apply x y)) := by
  simp [combine, reduced, ofDouble, literal_text_value]

-- The walk under a visit leaves the tasks and the operands of others alone. It
-- is as the recursion on doubles says, since a partial result that is written
-- reads back as itself.
theorem run_visit (e : Expr) (tasks : List Task) (operands : List Operand) :
    runTasks (.visit e :: tasks) operands =
      match e.value with
      | .error cause => .error cause
      | .ok x => runTasks tasks (reduced e x :: operands) := by
  induction e generalizing tasks operands with
  | literal text =>
      rw [runTasks, value]
      cases read : literalValue text with
      | error cause => simp [simplifyLiteral, read]
      | ok x => simp [simplify_literal text x read]
  | incomplete left o leftRun =>
      rw [runTasks, value, render_text]
  | binary left o right leftRun rightRun =>
      rw [runTasks, leftRun, value]
      cases left.value with
      | error cause => rfl
      | ok x =>
          simp only [rightRun]
          cases right.value with
          | error cause => rfl
          | ok y => simp only [runTasks, combine_reduced]

theorem simplify_operand (e : Expr) :
    e.simplifyOperand = match e.value with
      | .error cause => .error cause
      | .ok x => .ok (reduced e x) := by
  rw [simplifyOperand, run_visit]
  cases e.value with
  | error cause => rfl
  | ok x => simp only [runTasks]

theorem operand_reduced (e : Expr) (done : Operand) (simplified : e.simplifyOperand = .ok done) :
    ∃ x, e.value = .ok x ∧ done = reduced e x := by
  rw [simplify_operand] at simplified
  cases valued : e.value with
  | error cause => simp [valued] at simplified
  | ok x =>
      rw [valued] at simplified
      exact ⟨x, rfl, (Except.ok.inj simplified).symm⟩

theorem simplify_value (e : Expr) :
    e.simplify = match e.value with
      | .error cause => .error cause
      | .ok x => .ok (ofDouble x) := by
  rw [simplify, simplify_operand]
  cases e.value with
  | error cause => rfl
  | ok x => rfl

def Numeric : Expr → Prop
  | literal text => (Numeral.read? text).isSome
  | binary left _ right => left.Numeric ∧ right.Numeric
  | incomplete left _ => left.Numeric

theorem numeric_value (e : Expr) (complete : e.isComplete = true) (numeric : e.Numeric) : ∃ x, e.value = .ok x := by
  induction e with
  | literal text =>
      obtain ⟨x, read⟩ := Option.isSome_iff_exists.mp numeric
      exact ⟨x, by rw [value, literalValue, read]⟩
  | incomplete left o _ => simp [isComplete] at complete
  | binary left o right leftValue rightValue =>
      rw [isComplete, Bool.and_eq_true] at complete
      obtain ⟨x, leftIs⟩ := leftValue complete.1 numeric.1
      obtain ⟨y, rightIs⟩ := rightValue complete.2 numeric.2
      exact ⟨o.apply x y, by rw [value, leftIs, rightIs]⟩

def parts : Expr → List Expr
  | literal text => [literal text]
  | binary left o right => binary left o right :: (left.parts ++ right.parts)
  | incomplete left o => incomplete left o :: left.parts

theorem self_part (e : Expr) : e ∈ e.parts := by
  cases e <;> exact List.mem_cons_self

theorem part_numeric (e s : Expr) (part : s ∈ e.parts) (complete : e.isComplete = true) (numeric : e.Numeric) :
    s.isComplete = true ∧ s.Numeric := by
  induction e with
  | literal text =>
      obtain rfl := List.mem_singleton.mp part
      exact ⟨complete, numeric⟩
  | incomplete left o _ => contradiction
  | binary left o right leftPart rightPart =>
      cases List.mem_cons.mp part with
      | inl same =>
          rw [same]
          exact ⟨complete, numeric⟩
      | inr below =>
          rw [isComplete, Bool.and_eq_true] at complete
          cases List.mem_append.mp below with
          | inl inLeft => exact leftPart inLeft complete.1 numeric.1
          | inr inRight => exact rightPart inRight complete.2 numeric.2

theorem simplify_numeric (e : Expr) (complete : e.isComplete = true) (numeric : e.Numeric) :
    ∃ x, e.value = .ok x ∧ e.simplify = .ok (.literal x.text) := by
  obtain ⟨x, valued⟩ := numeric_value e complete numeric
  exact ⟨x, valued, by simp only [simplify_value, valued, ofDouble]⟩

theorem simplify_is_value (e : Expr) (complete : e.isComplete = true) (numeric : e.Numeric) :
    (∃ x, e.value = .ok x ∧ e.simplify = .ok (.literal x.text)) ∧
      ∀ s ∈ e.parts, ∃ y, s.value = .ok y ∧ s.simplify = .ok (.literal y.text) ∧ literalValue y.text = .ok y := by
  refine ⟨simplify_numeric e complete numeric, ?_⟩
  intro s part
  obtain ⟨partComplete, partNumeric⟩ := part_numeric e s part complete numeric
  obtain ⟨y, valued, simplified⟩ := simplify_numeric s partComplete partNumeric
  exact ⟨y, valued, simplified, literal_text_value y⟩

def negativeDivisor : Expr :=
  .binary (.literal "1") .dividedBy (.binary (.literal "-0") .times (.literal "1e+16"))

theorem simplify_negative_divisor :
    negativeDivisor.isComplete = true ∧ negativeDivisor.Numeric ∧ negativeDivisor.value = .ok (.infinite true) ∧
      negativeDivisor.simplify = .ok (.literal "-Infinity") ∧
      (binary (.literal "-0") .times (.literal "1e+16")).simplify = .ok (.literal "-0") ∧
      literalValue "-0" = .ok (Double.zero true) := by
  have numeric : negativeDivisor.Numeric := ⟨rfl, rfl, rfl⟩
  have quotient : negativeDivisor.value.toOption = some (.infinite true) := by decide +kernel
  have product : (binary (.literal "-0") .times (.literal "1e+16")).value.toOption = some (Double.zero true) := by
    decide +kernel
  obtain ⟨⟨x, valued, simplified⟩, parts⟩ := simplify_is_value negativeDivisor rfl numeric
  obtain ⟨y, multiplied, reduced, read⟩ := parts (binary (.literal "-0") .times (.literal "1e+16")) (by decide)
  rw [valued] at quotient
  rw [multiplied] at product
  obtain rfl := Option.some.inj quotient
  obtain rfl := Option.some.inj product
  have text : (Double.zero true).text = "-0" := by decide
  rw [text] at reduced read
  exact ⟨rfl, numeric, valued, simplified, reduced, read⟩

end Reckoner.Expr
