import Reckoner.Proofs.Reduction
import Reckoner.Sheet.Simplify

set_option autoImplicit false

namespace Reckoner

namespace Expr

theorem reduced_unchanged (e : Expr) (x : Double) (valued : e.value = .ok x) :
    (reduced e x).unchanged = true ↔ ∃ text y, e = .literal text ∧ Numeral.read? text = some y ∧ y.text = text := by
  rw [reduced, decide_eq_true_eq, ofDouble]
  constructor
  · intro same
    exact ⟨x.text, x, same, Numeral.read_text x, rfl⟩
  · intro canonical
    obtain ⟨text, y, rfl, read, written⟩ := canonical
    rw [value, literalValue, read] at valued
    rw [← Except.ok.inj valued, written]

theorem written_unchanged (x : Double) : (ofDouble x).simplifyOperand = .ok ⟨ofDouble x, true⟩ := by
  have valued : (ofDouble x).value = .ok x := literal_text_value x
  simp only [simplify_operand, valued, reduced, decide_true]

theorem literal_equal (text : String) : (literal text).equal (.literal text) = .ok true := by
  rw [equal, literalsEqual, if_pos rfl]

end Expr

namespace Sheet

theorem subject_bound (s : Sheet) (i : Nat) (e : Expr) (holds : s.subject i = .tree e) : i < s.cells.size := by
  by_cases within : i < s.cells.size
  · exact within
  · have absent : s.cells[i]? = none := Array.getElem?_eq_none (Nat.not_lt.mp within)
    rw [subject, expr?, exprFrom, absent] at holds
    contradiction

theorem added_literal (s : Sheet) (text : String) :
    (s.addExpr (.literal text)).2.subject s.cells.size = .tree (.literal text) := by
  have cell : (s.addExpr (.literal text)).2.cells[s.cells.size]? = some (.literal text) := Array.getElem?_push_size
  rw [subject, expr?, exprFrom, cell]

theorem simplify_tree (s : Sheet) (i : Nat) (e : Expr) (operand : Expr.Operand) (holds : s.subject i = .tree e)
    (simplified : e.simplifyOperand = .ok operand) :
    s.simplify i = .ok (if operand.unchanged then (i, s) else s.addExpr operand.expr) := by
  simp only [simplify, holds, Subject.simplify, simplified]

theorem simplify_cell (s : Sheet) (i : Nat) (e : Expr) (x : Double) (holds : s.subject i = .tree e)
    (valued : e.value = .ok x) :
    ∃ j s', s.simplify i = .ok (j, s') ∧ s'.subject j = .tree (Expr.ofDouble x) ∧
      (j = i ↔ (Expr.reduced e x).unchanged = true) := by
  have simplified : e.simplifyOperand = .ok (Expr.reduced e x) := by
    rw [Expr.simplify_operand, valued]
  have simplifiedCell := simplify_tree s i e _ holds simplified
  by_cases same : e = Expr.ofDouble x
  · have unchanged : (Expr.reduced e x).unchanged = true := decide_eq_true same
    rw [if_pos unchanged] at simplifiedCell
    exact ⟨i, s, simplifiedCell, by rw [holds, same], by simp [unchanged]⟩
  · have changed : (Expr.reduced e x).unchanged ≠ true := fun unchanged => same (of_decide_eq_true unchanged)
    rw [if_neg changed] at simplifiedCell
    have other : s.cells.size ≠ i := Nat.ne_of_gt (subject_bound s i e holds)
    exact ⟨s.cells.size, _, simplifiedCell, added_literal s x.text, by simp [other, changed]⟩

end Sheet

theorem simplify_settles (e : Expr) (complete : e.isComplete = true) (numeric : e.Numeric) :
    ∃ result unchanged, e.simplifyOperand = .ok ⟨result, unchanged⟩ ∧
      result.simplifyOperand = .ok ⟨result, true⟩ ∧ result.equal result = .ok true ∧
      (unchanged = true ↔ ∃ text x, e = .literal text ∧ Numeral.read? text = some x ∧ x.text = text) ∧
      ∀ (s : Sheet) (i : Nat), s.subject i = .tree e →
        ∃ j s', s.simplify i = .ok (j, s') ∧ s'.subject j = .tree result ∧ s'.simplify j = .ok (j, s') ∧
          (j = i ↔ unchanged = true) := by
  obtain ⟨x, valued⟩ := Expr.numeric_value e complete numeric
  refine ⟨Expr.ofDouble x, (Expr.reduced e x).unchanged, ?_, Expr.written_unchanged x, Expr.literal_equal x.text,
    Expr.reduced_unchanged e x valued, ?_⟩
  · rw [Expr.simplify_operand, valued]
    rfl
  · intro s i holds
    obtain ⟨j, s', simplified, subject, moved⟩ := Sheet.simplify_cell s i e x holds valued
    exact ⟨j, s', simplified, subject, Sheet.simplify_tree s' j _ _ subject (Expr.written_unchanged x), moved⟩

def nothingByNothing : Expr := .binary (.literal "0") .dividedBy (.literal "-.0")

theorem simplify_settles_without_number :
    nothingByNothing.isComplete = true ∧ nothingByNothing.Numeric ∧ Double.nan.eq Double.nan = false ∧
      (Sheet.empty.addExpr nothingByNothing).2.subject 2 = .tree nothingByNothing ∧
      ∃ result unchanged, nothingByNothing.simplifyOperand = .ok ⟨result, unchanged⟩ ∧
        result.simplifyOperand = .ok ⟨result, true⟩ ∧ result.equal result = .ok true ∧
        ∃ j s', (Sheet.empty.addExpr nothingByNothing).2.simplify 2 = .ok (j, s') ∧ s'.subject j = .tree result ∧
          s'.simplify j = .ok (j, s') := by
  have numeric : nothingByNothing.Numeric := ⟨rfl, rfl⟩
  have holds : (Sheet.empty.addExpr nothingByNothing).2.subject 2 = .tree nothingByNothing := rfl
  obtain ⟨result, unchanged, simplified, again, equal, -, cells⟩ := simplify_settles nothingByNothing rfl numeric
  obtain ⟨j, s', first, subject, second, -⟩ := cells _ 2 holds
  exact ⟨rfl, numeric, rfl, holds, result, unchanged, simplified, again, equal, j, s', first, subject, second⟩

end Reckoner
