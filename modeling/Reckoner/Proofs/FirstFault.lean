import Reckoner.Proofs.Sign

set_option autoImplicit false

namespace Reckoner

namespace Expr

def Blames : Expr → SimplifyError → Prop
  | literal text, cause =>
      Numeral.read? text = none ∧ cause = .notNumeral text ∧ cause.message = notNumeralMessage text
  | binary _ _ _, _ => False
  | incomplete left o, cause =>
      cause = .incomplete (incomplete left o).render ∧
        cause.message = "Cannot simplify incomplete expression: " ++ (incomplete left o).render

def Faulty (e : Expr) : Prop := ∃ cause, e.Blames cause

def fault? : Expr → Option SimplifyError
  | literal text => if (Numeral.read? text).isSome then none else some (.notNumeral text)
  | binary _ _ _ => none
  | incomplete left o => some (.incomplete (incomplete left o).render)

theorem blames_iff (e : Expr) (cause : SimplifyError) : e.Blames cause ↔ e.fault? = some cause := by
  cases e with
  | literal text =>
      cases read : Numeral.read? text with
      | none =>
          have blamed : (literal text).fault? = some (.notNumeral text) := by simp [fault?, read]
          rw [blamed, Option.some.injEq]
          constructor
          · intro blames
            exact blames.2.1.symm
          · rintro rfl
            exact ⟨read, rfl, rfl⟩
      | some x => simp [Blames, fault?, read]
  | binary left o right => simp [Blames, fault?]
  | incomplete left o =>
      rw [fault?, Option.some.injEq]
      constructor
      · intro blames
        exact blames.1.symm
      · rintro rfl
        exact ⟨rfl, rfl⟩

theorem sound_iff (e : Expr) : ¬ e.Faulty ↔ e.fault? = none := by
  simp only [Faulty, blames_iff, not_exists]
  exact Option.eq_none_iff_forall_ne_some.symm

-- The parts come in the order of the walk: a tree before all below it, its
-- left side before its right side. The first fault among them ends the
-- recursion on doubles.
theorem first_fault (e : Expr) :
    e.parts.findSome? fault? = match e.value with
      | .error cause => some cause
      | .ok _ => none := by
  induction e with
  | literal text =>
      rw [parts, List.findSome?_singleton, value, literalValue, fault?]
      cases Numeral.read? text <;> rfl
  | incomplete left o _ => rw [parts, List.findSome?_cons, fault?, value, render_text]
  | binary left o right leftFault rightFault =>
      rw [parts, List.findSome?_cons, fault?, List.findSome?_append, leftFault, rightFault, value]
      cases left.value with
      | error cause => rfl
      | ok x => cases right.value <;> rfl

theorem simplify_error_iff (e : Expr) (cause : SimplifyError) :
    e.simplify = .error cause ↔ e.parts.findSome? fault? = some cause := by
  rw [first_fault, simplify_value]
  cases e.value <;> simp

theorem first_blamed_iff (e : Expr) (cause : SimplifyError) :
    e.simplify = .error cause ↔
      ∃ before part behind, e.parts = before ++ part :: behind ∧ (∀ earlier ∈ before, ¬ earlier.Faulty) ∧
        part.Blames cause := by
  simp only [simplify_error_iff, List.findSome?_eq_some_iff, blames_iff, sound_iff]
  constructor
  · rintro ⟨before, part, behind, split, blamed, sound⟩
    exact ⟨before, part, behind, split, sound, blamed⟩
  · rintro ⟨before, part, behind, split, sound, blamed⟩
    exact ⟨before, part, behind, split, blamed, sound⟩

theorem simplify_fails_iff (e : Expr) :
    (∃ cause, e.simplify = .error cause) ↔ ∃ part ∈ e.parts, part.Faulty := by
  have fails : (∃ cause, e.simplify = .error cause) ↔ (e.parts.findSome? fault?).isSome = true := by
    rw [Option.isSome_iff_exists]
    exact exists_congr (simplify_error_iff e)
  rw [fails, List.findSome?_isSome_iff]
  apply exists_congr
  intro part
  apply and_congr Iff.rfl
  rw [Option.isSome_iff_exists]
  exact exists_congr fun cause => (blames_iff part cause).symm

theorem combine_simplified (node left right : Expr) (o : Operator) (l r : Operand)
    (leftDone : left.simplifyOperand = .ok l) (rightDone : right.simplifyOperand = .ok r) :
    ∃ x y, left.value = .ok x ∧ right.value = .ok y ∧ combine node o l r = .ok ⟨ofDouble (o.apply x y), false⟩ := by
  obtain ⟨x, leftValue, rfl⟩ := operand_reduced left l leftDone
  obtain ⟨y, rightValue, rfl⟩ := operand_reduced right r rightDone
  exact ⟨x, y, leftValue, rightValue, by simp [combine, reduced, ofDouble, literal_text_value]⟩

end Expr

theorem simplify_blames_first_fault :
    (∀ e : Expr, (∃ cause, e.simplify = .error cause) ↔ ∃ part ∈ e.parts, part.Faulty) ∧
    (∀ (e : Expr) cause, e.simplify = .error cause ↔
      ∃ before part behind, e.parts = before ++ part :: behind ∧ (∀ earlier ∈ before, ¬ earlier.Faulty) ∧
        part.Blames cause) ∧
    ∀ (node left right : Expr) o l r, left.simplifyOperand = .ok l → right.simplifyOperand = .ok r →
      ∃ x y, left.value = .ok x ∧ right.value = .ok y ∧
        Expr.combine node o l r = .ok ⟨Expr.ofDouble (o.apply x y), false⟩ :=
  ⟨Expr.simplify_fails_iff, Expr.first_blamed_iff, Expr.combine_simplified⟩

def openDifference : Expr := .incomplete (.literal "y") .minus

def sumOfFaults : Expr := .binary (.literal "1") .plus openDifference

def productOfFaults : Expr := .binary sumOfFaults .times (.literal "x")

theorem simplify_blames_open_difference :
    (∃ part ∈ productOfFaults.parts, part.Faulty) ∧
      productOfFaults.parts =
        [productOfFaults, sumOfFaults, .literal "1"] ++ openDifference :: [.literal "y", .literal "x"] ∧
      openDifference.Blames (.incomplete "y-") ∧ productOfFaults.simplify = .error (.incomplete "y-") ∧
      ∃ l r x y, (Expr.literal "0").simplifyOperand = .ok l ∧ (Expr.literal "-.0").simplifyOperand = .ok r ∧
        Expr.combine openDifference .dividedBy l r = .ok ⟨Expr.ofDouble (Operator.apply .dividedBy x y), false⟩ := by
  have rendered : openDifference.render = "y-" := by
    rw [Expr.render_text]
    rfl
  have blamed : openDifference.Blames (.incomplete "y-") := ⟨by rw [← rendered]; rfl, by rw [← rendered]; rfl⟩
  have sound : ∀ earlier ∈ [productOfFaults, sumOfFaults, .literal "1"], ¬ earlier.Faulty := by
    simp only [Expr.sound_iff, List.forall_mem_cons]
    exact ⟨rfl, rfl, rfl, by simp⟩
  have simplified := (simplify_blames_first_fault.2.1 productOfFaults _).mpr
    ⟨_, openDifference, [.literal "y", .literal "x"], rfl, sound, blamed⟩
  have fails := (simplify_blames_first_fault.1 productOfFaults).mp ⟨_, simplified⟩
  have zero : (Expr.literal "0").simplifyOperand = .ok (Expr.reduced (.literal "0") (Double.zero false)) :=
    Expr.simplify_operand _
  have negativeZero : (Expr.literal "-.0").simplifyOperand = .ok (Expr.reduced (.literal "-.0") (Double.zero true)) :=
    Expr.simplify_operand _
  obtain ⟨x, y, -, -, combined⟩ :=
    simplify_blames_first_fault.2.2 openDifference _ _ .dividedBy _ _ zero negativeZero
  exact ⟨fails, rfl, blamed, simplified, _, _, x, y, zero, negativeZero, combined⟩

end Reckoner
