import Reckoner.Proofs.BitPattern
import Reckoner.Proofs.WholeValue

set_option autoImplicit false

namespace Reckoner

namespace Double

theorem of_index_negative (negative : Bool) (index : Nat) : (ofIndex negative index).isNegative = negative := by
  by_cases bounded : index < 2047 * Nat.pow 2 52
  · rw [ofIndex, dif_pos bounded, isNegative]
  · rw [ofIndex, dif_neg bounded, isNegative]

theorem round_negative (negative : Bool) (num den : Nat) : (round negative num den).isNegative = negative :=
  of_index_negative negative _

theorem mul_clear (x y : Double) (left : x.isNegative = false) (right : y.isNegative = false) :
    (x.mul y).isNegative = false := by
  cases x with
  | nan => rfl
  | infinite s =>
      obtain rfl : s = false := left
      cases y with
      | nan => rfl
      | infinite t =>
          obtain rfl : t = false := right
          rfl
      | finite t n =>
          obtain rfl : t = false := right
          by_cases zero : n.units = 0
          · rw [mul, if_pos zero, isNegative]
          · rw [mul, if_neg zero, isNegative, Bool.xor_false]
  | finite s m =>
      obtain rfl : s = false := left
      cases y with
      | nan => rfl
      | infinite t =>
          obtain rfl : t = false := right
          by_cases zero : m.units = 0
          · rw [mul, if_pos zero, isNegative]
          · rw [mul, if_neg zero, isNegative, Bool.xor_false]
      | finite t n =>
          obtain rfl : t = false := right
          exact round_negative false _ _

theorem div_finite_clear (m n : Magnitude) : (divFinite false m false n).isNegative = false := by
  by_cases divisor : n.units = 0
  · by_cases dividend : m.units = 0
    · rw [divFinite, if_pos divisor, if_pos dividend, isNegative]
    · rw [divFinite, if_pos divisor, if_neg dividend, isNegative, Bool.xor_false]
  · rw [divFinite, if_neg divisor]
    exact round_negative false _ _

theorem div_clear (x y : Double) (left : x.isNegative = false) (right : y.isNegative = false) :
    (x.div y).isNegative = false := by
  cases x with
  | nan => rfl
  | infinite s =>
      obtain rfl : s = false := left
      cases y with
      | nan => rfl
      | infinite t => rfl
      | finite t n =>
          obtain rfl : t = false := right
          rfl
  | finite s m =>
      obtain rfl : s = false := left
      cases y with
      | nan => rfl
      | infinite t =>
          obtain rfl : t = false := right
          rfl
      | finite t n =>
          obtain rfl : t = false := right
          exact div_finite_clear m n

theorem zero_magnitude (m : Magnitude) (nothing : m.units = 0) : m = Magnitude.zero := by
  by_cases zero : m.index = 0
  · exact Magnitude.zero_of_index m zero
  · exact absurd nothing (Nat.ne_of_gt (m.units_pos zero))

theorem round_zero (negative sign : Bool) (num : Nat) (rounded : round negative num 1 = zero sign) :
    num = 0 ∧ negative = sign := by
  have signs : negative = sign := by
    rw [← round_negative negative num 1, rounded]
    rfl
  refine ⟨?_, signs⟩
  rw [round, Nat.div_one, Nat.one_mul, ofIndex] at rounded
  split at rounded
  · have index := congrArg Magnitude.index (Double.finite.inj rounded).2
    change (Nat.log2 num - 52) * Nat.pow 2 52 + nearest num (Nat.pow 2 (Nat.log2 num - 52)) = 0 at index
    obtain ⟨high, low⟩ := Nat.add_eq_zero_iff.mp index
    have unshifted : Nat.log2 num - 52 = 0 := (Nat.mul_eq_zero.mp high).resolve_right (by decide)
    have exactly := nearest_exact num 1 Nat.one_pos
    rw [unshifted, Nat.pow_eq, Nat.pow_zero] at low
    rw [Nat.mul_one, low] at exactly
    exact exactly.symm
  · contradiction

theorem add_finite_zero (s t : Bool) (m n : Magnitude) (sum : addFinite s m t n = zero true) :
    s = true ∧ m.units = 0 ∧ t = true ∧ n.units = 0 := by
  by_cases same : s = t
  · rw [addFinite, if_pos same] at sum
    obtain ⟨nothing, signs⟩ := round_zero s true _ sum
    exact ⟨signs, by omega, same ▸ signs, by omega⟩
  · rw [addFinite, if_neg same] at sum
    by_cases cancel : m.units = n.units
    · rw [if_pos cancel] at sum
      contradiction
    · rw [if_neg cancel] at sum
      by_cases larger : n.units < m.units
      · rw [if_pos larger] at sum
        have nothing := (round_zero s true _ sum).1
        omega
      · rw [if_neg larger] at sum
        have nothing := (round_zero t true _ sum).1
        omega

theorem add_negative_zero (x y : Double) (sum : x.add y = zero true) : x = zero true ∧ y = zero true := by
  cases x with
  | nan => contradiction
  | infinite s =>
      cases y with
      | nan => contradiction
      | infinite t =>
          rw [add] at sum
          split at sum <;> contradiction
      | finite t n => contradiction
  | finite s m =>
      cases y with
      | nan => contradiction
      | infinite t => contradiction
      | finite t n =>
          obtain ⟨rfl, left, rfl, right⟩ := add_finite_zero s t m n sum
          rw [zero_magnitude m left, zero_magnitude n right]
          exact ⟨rfl, rfl⟩

theorem clear_not_negative_zero (x : Double) (clear : x.isNegative = false) : x ≠ zero true := by
  intro same
  rw [same] at clear
  contradiction

theorem div_by_zero (x y : Double) (left : x.isNegative = false) (right : y.isNegative = false)
    (zero : y.isZero = true) : x.div y = .infinite false ∨ x.div y = .nan := by
  cases y with
  | nan => contradiction
  | infinite t => contradiction
  | finite t n =>
      obtain rfl : t = false := right
      obtain rfl := Magnitude.zero_of_index n (eq_of_beq zero)
      cases x with
      | nan => exact .inr rfl
      | infinite s =>
          obtain rfl : s = false := left
          exact .inl rfl
      | finite s m =>
          obtain rfl : s = false := left
          rw [div, divFinite, if_pos Magnitude.zero_units]
          by_cases nothing : m.units = 0
          · exact .inr (if_pos nothing)
          · exact .inl (if_neg nothing)

end Double

theorem Decimal.to_double_clear (d : Decimal) : (d.toDouble false).isNegative = false := by
  rw [toDouble]
  split
  · rfl
  · split
    · rfl
    · exact Double.round_negative false _ _

namespace Operator

theorem apply_clear (o : Operator) (x y : Double) (multiplies : o.isAdditive = false) (left : x.isNegative = false)
    (right : y.isNegative = false) : (o.apply x y).isNegative = false := by
  cases o with
  | plus => contradiction
  | minus => contradiction
  | times => exact Double.mul_clear x y left right
  | dividedBy => exact Double.div_clear x y left right

theorem apply_negative_zero (o : Operator) (x y : Double) (adds : o.isAdditive = true)
    (result : o.apply x y = Double.zero true) : x = Double.zero true := by
  cases o with
  | plus => exact (Double.add_negative_zero x y result).1
  | minus => exact (Double.add_negative_zero x y.neg result).1
  | times => contradiction
  | dividedBy => contradiction

end Operator

namespace Expr

theorem part_shape (e s : Expr) (part : s ∈ e.parts) (complete : e.isComplete = true) (spelled : e.Spelled)
    (grouped : e.Grouped) : s.isComplete = true ∧ s.Spelled ∧ s.Grouped := by
  induction e with
  | literal text =>
      obtain rfl := List.mem_singleton.mp part
      exact ⟨complete, spelled, grouped⟩
  | incomplete left o _ => contradiction
  | binary left o right leftShape rightShape =>
      cases List.mem_cons.mp part with
      | inl same =>
          rw [same]
          exact ⟨complete, spelled, grouped⟩
      | inr below =>
          rw [isComplete, Bool.and_eq_true] at complete
          cases List.mem_append.mp below with
          | inl inLeft => exact leftShape inLeft complete.1 spelled.1 grouped.1
          | inr inRight => exact rightShape inRight complete.2 spelled.2 grouped.2.1

theorem binary_value (left right : Expr) (o : Operator) (z : Double) (valued : (binary left o right).value = .ok z) :
    ∃ x y, left.value = .ok x ∧ right.value = .ok y ∧ z = o.apply x y := by
  rw [value] at valued
  cases leftValue : left.value with
  | error cause => simp [leftValue] at valued
  | ok x =>
      cases rightValue : right.value with
      | error cause => simp [leftValue, rightValue] at valued
      | ok y =>
          rw [leftValue, rightValue] at valued
          exact ⟨x, y, rfl, rfl, (Except.ok.inj valued).symm⟩

theorem literal_clear (text : String) (x : Double) (number : IsNumber text.toList)
    (valued : (literal text).value = .ok x) : x.isNegative = false := by
  have read := Numeral.read_number text.toList number
  obtain ⟨d, decimal⟩ := Numeral.number_decimal text.toList number
  rw [String.ofList_toList, decimal, Option.map_some] at read
  rw [value, literalValue, read] at valued
  rw [← Except.ok.inj valued]
  exact d.to_double_clear

theorem factor_clear (e : Expr) (x : Double) (grouped : e.Grouped) (spelled : e.Spelled) (factor : e.IsFactor)
    (valued : e.value = .ok x) : x.isNegative = false := by
  induction e generalizing x with
  | literal text => exact literal_clear text x spelled valued
  | incomplete left o _ => contradiction
  | binary left o right leftClear rightClear =>
      have multiplies := factor o rfl
      obtain ⟨a, b, leftValue, rightValue, rfl⟩ := binary_value left right o x valued
      obtain ⟨leftFactor, rightFactor⟩ := grouped_factors left right o grouped multiplies
      have aClear := leftClear a grouped.1 spelled.1 leftFactor leftValue
      have bClear := rightClear b grouped.2.1 spelled.2 rightFactor rightValue
      exact o.apply_clear a b multiplies aClear bClear

theorem no_negative_zero (e : Expr) (x : Double) (grouped : e.Grouped) (spelled : e.Spelled)
    (valued : e.value = .ok x) : x ≠ Double.zero true := by
  induction e generalizing x with
  | literal text => exact Double.clear_not_negative_zero x (literal_clear text x spelled valued)
  | incomplete left o _ => contradiction
  | binary left o right leftNonzero _ =>
      cases additive : o.isAdditive with
      | true =>
          obtain ⟨a, b, leftValue, -, rfl⟩ := binary_value left right o x valued
          intro zero
          exact leftNonzero a grouped.1 spelled.1 leftValue (o.apply_negative_zero a b additive zero)
      | false =>
          have factor : (binary left o right).IsFactor := by
            intro inner root
            rw [← Option.some.inj root]
            exact additive
          exact Double.clear_not_negative_zero x (factor_clear _ x grouped spelled factor valued)

end Expr

theorem parsed_part (t : String) (tree s : Expr) (accepted : parse t = .ok tree) (part : s ∈ tree.parts) :
    ∃ x, s.value = .ok x ∧ s.simplify = .ok (.literal x.text) ∧
      (s.IsFactor → x.isNan = true ∨ x.isNegative = false) ∧ x ≠ Double.zero true := by
  obtain ⟨-, -, -, treeComplete, treeSpelled, treeGrouped⟩ := parsed_shape t tree accepted
  obtain ⟨complete, spelled, grouped⟩ := Expr.part_shape tree s part treeComplete treeSpelled treeGrouped
  obtain ⟨x, valued⟩ := Expr.numeric_value s complete (Expr.spelled_numeric s spelled)
  refine ⟨x, valued, by simp only [Expr.simplify_value, valued, Expr.ofDouble], ?_, ?_⟩
  · intro factor
    exact .inr (Expr.factor_clear s x grouped spelled factor valued)
  · exact Expr.no_negative_zero s x grouped spelled valued

theorem parsed_quotient (t : String) (tree left right : Expr) (accepted : parse t = .ok tree)
    (part : .binary left .dividedBy right ∈ tree.parts) :
    ∃ x y, left.value = .ok x ∧ right.value = .ok y ∧ (Expr.binary left .dividedBy right).value = .ok (x.div y) ∧
      (y.isZero = true → x.div y = .infinite false ∨ x.div y = .nan) := by
  obtain ⟨z, valued, -, -, -⟩ := parsed_part t tree _ accepted part
  obtain ⟨x, y, leftValue, rightValue, rfl⟩ := Expr.binary_value left right .dividedBy z valued
  obtain ⟨-, -, -, complete, spelled, grouped⟩ := parsed_shape t tree accepted
  obtain ⟨-, nodeSpelled, nodeGrouped⟩ := Expr.part_shape tree _ part complete spelled grouped
  obtain ⟨leftFactor, rightFactor⟩ := Expr.grouped_factors left right .dividedBy nodeGrouped rfl
  refine ⟨x, y, leftValue, rightValue, valued, ?_⟩
  intro zero
  have leftClear := Expr.factor_clear left x nodeGrouped.1 nodeSpelled.1 leftFactor leftValue
  have rightClear := Expr.factor_clear right y nodeGrouped.2.1 nodeSpelled.2 rightFactor rightValue
  exact Double.div_by_zero x y leftClear rightClear zero

theorem parsed_signs (t : String) (tree : Expr) (accepted : parse t = .ok tree) :
    (∀ s ∈ tree.parts, ∃ x, s.value = .ok x ∧ s.simplify = .ok (.literal x.text) ∧
      (s.IsFactor → x.isNan = true ∨ x.isNegative = false) ∧ x ≠ Double.zero true) ∧
    (∃ result, tree.simplify = .ok result ∧ result.render ≠ "-0") ∧
    ∀ left right, .binary left .dividedBy right ∈ tree.parts →
      ∃ x y, left.value = .ok x ∧ right.value = .ok y ∧ (Expr.binary left .dividedBy right).value = .ok (x.div y) ∧
        (y.isZero = true → x.div y = .infinite false ∨ x.div y = .nan) := by
  refine ⟨fun s => parsed_part t tree s accepted, ?_, fun left right => parsed_quotient t tree left right accepted⟩
  obtain ⟨x, -, reduced, -, nonzero⟩ := parsed_part t tree tree accepted tree.self_part
  refine ⟨.literal x.text, reduced, ?_⟩
  rw [Expr.render_text, Expr.text]
  intro written
  have zeroText : (Double.zero true).text = "-0" := by decide
  exact nonzero (Double.text_injective x (Double.zero true) (written.trans zeroText.symm))

def quotientByNothing : Expr :=
  .binary (.binary (.literal "2") .minus (.literal "3")) .minus
    (.binary (.binary (.literal "6") .dividedBy (.literal "0")) .times (.literal ".5"))

theorem parsed_signs_quotient_by_nothing :
    parse "2-3 - 6/0*.5" = .ok quotientByNothing ∧
      .binary (.literal "6") .dividedBy (.literal "0") ∈ quotientByNothing.parts ∧
      (∃ result, quotientByNothing.simplify = .ok result ∧ result.render ≠ "-0") ∧
      ∃ x y, (Expr.literal "6").value = .ok x ∧ (Expr.literal "0").value = .ok y ∧
        (y.isZero = true → x.div y = .infinite false ∨ x.div y = .nan) := by
  have accepted : parse "2-3 - 6/0*.5" = .ok quotientByNothing := rfl
  have part : .binary (.literal "6") .dividedBy (.literal "0") ∈ quotientByNothing.parts := by decide
  obtain ⟨-, reduced, quotients⟩ := parsed_signs "2-3 - 6/0*.5" quotientByNothing accepted
  obtain ⟨x, y, dividend, divisor, -, signs⟩ := quotients _ _ part
  exact ⟨accepted, part, reduced, x, y, dividend, divisor, signs⟩

end Reckoner
