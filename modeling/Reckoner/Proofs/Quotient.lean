import Reckoner.Double.Division
import Reckoner.Operator
import Reckoner.Proofs.Overflow
import Reckoner.Proofs.Sign

set_option autoImplicit false

namespace Reckoner

namespace Double

inductive IsQuotient : Double → Double → Double → Prop where
  | ofNoNumber (y : Double) : IsQuotient .nan y .nan
  | byNoNumber (x : Double) : IsQuotient x .nan .nan
  | ofInfinities (s t : Bool) : IsQuotient (.infinite s) (.infinite t) .nan
  | ofZeros (s t : Bool) : IsQuotient (zero s) (zero t) .nan
  | ofInfinity (s t : Bool) (n : Magnitude) : IsQuotient (.infinite s) (.finite t n) (.infinite (xor s t))
  | byInfinity (s t : Bool) (m : Magnitude) : IsQuotient (.finite s m) (.infinite t) (zero (xor s t))
  | byZero (s t : Bool) (m : Magnitude) (counted : m ≠ Magnitude.zero) :
      IsQuotient (.finite s m) (zero t) (.infinite (xor s t))
  | overflow (s t : Bool) (m n : Magnitude) (counted : n ≠ Magnitude.zero)
      (reached : overflowUnits * n.units ≤ m.units * Nat.pow 2 1074) :
      IsQuotient (.finite s m) (.finite t n) (.infinite (xor s t))
  | rounded (s t : Bool) (m n q : Magnitude) (counted : n ≠ Magnitude.zero)
      (within : m.units * Nat.pow 2 1074 < overflowUnits * n.units)
      (nearest : q.IsNearest (m.units * Nat.pow 2 1074) n.units) :
      IsQuotient (.finite s m) (.finite t n) (.finite (xor s t) q)

theorem div_finite_rounded (s t : Bool) (m n : Magnitude) (counted : n ≠ Magnitude.zero) :
    div (.finite s m) (.finite t n) = round (xor s t) (m.units * Nat.pow 2 1074) n.units :=
  if_neg (mt (zero_magnitude n) counted)

theorem div_zeros (s t : Bool) : div (zero s) (zero t) = .nan := by
  rw [zero, zero, div, divFinite, if_pos Magnitude.zero_units, if_pos Magnitude.zero_units]

theorem div_finite_zero (s t : Bool) (m : Magnitude) (counted : m ≠ Magnitude.zero) :
    div (.finite s m) (zero t) = .infinite (xor s t) := by
  rw [zero, div, divFinite, if_pos Magnitude.zero_units, if_neg (mt (zero_magnitude m) counted)]

theorem counted_units (m : Magnitude) (counted : m ≠ Magnitude.zero) : 0 < m.units :=
  Nat.pos_of_ne_zero (mt (zero_magnitude m) counted)

theorem div_quotient (x y : Double) : IsQuotient x y (x.div y) := by
  cases x with
  | nan => exact .ofNoNumber y
  | infinite s =>
      cases y with
      | nan => exact .byNoNumber _
      | infinite t => exact .ofInfinities s t
      | finite t n => exact .ofInfinity s t n
  | finite s m =>
      cases y with
      | nan => exact .byNoNumber _
      | infinite t => exact .byInfinity s t m
      | finite t n =>
          by_cases nothing : n = Magnitude.zero
          · subst nothing
            by_cases zeros : m = Magnitude.zero
            · subst zeros
              rw [← zero, ← zero, div_zeros]
              exact .ofZeros s t
            · rw [← zero, div_finite_zero s t m zeros]
              exact .byZero s t m zeros
          · have positive := counted_units n nothing
            rw [div_finite_rounded s t m n nothing]
            by_cases within : m.units * Nat.pow 2 1074 < overflowUnits * n.units
            · obtain ⟨q, rounded, nearest⟩ := round_finite (xor s t) _ _ positive within
              rw [rounded]
              exact .rounded s t m n q nothing within nearest
            · have reached := Nat.not_lt.mp within
              rw [(round_infinite (xor s t) _ _ positive).mpr reached]
              exact .overflow s t m n nothing reached

theorem quotient_div (x y z : Double) (quotient : IsQuotient x y z) : z = x.div y := by
  cases quotient with
  | ofNoNumber y => rfl
  | byNoNumber x => cases x <;> rfl
  | ofInfinities s t => rfl
  | ofZeros s t => exact (div_zeros s t).symm
  | ofInfinity s t n => rfl
  | byInfinity s t m => rfl
  | byZero s t m counted => exact (div_finite_zero s t m counted).symm
  | overflow s t m n counted reached =>
      rw [div_finite_rounded s t m n counted]
      exact ((round_infinite (xor s t) _ _ (counted_units n counted)).mpr reached).symm
  | rounded s t m n q counted within nearest =>
      have positive := counted_units n counted
      obtain ⟨r, rounded, other⟩ := round_finite (xor s t) _ _ positive within
      rw [div_finite_rounded s t m n counted, rounded, Magnitude.nearest_unique q r _ _ positive nearest other]

theorem quotient_iff (x y z : Double) : IsQuotient x y z ↔ z = x.div y := by
  refine ⟨quotient_div x y z, ?_⟩
  intro same
  rw [same]
  exact div_quotient x y

theorem eq_zero (x : Double) : x.eq (zero false) = x.isZero := by
  cases x with
  | nan => rfl
  | infinite s => rfl
  | finite s m =>
      change (m.index == 0 && (s == false || m.index == 0)) = (m.index == 0)
      cases m.index == 0 <;> simp

theorem div_zero_divisor (x y : Double) (divisor : y.isZero = true) :
    x.div y = if (x.isZero || x.isNan) = true then .nan else .infinite (xor x.isNegative y.isNegative) := by
  cases y with
  | nan => contradiction
  | infinite t => contradiction
  | finite t n =>
      obtain rfl := Magnitude.zero_of_index n (eq_of_beq divisor)
      cases x with
      | nan => rfl
      | infinite s => rfl
      | finite s m =>
          by_cases nothing : m = Magnitude.zero
          · subst nothing
            exact div_zeros s t
          · have counted : (m.index == 0) = false := beq_eq_false_iff_ne.mpr (mt m.zero_of_index nothing)
            rw [isZero, counted]
            exact div_finite_zero s t m nothing

theorem signs_product (x y : Double) :
    (copySign (.infinite false) x).mul (copySign (.finite false Magnitude.one) y) =
      .infinite (xor x.isNegative y.isNegative) := by
  have counted : Magnitude.one ≠ Magnitude.zero := by decide
  rw [copySign, copySign, mul, if_neg (Nat.ne_of_gt (counted_units _ counted))]

theorem guarded_div (x y : Double) : guardedDiv? x y = some (x.div y) := by
  rw [guardedDiv?, eq_zero, eq_zero]
  by_cases divisor : y.isZero = true
  · rw [if_pos divisor, div_zero_divisor x y divisor, signs_product]
    exact (apply_ite some _ _ _).symm
  · rw [if_neg divisor, strictDiv?, if_neg divisor]

end Double

theorem divided_by_is_quotient (x y : Double) :
    ∃ z, Double.guardedDiv? x y = some z ∧ Operator.dividedBy.apply x y = z ∧
      (∀ w, Double.IsQuotient x y w ↔ w = z) ∧
      (y.isZero = true → (z = .nan ↔ x.isZero = true ∨ x.isNan = true) ∧
        (z ≠ .nan → z = .infinite (xor x.isNegative y.isNegative))) ∧
      (y.isZero = false → Double.strictDiv? x y = some z) := by
  refine ⟨x.div y, x.guarded_div y, rfl, x.quotient_iff y, ?_, ?_⟩
  · intro divisor
    rw [x.div_zero_divisor y divisor, ← Bool.or_eq_true]
    by_cases undefined : (x.isZero || x.isNan) = true
    · rw [if_pos undefined]
      exact ⟨iff_of_true rfl undefined, fun number => absurd rfl number⟩
    · rw [if_neg undefined]
      exact ⟨iff_of_false Double.noConfusion undefined, fun _ => rfl⟩
  · intro divisor
    rw [Double.strictDiv?, divisor]
    rfl

theorem divided_by_is_quotient_past_zero :
    (Double.zero true).isZero = true ∧ Double.guardedDiv? (.infinite true) (.zero true) = some (.infinite false) ∧
      (Double.infinite true).isZero = false ∧
      Double.strictDiv? (.finite false Magnitude.one) (.infinite true) = some (.zero true) := by
  obtain ⟨z, guarded, -, -, byZero, -⟩ := divided_by_is_quotient (.infinite true) (.zero true)
  obtain ⟨w, -, applied, -, -, strict⟩ := divided_by_is_quotient (.finite false Magnitude.one) (.infinite true)
  have quotients := byZero rfl
  have number : z ≠ .nan := by
    intro undefined
    cases quotients.1.mp undefined <;> contradiction
  refine ⟨rfl, ?_, rfl, ?_⟩
  · rw [guarded, quotients.2 number]
    rfl
  · rw [strict rfl, ← applied]
    rfl

end Reckoner
