import Reckoner.Proofs.RoundingError
import Reckoner.Proofs.WholeDouble

set_option autoImplicit false

namespace Reckoner

theorem last_place_bound (num : Nat) (long : Nat.pow 2 52 ≤ num) : Nat.pow 2 52 * lastPlace num 1 ≤ num := by
  have nonzero : num ≠ 0 := Nat.ne_of_gt (Nat.lt_of_lt_of_le (power_pos 2 52 (by decide)) long)
  have bits : 52 ≤ Nat.log2 num := (Nat.le_log2 nonzero).mpr long
  rw [lastPlace, Nat.div_one, power_join 52 _ (Nat.log2 num) (by omega)]
  exact Nat.log2_self_le nonzero

theorem units_in_one_long : Nat.pow 2 52 ≤ unitsInOne :=
  Nat.pow_le_pow_right (by decide) (by rw [unit_places]; decide)

namespace Magnitude

theorem same_index (m n : Magnitude) (same : m.index = n.index) : m = n := by
  cases m
  cases n
  subst same
  rfl

theorem zero_of_index (m : Magnitude) (zero : m.index = 0) : m = Magnitude.zero :=
  same_index m Magnitude.zero zero

theorem whole_index (m : Magnitude) (n : Nat) (units : m.units = n * unitsInOne) : m.index = 0 ↔ n = 0 := by
  constructor
  · intro zero
    rw [zero_of_index m zero, zero_units] at units
    exact (Nat.mul_eq_zero.mp units.symm).resolve_right (Nat.ne_of_gt units_in_one_pos)
  · intro zero
    by_cases index : m.index = 0
    · exact index
    · have positive := units_pos m index
      rw [units, zero, Nat.zero_mul] at positive
      contradiction

end Magnitude

namespace Decimal

theorem rounded_whole (coefficient up : Nat) (negative : Bool) :
    rounded negative ⟨coefficient, (up : Int)⟩ =
      Double.round negative (coefficient * Nat.pow 10 up * unitsInOne) 1 := by
  change Double.round negative (ratio ⟨coefficient, .ofNat up⟩).1 (ratio ⟨coefficient, .ofNat up⟩).2 = _
  rw [ratio]
  dsimp only
  rw [← unit_places]
  rfl

theorem whole_no_underflow (coefficient up : Nat) : underflows ⟨coefficient, (up : Int)⟩ = false := by
  rw [underflows, decide_eq_false_iff_not]
  show ¬ ((Nat.log2 coefficient + 1080 : Int) < -3 * up)
  omega

theorem whole_reads_back (m : Magnitude) (n : Nat) (units : m.units = n * unitsInOne) :
    toDouble false ⟨n, 0⟩ = .finite false m := by
  by_cases zero : n = 0
  · rw [Magnitude.zero_of_index m ((Magnitude.whole_index m n units).mpr zero), zero]
    rfl
  · have noUnderflow : underflows ⟨n, 0⟩ = false := whole_no_underflow n 0
    have noOverflow : overflows ⟨n, 0⟩ = false := by simp [overflows]
    have value : toDouble false ⟨n, 0⟩ = rounded false ⟨n, ((0 : Nat) : Int)⟩ := by
      simp [toDouble, zero, noUnderflow, noOverflow]
    have exactly : n * Nat.pow 10 0 * unitsInOne = m.units * 1 := by
      rw [units, Nat.pow_eq, Nat.pow_zero, Nat.mul_one, Nat.mul_one]
    rw [value, rounded_whole, exactly]
    exact Double.round_units false m 1 Nat.one_pos

theorem whole_to_double (n : Nat) (small : n ≤ wholeLimit) : Double.IsWhole n (toDouble false ⟨n, 0⟩) := by
  obtain ⟨m, units⟩ := Magnitude.whole_units n small
  refine ⟨m, ?_, units⟩
  rw [whole_reads_back m n units, decide_eq_false (Int.not_lt.mpr (Int.natCast_nonneg n))]

theorem rounded_near (value n : Nat) (m : Magnitude) (units : m.units = n * unitsInOne) (counted : 0 < value)
    (read : Double.round false (value * unitsInOne) 1 = .finite false m) :
    Nat.pow 2 53 * value ≤ Nat.pow 2 53 * n + value ∧ Nat.pow 2 53 * n ≤ Nat.pow 2 53 * value + value := by
  have long : Nat.pow 2 52 ≤ value * unitsInOne :=
    Nat.le_trans units_in_one_long (Nat.le_mul_of_pos_left _ counted)
  have place := last_place_bound _ long
  obtain ⟨above, below⟩ := Double.round_bounds _ 1 Nat.one_pos m read
  rw [Nat.mul_one] at above
  rw [Nat.mul_one, Nat.mul_one] at below
  rw [units] at above below
  generalize lastPlace (value * unitsInOne) 1 = last at place above below
  constructor
  · apply Nat.le_of_mul_le_mul_right _ units_in_one_pos
    rw [Nat.add_mul, Nat.mul_assoc, Nat.mul_assoc]
    simp only [Nat.pow_eq] at place ⊢
    omega
  · apply Nat.le_of_mul_le_mul_right _ units_in_one_pos
    rw [Nat.add_mul, Nat.mul_assoc, Nat.mul_assoc]
    simp only [Nat.pow_eq] at place ⊢
    omega

theorem tenfold_reads_back (coefficient up n : Nat) (m : Magnitude) (units : m.units = n * unitsInOne)
    (positive : 0 < n) (small : n ≤ wholeLimit) (tenfold : 10 ∣ coefficient * Nat.pow 10 up)
    (read : toDouble false ⟨coefficient, (up : Int)⟩ = .finite false m) : coefficient * Nat.pow 10 up = n := by
  have index : m.index ≠ 0 := fun zero => Nat.ne_of_gt positive ((Magnitude.whole_index m n units).mp zero)
  rw [toDouble, whole_no_underflow, Bool.or_false] at read
  by_cases nothing : coefficient = 0
  · rw [if_pos (by simp [nothing])] at read
    have same := (Double.finite.inj read).2
    exact absurd (congrArg Magnitude.index same.symm) index
  · rw [if_neg (by simp [nothing])] at read
    split at read
    · contradiction
    · rw [rounded_whole] at read
      have counted : 0 < coefficient * Nat.pow 10 up :=
        Nat.mul_pos (Nat.pos_of_ne_zero nothing) (power_pos 10 up (by decide))
      obtain ⟨fromAbove, fromBelow⟩ := rounded_near _ n m units counted read
      generalize coefficient * Nat.pow 10 up = value at tenfold fromAbove fromBelow ⊢
      simp only [wholeLimit, Nat.pow_eq] at small fromAbove fromBelow
      have notBelow : n ≤ value := by omega
      have near : value ≤ n + 1 := by omega
      by_cases next : value = n + 1
      · have largest : n = 2 ^ 53 - 1 ∨ n = 2 ^ 53 := by omega
        omega
      · omega

end Decimal

end Reckoner
