import Reckoner.Decimal.Shortest

set_option autoImplicit false

namespace Reckoner

theorem power_pos (base n : Nat) (positive : 0 < base) : 0 < Nat.pow base n := Nat.pow_pos positive

theorem nearest_exact (n den : Nat) (positive : 0 < den) : nearest (n * den) den = n := by
  simp [nearest, Nat.mul_div_cancel n positive, positive]

theorem nearest_neighbour (num den : Nat) : nearest num den = num / den ∨ nearest num den = num / den + 1 := by
  have parity : num / den % 2 = 0 ∨ num / den % 2 = 1 := by omega
  simp only [nearest]
  split
  · exact .inl rfl
  · split
    · exact .inr rfl
    · rcases parity with even | odd
      · exact .inl (by rw [even, Nat.add_zero])
      · exact .inr (by rw [odd])

namespace Magnitude

theorem significand_cases (m : Magnitude) :
    (m.shift = 0 ∧ m.significand = m.index ∧ m.index < Nat.pow 2 52) ∨
      (Nat.pow 2 52 ≤ m.significand ∧ m.significand < Nat.pow 2 53 ∧
        m.index = m.shift * Nat.pow 2 52 + m.significand) := by
  have place := Nat.div_add_mod m.index (2 ^ 52)
  have below := Nat.mod_lt m.index (show 0 < 2 ^ 52 by decide)
  simp only [significand, shift, Nat.pow_eq]
  omega

theorem units_pos (m : Magnitude) (positive : m.index ≠ 0) : 0 < m.units := by
  have significant : 0 < m.significand := by
    rcases significand_cases m with ⟨-, same, -⟩ | ⟨full, -, -⟩
    · omega
    · exact Nat.lt_of_lt_of_le (by decide) full
  exact Nat.mul_pos significant (power_pos 2 m.shift (by decide))

theorem units_log (m : Magnitude) : Nat.log2 m.units - 52 = m.shift := by
  have shifted : m.units = m.significand * 2 ^ m.shift := rfl
  rcases significand_cases m with ⟨unshifted, same, small⟩ | ⟨full, short, -⟩
  · rw [shifted, unshifted, same, Nat.pow_zero, Nat.mul_one]
    by_cases zero : m.index = 0
    · rw [zero, Nat.log2_zero]
    · have bits := (Nat.log2_lt zero).mpr small
      omega
  · have significant : 0 < m.significand := Nat.lt_of_lt_of_le (by decide) full
    have nonzero : m.significand * 2 ^ m.shift ≠ 0 := Nat.ne_of_gt (Nat.mul_pos significant (power_pos 2 m.shift (by decide)))
    have bits : Nat.log2 (m.significand * 2 ^ m.shift) = 52 + m.shift := by
      rw [Nat.log2_eq_iff nonzero]
      constructor
      · rw [Nat.pow_add]
        exact Nat.mul_le_mul_right _ full
      · rw [show 52 + m.shift + 1 = 53 + m.shift by omega, Nat.pow_add]
        exact Nat.mul_lt_mul_of_pos_right short (power_pos 2 m.shift (by decide))
    rw [shifted, bits]
    omega

end Magnitude

namespace Double

theorem round_units (negative : Bool) (m : Magnitude) (den : Nat) (positive : 0 < den) :
    round negative (m.units * den) den = .finite negative m := by
  have exactly : nearest (m.units * den) (den * Nat.pow 2 m.shift) = m.significand := by
    have scaled : 0 < den * Nat.pow 2 m.shift := Nat.mul_pos positive (power_pos 2 m.shift (by decide))
    rw [Magnitude.units, Nat.mul_assoc, Nat.mul_comm (Nat.pow 2 m.shift) den]
    exact nearest_exact m.significand _ scaled
  have place : m.shift * Nat.pow 2 52 + m.significand = m.index := by
    rcases Magnitude.significand_cases m with ⟨unshifted, same, -⟩ | ⟨-, -, split⟩
    · rw [unshifted, same, Nat.zero_mul, Nat.zero_add]
    · exact split.symm
  rw [round, Nat.mul_div_cancel _ positive, Magnitude.units_log, exactly, place, ofIndex, dif_pos m.bounded]

theorem of_index_sign (index : Nat) (negative : Bool) (m : Magnitude) (found : ofIndex false index = .finite false m) :
    ofIndex negative index = .finite negative m := by
  rw [ofIndex] at found ⊢
  split at found
  · next bounded =>
      obtain rfl := (Double.finite.inj found).2
      rw [dif_pos bounded]
  · exact absurd found (by simp)

end Double

namespace Decimal

theorem to_double_sign (d : Decimal) (negative : Bool) (m : Magnitude)
    (read : d.toDouble false = .finite false m) : d.toDouble negative = .finite negative m := by
  rw [toDouble] at read ⊢
  split at read
  · next tiny =>
      obtain rfl := (Double.finite.inj read).2
      rw [if_pos tiny, Double.zero]
  · next notTiny =>
      rw [if_neg notTiny]
      split at read
      · exact absurd read (by simp)
      · next bounded =>
          rw [if_neg bounded]
          exact Double.of_index_sign _ negative m read

theorem five_power (count n : Nat) (counted : 0 < count) :
    count * Nat.pow 5 n ≠ 0 ∧ 2 * n ≤ Nat.log2 (count * Nat.pow 5 n) := by
  have nonzero : count * Nat.pow 5 n ≠ 0 := Nat.ne_of_gt (Nat.mul_pos counted (power_pos 5 n (by decide)))
  refine ⟨nonzero, (Nat.le_log2 nonzero).mpr ?_⟩
  calc 2 ^ (2 * n) = (2 ^ 2) ^ n := Nat.pow_mul 2 2 n
    _ ≤ 5 ^ n := Nat.pow_le_pow_left (by decide) n
    _ ≤ count * 5 ^ n := Nat.le_mul_of_pos_left _ counted

theorem round_tenths (m : Magnitude) (n : Nat) :
    Double.round false (m.units * Nat.pow 5 n * Nat.pow 2 n) (Nat.pow 10 n) = .finite false m := by
  have ten : m.units * Nat.pow 5 n * Nat.pow 2 n = m.units * Nat.pow 10 n := by
    simp only [Nat.pow_eq, Nat.mul_assoc, ← Nat.mul_pow]
  rw [ten]
  exact Double.round_units false m _ (power_pos 10 n (by decide))

theorem rounded_down (coefficient down : Nat) (negative : Bool) :
    rounded negative ⟨coefficient, -((down + 1 : Nat) : Int)⟩ =
      Double.round negative (coefficient * Nat.pow 2 1074) (Nat.pow 10 (down + 1)) := rfl

theorem rounded_tenths (m : Magnitude) (n : Nat) (least : n = 1074) :
    rounded false ⟨m.units * Nat.pow 5 n, -(n : Int)⟩ = .finite false m := by
  cases n with
  | zero => omega
  | succ down =>
      rw [rounded_down, ← least]
      exact round_tenths m (down + 1)

theorem tenths_read_back (m : Magnitude) (n : Nat) (least : n = 1074) (positive : m.index ≠ 0) :
    toDouble false ⟨m.units * Nat.pow 5 n, -(n : Int)⟩ = .finite false m := by
  obtain ⟨nonzero, long⟩ := five_power m.units n (Magnitude.units_pos m positive)
  have noUnderflow : underflows ⟨m.units * Nat.pow 5 n, -(n : Int)⟩ = false := by
    rw [underflows, decide_eq_false_iff_not]
    show ¬ (Nat.log2 (m.units * Nat.pow 5 n) + 1080 : Int) < -3 * -(n : Int)
    omega
  have noOverflow : overflows ⟨m.units * Nat.pow 5 n, -(n : Int)⟩ = false := by
    have few : ¬ (400 : Int) ≤ -(n : Int) := by omega
    simp [overflows, few]
  simp only [toDouble, noUnderflow, noOverflow, nonzero, decide_false, Bool.or_self, Bool.false_eq_true, if_false]
  exact rounded_tenths m n least

theorem exact_reads_back (m : Magnitude) (positive : m.index ≠ 0) : (exact m).toDouble false = .finite false m := by
  have shape : exact m = ⟨m.units * Nat.pow 5 1074, -((1074 : Nat) : Int)⟩ := rfl
  -- The places stay a variable, so that no power of this size is worked out.
  obtain ⟨n, least⟩ : ∃ n : Nat, n = 1074 := ⟨1074, rfl⟩
  rw [shape, ← least]
  exact tenths_read_back m n least positive

theorem on_grid_reads_back (m : Magnitude) (exponent : Int) (d : Decimal) (found : onGrid m exponent = some d) :
    readsBack m d = true := by
  simp only [onGrid] at found
  split at found
  · next below above =>
      obtain rfl := Option.some.inj found
      rcases nearest_neighbour (gridRatio m exponent).1 (gridRatio m exponent).2 with same | same
      · rw [same, below]
      · rw [same, above]
  · next below _ =>
      obtain rfl := Option.some.inj found
      exact below
  · next _ above =>
      obtain rfl := Option.some.inj found
      exact above
  · exact absurd found (by simp)

theorem first_on_grid_reads_back (m : Magnitude) (positive : m.index ≠ 0) (count : Nat) (exponent : Int) :
    (firstOnGrid m count exponent).toDouble false = .finite false m := by
  induction count generalizing exponent with
  | zero => exact exact_reads_back m positive
  | succ count ih =>
      rw [firstOnGrid]
      cases tried : onGrid m exponent with
      | none => exact ih (exponent - 1)
      | some d => exact eq_of_beq (on_grid_reads_back m exponent d tried)

theorem shortest_reads_back (m : Magnitude) (negative : Bool) :
    (shortest m).toDouble negative = .finite negative m := by
  apply to_double_sign
  rw [shortest]
  split
  · next zero =>
      have same : m = Magnitude.zero := by
        cases m
        subst zero
        rfl
      rw [same]
      rfl
  · next positive => exact first_on_grid_reads_back m positive 20 (startExponent m)

end Decimal

end Reckoner
