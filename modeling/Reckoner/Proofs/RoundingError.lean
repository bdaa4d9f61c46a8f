import Reckoner.Proofs.Rounding

set_option autoImplicit false

namespace Reckoner

theorem nearest_bounds (num den : Nat) (positive : 0 < den) :
    2 * num ≤ (2 * nearest num den + 1) * den ∧ 2 * nearest num den * den ≤ 2 * num + den := by
  have parts := Nat.div_add_mod num den
  have rest := Nat.mod_lt num positive
  have parity : num / den % 2 = 0 ∨ num / den % 2 = 1 := by omega
  have below : 2 * (num / den) * den = 2 * (den * (num / den)) := by
    rw [Nat.mul_assoc, Nat.mul_comm (num / den)]
  have above : 2 * (num / den + 1) * den = 2 * (den * (num / den)) + 2 * den := by
    rw [Nat.mul_add, Nat.add_mul, below, Nat.mul_one]
  simp only [nearest]
  by_cases less : 2 * (num % den) < den
  · rw [if_pos less, Nat.add_mul, below, Nat.one_mul]
    omega
  · rw [if_neg less]
    by_cases more : den < 2 * (num % den)
    · rw [if_pos more, Nat.add_mul, above, Nat.one_mul]
      omega
    · rw [if_neg more]
      cases parity with
      | inl even =>
          have stays : num / den + num / den % 2 = num / den := by omega
          rw [stays, Nat.add_mul, below, Nat.one_mul]
          omega
      | inr odd =>
          rw [odd, Nat.add_mul, above, Nat.one_mul]
          omega

def lastPlace (num den : Nat) : Nat := Nat.pow 2 (Nat.log2 (num / den) - 52)

theorem last_place_pos (num den : Nat) : 0 < lastPlace num den := power_pos 2 _ (by decide)

theorem leading_bits (q : Nat) :
    q / Nat.pow 2 (Nat.log2 q - 52) < Nat.pow 2 53 ∧
      (Nat.log2 q - 52 = 0 ∨ Nat.pow 2 52 ≤ q / Nat.pow 2 (Nat.log2 q - 52)) := by
  by_cases zero : q = 0
  · rw [zero]
    decide
  · obtain ⟨low, high⟩ := (Nat.log2_eq_iff zero).mp rfl
    have place := power_pos 2 (Nat.log2 q - 52) (by decide)
    by_cases short : Nat.log2 q ≤ 52
    · have unshifted : Nat.log2 q - 52 = 0 := by omega
      refine ⟨?_, .inl unshifted⟩
      rw [unshifted]
      exact (Nat.div_one q).symm ▸ (Nat.log2_lt zero).mp (Nat.lt_succ_of_le short)
    · have top : 53 + (Nat.log2 q - 52) = Nat.log2 q + 1 := by omega
      have leading : 52 + (Nat.log2 q - 52) = Nat.log2 q := by omega
      refine ⟨?_, .inr ?_⟩
      · apply (Nat.div_lt_iff_lt_mul place).mpr
        rw [Nat.pow_eq, Nat.pow_eq, ← Nat.pow_add, top]
        exact high
      · apply (Nat.le_div_iff_mul_le place).mpr
        rw [Nat.pow_eq, Nat.pow_eq, ← Nat.pow_add, leading]
        exact low

theorem significand_bounds (num den : Nat) :
    nearest num (den * lastPlace num den) ≤ Nat.pow 2 53 ∧
      (Nat.log2 (num / den) - 52 = 0 ∨ Nat.pow 2 52 ≤ nearest num (den * lastPlace num den)) := by
  have quotient : num / (den * lastPlace num den) = num / den / lastPlace num den :=
    (Nat.div_div_eq_div_mul _ _ _).symm
  obtain ⟨short, full⟩ := leading_bits (num / den)
  have neighbour := nearest_neighbour num (den * lastPlace num den)
  rw [quotient] at neighbour
  rw [lastPlace] at neighbour ⊢
  omega

namespace Magnitude

theorem units_of_index (m : Magnitude) (shift significand : Nat)
    (index : m.index = shift * Nat.pow 2 52 + significand) (short : significand ≤ Nat.pow 2 53)
    (full : shift = 0 ∨ Nat.pow 2 52 ≤ significand) : m.units = significand * Nat.pow 2 shift := by
  simp only [Nat.pow_eq] at index short full
  by_cases carried : significand = 2 ^ 53
  · have place : m.shift = shift + 1 := by
      simp only [Magnitude.shift, Nat.pow_eq]
      omega
    have half : m.significand = 2 ^ 52 := by
      rw [Magnitude.significand, place]
      simp only [Nat.pow_eq]
      omega
    rw [units, half, place, carried, Nat.pow_eq, Nat.pow_eq, ← Nat.pow_add, ← Nat.pow_add]
    congr 1
    omega
  · have place : m.shift = shift := by
      simp only [Magnitude.shift, Nat.pow_eq]
      omega
    have same : m.significand = significand := by
      rw [Magnitude.significand, place]
      simp only [Nat.pow_eq]
      omega
    rw [units, same, place]

end Magnitude

namespace Double

theorem round_index (num den : Nat) (m : Magnitude) (rounded : round false num den = .finite false m) :
    m.index = (Nat.log2 (num / den) - 52) * Nat.pow 2 52 + nearest num (den * lastPlace num den) := by
  have found : ofIndex false
      ((Nat.log2 (num / den) - 52) * Nat.pow 2 52 + nearest num (den * lastPlace num den)) = .finite false m := rounded
  rw [ofIndex] at found
  split at found
  · rw [← (Double.finite.inj found).2]
  · contradiction

theorem round_units_nearest (num den : Nat) (m : Magnitude) (rounded : round false num den = .finite false m) :
    m.units = nearest num (den * lastPlace num den) * lastPlace num den := by
  obtain ⟨short, full⟩ := significand_bounds num den
  exact Magnitude.units_of_index m _ _ (round_index num den m rounded) short full

theorem round_bounds (num den : Nat) (positive : 0 < den) (m : Magnitude)
    (rounded : round false num den = .finite false m) :
    2 * num ≤ (2 * m.units + lastPlace num den) * den ∧
      2 * m.units * den ≤ 2 * num + lastPlace num den * den := by
  have scaled := Nat.mul_pos positive (last_place_pos num den)
  obtain ⟨above, below⟩ := nearest_bounds num (den * lastPlace num den) scaled
  have units := round_units_nearest num den m rounded
  generalize nearest num (den * lastPlace num den) = n at above below units
  generalize lastPlace num den = place at above below units ⊢
  have product : n * (den * place) = m.units * den := by
    rw [units, Nat.mul_comm den, Nat.mul_assoc]
  have weight : den * place = place * den := Nat.mul_comm den place
  constructor
  · calc 2 * num ≤ (2 * n + 1) * (den * place) := above
      _ = 2 * (n * (den * place)) + den * place := by rw [Nat.add_mul, Nat.one_mul, Nat.mul_assoc]
      _ = (2 * m.units + place) * den := by rw [product, weight, Nat.add_mul, Nat.mul_assoc]
  · calc 2 * m.units * den = 2 * n * (den * place) := by rw [Nat.mul_assoc, ← product, Nat.mul_assoc]
      _ ≤ 2 * num + den * place := below
      _ = 2 * num + place * den := by rw [weight]

end Double

end Reckoner
