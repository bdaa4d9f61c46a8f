import Reckoner.Proofs.RoundingError

set_option autoImplicit false

namespace Reckoner

theorem nearest_scaled (num den scale : Nat) (positive : 0 < scale) :
    nearest (num * scale) (den * scale) = nearest num den := by
  have twice : 2 * (num % den * scale) = 2 * (num % den) * scale := (Nat.mul_assoc _ _ _).symm
  simp only [nearest, Nat.mul_div_mul_right num den positive, Nat.mul_mod_mul_right, twice,
    Nat.mul_lt_mul_right positive]

theorem nearest_order (num den num' den' : Nat) (positive : 0 < den) (positive' : 0 < den')
    (ordered : num * den' ≤ num' * den) : nearest num den ≤ nearest num' den' := by
  by_cases same : num * den' = num' * den
  · have left := nearest_scaled num den den' positive'
    have right := nearest_scaled num' den' den positive
    rw [Nat.mul_comm den' den, ← same] at right
    exact Nat.le_of_eq (left.symm.trans right)
  · apply Nat.le_of_not_lt
    intro greater
    have below := Nat.mul_le_mul_right den' (nearest_bounds num den positive).2
    have above := Nat.mul_le_mul_right den (nearest_bounds num' den' positive').1
    have apart := Nat.mul_le_mul_right (den * den') greater
    have low : 2 * nearest num den * den * den' = 2 * (nearest num den * (den * den')) := by
      simp only [Nat.mul_assoc]
    have high : (2 * nearest num' den' + 1) * den' * den = 2 * (nearest num' den' * (den * den')) + den * den' := by
      rw [Nat.mul_assoc, Nat.mul_comm den' den, Nat.add_mul, Nat.one_mul, Nat.mul_assoc]
    rw [low, Nat.add_mul, Nat.mul_assoc] at below
    rw [high, Nat.mul_assoc] at above
    rw [Nat.succ_mul] at apart
    omega

theorem log_order (a b : Nat) (ordered : a ≤ b) : Nat.log2 a ≤ Nat.log2 b := by
  by_cases zero : a = 0
  · rw [zero, Nat.log2_zero]
    exact Nat.zero_le _
  · have nonzero : b ≠ 0 := by omega
    exact (Nat.le_log2 nonzero).mpr (Nat.le_trans (Nat.log2_self_le zero) ordered)

theorem quotient_order (num den num' den' : Nat) (positive : 0 < den) (positive' : 0 < den')
    (ordered : num * den' ≤ num' * den) : num / den ≤ num' / den' := by
  apply (Nat.le_div_iff_mul_le positive').mpr
  apply Nat.le_of_mul_le_mul_right _ positive
  calc num / den * den' * den = num / den * den * den' := Nat.mul_right_comm _ _ _
    _ ≤ num * den' := Nat.mul_le_mul_right den' (Nat.div_mul_le_self num den)
    _ ≤ num' * den := ordered

namespace Double

theorem round_order (num den num' den' : Nat) (m m' : Magnitude) (positive : 0 < den) (positive' : 0 < den')
    (ordered : num * den' ≤ num' * den) (rounded : round false num den = .finite false m)
    (rounded' : round false num' den' = .finite false m') : m.index ≤ m'.index := by
  have places : Nat.log2 (num / den) - 52 ≤ Nat.log2 (num' / den') - 52 := by
    have logs := log_order _ _ (quotient_order num den num' den' positive positive' ordered)
    omega
  rw [round_index num den m rounded, round_index num' den' m' rounded']
  by_cases same : Nat.log2 (num / den) - 52 = Nat.log2 (num' / den') - 52
  · have place : lastPlace num den = lastPlace num' den' := by rw [lastPlace, lastPlace, same]
    have scaled : num * (den' * lastPlace num' den') ≤ num' * (den * lastPlace num' den') := by
      rw [← Nat.mul_assoc, ← Nat.mul_assoc]
      exact Nat.mul_le_mul_right _ ordered
    have pos := last_place_pos num' den'
    rw [same, place]
    exact Nat.add_le_add_left
      (nearest_order _ _ _ _ (Nat.mul_pos positive pos) (Nat.mul_pos positive' pos) scaled) _
  · have short := (significand_bounds num den).1
    have full := (significand_bounds num' den').2
    simp only [Nat.pow_eq] at short full ⊢
    omega

end Double

end Reckoner
