import Reckoner.Proofs.NearestDouble

set_option autoImplicit false

namespace Reckoner

theorem last_place_spans (num den : Nat) (positive : 0 < den) : num < Nat.pow 2 53 * (lastPlace num den * den) := by
  have short := (leading_bits (num / den)).1
  rw [← Nat.mul_assoc]
  exact (Nat.div_lt_iff_lt_mul positive).mp ((Nat.div_lt_iff_lt_mul (last_place_pos num den)).mp short)

theorem nearest_carries (num half : Nat) (positive : 0 < half) :
    Nat.pow 2 53 ≤ nearest num (2 * half) ↔ (Nat.pow 2 54 - 1) * half ≤ num := by
  have scaled : 0 < 2 * half := by omega
  constructor
  · intro carries
    have bound := (nearest_bounds num (2 * half) scaled).2
    have least := Nat.mul_le_mul_right (2 * half) (Nat.mul_le_mul_left 2 carries)
    simp only [Nat.pow_eq] at least ⊢
    omega
  · intro passed
    have tied : nearest (Nat.pow 2 54 - 1) 2 = Nat.pow 2 53 := by decide
    rw [← tied]
    apply nearest_order _ _ _ _ (by decide) scaled
    rw [Nat.mul_left_comm, Nat.mul_comm num]
    exact Nat.mul_le_mul_left 2 passed

def carryUnits (place : Nat) : Nat := (Nat.pow 2 54 - 1) * Nat.pow 2 place

theorem index_passes (num den place : Nat) (positive : 0 < den) :
    (place + 3) * Nat.pow 2 52 ≤
        (Nat.log2 (num / den) - 52) * Nat.pow 2 52 + nearest num (den * lastPlace num den) ↔
      carryUnits place * den ≤ num := by
  obtain ⟨short, full⟩ := significand_bounds num den
  have weighed : 0 < Nat.pow 2 place * den := Nat.mul_pos (power_pos 2 place (by decide)) positive
  rw [carryUnits, Nat.mul_assoc]
  cases Nat.lt_trichotomy (Nat.log2 (num / den) - 52) (place + 1) with
  | inl lower =>
      have weight : lastPlace num den ≤ Nat.pow 2 place := Nat.pow_le_pow_right (by decide) (by omega)
      have spans := last_place_spans num den positive
      have total := Nat.mul_le_mul_right den weight
      generalize lastPlace num den * den = last at spans total
      simp only [Nat.pow_eq] at short spans total weighed ⊢
      omega
  | inr reached =>
      cases reached with
      | inl same =>
          have weight : den * lastPlace num den = 2 * (Nat.pow 2 place * den) := by
            rw [lastPlace, same, ← power_join 1 place (place + 1) (by omega), Nat.mul_comm, Nat.mul_assoc]
          rw [weight] at short full ⊢
          rw [← nearest_carries num _ weighed, same]
          simp only [Nat.pow_eq]
          omega
      | inr higher =>
          have shifted : Nat.log2 (num / den) - 52 ≠ 0 := by omega
          have weight : Nat.pow 2 (place + 2) ≤ lastPlace num den := Nat.pow_le_pow_right (by decide) higher
          have reached := last_place_reached num den positive shifted
          have full := full.resolve_left shifted
          have total := Nat.mul_le_mul_right den weight
          rw [← power_join 2 place (place + 2) (by omega), Nat.mul_assoc] at total
          simp only [Nat.pow_eq] at full reached total weighed ⊢
          omega

def overflowUnits : Nat := carryUnits 2044

namespace Double

theorem of_index_infinite (negative : Bool) (index : Nat) :
    ofIndex negative index = .infinite negative ↔ 2047 * Nat.pow 2 52 ≤ index := by
  rw [ofIndex]
  split
  · next bounded => exact ⟨fun same => Double.noConfusion same, fun far => absurd bounded (Nat.not_lt.mpr far)⟩
  · next far => exact ⟨fun _ => Nat.not_lt.mp far, fun _ => rfl⟩

theorem round_infinite (negative : Bool) (num den : Nat) (positive : 0 < den) :
    round negative num den = .infinite negative ↔ overflowUnits * den ≤ num := by
  rw [overflowUnits, ← index_passes num den 2044 positive]
  exact of_index_infinite negative _

theorem round_finite (negative : Bool) (num den : Nat) (positive : 0 < den) (within : num < overflowUnits * den) :
    ∃ m, round negative num den = .finite negative m ∧ m.IsNearest num den := by
  have bounded := Nat.not_le.mp (mt (index_passes num den 2044 positive).mp (Nat.not_le.mpr within))
  exact ⟨⟨_, bounded⟩, dif_pos bounded, round_nearest num den positive _ (dif_pos bounded)⟩

end Double

end Reckoner
