import Reckoner.Proofs.RoundingOrder
import Reckoner.Proofs.WholeReading

set_option autoImplicit false

namespace Reckoner

theorem digits_reach (c a b : Nat) (counted : c ≠ 0) :
    Nat.pow 10 a ≤ c * Nat.pow 10 b ↔ a < (Nat.toDigits 10 c).length + b := by
  have some : 0 < (Nat.toDigits 10 c).length := Nat.length_toDigits_pos
  by_cases within : a ≤ b
  · have power : Nat.pow 10 a ≤ Nat.pow 10 b := Nat.pow_le_pow_right (by decide) within
    have reached := Nat.le_trans power (Nat.le_mul_of_pos_left _ (Nat.pos_of_ne_zero counted))
    exact ⟨fun _ => by omega, fun _ => reached⟩
  · obtain ⟨more, rfl⟩ : ∃ more, a = more + b := ⟨a - b, by omega⟩
    have split : Nat.pow 10 (more + b) = Nat.pow 10 more * Nat.pow 10 b := Nat.pow_add 10 more b
    have length := @Nat.length_toDigits_le_iff 10 c more (by decide) (by omega)
    rw [split, Nat.mul_le_mul_right_iff (power_pos 10 b (by decide)), Nat.pow_eq]
    omega

namespace Decimal

theorem ratio_parts (d : Decimal) :
    d.ratio = (d.coefficient * Nat.pow 10 d.exponent.toNat * unitsInOne, Nat.pow 10 (-d.exponent).toNat) := by
  obtain ⟨coefficient, exponent⟩ := d
  cases exponent with
  | ofNat up =>
      have whole : (-Int.ofNat up).toNat = 0 := by simp
      rw [ratio, whole]
      dsimp only
      rw [← unit_places]
      rfl
  | negSucc down =>
      have bare : coefficient * Nat.pow 10 0 = coefficient := Nat.mul_one coefficient
      change _ = (coefficient * Nat.pow 10 0 * unitsInOne, Nat.pow 10 (down + 1))
      rw [ratio, bare]
      dsimp only
      rw [← unit_places]
      rfl

theorem ratio_pos (d : Decimal) : 0 < d.ratio.2 := by
  rw [ratio_parts]
  exact power_pos 10 _ (by decide)

def AtMost (d e : Decimal) : Prop := d.ratio.1 * e.ratio.2 ≤ e.ratio.1 * d.ratio.2

theorem ten_at_most (k : Int) (d : Decimal) (counted : d.coefficient ≠ 0) :
    AtMost ⟨1, k⟩ d ↔ k < (Nat.toDigits 10 d.coefficient).length + d.exponent := by
  have join (c a b : Nat) : c * Nat.pow 10 a * unitsInOne * Nat.pow 10 b = c * Nat.pow 10 (a + b) * unitsInOne := by
    rw [Nat.mul_right_comm, Nat.mul_assoc c]
    exact congrArg (c * · * unitsInOne) (Nat.pow_add 10 a b).symm
  rw [AtMost, ratio_parts, ratio_parts]
  dsimp only
  rw [join, join, Nat.mul_le_mul_right_iff units_in_one_pos, Nat.one_mul, digits_reach _ _ _ counted]
  omega

theorem to_double_rounded (d : Decimal) (m : Magnitude) (positive : m.index ≠ 0)
    (read : d.toDouble false = .finite false m) : d.coefficient ≠ 0 ∧ d.rounded false = .finite false m := by
  rw [toDouble] at read
  split at read
  · have zero := (Double.finite.inj read).2
    exact absurd (congrArg Magnitude.index zero.symm) positive
  · next seen =>
      split at read
      · contradiction
      · refine ⟨?_, read⟩
        intro nothing
        exact seen (by simp [nothing])

theorem shortest_rounded (m : Magnitude) (positive : m.index ≠ 0) :
    (shortest m).coefficient ≠ 0 ∧ Double.round false (shortest m).ratio.1 (shortest m).ratio.2 = .finite false m :=
  to_double_rounded _ m positive (shortest_reads_back m false)

end Decimal

namespace Magnitude

def Reaches (m : Magnitude) (d : Decimal) : Prop := d.ratio.1 ≤ m.units * d.ratio.2

theorem units_rounded (m : Magnitude) : Double.round false m.units 1 = .finite false m := by
  have exactly := Double.round_units false m 1 Nat.one_pos
  rwa [Nat.mul_one] at exactly

theorem units_order (m n : Magnitude) (ordered : m.units ≤ n.units) : m.index ≤ n.index := by
  apply Double.round_order m.units 1 n.units 1 m n Nat.one_pos Nat.one_pos _ (units_rounded m) (units_rounded n)
  rwa [Nat.mul_one, Nat.mul_one]

theorem rounded_below (num den : Nat) (edge m : Magnitude) (positive : 0 < den)
    (rounded : Double.round false num den = .finite false edge) (reached : num ≤ m.units * den) :
    edge.index ≤ m.index := by
  apply Double.round_order num den m.units 1 edge m positive Nat.one_pos _ rounded (units_rounded m)
  rwa [Nat.mul_one]

theorem reaches_edge (edge m : Magnitude) (d : Decimal) (reached : edge.Reaches d)
    (rounded : Double.round false d.ratio.1 d.ratio.2 = .finite false edge) :
    m.Reaches d ↔ edge.index ≤ m.index := by
  refine ⟨rounded_below _ _ edge m d.ratio_pos rounded, ?_⟩
  intro above
  by_cases same : m = edge
  · rw [same]
    exact reached
  · apply Nat.le_of_not_lt
    intro short
    have units := Nat.lt_of_mul_lt_mul_right (Nat.lt_of_lt_of_le short reached)
    have below := units_order m edge (Nat.le_of_lt units)
    exact same (same_index m edge (Nat.le_antisymm below above))

theorem rounded_at_most (edge m : Magnitude) (d e : Decimal) (other : m ≠ edge)
    (edgeRounded : Double.round false d.ratio.1 d.ratio.2 = .finite false edge)
    (rounded : Double.round false e.ratio.1 e.ratio.2 = .finite false m) :
    d.AtMost e ↔ edge.index ≤ m.index := by
  rw [Decimal.AtMost]
  refine ⟨?_, ?_⟩
  · intro ordered
    exact Double.round_order _ _ _ _ edge m d.ratio_pos e.ratio_pos ordered edgeRounded rounded
  · intro above
    apply Nat.le_of_not_lt
    intro less
    have below := Double.round_order _ _ _ _ m edge e.ratio_pos d.ratio_pos (Nat.le_of_lt less) rounded edgeRounded
    exact other (same_index m edge (Nat.le_antisymm below above))

-- Magnitudes and their decimals pass an edge together when it is not below its
-- own decimal: nothing but the edge itself rounds to the edge from beyond.
theorem shortest_reaches (edge m : Magnitude) (edgePositive : edge.index ≠ 0) (positive : m.index ≠ 0)
    (reached : edge.Reaches (Decimal.shortest edge)) :
    m.Reaches (Decimal.shortest edge) ↔ (Decimal.shortest edge).AtMost (Decimal.shortest m) := by
  have edgeRounded := (Decimal.shortest_rounded edge edgePositive).2
  have rounded := (Decimal.shortest_rounded m positive).2
  by_cases same : m = edge
  · rw [same]
    exact ⟨fun _ => Nat.le_refl _, fun _ => reached⟩
  · exact (reaches_edge edge m _ reached edgeRounded).trans
      (rounded_at_most edge m _ _ same edgeRounded rounded).symm

end Magnitude

end Reckoner
