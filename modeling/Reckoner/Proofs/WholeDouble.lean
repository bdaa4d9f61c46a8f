import Reckoner.Operator
import Reckoner.Proofs.Rounding

set_option autoImplicit false

namespace Reckoner

-- Kept closed, so that no power of this size is ever worked out.
@[irreducible]
def unitPlaces : Nat := 1074

def unitsInOne : Nat := Nat.pow 2 unitPlaces

def wholeLimit : Nat := Nat.pow 2 53

theorem unit_places : unitPlaces = 1074 := by
  rw [unitPlaces]

theorem units_in_one_pos : 0 < unitsInOne := power_pos 2 unitPlaces (by decide)

theorem power_join (a b c : Nat) (sum : a + b = c) : Nat.pow 2 a * Nat.pow 2 b = Nat.pow 2 c := by
  rw [← sum]
  exact (Nat.pow_add 2 a b).symm

namespace Magnitude

theorem of_parts (significand shift : Nat) (full : Nat.pow 2 52 ≤ significand) (short : significand < Nat.pow 2 53)
    (bounded : shift ≤ 2045) : ∃ m : Magnitude, m.units = significand * Nat.pow 2 shift := by
  simp only [Nat.pow_eq] at full short
  have index : shift * Nat.pow 2 52 + significand < 2047 * Nat.pow 2 52 := by
    simp only [Nat.pow_eq]
    omega
  have place : Magnitude.shift ⟨shift * Nat.pow 2 52 + significand, index⟩ = shift := by
    simp only [Magnitude.shift, Nat.pow_eq]
    omega
  refine ⟨⟨shift * Nat.pow 2 52 + significand, index⟩, ?_⟩
  rw [units, Magnitude.significand, place, Nat.add_sub_cancel_left]

theorem whole_units (n : Nat) (small : n ≤ wholeLimit) : ∃ m : Magnitude, m.units = n * unitsInOne := by
  have places := unit_places
  rw [unitsInOne]
  by_cases zero : n = 0
  · exact ⟨Magnitude.zero, by rw [zero, Nat.zero_mul]; rfl⟩
  · by_cases largest : n = wholeLimit
    · obtain ⟨m, units⟩ := of_parts (Nat.pow 2 52) (1 + unitPlaces) (Nat.le_refl _) (by decide) (by omega)
      refine ⟨m, ?_⟩
      rw [units, largest, wholeLimit, power_join 52 _ (53 + unitPlaces) (by omega),
        power_join 53 unitPlaces _ rfl]
    · have below : n < 2 ^ 53 := Nat.lt_of_le_of_ne small largest
      have short : Nat.log2 n < 53 := (Nat.log2_lt zero).mpr below
      obtain ⟨low, high⟩ := (Nat.log2_eq_iff zero).mp rfl
      have full : Nat.pow 2 52 ≤ n * Nat.pow 2 (52 - Nat.log2 n) := by
        rw [← power_join (Nat.log2 n) (52 - Nat.log2 n) 52 (by omega)]
        exact Nat.mul_le_mul_right _ low
      have bits : n * Nat.pow 2 (52 - Nat.log2 n) < Nat.pow 2 53 := by
        rw [← power_join (Nat.log2 n + 1) (52 - Nat.log2 n) 53 (by omega)]
        exact Nat.mul_lt_mul_of_pos_right high (power_pos 2 _ (by decide))
      obtain ⟨m, units⟩ := of_parts _ (unitPlaces - 52 + Nat.log2 n) full bits (by omega)
      refine ⟨m, ?_⟩
      rw [units, Nat.mul_assoc, power_join (52 - Nat.log2 n) _ unitPlaces (by omega)]

theorem zero_units : Magnitude.zero.units = 0 := rfl

end Magnitude

namespace Double

def IsWhole (n : Int) (x : Double) : Prop :=
  ∃ m : Magnitude, x = .finite (decide (n < 0)) m ∧ m.units = n.natAbs * unitsInOne

theorem round_whole (n : Int) (num den : Nat) (small : n.natAbs ≤ wholeLimit) (positive : 0 < den)
    (exactly : num = n.natAbs * unitsInOne * den) : IsWhole n (round (decide (n < 0)) num den) := by
  obtain ⟨m, units⟩ := Magnitude.whole_units n.natAbs small
  refine ⟨m, ?_, units⟩
  rw [exactly, ← units]
  exact round_units _ m den positive

theorem zero_whole : IsWhole 0 (zero false) := by
  refine ⟨Magnitude.zero, rfl, ?_⟩
  rw [Magnitude.zero_units, Int.natAbs_zero, Nat.zero_mul]

theorem sum_whole (a b : Int) (together : a < 0 ∧ b ≤ 0 ∨ 0 ≤ a ∧ 0 ≤ b) (small : (a + b).natAbs ≤ wholeLimit) :
    IsWhole (a + b) (round (decide (a < 0)) (a.natAbs * unitsInOne + b.natAbs * unitsInOne) 1) := by
  have size : (a + b).natAbs = a.natAbs + b.natAbs := by omega
  have sign : a < 0 ↔ a + b < 0 := by omega
  rw [decide_eq_decide.mpr sign]
  apply round_whole (a + b) _ 1 small Nat.one_pos
  rw [size, Nat.add_mul, Nat.mul_one]

theorem difference_whole (a b : Int) (apart : a ≤ 0 ∧ 0 ≤ b ∨ 0 ≤ a ∧ b ≤ 0) (larger : b.natAbs < a.natAbs)
    (small : (a + b).natAbs ≤ wholeLimit) :
    IsWhole (a + b) (round (decide (a < 0)) (a.natAbs * unitsInOne - b.natAbs * unitsInOne) 1) := by
  have size : (a + b).natAbs = a.natAbs - b.natAbs := by omega
  have sign : a < 0 ↔ a + b < 0 := by omega
  rw [decide_eq_decide.mpr sign]
  apply round_whole (a + b) _ 1 small Nat.one_pos
  rw [size, Nat.sub_mul, Nat.mul_one]

theorem add_finite_whole (a b : Int) (s t : Bool) (m n : Magnitude) (mUnits : m.units = a.natAbs * unitsInOne)
    (nUnits : n.units = b.natAbs * unitsInOne) (mSign : s = decide (a < 0)) (nSign : b = 0 ∨ t = decide (b < 0))
    (small : (a + b).natAbs ≤ wholeLimit) : IsWhole (a + b) (addFinite s m t n) := by
  have one := units_in_one_pos
  subst mSign
  rw [addFinite, mUnits, nUnits]
  by_cases same : decide (a < 0) = t
  · have together : a < 0 ∧ b ≤ 0 ∨ 0 ≤ a ∧ 0 ≤ b := by
      cases nSign with
      | inl zero => omega
      | inr sign =>
          rw [← same, decide_eq_decide] at sign
          omega
    rw [if_pos same]
    exact sum_whole a b together small
  · have apart : a ≤ 0 ∧ 0 ≤ b ∨ 0 ≤ a ∧ b ≤ 0 := by
      cases nSign with
      | inl zero => omega
      | inr sign =>
          rw [sign, decide_eq_decide] at same
          omega
    rw [if_neg same]
    simp only [Nat.mul_left_inj (Nat.ne_of_gt one), Nat.mul_lt_mul_right one]
    by_cases cancel : a.natAbs = b.natAbs
    · have nothing : a + b = 0 := by omega
      rw [if_pos cancel, nothing]
      exact zero_whole
    · rw [if_neg cancel]
      by_cases larger : b.natAbs < a.natAbs
      · rw [if_pos larger]
        exact difference_whole a b apart larger small
      · have nonzero : b ≠ 0 := by omega
        rw [if_neg larger, nSign.resolve_left nonzero]
        rw [Int.add_comm] at small ⊢
        exact difference_whole b a (by omega) (by omega) small

theorem add_whole (a b : Int) (x y : Double) (left : IsWhole a x) (right : IsWhole b y)
    (small : (a + b).natAbs ≤ wholeLimit) : IsWhole (a + b) (x.add y) := by
  obtain ⟨m, rfl, mUnits⟩ := left
  obtain ⟨n, rfl, nUnits⟩ := right
  exact add_finite_whole a b _ _ m n mUnits nUnits rfl (.inr rfl) small

theorem sub_whole (a b : Int) (x y : Double) (left : IsWhole a x) (right : IsWhole b y)
    (small : (a - b).natAbs ≤ wholeLimit) : IsWhole (a - b) (x.sub y) := by
  obtain ⟨m, rfl, mUnits⟩ := left
  obtain ⟨n, rfl, nUnits⟩ := right
  have opposite : -b = 0 ∨ (!decide (b < 0)) = decide (-b < 0) := by
    by_cases zero : b = 0
    · exact .inl (by omega)
    · refine .inr ?_
      rw [← decide_not, decide_eq_decide]
      omega
  rw [Int.sub_eq_add_neg] at small ⊢
  exact add_finite_whole a (-b) _ _ m n mUnits (by rw [nUnits, Int.natAbs_neg]) rfl opposite small

theorem mul_whole (a b : Int) (x y : Double) (left : IsWhole a x) (right : IsWhole b y) (aNonneg : 0 ≤ a)
    (bNonneg : 0 ≤ b) (small : (a * b).natAbs ≤ wholeLimit) : IsWhole (a * b) (x.mul y) := by
  obtain ⟨m, rfl, mUnits⟩ := left
  obtain ⟨n, rfl, nUnits⟩ := right
  have product : decide (a * b < 0) = false := decide_eq_false (Int.not_lt.mpr (Int.mul_nonneg aNonneg bNonneg))
  have rounded : IsWhole (a * b) (round (decide (a * b < 0)) (m.units * n.units) unitsInOne) := by
    apply round_whole _ _ _ small units_in_one_pos
    rw [mUnits, nUnits, Int.natAbs_mul, Nat.mul_assoc, Nat.mul_assoc, Nat.mul_assoc, Nat.mul_left_comm unitsInOne]
  rw [product] at rounded
  rw [decide_eq_false (Int.not_lt.mpr aNonneg), decide_eq_false (Int.not_lt.mpr bNonneg), mul, ← unit_places]
  exact rounded

theorem div_whole (q b : Int) (x y : Double) (left : IsWhole (q * b) x) (right : IsWhole b y) (qNonneg : 0 ≤ q)
    (bPos : 0 < b) (small : q.natAbs ≤ wholeLimit) : IsWhole q (x.div y) := by
  obtain ⟨m, rfl, mUnits⟩ := left
  obtain ⟨n, rfl, nUnits⟩ := right
  have divisor : 0 < n.units := by
    rw [nUnits]
    exact Nat.mul_pos (by omega) units_in_one_pos
  have dividend : ¬ q * b < 0 := Int.not_lt.mpr (Int.mul_nonneg qNonneg (Int.le_of_lt bPos))
  have rounded : IsWhole q (round (decide (q < 0)) (m.units * unitsInOne) n.units) := by
    apply round_whole _ _ _ small divisor
    rw [mUnits, nUnits, Int.natAbs_mul, Nat.mul_assoc, Nat.mul_assoc, Nat.mul_assoc, Nat.mul_left_comm unitsInOne]
  rw [decide_eq_false (Int.not_lt.mpr qNonneg)] at rounded
  rw [decide_eq_false dividend, decide_eq_false (Int.not_lt.mpr (Int.le_of_lt bPos)), div, divFinite,
    if_neg (Nat.ne_of_gt divisor), ← unit_places]
  exact rounded

end Double

end Reckoner
