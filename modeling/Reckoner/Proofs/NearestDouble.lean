import Reckoner.Proofs.DecimalOrder

set_option autoImplicit false

namespace Reckoner

def distance (num den units : Nat) : Nat := ((num : Int) - (units * den : Nat)).natAbs

theorem distance_apart (num den j k : Nat) (different : j ≠ k) : den ≤ distance num den j + distance num den k := by
  have step : den ≤ ((j * den : Nat) - (k * den : Nat) : Int).natAbs := by
    cases Nat.lt_or_gt_of_ne different with
    | inl less =>
        have next := Nat.mul_le_mul_right den less
        rw [Nat.succ_mul] at next
        omega
    | inr more =>
        have next := Nat.mul_le_mul_right den more
        rw [Nat.succ_mul] at next
        omega
  simp only [distance]
  omega

theorem nearest_within (num den : Nat) (positive : 0 < den) : 2 * distance num den (nearest num den) ≤ den := by
  obtain ⟨above, below⟩ := nearest_bounds num den positive
  rw [Nat.add_mul, Nat.one_mul] at above
  rw [Nat.mul_assoc] at above below
  simp only [distance]
  omega

theorem nearest_half (num den : Nat) (positive : 0 < den) (half : 2 * distance num den (nearest num den) = den) :
    nearest num den % 2 = 0 := by
  have parts := Nat.div_add_mod num den
  simp only [nearest] at half ⊢
  by_cases less : 2 * (num % den) < den
  · rw [if_pos less, distance, Nat.mul_comm (num / den)] at half
    omega
  · rw [if_neg less] at half ⊢
    by_cases more : den < 2 * (num % den)
    · have next : (num / den + 1) * den = den * (num / den) + den := by rw [Nat.succ_mul, Nat.mul_comm]
      have rest : num % den < den := Nat.mod_lt num positive
      rw [if_pos more, distance, next] at half
      omega
    · rw [if_neg more]
      omega

theorem nearest_least (num den j : Nat) (positive : 0 < den) :
    distance num den (nearest num den) ≤ distance num den j := by
  by_cases same : j = nearest num den
  · exact Nat.le_of_eq (congrArg _ same.symm)
  · have apart := distance_apart num den j _ same
    have within := nearest_within num den positive
    omega

theorem nearest_tie (num den j : Nat) (positive : 0 < den) (different : j ≠ nearest num den)
    (tied : distance num den j = distance num den (nearest num den)) : nearest num den % 2 = 0 := by
  have apart := distance_apart num den j _ different
  have within := nearest_within num den positive
  exact nearest_half num den positive (by omega)

theorem distance_between (num den a b c : Nat) (positive : 0 < den) (above : a < b) (below : b < c)
    (tied : distance num den a = distance num den c) : distance num den b < distance num den a := by
  have low := Nat.mul_lt_mul_of_pos_right above positive
  have high := Nat.mul_lt_mul_of_pos_right below positive
  simp only [distance] at tied ⊢
  omega

theorem distance_scaled (num den place j : Nat) : distance num den (j * place) = distance num (den * place) j := by
  rw [distance, distance, Nat.mul_assoc, Nat.mul_comm place]

namespace Magnitude

-- The double that a ratio is rounded to, said by all that could stand for it:
-- none is nearer, and where another is as near, the last bit is clear.
structure IsNearest (m : Magnitude) (num den : Nat) : Prop where
  least : ∀ k : Magnitude, distance num den m.units ≤ distance num den k.units
  even : ∀ k : Magnitude, k ≠ m → distance num den k.units = distance num den m.units → m.significand % 2 = 0

theorem significand_parity (m : Magnitude) : m.significand % 2 = m.index % 2 := by
  rcases significand_cases m with ⟨-, same, -⟩ | ⟨-, -, index⟩
  · rw [same]
  · simp only [Nat.pow_eq] at index
    omega

theorem significand_short (m : Magnitude) : m.significand < Nat.pow 2 53 := by
  rcases significand_cases m with ⟨-, same, small⟩ | ⟨-, short, -⟩
  · rw [same]
    exact Nat.lt_trans small (by decide)
  · exact short

theorem units_on_grid (m : Magnitude) (shift : Nat) :
    (∃ j, m.units = j * Nat.pow 2 shift) ∨ (shift ≠ 0 ∧ m.units < Nat.pow 2 52 * Nat.pow 2 shift) := by
  by_cases within : shift ≤ m.shift
  · refine .inl ⟨m.significand * Nat.pow 2 (m.shift - shift), ?_⟩
    rw [units, Nat.mul_assoc, power_join (m.shift - shift) shift m.shift (by omega)]
  · refine .inr ⟨by omega, ?_⟩
    calc m.units < Nat.pow 2 53 * Nat.pow 2 m.shift :=
          Nat.mul_lt_mul_of_pos_right m.significand_short (power_pos 2 m.shift (by decide))
      _ = Nat.pow 2 52 * Nat.pow 2 (m.shift + 1) := by
          rw [power_join 53 m.shift _ rfl, power_join 52 (m.shift + 1) _ (by omega : 52 + (m.shift + 1) = 53 + m.shift)]
      _ ≤ Nat.pow 2 52 * Nat.pow 2 shift := Nat.mul_le_mul_left _ (Nat.pow_le_pow_right (by decide) (by omega))

theorem units_less (m n : Magnitude) (less : m.index < n.index) : m.units < n.units := by
  apply Nat.lt_of_not_le
  intro reverse
  have order := units_order n m reverse
  omega

theorem nearest_unordered (m k : Magnitude) (num den : Nat) (positive : 0 < den) (left : m.IsNearest num den)
    (right : k.IsNearest num den) : ¬ m.index < k.index := by
  intro less
  have tied := Nat.le_antisymm (left.least k) (right.least m)
  have different : k ≠ m := by
    intro same
    rw [same] at less
    exact Nat.lt_irrefl _ less
  have mEven := left.even k different tied.symm
  have kEven := right.even m different.symm tied
  rw [significand_parity] at mEven kEven
  have bounded : m.index + 1 < 2047 * Nat.pow 2 52 := Nat.lt_of_le_of_lt less k.bounded
  let middle : Magnitude := ⟨m.index + 1, bounded⟩
  have gap : middle.index < k.index := by
    change m.index + 1 < k.index
    omega
  have nearer := distance_between num den _ _ _ positive (units_less m middle (Nat.lt_succ_self _))
    (units_less middle k gap) tied
  exact Nat.not_lt_of_le (left.least middle) nearer

theorem nearest_unique (m k : Magnitude) (num den : Nat) (positive : 0 < den) (left : m.IsNearest num den)
    (right : k.IsNearest num den) : m = k := by
  have order := nearest_unordered m k num den positive left right
  have reverse := nearest_unordered k m num den positive right left
  exact same_index m k (by omega)

end Magnitude

theorem last_place_reached (num den : Nat) (positive : 0 < den) (shifted : Nat.log2 (num / den) - 52 ≠ 0) :
    Nat.pow 2 52 * (lastPlace num den * den) ≤ num := by
  have full := (leading_bits (num / den)).2.resolve_left shifted
  rw [← Nat.mul_assoc]
  exact (Nat.le_div_iff_mul_le positive).mp ((Nat.le_div_iff_mul_le (last_place_pos num den)).mp full)

theorem low_units_further (num den units : Nat) (positive : 0 < den) (shifted : Nat.log2 (num / den) - 52 ≠ 0)
    (low : units < Nat.pow 2 52 * lastPlace num den) :
    distance num den (Nat.pow 2 52 * lastPlace num den) < distance num den units := by
  have reached := last_place_reached num den positive shifted
  have below := Nat.mul_lt_mul_of_pos_right low positive
  rw [Nat.mul_assoc] at below
  simp only [distance, Nat.mul_assoc]
  omega

namespace Double

theorem off_grid_further (num den : Nat) (positive : 0 < den) (m k : Magnitude)
    (rounded : round false num den = .finite false m) :
    (∃ j, k.units = j * lastPlace num den) ∨ distance num den m.units < distance num den k.units := by
  cases k.units_on_grid (Nat.log2 (num / den) - 52) with
  | inl onGrid => exact .inl onGrid
  | inr short =>
      refine .inr ?_
      calc distance num den m.units ≤ distance num den (Nat.pow 2 52 * lastPlace num den) := by
            rw [round_units_nearest num den m rounded, distance_scaled, distance_scaled]
            exact nearest_least num _ _ (Nat.mul_pos positive (last_place_pos num den))
        _ < distance num den k.units := low_units_further num den k.units positive short.1 short.2

theorem round_nearest (num den : Nat) (positive : 0 < den) (m : Magnitude)
    (rounded : round false num den = .finite false m) : m.IsNearest num den := by
  have scaled : 0 < den * lastPlace num den := Nat.mul_pos positive (last_place_pos num den)
  have units := round_units_nearest num den m rounded
  constructor
  · intro k
    cases off_grid_further num den positive m k rounded with
    | inl onGrid =>
        obtain ⟨j, place⟩ := onGrid
        rw [units, place, distance_scaled, distance_scaled]
        exact nearest_least num _ j scaled
    | inr further => exact Nat.le_of_lt further
  · intro k different tied
    cases off_grid_further num den positive m k rounded with
    | inl onGrid =>
        obtain ⟨j, place⟩ := onGrid
        have other : j ≠ nearest num (den * lastPlace num den) := by
          intro same
          rw [same, ← units] at place
          have above := Magnitude.units_order k m (Nat.le_of_eq place)
          have below := Magnitude.units_order m k (Nat.le_of_eq place.symm)
          exact different (Magnitude.same_index k m (Nat.le_antisymm above below))
        rw [units, place, distance_scaled, distance_scaled] at tied
        have even := nearest_tie num _ j scaled other tied
        rw [m.significand_parity, round_index num den m rounded, Nat.pow_eq]
        omega
    | inr further => exact absurd tied (Nat.ne_of_gt further)

end Double

end Reckoner
