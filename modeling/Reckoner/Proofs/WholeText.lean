import Reckoner.Proofs.NumeralText
import Reckoner.Proofs.WholeReading

set_option autoImplicit false

namespace Reckoner

theorem digits_tenfold (coefficient up : Nat) (positive : 0 < coefficient) :
    Nat.toDigits 10 (coefficient * Nat.pow 10 up) = Nat.toDigits 10 coefficient ++ Decimal.zeros up := by
  induction up with
  | zero => simp [Decimal.zeros]
  | succ up ih =>
      have larger : 0 < coefficient * Nat.pow 10 up := Nat.mul_pos positive (power_pos 10 up (by decide))
      have tenfold : coefficient * Nat.pow 10 (up + 1) = 10 * (coefficient * Nat.pow 10 up) + 0 := by
        rw [Nat.pow_eq, Nat.pow_succ, Nat.pow_eq, ← Nat.mul_assoc, Nat.mul_comm 10, Nat.add_zero]
      rw [tenfold, ← Nat.toDigits_append_toDigits (by decide) larger (by decide), ih, Nat.toDigits_zero,
        List.append_assoc, Decimal.zeros, Decimal.zeros, List.replicate_succ']

namespace Decimal

theorem grid_ratio_whole (m : Magnitude) (n up : Nat) (units : m.units = n * unitsInOne) :
    gridRatio m (up : Int) = (n * unitsInOne, unitsInOne * Nat.pow 10 up) := by
  change gridRatio m (.ofNat up) = _
  rw [gridRatio, units, ← unit_places]
  rfl

theorem on_grid_exponent (m : Magnitude) (exponent : Int) (d : Decimal) (found : onGrid m exponent = some d) :
    d.exponent = exponent := by
  simp only [onGrid] at found
  split at found
  · rw [← Option.some.inj found]
  · rw [← Option.some.inj found]
  · rw [← Option.some.inj found]
  · contradiction

theorem on_grid_exact (m : Magnitude) (n den : Nat) (exponent : Int) (positive : 0 < den)
    (ratio : gridRatio m exponent = (n * den, den)) (below : readsBack m ⟨n, exponent⟩ = true) :
    onGrid m exponent = some ⟨n, exponent⟩ := by
  simp only [onGrid, ratio, Nat.mul_div_cancel n positive, below]
  cases readsBack m ⟨n + 1, exponent⟩ with
  | false => rfl
  | true => rw [nearest_exact n den positive]

theorem on_grid_units (m : Magnitude) (n : Nat) (units : m.units = n * unitsInOne) :
    onGrid m 0 = some ⟨n, 0⟩ := by
  have ratio := grid_ratio_whole m n 0 units
  rw [Nat.pow_eq, Nat.pow_zero, Nat.mul_one] at ratio
  apply on_grid_exact m n unitsInOne 0 units_in_one_pos ratio
  rw [readsBack, whole_reads_back m n units]
  exact beq_self_eq_true _

theorem on_grid_whole (m : Magnitude) (n up : Nat) (d : Decimal) (units : m.units = n * unitsInOne) (positive : 0 < n)
    (small : n ≤ wholeLimit) (found : onGrid m (up : Int) = some d) : d.coefficient * Nat.pow 10 up = n := by
  cases up with
  | zero =>
      have same := Option.some.inj ((on_grid_units m n units).symm.trans found)
      rw [← same, Nat.pow_eq, Nat.pow_zero, Nat.mul_one]
  | succ up =>
      have tenfold : 10 ∣ d.coefficient * Nat.pow 10 (up + 1) := by
        rw [Nat.pow_eq, Nat.pow_succ, ← Nat.mul_assoc]
        exact Nat.dvd_mul_left 10 _
      have read : d.toDouble false = .finite false m := eq_of_beq (on_grid_reads_back m _ d found)
      have shape : d = ⟨d.coefficient, ((up + 1 : Nat) : Int)⟩ := by
        rw [← on_grid_exponent m _ d found]
      rw [shape] at read
      exact tenfold_reads_back d.coefficient (up + 1) n m units positive small tenfold read

theorem first_on_grid_whole (m : Magnitude) (n : Nat) (units : m.units = n * unitsInOne) (positive : 0 < n)
    (small : n ≤ wholeLimit) (count up : Nat) (reached : up < count) :
    ∃ coefficient zeros : Nat, firstOnGrid m count (up : Int) = ⟨coefficient, (zeros : Int)⟩ ∧
      coefficient * Nat.pow 10 zeros = n := by
  induction count generalizing up with
  | zero => contradiction
  | succ count ih =>
      rw [firstOnGrid]
      cases tried : onGrid m (up : Int) with
      | some d =>
          have exponent := on_grid_exponent m _ d tried
          exact ⟨d.coefficient, up, by rw [← exponent], on_grid_whole m n up d units positive small tried⟩
      | none =>
          cases up with
          | zero =>
              rw [Int.natCast_zero, on_grid_units m n units] at tried
              contradiction
          | succ up =>
              have down : ((up + 1 : Nat) : Int) - 1 = (up : Int) := by omega
              rw [down]
              exact ih up (by omega)

theorem whole_log (n : Nat) (positive : 0 < n) : Nat.log2 (n * unitsInOne) = Nat.log2 n + 1074 := by
  have nonzero : n * unitsInOne ≠ 0 := Nat.ne_of_gt (Nat.mul_pos positive units_in_one_pos)
  obtain ⟨low, high⟩ := (Nat.log2_eq_iff (Nat.ne_of_gt positive)).mp rfl
  rw [← unit_places, Nat.log2_eq_iff nonzero]
  constructor
  · rw [Nat.pow_add]
    exact Nat.mul_le_mul_right _ low
  · rw [Nat.add_right_comm, Nat.pow_add]
    exact Nat.mul_lt_mul_of_pos_right high units_in_one_pos

theorem start_exponent_whole (m : Magnitude) (n : Nat) (units : m.units = n * unitsInOne) (positive : 0 < n)
    (small : n ≤ wholeLimit) : ∃ up : Nat, startExponent m = (up : Int) ∧ up < 20 := by
  have bits : Nat.log2 n ≤ 53 := by
    have long := (Nat.log2_lt (Nat.ne_of_gt positive)).mpr (Nat.lt_of_le_of_lt small (by decide : wholeLimit < 2 ^ 54))
    omega
  refine ⟨(startExponent m).toNat, ?_⟩
  rw [startExponent, units, whole_log n positive, Int.fdiv_eq_ediv_of_nonneg _ (by decide)]
  omega

theorem shortest_whole (m : Magnitude) (n : Nat) (units : m.units = n * unitsInOne) (small : n ≤ wholeLimit) :
    ∃ coefficient zeros : Nat, shortest m = ⟨coefficient, (zeros : Int)⟩ ∧ coefficient * Nat.pow 10 zeros = n ∧
      (n = 0 → zeros = 0) := by
  rw [shortest]
  by_cases zero : n = 0
  · rw [if_pos ((Magnitude.whole_index m n units).mpr zero), zero]
    exact ⟨0, 0, rfl, rfl, fun _ => rfl⟩
  · have positive := Nat.pos_of_ne_zero zero
    rw [if_neg (fun index => zero ((Magnitude.whole_index m n units).mp index))]
    obtain ⟨up, start, reached⟩ := start_exponent_whole m n units positive small
    rw [start]
    obtain ⟨coefficient, zeros, found, value⟩ := first_on_grid_whole m n units positive small 20 up reached
    exact ⟨coefficient, zeros, found, value, fun same => absurd same zero⟩

theorem positional_padded (digits : List Char) (padding : Nat) (some : digits ≠ []) :
    positional "" digits ((digits.length : Int) + (padding : Int)) = digits ++ zeros padding := by
  have positive := List.length_pos_iff.mpr some
  have point : ¬ (digits.length : Int) + (padding : Int) ≤ 0 := by omega
  have fits : digits.length ≤ ((digits.length : Int) + (padding : Int)).toNat := by omega
  have rest : ((digits.length : Int) + (padding : Int)).toNat - digits.length = padding := by omega
  rw [positional, if_neg point, if_pos fits, rest]
  simp

theorem write_whole (coefficient padding n : Nat) (value : coefficient * Nat.pow 10 padding = n)
    (bare : n = 0 → padding = 0) (small : n ≤ wholeLimit) :
    write Layout.result ⟨coefficient, (padding : Int)⟩ = Nat.toDigits 10 n := by
  have digits : Nat.toDigits 10 n = Nat.toDigits 10 coefficient ++ zeros padding := by
    by_cases zero : n = 0
    · rw [bare zero, Nat.pow_eq, Nat.pow_zero, Nat.mul_one] at value
      rw [bare zero, value]
      simp [zeros]
    · have positive : 0 < coefficient := by
        apply Nat.pos_of_ne_zero
        intro nothing
        rw [nothing, Nat.zero_mul] at value
        exact zero value.symm
      rw [← value, digits_tenfold coefficient padding positive]
  have places : (Nat.toDigits 10 coefficient).length + padding ≤ 16 := by
    have short := (Nat.length_toDigits_le_iff (by decide : 1 < 10) (by decide : 0 < 16)).mpr
      (Nat.lt_of_le_of_lt small (by decide : wholeLimit < 10 ^ 16))
    rwa [digits, List.length_append, zeros, List.length_replicate] at short
  have inside : Layout.result.positionalFrom < ((Nat.toDigits 10 coefficient).length : Int) + (padding : Int) ∧
      ((Nat.toDigits 10 coefficient).length : Int) + (padding : Int) ≤ Layout.result.positionalUpTo := by
    change (-4 : Int) < _ ∧ _ ≤ (16 : Int)
    omega
  rw [digits]
  simp only [write, if_pos inside]
  exact positional_padded _ padding Nat.toDigits_ne_nil

end Decimal

namespace Double

theorem whole_text (n : Int) (x : Double) (whole : IsWhole n x) (small : n.natAbs ≤ wholeLimit) :
    x.text = toString n := by
  obtain ⟨m, rfl, units⟩ := whole
  obtain ⟨coefficient, zeros, shortest, value, bare⟩ := Decimal.shortest_whole m n.natAbs units small
  rw [Numeral.finite_text, shortest, Decimal.write_whole coefficient zeros n.natAbs value bare small]
  by_cases negative : n < 0
  · have opposite : (-n).toNat = n.natAbs := by omega
    rw [Int.toString_eq_repr, Int.repr_eq_if, if_neg (Int.not_le.mpr negative), opposite]
    simp [negative, Nat.repr_eq_ofList_toDigits]
  · have same : n.toNat = n.natAbs := by omega
    rw [Int.toString_eq_repr, Int.repr_eq_if, if_pos (Int.not_lt.mp negative), same]
    simp [negative, Nat.repr_eq_ofList_toDigits]

end Double

end Reckoner
