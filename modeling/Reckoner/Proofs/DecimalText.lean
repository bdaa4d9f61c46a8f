import Reckoner.Numeral
import Reckoner.Proofs.Number
import Reckoner.Proofs.Rounding

set_option autoImplicit false

namespace Reckoner

theorem digits_append (front behind : List Char) (digits : Digits front) (more : Digits behind) :
    Digits (front ++ behind) := by
  intro c member
  rcases List.mem_append.mp member with inside | inside
  · exact digits c inside
  · exact more c inside

theorem digits_of_nat (n : Nat) : Digits (Nat.toDigits 10 n) :=
  fun _ member => Nat.isDigit_of_mem_toDigits (by decide) (by decide) member

theorem digits_zeros (count : Nat) : Digits (Decimal.zeros count) := by
  intro c member
  rw [List.eq_of_mem_replicate member]
  rfl

namespace Numeral

theorem value_of_nat (n : Nat) : digitsValue (Nat.toDigits 10 n) = n := Nat.ofDigitChars_ten_toDigits

theorem value_zeros_front (count : Nat) (digits : List Char) :
    digitsValue (Decimal.zeros count ++ digits) = digitsValue digits := by
  rw [digitsValue, Nat.ofDigitChars_append, Decimal.zeros, Nat.ofDigitChars_replicate_zero, Nat.mul_zero, digitsValue]

theorem value_zeros_behind (count : Nat) (digits : List Char) :
    digitsValue (digits ++ Decimal.zeros count) = digitsValue digits * Nat.pow 10 count := by
  rw [digitsValue, Nat.ofDigitChars_append, Decimal.zeros, Nat.ofDigitChars_replicate_zero, Nat.mul_comm, digitsValue]
  rfl

theorem decimal_whole (whole behind : List Char) (nonempty : whole ≠ []) (digits : Digits whole)
    (stop : NoDigitAhead behind) (noPoint : behind.head? ≠ some '.') :
    decimal? (whole ++ behind) = (exponent? behind).map fun exponent => ⟨digitsValue whole, exponent⟩ := by
  obtain ⟨taken, left⟩ := span_digits whole behind digits stop
  have noFraction : takeFraction behind = ([], behind) := by
    rw [takeFraction.eq_def]
    split
    · simp at noPoint
    · rfl
  simp [decimal?, taken, left, noFraction, nonempty]

theorem decimal_fraction (whole fraction behind : List Char) (nonempty : whole ≠ [] ∨ fraction ≠ [])
    (digits : Digits whole) (fractionDigits : Digits fraction) (stop : NoDigitAhead behind) :
    decimal? (whole ++ '.' :: (fraction ++ behind)) =
      (exponent? behind).map fun exponent => ⟨digitsValue (whole ++ fraction), exponent - fraction.length⟩ := by
  obtain ⟨taken, left⟩ := span_digits whole _ digits (point_no_digit (fraction ++ behind))
  obtain ⟨fractionTaken, fractionLeft⟩ := span_digits fraction behind fractionDigits stop
  have some : ¬ (whole = [] ∧ fraction = []) := by
    rintro ⟨noWhole, noFraction⟩
    cases nonempty with
    | inl left => exact left noWhole
    | inr right => exact right noFraction
  simp [decimal?, taken, left, takeFraction, fractionTaken, fractionLeft, some]

theorem exponent_signed (digits : List Char) (nonempty : digits ≠ []) (isDigits : Digits digits) :
    exponent? ('e' :: '-' :: digits) = some (-(digitsValue digits : Int)) ∧
      exponent? ('e' :: '+' :: digits) = some (digitsValue digits : Int) := by
  have all := List.all_eq_true.mpr isDigits
  constructor <;> simp [exponent?, takeSign, signed, nonempty, all]

theorem exponent_written (width : Nat) (exponent : Int) :
    exponent? ('e' :: Decimal.writeExponent width exponent) = some exponent := by
  generalize gap : width - (Nat.toDigits 10 exponent.natAbs).length = count
  have isDigits := digits_append _ _ (digits_zeros count) (digits_of_nat exponent.natAbs)
  have nonempty : Decimal.zeros count ++ Nat.toDigits 10 exponent.natAbs ≠ [] := by simp [Nat.toDigits_ne_nil]
  obtain ⟨below, above⟩ := exponent_signed _ nonempty isDigits
  rw [value_zeros_front, value_of_nat] at below above
  rw [Decimal.writeExponent, gap]
  split
  · rw [below]
    congr 1
    omega
  · rw [above]
    congr 1
    omega

end Numeral

namespace Decimal

open Numeral

theorem integer_to_double (coefficient up : Nat) (short : up < 400) (negative : Bool) :
    toDouble negative ⟨coefficient * Nat.pow 10 up, 0⟩ = toDouble negative ⟨coefficient, up⟩ := by
  have noUnderflow (c n : Nat) : underflows ⟨c, n⟩ = false := by
    rw [underflows, decide_eq_false_iff_not]
    show ¬ ((Nat.log2 c + 1080 : Int) < -3 * n)
    omega
  have noOverflow (c n : Nat) (small : n < 400) : overflows ⟨c, n⟩ = false := by
    have few : ¬ (400 : Int) ≤ n := by omega
    simp [overflows, few]
  have ratios : ratio ⟨coefficient * Nat.pow 10 up, (0 : Nat)⟩ = ratio ⟨coefficient, (up : Nat)⟩ := by
    show (coefficient * Nat.pow 10 up * 1 * Nat.pow 2 1074, 1) = (coefficient * Nat.pow 10 up * Nat.pow 2 1074, 1)
    rw [Nat.mul_one]
  have zero : coefficient * Nat.pow 10 up = 0 ↔ coefficient = 0 := by
    have ten := power_pos 10 up (by decide)
    rw [Nat.mul_eq_zero]
    omega
  show toDouble negative ⟨coefficient * Nat.pow 10 up, (0 : Nat)⟩ = _
  simp only [toDouble, noUnderflow, noOverflow _ 0 (by decide), noOverflow _ up short, rounded, ratios, zero]

theorem scientific_reads (width : Nat) (digits : List Char) (leading : Int) (nonempty : digits ≠ [])
    (isDigits : Digits digits) :
    decimal? (scientific width digits leading) = some ⟨digitsValue digits, leading + 1 - digits.length⟩ := by
  have stop : NoDigitAhead ('e' :: writeExponent width leading) := by
    rintro c ahead
    obtain rfl := Option.some.inj ahead
    rfl
  cases digits with
  | nil => exact absurd rfl nonempty
  | cons first rest =>
      have one : Digits [first] := fun c member => isDigits c (by simp_all)
      have others : Digits rest := fun c member => isDigits c (List.mem_cons_of_mem _ member)
      cases rest with
      | nil =>
          have read := decimal_whole [first] _ (by simp) one stop (by simp)
          rw [exponent_written] at read
          simpa [scientific] using read
      | cons second more =>
          have read := decimal_fraction [first] (second :: more) _ (by simp) one others stop
          have places : leading - (second :: more).length = leading + 1 - (first :: second :: more).length := by
            simp only [List.length_cons]
            omega
          rw [exponent_written, Option.map_some, places] at read
          simpa [scientific] using read

theorem positional_reads (digits : List Char) (point : Int) (nonempty : digits ≠ []) (isDigits : Digits digits)
    (short : point < 400) :
    ∃ read, decimal? (positional "" digits point) = some read ∧
      ∀ negative, read.toDouble negative = toDouble negative ⟨digitsValue digits, point - digits.length⟩ := by
  have stop : NoDigitAhead [] := by simp [NoDigitAhead]
  have positive := List.length_pos_iff.mpr nonempty
  rw [positional]
  split
  · next small =>
      have read := decimal_fraction ['0'] (zeros (-point).toNat ++ digits) [] (by simp) (by simp [Digits])
        (digits_append _ _ (digits_zeros _) isDigits) stop
      rw [List.append_nil] at read
      have value : digitsValue (['0'] ++ (zeros (-point).toNat ++ digits)) = digitsValue digits := by
        rw [← List.append_assoc]
        exact value_zeros_front ((-point).toNat + 1) digits
      have places : (0 : Int) - (zeros (-point).toNat ++ digits).length = point - digits.length := by
        simp only [zeros, List.length_append, List.length_replicate]
        omega
      refine ⟨⟨digitsValue digits, point - digits.length⟩, ?_, fun _ => rfl⟩
      rw [← value, ← places]
      exact read
  · split
    · next large whole =>
        have read := decimal_whole (digits ++ zeros (point.toNat - digits.length)) [] (by simp [nonempty])
          (digits_append _ _ isDigits (digits_zeros _)) stop (by simp)
        rw [value_zeros_behind] at read
        have places : point - digits.length = (point.toNat - digits.length : Nat) := by omega
        refine ⟨_, by simpa [exponent?] using read, ?_⟩
        intro negative
        rw [places]
        exact integer_to_double (digitsValue digits) _ (by omega) negative
    · next large inside =>
        have split := List.take_append_drop point.toNat digits
        have front : Digits (digits.take point.toNat) := fun c member => isDigits c (List.mem_of_mem_take member)
        have behind : Digits (digits.drop point.toNat) := fun c member => isDigits c (List.mem_of_mem_drop member)
        have some : digits.take point.toNat ≠ [] := by
          intro empty
          rcases List.take_eq_nil_iff.mp empty with zero | none
          · omega
          · exact nonempty none
        have read := decimal_fraction _ _ [] (.inl some) front behind stop
        have places : (0 : Int) - (digits.drop point.toNat).length = point - digits.length := by
          rw [List.length_drop]
          omega
        rw [List.append_nil, split] at read
        refine ⟨⟨digitsValue digits, point - digits.length⟩, ?_, fun _ => rfl⟩
        rw [← places]
        exact read

theorem write_reads (d : Decimal) :
    ∃ read, decimal? (d.write Layout.result) = some read ∧ ∀ negative, read.toDouble negative = d.toDouble negative := by
  have isDigits := digits_of_nat d.coefficient
  have nonempty : Nat.toDigits 10 d.coefficient ≠ [] := Nat.toDigits_ne_nil
  have value := value_of_nat d.coefficient
  rw [write]
  generalize point : ((Nat.toDigits 10 d.coefficient).length : Int) + d.exponent = place
  have same : (⟨d.coefficient, place - (Nat.toDigits 10 d.coefficient).length⟩ : Decimal) = d := by
    rw [← point, Int.add_comm, Int.add_sub_cancel]
  by_cases placed : Layout.result.positionalFrom < place ∧ place ≤ Layout.result.positionalUpTo
  · have bound : place ≤ 16 := placed.2
    have read := positional_reads _ place nonempty isDigits (by omega)
    rw [value, same] at read
    simp only [placed, and_self, if_true]
    exact read
  · have read := scientific_reads Layout.result.exponentWidth _ (place - 1) nonempty isDigits
    rw [value, Int.sub_add_cancel, same] at read
    simp only [placed, if_false]
    exact ⟨d, read, fun _ => rfl⟩

end Decimal

end Reckoner
