import Reckoner.Proofs.Spelling

set_option autoImplicit false

namespace Reckoner

namespace Numeral

theorem number_plain (literal : List Char) (number : IsNumber literal) : Decimal.Plain literal := by
  intro c member
  have starts := number_characters literal number c member
  simp only [startsNumber, Bool.or_eq_true, beq_iff_eq] at starts
  cases starts with
  | inl point => exact .inr (by simp [point])
  | inr digit => exact .inl digit

theorem number_decimal (literal : List Char) (number : IsNumber literal) : ∃ d, decimal? literal = some d := by
  have stop : NoDigitAhead [] := by simp [NoDigitAhead]
  rcases number with ⟨nonempty, digits⟩ | ⟨whole, fraction, rfl, wholeDigits, nonempty, fractionDigits⟩
  · have read := decimal_whole literal [] nonempty digits stop (by simp)
    rw [List.append_nil] at read
    exact ⟨_, read⟩
  · have read := decimal_fraction whole fraction [] (.inr nonempty) wholeDigits fractionDigits stop
    rw [List.append_nil] at read
    exact ⟨_, read⟩

theorem point_no_word (word : String) (rest : List Char) (letters : '.' ∉ word.toList) :
    String.ofList (('.' :: rest).map Char.toLower) ≠ word := by
  intro same
  rw [← same] at letters
  simp at letters

theorem unsigned_point (negative : Bool) (rest : List Char) :
    unsigned? negative ('.' :: rest) = (decimal? ('.' :: rest)).map (·.toDouble negative) := by
  rw [unsigned?]
  split
  · next same => exact absurd same (point_no_word "inf" rest (by decide))
  · next same => exact absurd same (point_no_word "infinity" rest (by decide))
  · next same => exact absurd same (point_no_word "nan" rest (by decide))
  · rfl

theorem read_number (literal : List Char) (number : IsNumber literal) :
    read? (String.ofList literal) = (decimal? literal).map (·.toDouble false) := by
  rw [read_plain literal (number_plain literal number)]
  cases literal with
  | nil => exact absurd rfl (number_ne_nil [] number)
  | cons c rest =>
      have starts := number_starts c rest number
      by_cases digit : c.isDigit = true
      · rw [sign_digit c rest digit, unsigned_digit false c rest digit]
      · have point : c = '.' := by simpa [startsNumber, digit] using starts
        rw [point]
        exact unsigned_point false rest

theorem read_digits (digits : List Char) (nonempty : digits ≠ []) (isDigits : Digits digits) :
    read? (String.ofList digits) = some (Decimal.toDouble false ⟨digitsValue digits, 0⟩) := by
  have read := decimal_whole digits [] nonempty isDigits (by simp [NoDigitAhead]) (by simp)
  rw [List.append_nil] at read
  rw [read_number digits (.inl ⟨nonempty, isDigits⟩), read]
  rfl

end Numeral

namespace Expr

theorem spelled_numeric (e : Expr) (spelled : e.Spelled) : e.Numeric := by
  induction e with
  | literal text =>
      obtain ⟨d, read⟩ := Numeral.number_decimal text.toList spelled
      have value := Numeral.read_number text.toList spelled
      rw [String.ofList_toList, read] at value
      simp [Numeric, value]
  | binary left o right leftNumeric rightNumeric => exact ⟨leftNumeric spelled.1, rightNumeric spelled.2⟩
  | incomplete left o leftNumeric => exact leftNumeric spelled

end Expr

theorem parsed_value (t : String) (tree : Expr) (accepted : parse t = .ok tree) : ∃ x, tree.value = .ok x := by
  obtain ⟨chain, -, -, complete, spelled, -⟩ := parsed_shape t tree accepted
  exact Expr.numeric_value tree complete (Expr.spelled_numeric tree spelled)

end Reckoner
