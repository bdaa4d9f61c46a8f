import Reckoner.Cursor

set_option autoImplicit false

namespace Reckoner

def Digits (cs : List Char) : Prop := ∀ c ∈ cs, c.isDigit = true

def IsNumber (cs : List Char) : Prop :=
  (cs ≠ [] ∧ Digits cs) ∨
    ∃ whole fraction, cs = whole ++ '.' :: fraction ∧ Digits whole ∧ fraction ≠ [] ∧ Digits fraction

def IsOpenNumber (cs : List Char) : Prop := ∃ whole, cs = whole ++ ['.'] ∧ Digits whole

def Continues (literal : List Char) (c : Char) : Prop := c.isDigit = true ∨ (c = '.' ∧ '.' ∉ literal)

def NoDigitAhead (rest : List Char) : Prop := ∀ c, rest.head? = some c → c.isDigit = false

-- The longest number at the front, said without the scanner: the boundary
-- condition on the next character is what makes it the longest.
inductive NumberAhead : List Char → NumberScan → Prop where
  | found (literal rest : List Char) (number : IsNumber literal)
      (stop : ∀ c, rest.head? = some c → ¬ Continues literal c) : NumberAhead (literal ++ rest) (.found literal)
  | openPoint (literal rest : List Char) (isOpen : IsOpenNumber literal) (stop : NoDigitAhead rest) :
      NumberAhead (literal ++ rest) (.openPoint literal)
  | absent (cs : List Char) (other : ∀ c, cs.head? = some c → startsNumber c = false) : NumberAhead cs .absent

theorem digits_no_point (cs : List Char) (digits : Digits cs) : '.' ∉ cs := by
  intro member
  have digit := digits '.' member
  simp at digit

theorem number_ne_nil (literal : List Char) (number : IsNumber literal) : literal ≠ [] := by
  rcases number with ⟨nonempty, _⟩ | ⟨whole, fraction, rfl, _⟩
  · exact nonempty
  · simp

theorem open_number_ne_nil (literal : List Char) (isOpen : IsOpenNumber literal) : literal ≠ [] := by
  obtain ⟨whole, rfl, _⟩ := isOpen
  simp

theorem digits_start (whole tail : List Char) (c : Char) (digits : Digits whole)
    (ahead : (whole ++ '.' :: tail).head? = some c) : startsNumber c = true := by
  cases whole with
  | nil =>
      obtain rfl := Option.some.inj ahead
      rfl
  | cons d rest =>
      obtain rfl := Option.some.inj ahead
      simp [startsNumber, digits d (by simp)]

theorem number_starts (c : Char) (rest : List Char) (number : IsNumber (c :: rest)) : startsNumber c = true := by
  rcases number with ⟨_, digits⟩ | ⟨whole, fraction, split, wholeDigits, _⟩
  · simp [startsNumber, digits c (by simp)]
  · exact digits_start whole fraction c wholeDigits (by rw [← split, List.head?_cons])

theorem open_number_starts (c : Char) (rest : List Char) (isOpen : IsOpenNumber (c :: rest)) :
    startsNumber c = true := by
  obtain ⟨whole, split, digits⟩ := isOpen
  exact digits_start whole [] c digits (by rw [← split, List.head?_cons])

theorem point_no_digit (tail : List Char) : NoDigitAhead ('.' :: tail) := by
  intro c ahead
  obtain rfl := Option.some.inj ahead
  rfl

theorem span_digits (front rest : List Char) (digits : Digits front) (stop : NoDigitAhead rest) :
    (front ++ rest).takeWhile Char.isDigit = front ∧ (front ++ rest).dropWhile Char.isDigit = rest := by
  rw [List.takeWhile_append_of_pos digits, List.dropWhile_append_of_pos digits]
  cases rest with
  | nil => simp
  | cons c tail => simp [stop c rfl]

theorem digits_then_rest (cs : List Char) :
    ∃ whole rest, cs = whole ++ rest ∧ Digits whole ∧ NoDigitAhead rest := by
  refine ⟨cs.takeWhile Char.isDigit, cs.dropWhile Char.isDigit, List.takeWhile_append_dropWhile.symm, ?_, ?_⟩
  · exact List.all_eq_true.mp List.all_takeWhile
  · intro c ahead
    have stop := List.head?_dropWhile_not Char.isDigit cs
    rw [ahead] at stop
    exact stop

theorem scan_whole (whole rest : List Char) (digits : Digits whole) (nonempty : whole ≠ [])
    (stop : NoDigitAhead rest) (noPoint : rest.head? ≠ some '.') : scanNumber (whole ++ rest) = .found whole := by
  obtain ⟨taken, left⟩ := span_digits whole rest digits stop
  rw [scanNumber, taken, left]
  split
  · simp at noPoint
  · simp [nonempty]

theorem scan_fraction (whole fraction rest : List Char) (wholeDigits : Digits whole)
    (nonempty : fraction ≠ []) (fractionDigits : Digits fraction) (stop : NoDigitAhead rest) :
    scanNumber (whole ++ '.' :: (fraction ++ rest)) = .found (whole ++ '.' :: fraction) := by
  obtain ⟨taken, left⟩ := span_digits whole _ wholeDigits (point_no_digit (fraction ++ rest))
  rw [scanNumber, taken, left]
  simp only [(span_digits fraction rest fractionDigits stop).1]

theorem scan_open (whole rest : List Char) (digits : Digits whole) (stop : NoDigitAhead rest) :
    scanNumber (whole ++ '.' :: rest) = .openPoint (whole ++ ['.']) := by
  obtain ⟨taken, left⟩ := span_digits whole _ digits (point_no_digit rest)
  have noFraction := (span_digits [] rest (by simp [Digits]) stop).1
  rw [List.nil_append] at noFraction
  rw [scanNumber, taken, left]
  simp only [noFraction]

theorem scan_absent (cs : List Char) (other : ∀ c, cs.head? = some c → startsNumber c = false) :
    scanNumber cs = .absent := by
  simp only [startsNumber, Bool.or_eq_false_iff, beq_eq_false_iff_ne] at other
  obtain ⟨taken, left⟩ := span_digits [] cs (by simp [Digits]) (fun c ahead => (other c ahead).2)
  rw [List.nil_append] at taken left
  rw [scanNumber, taken, left]
  split
  · exact absurd rfl (other '.' rfl).1
  · simp

theorem scan_ahead (cs : List Char) : NumberAhead cs (scanNumber cs) := by
  obtain ⟨whole, rest, rfl, digits, stop⟩ := digits_then_rest cs
  by_cases point : rest.head? = some '.'
  · obtain ⟨behind, rfl⟩ := List.head?_eq_some_iff.mp point
    obtain ⟨fraction, rest, rfl, fractionDigits, fractionStop⟩ := digits_then_rest behind
    by_cases empty : fraction = []
    · subst empty
      have scanned := scan_open whole rest digits fractionStop
      simpa [scanned] using NumberAhead.openPoint (whole ++ ['.']) rest ⟨whole, rfl, digits⟩ fractionStop
    · have scanned := scan_fraction whole fraction rest digits empty fractionDigits fractionStop
      have number : IsNumber (whole ++ '.' :: fraction) := .inr ⟨whole, fraction, rfl, digits, empty, fractionDigits⟩
      have ahead : ∀ c, rest.head? = some c → ¬ Continues (whole ++ '.' :: fraction) c := by
        intro c next continues
        simp [Continues, fractionStop c next] at continues
      simpa [scanned] using NumberAhead.found _ rest number ahead
  · by_cases empty : whole = []
    · subst empty
      have other : ∀ c, rest.head? = some c → startsNumber c = false := by
        intro c next
        have different : c ≠ '.' := fun same => point (same ▸ next)
        simp [startsNumber, stop c next, different]
      simpa [scan_absent rest other] using NumberAhead.absent rest other
    · rw [scan_whole whole rest digits empty stop point]
      refine .found whole rest (.inl ⟨empty, digits⟩) ?_
      rintro c next (digit | ⟨rfl, _⟩)
      · simp [stop c next] at digit
      · exact point next

theorem scan_of_ahead (cs : List Char) (scan : NumberScan) (ahead : NumberAhead cs scan) : scanNumber cs = scan := by
  cases ahead with
  | absent _ other => exact scan_absent cs other
  | openPoint literal rest isOpen stop =>
      obtain ⟨whole, rfl, digits⟩ := isOpen
      simpa using scan_open whole rest digits stop
  | found literal rest number stop =>
      have noDigit : NoDigitAhead rest := fun c next => by simpa using fun digit => stop c next (.inl digit)
      rcases number with ⟨nonempty, digits⟩ | ⟨whole, fraction, rfl, wholeDigits, nonempty, fractionDigits⟩
      · refine scan_whole literal rest digits nonempty noDigit ?_
        exact fun point => stop '.' point (.inr ⟨rfl, digits_no_point literal digits⟩)
      · simpa using scan_fraction whole fraction rest wholeDigits nonempty fractionDigits noDigit

end Reckoner
