import Reckoner.Proofs.DecimalText
import Reckoner.Proofs.Lexeme

set_option autoImplicit false

namespace Reckoner

namespace Decimal

def Plain (cs : List Char) : Prop := ∀ c ∈ cs, c.isDigit = true ∨ c ∈ ['.', 'e', '+', '-']

theorem plain_append (front behind : List Char) (plain : Plain front) (more : Plain behind) :
    Plain (front ++ behind) := by
  intro c member
  rcases List.mem_append.mp member with inside | inside
  · exact plain c inside
  · exact more c inside

theorem plain_cons (c : Char) (rest : List Char) (mark : c ∈ ['.', 'e', '+', '-']) (plain : Plain rest) :
    Plain (c :: rest) := by
  intro d member
  rcases List.mem_cons.mp member with rfl | inside
  · exact .inr mark
  · exact plain d inside

theorem plain_digits (digits : List Char) (isDigits : Digits digits) : Plain digits :=
  fun c member => .inl (isDigits c member)

theorem positional_plain (digits : List Char) (point : Int) (isDigits : Digits digits) :
    Plain (positional "" digits point) := by
  have zerosPlain (count : Nat) : Plain (zeros count) := plain_digits _ (digits_zeros count)
  have plain := plain_digits digits isDigits
  rw [positional]
  split
  · exact plain_append ['0'] _ (by simp [Plain]) (plain_cons '.' _ (by decide) (plain_append _ _ (zerosPlain _) plain))
  · split
    · exact plain_append _ _ (plain_append _ _ plain (zerosPlain _)) (by simp [Plain])
    · refine plain_append _ _ (fun c member => plain c (List.mem_of_mem_take member)) ?_
      exact plain_cons '.' _ (by decide) (fun c member => plain c (List.mem_of_mem_drop member))

theorem scientific_plain (width : Nat) (digits : List Char) (leading : Int) (isDigits : Digits digits) :
    Plain (scientific width digits leading) := by
  have plain := plain_digits digits isDigits
  have exponent : Plain ('e' :: writeExponent width leading) := by
    refine plain_cons 'e' _ (by decide) ?_
    rw [writeExponent]
    refine plain_cons _ _ (by split <;> decide) ?_
    exact plain_digits _ (digits_append _ _ (digits_zeros _) (digits_of_nat _))
  rw [scientific]
  refine plain_append _ _ (plain_append _ _ (fun c member => plain c (List.mem_of_mem_take member)) ?_) exponent
  split
  · simp [Plain]
  · exact plain_cons '.' _ (by decide) (fun c member => plain c (List.mem_of_mem_drop member))

theorem write_plain (d : Decimal) : Plain (d.write Layout.result) := by
  have isDigits := digits_of_nat d.coefficient
  rw [write]
  split
  · exact positional_plain _ _ isDigits
  · exact scientific_plain _ _ _ isDigits

theorem write_starts (d : Decimal) : ∃ c rest, d.write Layout.result = c :: rest ∧ c.isDigit = true := by
  obtain ⟨c, more, written⟩ := List.exists_cons_of_ne_nil (@Nat.toDigits_ne_nil d.coefficient 10)
  have digit : c.isDigit = true := digits_of_nat d.coefficient c (by simp [written])
  rw [write, written]
  split
  · rw [positional]
    split
    · exact ⟨'0', _, rfl, rfl⟩
    · split
      · exact ⟨c, _, rfl, digit⟩
      · next large _ =>
          obtain ⟨n, length⟩ : ∃ n, (((c :: more).length : Int) + d.exponent).toNat = n + 1 :=
            ⟨(((c :: more).length : Int) + d.exponent).toNat - 1, by omega⟩
          rw [length]
          exact ⟨c, _, rfl, digit⟩
  · exact ⟨c, _, rfl, digit⟩

end Decimal

namespace Numeral

theorem digit_range (c : Char) (digit : c.isDigit = true) : 48 ≤ c.toNat ∧ c.toNat ≤ 57 := by
  simp only [Char.isDigit, Bool.and_eq_true, decide_eq_true_eq, ge_iff_le, UInt32.le_iff_toNat_le] at digit
  exact digit

theorem plain_stays (c : Char) (plain : c.isDigit = true ∨ c ∈ ['.', 'e', '+', '-']) :
    Text.plainDigit c = c ∧ isMargin c = false ∧ c ≠ '_' := by
  rcases plain with digit | mark
  · have range := digit_range c digit
    have noBlank : Text.isBlank c = false := by
      rw [Bool.eq_false_iff]
      intro blank
      have nothing := (Lexeme.blank_starts_nothing c blank).1
      simp [startsNumber, digit] at nothing
    refine ⟨if_pos (by omega), by simp [isMargin, noBlank], ?_⟩
    rintro rfl
    exact absurd digit (by decide)
  · simp only [List.mem_cons, List.not_mem_nil, or_false] at mark
    rcases mark with rfl | rfl | rfl | rfl <;> decide

theorem groups_fit (before : Char) (cs : List Char) (start : before ≠ '_') (noLine : ∀ c ∈ cs, c ≠ '_') :
    groupsFit before cs = true := by
  induction cs generalizing before with
  | nil => simp [groupsFit, start]
  | cons c rest ih =>
      have other := noLine c List.mem_cons_self
      have behind := ih c other (fun d member => noLine d (List.mem_cons_of_mem _ member))
      simp [groupsFit, start, other, behind]

theorem drop_while_none {α : Type} (drop : α → Bool) (xs : List α) (keep : ∀ x ∈ xs, drop x = false) :
    xs.dropWhile drop = xs := by
  cases xs with
  | nil => rfl
  | cons x rest => rw [List.dropWhile_cons, keep x List.mem_cons_self, if_neg Bool.false_ne_true]

theorem read_plain (cs : List Char) (plain : Decimal.Plain cs) :
    read? (String.ofList cs) = unsigned? (takeSign cs).1 (takeSign cs).2 := by
  have digits : cs.map Text.plainDigit = cs := by
    rw [List.map_congr_left (fun c member => (plain_stays c (plain c member)).1), List.map_id']
  have noMargin : ∀ c ∈ cs, isMargin c = false := fun c member => (plain_stays c (plain c member)).2.1
  have noLine : ∀ c ∈ cs, c ≠ '_' := fun c member => (plain_stays c (plain c member)).2.2
  have trimmed : trim cs = cs := by
    rw [trim, drop_while_none isMargin cs noMargin, drop_while_none isMargin cs.reverse, List.reverse_reverse]
    exact fun c member => noMargin c (List.mem_reverse.mp member)
  have joined : joinGroups cs = some cs := by
    rw [joinGroups, if_pos (groups_fit ' ' cs (by decide) noLine), List.filter_eq_self.mpr]
    simpa using noLine
  rw [read?, String.toList_ofList, digits, trimmed, joined]
  rfl

theorem sign_digit (c : Char) (rest : List Char) (digit : c.isDigit = true) : takeSign (c :: rest) = (false, c :: rest) := by
  rw [takeSign.eq_def]
  split
  · next same =>
      obtain ⟨rfl, -⟩ := List.cons.inj same
      exact absurd digit (by decide)
  · next same =>
      obtain ⟨rfl, -⟩ := List.cons.inj same
      exact absurd digit (by decide)
  · rfl

theorem word_no_digit (word : String) (c : Char) (rest : List Char) (digit : c.isDigit = true)
    (letters : word.toList.all (fun d => !d.isDigit) = true) : String.ofList ((c :: rest).map Char.toLower) ≠ word := by
  rintro rfl
  have lower : c.toLower = c := by
    have range := digit_range c digit
    have noUpper : ¬ 65 ≤ c.toNat := by omega
    exact dif_neg fun upper => noUpper upper.1
  simp [lower, digit] at letters

theorem unsigned_digit (negative : Bool) (c : Char) (rest : List Char) (digit : c.isDigit = true) :
    unsigned? negative (c :: rest) = (decimal? (c :: rest)).map (·.toDouble negative) := by
  have other (word : String) (letters : word.toList.all (fun d => !d.isDigit) = true) :=
    word_no_digit word c rest digit letters
  rw [unsigned?]
  split
  · next same => exact absurd same (other "inf" (by decide))
  · next same => exact absurd same (other "infinity" (by decide))
  · next same => exact absurd same (other "nan" (by decide))
  · rfl

theorem finite_text (negative : Bool) (m : Magnitude) :
    (Double.finite negative m).text =
      String.ofList ((if negative then ['-'] else []) ++ (Decimal.shortest m).write Layout.result) := by
  cases negative <;> simp [Double.text, Double.write, Double.signText]

theorem read_finite (negative : Bool) (m : Magnitude) :
    read? (Double.finite negative m).text = some (.finite negative m) := by
  obtain ⟨read, found, same⟩ := Decimal.write_reads (Decimal.shortest m)
  obtain ⟨c, rest, written, digit⟩ := Decimal.write_starts (Decimal.shortest m)
  have plain := Decimal.write_plain (Decimal.shortest m)
  have value : unsigned? negative (c :: rest) = some (.finite negative m) := by
    rw [unsigned_digit negative c rest digit, ← written, found, Option.map_some, same,
      Decimal.shortest_reads_back m negative]
  rw [written] at plain
  rw [finite_text, written]
  cases negative with
  | false =>
      have split := read_plain (c :: rest) plain
      rw [sign_digit c rest digit] at split
      exact split.trans value
  | true => exact (read_plain ('-' :: c :: rest) (Decimal.plain_cons '-' _ (by decide) plain)).trans value

theorem read_text (x : Double) : read? x.text = some x := by
  cases x with
  | nan => rfl
  | infinite negative => cases negative <;> rfl
  | finite negative m => exact read_finite negative m

end Numeral

end Reckoner
