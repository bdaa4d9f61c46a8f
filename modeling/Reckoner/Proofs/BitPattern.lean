import Reckoner.Form.Field
import Reckoner.Proofs.Reduction

set_option autoImplicit false

namespace Reckoner

namespace Double

def wordLimit : Nat := Nat.pow 2 64

def IsNanWord (word : Nat) : Prop := 2047 * Nat.pow 2 52 < word % Nat.pow 2 63

theorem word_parts (word : Nat) (bounded : word < wordLimit) :
    word = signWord (word / Nat.pow 2 63 % 2 == 1) + word % Nat.pow 2 63 := by
  simp only [wordLimit, Nat.pow_eq] at bounded
  have parts := Nat.div_add_mod word (2 ^ 63)
  have bit : word / 2 ^ 63 = 0 ∨ word / 2 ^ 63 = 1 := by omega
  simp only [signWord, Nat.pow_eq]
  cases bit with
  | inl clear =>
      rw [clear] at parts ⊢
      simpa using parts.symm
  | inr set =>
      rw [set] at parts ⊢
      simpa using parts.symm

theorem of_bits_nan (word : Nat) (isNan : IsNanWord word) : ofBits word = .nan := by
  rw [ofBits]
  exact if_neg (Nat.not_le.mpr isNan)

theorem of_index_bits (negative : Bool) (index : Nat) (bounded : index ≤ 2047 * Nat.pow 2 52) :
    (ofIndex negative index).toBits = signWord negative + index := by
  rw [ofIndex]
  by_cases finite : index < 2047 * Nat.pow 2 52
  · rw [dif_pos finite]
    rfl
  · have largest : index = 2047 * Nat.pow 2 52 := Nat.le_antisymm bounded (Nat.not_lt.mp finite)
    rw [dif_neg finite, largest]
    rfl

theorem of_bits_to_bits (word : Nat) (bounded : word < wordLimit) (number : ¬ IsNanWord word) :
    (ofBits word).toBits = word := by
  have index : word % Nat.pow 2 63 ≤ 2047 * Nat.pow 2 52 := Nat.not_lt.mp number
  have split := word_parts word bounded
  calc (ofBits word).toBits
      = (ofIndex (word / Nat.pow 2 63 % 2 == 1) (word % Nat.pow 2 63)).toBits := by
        rw [ofBits]
        exact congrArg toBits (if_pos index)
    _ = signWord (word / Nat.pow 2 63 % 2 == 1) + word % Nat.pow 2 63 := of_index_bits _ _ index
    _ = word := split.symm

theorem text_injective (x y : Double) (same : x.text = y.text) : x = y := by
  have read := Numeral.read_text x
  rw [same, Numeral.read_text y] at read
  exact (Option.some.inj read).symm

theorem text_not_empty (x : Double) : x.text ≠ "" := by
  intro empty
  have nothing : Numeral.read? "" = none := rfl
  have read := Numeral.read_text x
  rw [empty, nothing] at read
  contradiction

theorem text_checked (x : Double) : Form.checkFilledText (.text x.text) = .ok x.text := by
  rw [Form.checkFilledText, Form.checkText]
  split
  · next empty => exact absurd (Except.ok.inj empty) (text_not_empty x)
  · rfl

end Double

theorem written_double_reads_back (word : Nat) (bounded : word < Double.wordLimit) :
    Form.checkFilledText (.text (Double.ofBits word).text) = .ok (Double.ofBits word).text ∧
      (∃ x, (Expr.ofDouble (Double.ofBits word)).value = .ok x ∧
        (Double.IsNanWord word → x.isNan = true) ∧ (¬ Double.IsNanWord word → x.toBits = word) ∧
        x.text = (Double.ofBits word).text) ∧
      ∀ other, other < Double.wordLimit → ¬ Double.IsNanWord word → ¬ Double.IsNanWord other →
        (Double.ofBits word).text = (Double.ofBits other).text → word = other := by
  have reads : (Expr.ofDouble (Double.ofBits word)).value = .ok (Double.ofBits word) :=
    Expr.literal_text_value (Double.ofBits word)
  refine ⟨Double.text_checked _, ⟨Double.ofBits word, reads, ?_, Double.of_bits_to_bits word bounded, rfl⟩, ?_⟩
  · intro isNan
    rw [Double.of_bits_nan word isNan]
    rfl
  · intro other otherBounded number otherNumber same
    have doubles := Double.text_injective _ _ same
    rw [← Double.of_bits_to_bits word bounded number, doubles]
    exact Double.of_bits_to_bits other otherBounded otherNumber

theorem least_double_reads_back :
    Nat.pow 2 63 + 1 < Double.wordLimit ∧ ¬ Double.IsNanWord (Nat.pow 2 63 + 1) ∧
      ∃ x, (Expr.ofDouble (Double.ofBits (Nat.pow 2 63 + 1))).value = .ok x ∧ x.toBits = Nat.pow 2 63 + 1 := by
  have bounded : Nat.pow 2 63 + 1 < Double.wordLimit := by decide
  have number : ¬ Double.IsNanWord (Nat.pow 2 63 + 1) := by
    rw [Double.IsNanWord]
    decide
  obtain ⟨x, reads, -, bits, -⟩ := (written_double_reads_back (Nat.pow 2 63 + 1) bounded).2.1
  exact ⟨bounded, number, x, reads, bits number⟩

end Reckoner
