import Reckoner.Expr.Parser
import Reckoner.Proofs.Number

set_option autoImplicit false

namespace Reckoner

-- What stands in a text besides blanks. Every text is a row of these: a point
-- without its digit and a character of no use are lexemes like any other.
inductive Lexeme where
  | number (literal : List Char)
  | operator (o : Operator)
  | openNumber (literal : List Char)
  | stray (c : Char)
deriving DecidableEq

namespace Lexeme

def chars : Lexeme → List Char
  | number literal => literal
  | operator o => [o.symbol]
  | openNumber literal => literal
  | stray c => [c]

def fault (position : Nat) : Lexeme → ParseError
  | number literal => ⟨.unexpectedNumber (String.ofList literal), some position⟩
  | operator o => ⟨.unexpectedOperator o.text, some position⟩
  | openNumber literal => ⟨.missingFractionalDigit (String.ofList literal), some (position + literal.length : Nat)⟩
  | stray c => ⟨.unrecognizedCharacter (String.singleton c), some position⟩

def Fits (behind : List Char) : Lexeme → Prop
  | number literal => IsNumber literal ∧ ∀ c, behind.head? = some c → ¬ Continues literal c
  | operator _ => True
  | openNumber literal => IsOpenNumber literal ∧ NoDigitAhead behind
  | stray c => startsNumber c = false ∧ Operator.ofSymbol? c = none ∧ Text.isBlank c = false

def front? (c : Char) (rest : List Char) : Option Lexeme :=
  match scanNumber (c :: rest) with
  | .found literal => some (.number literal)
  | .openPoint literal => some (.openNumber literal)
  | .absent =>
      match Operator.ofSymbol? c with
      | some o => some (.operator o)
      | none => if Text.isBlank c then none else some (.stray c)

theorem operator_symbol (c : Char) (o : Operator) (found : Operator.ofSymbol? c = some o) : c = o.symbol := by
  have same := List.find?_some found
  exact (beq_iff_eq.mp same).symm

theorem symbol_operator (o : Operator) : Operator.ofSymbol? o.symbol = some o := by
  cases o <;> rfl

theorem symbol_starts_nothing (o : Operator) : startsNumber o.symbol = false ∧ Text.isBlank o.symbol = false := by
  cases o <;> decide

theorem blank_starts_nothing (c : Char) (blank : Text.isBlank c = true) :
    startsNumber c = false ∧ Operator.ofSymbol? c = none := by
  constructor
  · rw [Bool.eq_false_iff]
    intro starts
    simp only [startsNumber, Bool.or_eq_true, beq_iff_eq] at starts
    rcases starts with rfl | digit
    · exact absurd blank (by decide)
    · rw [Char.isDigit_iff_toNat] at digit
      simp [Text.isBlank, Text.blankRanges, Text.inRanges, Text.CharRange.holds] at blank
      simp at digit
      omega
  · cases found : Operator.ofSymbol? c with
    | none => rfl
    | some o =>
        rw [operator_symbol c o found, (symbol_starts_nothing o).2] at blank
        exact absurd blank (by simp)

theorem scan_nothing (c : Char) (rest : List Char) (noStart : startsNumber c = false) :
    scanNumber (c :: rest) = .absent := by
  apply scan_absent
  intro d ahead
  obtain rfl := Option.some.inj ahead
  exact noStart

theorem fits_ne_nil (l : Lexeme) (behind : List Char) (fits : l.Fits behind) : l.chars ≠ [] := by
  cases l with
  | number literal => exact number_ne_nil literal fits.1
  | operator o => simp [chars]
  | openNumber literal => exact open_number_ne_nil literal fits.1
  | stray c => simp [chars]

theorem front_of_fits (l : Lexeme) (c : Char) (rest behind : List Char) (split : c :: rest = l.chars ++ behind)
    (fits : l.Fits behind) : front? c rest = some l := by
  cases l with
  | number literal =>
      have scan := scan_of_ahead _ _ (.found literal behind fits.1 fits.2)
      rw [front?, split, chars, scan]
  | openNumber literal =>
      have scan := scan_of_ahead _ _ (.openPoint literal behind fits.1 fits.2)
      rw [front?, split, chars, scan]
  | operator o =>
      obtain ⟨rfl, rfl⟩ := List.cons.inj split
      rw [front?, scan_nothing _ _ (symbol_starts_nothing o).1]
      simp only [symbol_operator]
  | stray d =>
      obtain ⟨rfl, rfl⟩ := List.cons.inj split
      obtain ⟨noStart, noOperator, noBlank⟩ := fits
      rw [front?, scan_nothing _ _ noStart]
      simp [noOperator, noBlank]

theorem front_blank (c : Char) (rest : List Char) (blank : Text.isBlank c = true) : front? c rest = none := by
  obtain ⟨noStart, noOperator⟩ := blank_starts_nothing c blank
  rw [front?, scan_nothing _ _ noStart]
  simp [noOperator, blank]

theorem front_cases (c : Char) (rest : List Char) :
    Text.isBlank c = true ∨ ∃ l behind, c :: rest = chars l ++ behind ∧ l.Fits behind := by
  have ahead := scan_ahead (c :: rest)
  generalize split : c :: rest = cs at ahead
  cases scan : scanNumber cs with
  | found literal =>
      rw [scan] at ahead
      cases ahead with
      | found _ behind number stop => exact .inr ⟨.number literal, behind, rfl, number, stop⟩
  | openPoint literal =>
      rw [scan] at ahead
      cases ahead with
      | openPoint _ behind isOpen stop => exact .inr ⟨.openNumber literal, behind, rfl, isOpen, stop⟩
  | absent =>
      rw [scan] at ahead
      cases ahead with
      | absent _ other =>
          cases found : Operator.ofSymbol? c with
          | some o => exact .inr ⟨.operator o, rest, by rw [← split, operator_symbol c o found]; rfl, trivial⟩
          | none =>
              cases blank : Text.isBlank c with
              | true => exact .inl rfl
              | false =>
                  have noStart := other c (by rw [← split, List.head?_cons])
                  exact .inr ⟨.stray c, rest, split.symm, noStart, found, blank⟩

theorem front_length_pos (c : Char) (rest : List Char) (l : Lexeme) (front : front? c rest = some l) :
    0 < l.chars.length := by
  rcases front_cases c rest with blank | ⟨other, behind, split, fits⟩
  · simp [front_blank c rest blank] at front
  · rw [front_of_fits other c rest behind split fits] at front
    obtain rfl := Option.some.inj front
    exact List.length_pos_iff.mpr (fits_ne_nil other behind fits)

@[elab_as_elim]
theorem text_induction {motive : List Char → Prop} (nil : motive [])
    (blank : ∀ c rest, Text.isBlank c = true → motive rest → motive (c :: rest))
    (lexeme : ∀ l behind, Fits behind l → motive behind → motive (l.chars ++ behind)) (cs : List Char) : motive cs := by
  induction size : cs.length using Nat.strongRecOn generalizing cs with
  | ind n ih =>
      cases cs with
      | nil => exact nil
      | cons c rest =>
          rcases front_cases c rest with isBlank | ⟨l, behind, split, fits⟩
          · exact blank c rest isBlank (ih rest.length (by simp at size; omega) rest rfl)
          · have shorter : behind.length < n := by
              have positive := List.length_pos_iff.mpr (fits_ne_nil l behind fits)
              rw [← size, split, List.length_append]
              omega
            rw [split]
            exact lexeme l behind fits (ih behind.length shorter behind rfl)

end Lexeme

end Reckoner
