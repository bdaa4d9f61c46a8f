import Reckoner.Double.Fingerprint
import Reckoner.Expr.Equality
import Reckoner.Proofs.Sign

set_option autoImplicit false

namespace Reckoner

namespace Double

theorem eq_finite (s t : Bool) (m n : Magnitude) :
    (finite s m).eq (finite t n) = true ↔ m.index = n.index ∧ (s = t ∨ m.index = 0) := by
  rw [eq, Bool.and_eq_true, Bool.or_eq_true, beq_iff_eq, beq_iff_eq, beq_iff_eq]

theorem eq_iff (x y : Double) :
    x.eq y = true ↔ (x = y ∧ x.isNan = false) ∨ (x.isZero = true ∧ y.isZero = true) := by
  cases x with
  | nan => simp [eq, isNan, isZero]
  | infinite s => cases y <;> simp [eq, isNan, isZero]
  | finite s m =>
      cases y with
      | nan => simp [eq, isZero]
      | infinite t => simp [eq, isZero]
      | finite t n =>
          rw [eq_finite, isZero, isZero, beq_iff_eq, beq_iff_eq]
          refine ⟨?_, ?_⟩
          · intro equal
            obtain ⟨same, signs⟩ := equal
            cases signs with
            | inl signs => exact .inl ⟨by rw [Magnitude.same_index m n same, signs], rfl⟩
            | inr zero => exact .inr ⟨zero, same.symm.trans zero⟩
          · intro equal
            cases equal with
            | inl same =>
                obtain ⟨signs, same⟩ := Double.finite.inj same.1
                exact ⟨congrArg Magnitude.index same, .inl signs⟩
            | inr zeros => exact ⟨zeros.1.trans zeros.2.symm, .inr zeros.1⟩

theorem eq_symm (x y : Double) (equal : x.eq y = true) : y.eq x = true := by
  rw [eq_iff] at equal ⊢
  cases equal with
  | inl same =>
      obtain ⟨rfl, number⟩ := same
      exact .inl ⟨rfl, number⟩
  | inr zeros => exact .inr ⟨zeros.2, zeros.1⟩

theorem eq_trans (x y z : Double) (first : x.eq y = true) (second : y.eq z = true) : x.eq z = true := by
  rw [eq_iff] at first
  cases first with
  | inl same =>
      obtain ⟨rfl, -⟩ := same
      exact second
  | inr zeros =>
      rw [eq_iff] at second ⊢
      cases second with
      | inl same =>
          obtain ⟨rfl, -⟩ := same
          exact .inr zeros
      | inr more => exact .inr ⟨zeros.1, more.2⟩

theorem is_zero (x : Double) (zeroed : x.isZero = true) : x = zero x.isNegative := by
  cases x with
  | nan => contradiction
  | infinite s => contradiction
  | finite s m =>
      have index : m.index = 0 := by simpa [isZero] using zeroed
      rw [Magnitude.zero_of_index m index]
      rfl

theorem eq_clear (x y : Double) (left : x.isNegative = false) (right : y.isNegative = false)
    (equal : x.eq y = true) : x = y := by
  rw [eq_iff] at equal
  cases equal with
  | inl same => exact same.1
  | inr zeros => rw [is_zero x zeros.1, is_zero y zeros.2, left, right]

theorem zero_fingerprint (negative : Bool) : (zero negative).fingerprint = some 0 := by
  cases negative <;> decide +kernel

theorem number_fingerprint (x : Double) (number : x.isNan = false) : ∃ hash, x.fingerprint = some hash := by
  cases x with
  | nan => contradiction
  | infinite negative => exact ⟨_, rfl⟩
  | finite negative m => exact ⟨_, rfl⟩

theorem eq_fingerprint (x y : Double) (equal : x.eq y = true) :
    ∃ hash, x.fingerprint = some hash ∧ y.fingerprint = some hash := by
  rw [eq_iff] at equal
  cases equal with
  | inl same =>
      obtain ⟨rfl, number⟩ := same
      obtain ⟨hash, found⟩ := number_fingerprint x number
      exact ⟨hash, found, found⟩
  | inr zeros =>
      rw [is_zero x zeros.1, is_zero y zeros.2]
      exact ⟨0, zero_fingerprint _, zero_fingerprint _⟩

end Double

def SameNumber (a b : String) : Prop :=
  a = b ∨ ∃ x y, literalValue a = .ok x ∧ literalValue b = .ok y ∧ x.eq y = true

namespace SameNumber

theorem symm (a b : String) (same : SameNumber a b) : SameNumber b a := by
  cases same with
  | inl text => exact .inl text.symm
  | inr number =>
      obtain ⟨x, y, left, right, equal⟩ := number
      exact .inr ⟨y, x, right, left, x.eq_symm y equal⟩

theorem trans (a b c : String) (first : SameNumber a b) (second : SameNumber b c) : SameNumber a c := by
  cases first with
  | inl text => rw [text]; exact second
  | inr number =>
      cases second with
      | inl text => rw [← text]; exact .inr number
      | inr other =>
          obtain ⟨x, y, left, middle, equal⟩ := number
          obtain ⟨y', z, middle', right, equal'⟩ := other
          obtain rfl := Except.ok.inj (middle.symm.trans middle')
          exact .inr ⟨x, z, left, right, x.eq_trans y z equal equal'⟩

end SameNumber

theorem literals_equal_iff (a b : String) : literalsEqual a b = .ok true ↔ SameNumber a b := by
  rw [literalsEqual, SameNumber]
  by_cases text : a = b
  · simp [text]
  · rw [if_neg text, or_iff_right text]
    cases literalValue a with
    | error cause => simp
    | ok x => cases literalValue b <;> simp

namespace Expr

inductive Alike : Expr → Expr → Prop where
  | literal (a b : String) (number : SameNumber a b) : Alike (.literal a) (.literal b)
  | binary (left right left' right' : Expr) (o : Operator) (leftAlike : Alike left left')
      (rightAlike : Alike right right') : Alike (.binary left o right) (.binary left' o right')
  | incomplete (left left' : Expr) (o : Operator) (leftAlike : Alike left left') :
      Alike (.incomplete left o) (.incomplete left' o)

namespace Alike

theorem self (a : Expr) : Alike a a := by
  induction a with
  | literal text => exact .literal text text (.inl rfl)
  | binary left o right leftSelf rightSelf => exact .binary left right left right o leftSelf rightSelf
  | incomplete left o leftSelf => exact .incomplete left left o leftSelf

theorem symm (a b : Expr) (alike : Alike a b) : Alike b a := by
  induction alike with
  | literal a b number => exact .literal b a (SameNumber.symm a b number)
  | binary left right left' right' o _ _ leftSymm rightSymm =>
      exact .binary left' right' left right o leftSymm rightSymm
  | incomplete left left' o _ leftSymm => exact .incomplete left' left o leftSymm

theorem trans (a b c : Expr) (first : Alike a b) (second : Alike b c) : Alike a c := by
  induction first generalizing c with
  | literal a b number =>
      cases second with
      | literal _ c other => exact .literal a c (SameNumber.trans a b c number other)
  | binary left right left' right' o _ _ leftTrans rightTrans =>
      cases second with
      | binary _ _ left'' right'' _ leftAlike rightAlike =>
          exact .binary left right left'' right'' o (leftTrans left'' leftAlike) (rightTrans right'' rightAlike)
  | incomplete left left' o _ leftTrans =>
      cases second with
      | incomplete _ left'' _ leftAlike => exact .incomplete left left'' o (leftTrans left'' leftAlike)

end Alike

theorem alike_equal (a b : Expr) (alike : a.Alike b) : a.equal b = .ok true := by
  induction alike with
  | literal a b number => rw [equal, literals_equal_iff]; exact number
  | binary left right left' right' o _ _ leftEqual rightEqual => simp only [equal, leftEqual, rightEqual, if_true]
  | incomplete left left' o _ leftEqual => simp [equal, leftEqual]

theorem binary_equal (left right left' right' : Expr) (o o' : Operator) (same : Bool)
    (lefts : left.equal left' = .ok same) :
    (binary left o right).equal (binary left' o' right') =
      if same = true ∧ o = o' then right.equal right' else .ok false := by
  rw [equal, lefts]
  cases same with
  | false => simp
  | true => simp only [true_and]

theorem equal_alike (a b : Expr) (compared : a.equal b = .ok true) : a.Alike b := by
  induction a generalizing b with
  | literal text =>
      cases b with
      | literal other => exact .literal text other ((literals_equal_iff text other).mp compared)
      | binary left' o' right' => simp [equal] at compared
      | incomplete left' o' => simp [equal] at compared
  | binary left o right leftAlike rightAlike =>
      cases b with
      | literal other => simp [equal] at compared
      | incomplete left' o' => cases lefts : left.equal left' <;> simp [equal, lefts] at compared
      | binary left' o' right' =>
          cases lefts : left.equal left' with
          | error cause => simp [equal, lefts] at compared
          | ok same =>
              rw [binary_equal left right left' right' o o' same lefts] at compared
              by_cases agree : same = true ∧ o = o'
              · rw [if_pos agree] at compared
                obtain ⟨rfl, rfl⟩ := agree
                exact .binary left right left' right' o (leftAlike left' lefts) (rightAlike right' compared)
              · rw [if_neg agree] at compared
                exact absurd (Except.ok.inj compared) Bool.false_ne_true
  | incomplete left o leftAlike =>
      cases b with
      | literal other => simp [equal] at compared
      | binary left' o' right' => cases lefts : left.equal left' <;> simp [equal, lefts] at compared
      | incomplete left' o' =>
          cases lefts : left.equal left' with
          | error cause => simp [equal, lefts] at compared
          | ok same =>
              simp only [equal, lefts, Except.ok.injEq, Bool.and_eq_true, beq_iff_eq] at compared
              obtain ⟨rfl, rfl⟩ := compared
              exact .incomplete left left' o (leftAlike left' lefts)

theorem equal_iff (a b : Expr) : a.equal b = .ok true ↔ a.Alike b := ⟨equal_alike a b, alike_equal a b⟩

theorem literals_compared (a b : String) (x y : Double) (left : literalValue a = .ok x)
    (right : literalValue b = .ok y) : ∃ same, literalsEqual a b = .ok same := by
  rw [literalsEqual]
  by_cases text : a = b
  · exact ⟨true, if_pos text⟩
  · rw [if_neg text, left, right]
    exact ⟨_, rfl⟩

theorem literal_numeric (text : String) (numeric : (literal text).Numeric) : ∃ x, literalValue text = .ok x :=
  numeric_value (literal text) rfl numeric

theorem equal_compared (a b : Expr) (left : a.Numeric) (right : b.Numeric) : ∃ same, a.equal b = .ok same := by
  induction a generalizing b with
  | literal text =>
      cases b with
      | literal other =>
          obtain ⟨x, leftValue⟩ := literal_numeric text left
          obtain ⟨y, rightValue⟩ := literal_numeric other right
          exact literals_compared text other x y leftValue rightValue
      | binary left' o' right' => exact ⟨false, rfl⟩
      | incomplete left' o' => exact ⟨false, rfl⟩
  | binary first o last firstCompared lastCompared =>
      cases b with
      | literal other => exact ⟨false, rfl⟩
      | incomplete first' o' =>
          obtain ⟨same, firsts⟩ := firstCompared first' left.1 right
          exact ⟨false, by simp only [equal, firsts]⟩
      | binary first' o' last' =>
          obtain ⟨same, firsts⟩ := firstCompared first' left.1 right.1
          rw [binary_equal first last first' last' o o' same firsts]
          by_cases agree : same = true ∧ o = o'
          · rw [if_pos agree]
            exact lastCompared last' left.2 right.2
          · rw [if_neg agree]
            exact ⟨false, rfl⟩
  | incomplete first o firstCompared =>
      cases b with
      | literal other => exact ⟨false, rfl⟩
      | binary first' o' last' =>
          obtain ⟨same, firsts⟩ := firstCompared first' left right.1
          exact ⟨false, by simp only [equal, firsts]⟩
      | incomplete first' o' =>
          obtain ⟨same, firsts⟩ := firstCompared first' left right
          exact ⟨same && o == o', by simp only [equal, firsts]⟩

theorem alike_value (a b : Expr) (alike : a.Alike b) (complete : a.isComplete = true) (left : a.Spelled)
    (right : b.Spelled) : a.value = b.value := by
  induction alike with
  | literal a b number =>
      cases number with
      | inl text => rw [text]
      | inr number =>
          obtain ⟨x, y, leftValue, rightValue, equal⟩ := number
          have leftClear := literal_clear a x left leftValue
          have rightClear := literal_clear b y right rightValue
          rw [value, value, leftValue, rightValue, x.eq_clear y leftClear rightClear equal]
  | binary first last first' last' o _ _ firstValue lastValue =>
      rw [isComplete, Bool.and_eq_true] at complete
      rw [value, value, firstValue complete.1 left.1 right.1, lastValue complete.2 left.2 right.2]
  | incomplete first first' o _ _ => contradiction

end Expr

theorem equal_hash (a b : String) (x : Double) (equal : (Expr.literal a).equal (.literal b) = .ok true)
    (valued : literalValue a = .ok x) (number : x.isNan = false) :
    ∃ y hash, literalValue b = .ok y ∧ x.fingerprint = some hash ∧ y.fingerprint = some hash := by
  cases (literals_equal_iff a b).mp equal with
  | inl text =>
      obtain ⟨hash, found⟩ := x.number_fingerprint number
      exact ⟨x, hash, text ▸ valued, found, found⟩
  | inr same =>
      obtain ⟨x', y, left, right, compared⟩ := same
      obtain rfl := Except.ok.inj (valued.symm.trans left)
      obtain ⟨hash, leftHash, rightHash⟩ := x.eq_fingerprint y compared
      exact ⟨y, hash, right, leftHash, rightHash⟩

theorem equal_simplify (s t : String) (a b : Expr) (left : parse s = .ok a) (right : parse t = .ok b)
    (equal : a.equal b = .ok true) :
    ∃ r, a.simplify = .ok (.literal r) ∧ b.simplify = .ok (.literal r) := by
  obtain ⟨-, -, -, complete, leftSpelled, -⟩ := parsed_shape s a left
  obtain ⟨-, -, -, -, rightSpelled, -⟩ := parsed_shape t b right
  obtain ⟨x, valued⟩ := parsed_value s a left
  have same := Expr.alike_value a b (Expr.equal_alike a b equal) complete leftSpelled rightSpelled
  refine ⟨x.text, ?_, ?_⟩
  · rw [Expr.simplify_value, valued]
    rfl
  · rw [Expr.simplify_value, ← same, valued]
    rfl

theorem equality_sound :
    (∀ a b : Expr, a.Numeric → b.Numeric → ∃ same, a.equal b = .ok same ∧ (same = true ↔ a.Alike b)) ∧
      Equivalence (fun a b : Expr => a.equal b = .ok true) ∧
      (∀ a b x, (Expr.literal a).equal (.literal b) = .ok true → literalValue a = .ok x → x.isNan = false →
        ∃ y hash, literalValue b = .ok y ∧ x.fingerprint = some hash ∧ y.fingerprint = some hash) ∧
      ∀ s t a b, parse s = .ok a → parse t = .ok b → a.equal b = .ok true →
        ∃ r, a.simplify = .ok (.literal r) ∧ b.simplify = .ok (.literal r) := by
  refine ⟨?_, ?_, equal_hash, equal_simplify⟩
  · intro a b left right
    obtain ⟨same, compared⟩ := Expr.equal_compared a b left right
    refine ⟨same, compared, ?_⟩
    rw [← Expr.equal_iff, compared, Except.ok.injEq]
  · simp only [Expr.equal_iff]
    exact ⟨Expr.Alike.self, fun {a b} => Expr.Alike.symm a b, fun {a b c} => Expr.Alike.trans a b c⟩

theorem read_value (text : String) (x : Double) (read : Numeral.read? text = some x) : literalValue text = .ok x := by
  rw [literalValue, read]

def Double.one : Double := .finite false ⟨0x3FF0000000000000, by decide⟩

def Double.threeHalves : Double := .finite false ⟨0x3FF8000000000000, by decide⟩

def oneOver (divisor : String) : Expr := .binary (.literal "1") .dividedBy (.literal divisor)

theorem one_over_simplify (divisor : String) (x : Double) (read : Numeral.read? divisor = some x) :
    (oneOver divisor).simplify = .ok (.literal (Double.one.div x).text) := by
  have one : Numeral.read? "1" = some Double.one := by decide +kernel
  have value : (oneOver divisor).value = .ok (Double.one.div x) := by
    rw [oneOver, Expr.value, Expr.value, Expr.value, read_value "1" _ one, read_value divisor x read]
    rfl
  rw [Expr.simplify_value, value]
  rfl

theorem equality_sound_on_spellings :
    (oneOver "-0").Numeric ∧ (oneOver "0.").Numeric ∧ (oneOver "-0").equal (oneOver "0.") = .ok true ∧
      (oneOver "-0").simplify = .ok (.literal "-Infinity") ∧ (oneOver "0.").simplify = .ok (.literal "Infinity") ∧
      (∃ hash, (Double.zero true).fingerprint = some hash ∧ (Double.zero false).fingerprint = some hash) ∧
      ∃ a b r, parse "2*1.50" = .ok a ∧ parse "2 *1.5" = .ok b ∧ a.equal b = .ok true ∧
        a.simplify = .ok (.literal r) ∧ b.simplify = .ok (.literal r) := by
  have zeros : (Expr.literal "-0").equal (.literal "0.") = .ok true := rfl
  have quotients : (oneOver "-0").Alike (oneOver "0.") :=
    .binary _ _ _ _ _ (Expr.Alike.self _) (Expr.equal_alike _ _ zeros)
  obtain ⟨same, compared, alike⟩ := equality_sound.1 (oneOver "-0") (oneOver "0.") ⟨rfl, rfl⟩ ⟨rfl, rfl⟩
  obtain ⟨y, hash, read, leftHash, rightHash⟩ := equality_sound.2.2.1 "-0" "0." (Double.zero true) zeros rfl rfl
  have value : literalValue "0." = .ok (Double.zero false) := rfl
  obtain rfl := Except.ok.inj (read.symm.trans value)
  have first : parse "2*1.50" = .ok (.binary (.literal "2") .times (.literal "1.50")) := rfl
  have second : parse "2 *1.5" = .ok (.binary (.literal "2") .times (.literal "1.5")) := rfl
  have longer : Numeral.read? "1.50" = some Double.threeHalves := by decide +kernel
  have shorter : Numeral.read? "1.5" = some Double.threeHalves := by decide +kernel
  have equal : (Expr.binary (.literal "2") .times (.literal "1.50")).equal
      (.binary (.literal "2") .times (.literal "1.5")) = .ok true := by
    apply Expr.alike_equal
    refine .binary _ _ _ _ _ (Expr.Alike.self _) (.literal _ _ (.inr ?_))
    exact ⟨_, _, read_value _ _ longer, read_value _ _ shorter, by decide +kernel⟩
  obtain ⟨r, left, right⟩ := equality_sound.2.2.2 "2*1.50" "2 *1.5" _ _ first second equal
  refine ⟨⟨rfl, rfl⟩, ⟨rfl, rfl⟩, alike.mpr quotients ▸ compared, ?_, ?_, ⟨hash, leftHash, rightHash⟩,
    _, _, r, first, second, equal, left, right⟩
  · have divided : (Double.one.div (.zero true)).text = "-Infinity" := by
      decide +kernel
    rw [one_over_simplify "-0" (Double.zero true) rfl, divided]
  · have divided : (Double.one.div (.zero false)).text = "Infinity" := by
      decide +kernel
    rw [one_over_simplify "0." (Double.zero false) rfl, divided]

end Reckoner
