import Reckoner.Proofs.LiteralValue
import Reckoner.Proofs.WholeText

set_option autoImplicit false

namespace Reckoner

namespace Operator

def applyWhole? : Operator → Int → Int → Option Int
  | plus, a, b => some (a + b)
  | minus, a, b => some (a - b)
  | times, a, b => some (a * b)
  | dividedBy, a, b => if b ≠ 0 ∧ b ∣ a then some (a / b) else none

theorem exact_quotient (a b q : Int) (exactly : applyWhole? dividedBy a b = some q) :
    b ≠ 0 ∧ q * b = a ∧ q = a / b := by
  rw [applyWhole?] at exactly
  by_cases even : b ≠ 0 ∧ b ∣ a
  · rw [if_pos even] at exactly
    have quotient := Option.some.inj exactly
    exact ⟨even.1, by rw [← quotient, Int.ediv_mul_cancel even.2], quotient.symm⟩
  · rw [if_neg even] at exactly
    contradiction

theorem exact_nonneg (o : Operator) (a b c : Int) (multiplies : o.isAdditive = false) (aNonneg : 0 ≤ a)
    (bNonneg : 0 ≤ b) (exactly : o.applyWhole? a b = some c) : 0 ≤ c := by
  cases o with
  | plus => contradiction
  | minus => contradiction
  | times =>
      rw [← Option.some.inj exactly]
      exact Int.mul_nonneg aNonneg bNonneg
  | dividedBy =>
      rw [(exact_quotient a b c exactly).2.2]
      exact Int.ediv_nonneg aNonneg bNonneg

theorem apply_whole (o : Operator) (a b c : Int) (x y : Double) (left : Double.IsWhole a x) (right : Double.IsWhole b y)
    (exactly : o.applyWhole? a b = some c) (small : c.natAbs ≤ wholeLimit)
    (factors : o.isAdditive = false → 0 ≤ a ∧ 0 ≤ b) : Double.IsWhole c (o.apply x y) := by
  cases o with
  | plus =>
      obtain rfl := Option.some.inj exactly
      exact Double.add_whole a b x y left right small
  | minus =>
      obtain rfl := Option.some.inj exactly
      exact Double.sub_whole a b x y left right small
  | times =>
      obtain rfl := Option.some.inj exactly
      obtain ⟨aNonneg, bNonneg⟩ := factors rfl
      exact Double.mul_whole a b x y left right aNonneg bNonneg small
  | dividedBy =>
      obtain ⟨aNonneg, bNonneg⟩ := factors rfl
      obtain ⟨nonzero, product, -⟩ := exact_quotient a b c exactly
      rw [← product] at left
      exact Double.div_whole c b x y left right (exact_nonneg dividedBy a b c rfl aNonneg bNonneg exactly)
        (by omega) small

end Operator

namespace Expr

def within? (n : Int) : Option Int := if n.natAbs ≤ wholeLimit then some n else none

def wholeValue? : Expr → Option Int
  | literal text => if text.toList.all Char.isDigit then within? (Numeral.digitsValue text.toList) else none
  | binary left o right =>
      match left.wholeValue?, right.wholeValue? with
      | some a, some b => (o.applyWhole? a b).bind within?
      | _, _ => none
  | incomplete _ _ => none

theorem within_iff (n c : Int) : within? n = some c ↔ n = c ∧ c.natAbs ≤ wholeLimit := by
  rw [within?]
  by_cases small : n.natAbs ≤ wholeLimit
  · rw [if_pos small, Option.some.injEq]
    constructor
    · intro same
      exact ⟨same, same ▸ small⟩
    · intro both
      exact both.1
  · rw [if_neg small]
    constructor
    · intro none
      contradiction
    · intro both
      exact absurd (both.1 ▸ both.2) small

theorem whole_literal (text : String) (n : Int) (counted : (literal text).wholeValue? = some n) :
    Digits text.toList ∧ (Numeral.digitsValue text.toList : Int) = n ∧ n.natAbs ≤ wholeLimit := by
  rw [wholeValue?] at counted
  by_cases digits : text.toList.all Char.isDigit = true
  · rw [if_pos digits, within_iff] at counted
    exact ⟨List.all_eq_true.mp digits, counted⟩
  · rw [if_neg digits] at counted
    contradiction

theorem whole_binary (left right : Expr) (o : Operator) (c : Int)
    (counted : (binary left o right).wholeValue? = some c) :
    ∃ a b, left.wholeValue? = some a ∧ right.wholeValue? = some b ∧ o.applyWhole? a b = some c ∧
      c.natAbs ≤ wholeLimit := by
  rw [wholeValue?] at counted
  cases leftCounted : left.wholeValue? with
  | none => simp [leftCounted] at counted
  | some a =>
      cases rightCounted : right.wholeValue? with
      | none => simp [leftCounted, rightCounted] at counted
      | some b =>
          rw [leftCounted, rightCounted] at counted
          obtain ⟨value, exactly, within⟩ := Option.bind_eq_some_iff.mp counted
          obtain ⟨same, small⟩ := (within_iff value c).mp within
          exact ⟨a, b, rfl, rfl, by rw [exactly, same], small⟩

def IsFactor (e : Expr) : Prop := ∀ inner, e.root? = some inner → inner.isAdditive = false

theorem grouped_factors (left right : Expr) (o : Operator) (grouped : (binary left o right).Grouped)
    (multiplies : o.isAdditive = false) : left.IsFactor ∧ right.IsFactor := by
  obtain ⟨-, -, leftRank, rightRank⟩ := grouped
  constructor
  · intro inner root
    cases (rank_le_iff o inner).mp (leftRank inner root) with
    | inl adds => rw [multiplies] at adds; contradiction
    | inr factor => exact factor
  · intro inner root
    exact ((rank_lt_iff o inner).mp (rightRank inner root)).2

theorem factor_nonneg (e : Expr) (n : Int) (grouped : e.Grouped) (factor : e.IsFactor)
    (counted : e.wholeValue? = some n) : 0 ≤ n := by
  induction e generalizing n with
  | literal text =>
      rw [← (whole_literal text n counted).2.1]
      exact Int.natCast_nonneg _
  | incomplete left o _ => contradiction
  | binary left o right leftNonneg rightNonneg =>
      have multiplies := factor o rfl
      obtain ⟨a, b, leftCounted, rightCounted, exactly, -⟩ := whole_binary left right o n counted
      obtain ⟨leftFactor, rightFactor⟩ := grouped_factors left right o grouped multiplies
      have aNonneg := leftNonneg a grouped.1 leftFactor leftCounted
      have bNonneg := rightNonneg b grouped.2.1 rightFactor rightCounted
      exact Operator.exact_nonneg o a b n multiplies aNonneg bNonneg exactly

theorem literal_whole (text : String) (n : Int) (number : IsNumber text.toList)
    (counted : (literal text).wholeValue? = some n) : ∃ x, (literal text).value = .ok x ∧ Double.IsWhole n x := by
  obtain ⟨digits, same, small⟩ := whole_literal text n counted
  have read := Numeral.read_digits text.toList (number_ne_nil text.toList number) digits
  rw [String.ofList_toList] at read
  rw [← same] at small ⊢
  exact ⟨_, by rw [value, literalValue, read], Decimal.whole_to_double _ small⟩

theorem whole_value (e : Expr) (n : Int) (grouped : e.Grouped) (spelled : e.Spelled)
    (counted : e.wholeValue? = some n) : ∃ x, e.value = .ok x ∧ Double.IsWhole n x := by
  induction e generalizing n with
  | literal text => exact literal_whole text n spelled counted
  | incomplete left o _ => contradiction
  | binary left o right leftWhole rightWhole =>
      obtain ⟨a, b, leftCounted, rightCounted, exactly, small⟩ := whole_binary left right o n counted
      obtain ⟨x, leftValue, leftIs⟩ := leftWhole a grouped.1 spelled.1 leftCounted
      obtain ⟨y, rightValue, rightIs⟩ := rightWhole b grouped.2.1 spelled.2 rightCounted
      have factors : o.isAdditive = false → 0 ≤ a ∧ 0 ≤ b := by
        intro multiplies
        obtain ⟨leftFactor, rightFactor⟩ := grouped_factors left right o grouped multiplies
        exact ⟨factor_nonneg left a grouped.1 leftFactor leftCounted,
          factor_nonneg right b grouped.2.1 rightFactor rightCounted⟩
      refine ⟨o.apply x y, ?_, Operator.apply_whole o a b n x y leftIs rightIs exactly small factors⟩
      rw [value, leftValue, rightValue]

theorem whole_value_bound (e : Expr) (n : Int) (counted : e.wholeValue? = some n) : n.natAbs ≤ wholeLimit := by
  cases e with
  | literal text => exact (whole_literal text n counted).2.2
  | incomplete left o => contradiction
  | binary left o right =>
      obtain ⟨-, -, -, -, -, small⟩ := whole_binary left right o n counted
      exact small

end Expr

theorem whole_numbers_exact (t : String) (tree : Expr) (n : Int) (accepted : parse t = .ok tree)
    (counted : tree.wholeValue? = some n) :
    ∃ result, tree.simplify = .ok result ∧ result.render = toString n := by
  obtain ⟨-, -, -, -, spelled, grouped⟩ := parsed_shape t tree accepted
  obtain ⟨x, valued, whole⟩ := Expr.whole_value tree n grouped spelled counted
  refine ⟨Expr.ofDouble x, by rw [Expr.simplify_value, valued], ?_⟩
  rw [Expr.render_text, ← Double.whole_text n x whole (Expr.whole_value_bound tree n counted)]
  rfl

def differenceBelowZero : Expr :=
  .binary (.binary (.binary (.literal "007") .times (.literal "6")) .dividedBy (.literal "3")) .minus
    (.literal "9007199254740992")

theorem whole_numbers_exact_below_zero :
    parse "007*6/3 - 9007199254740992" = .ok differenceBelowZero ∧
      differenceBelowZero.wholeValue? = some (-9007199254740978) ∧
      ∃ result, differenceBelowZero.simplify = .ok result ∧ result.render = toString (-9007199254740978 : Int) := by
  have accepted : parse "007*6/3 - 9007199254740992" = .ok differenceBelowZero := rfl
  have counted : differenceBelowZero.wholeValue? = some (-9007199254740978) := by decide
  exact ⟨accepted, counted, whole_numbers_exact _ _ _ accepted counted⟩

end Reckoner
