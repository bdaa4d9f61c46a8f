import Reckoner.Calculation
import Reckoner.Proofs.DecimalOrder
import Reckoner.Proofs.RoundTrip
import Reckoner.Proofs.Viability

set_option autoImplicit false

namespace Reckoner

namespace Decimal

def point (d : Decimal) : Int := (Nat.toDigits 10 d.coefficient).length + d.exponent

def IsPositional (d : Decimal) : Prop :=
  Layout.result.positionalFrom < d.point ∧ d.point ≤ Layout.result.positionalUpTo

instance (d : Decimal) : Decidable d.IsPositional := inferInstanceAs (Decidable (_ ∧ _))

theorem positional_number (digits : List Char) (point : Int) (nonempty : digits ≠ []) (isDigits : Digits digits) :
    IsNumber (positional "" digits point) := by
  rw [positional]
  by_cases small : point ≤ 0
  · rw [if_pos small]
    exact .inr ⟨['0'], _, rfl, by simp [Digits], by simp [nonempty], digits_append _ _ (digits_zeros _) isDigits⟩
  · rw [if_neg small]
    by_cases whole : digits.length ≤ point.toNat
    · rw [if_pos whole]
      refine .inl ⟨by simp [nonempty], ?_⟩
      exact digits_append _ _ (digits_append _ _ isDigits (digits_zeros _)) (by simp [Digits])
    · rw [if_neg whole]
      refine .inr ⟨_, _, rfl, fun c member => isDigits c (List.mem_of_mem_take member), ?_,
        fun c member => isDigits c (List.mem_of_mem_drop member)⟩
      rw [Ne, List.drop_eq_nil_iff]
      exact whole

theorem write_number (d : Decimal) (placed : d.IsPositional) : IsNumber (d.write Layout.result) := by
  rw [write]
  exact (if_pos placed).symm ▸ positional_number _ _ Nat.toDigits_ne_nil (digits_of_nat d.coefficient)

theorem write_mark (d : Decimal) (unplaced : ¬ d.IsPositional) : 'e' ∈ d.write Layout.result := by
  have written : d.write Layout.result = scientific Layout.result.exponentWidth _ (d.point - 1) := if_neg unplaced
  rw [written, scientific]
  exact List.mem_append_right _ List.mem_cons_self

end Decimal

theorem parse_number (literal : String) (number : IsNumber literal.toList) : parse literal = .ok (.literal literal) := by
  have same := (Expr.parse_render_iff (.literal literal) rfl number).mpr trivial
  rwa [Expr.render_text, Expr.text] at same

theorem rejected_run (t : String) (stopped : Mode.operand.run t.toList = none) : ¬ ∃ tree, parse t = .ok tree := by
  intro accepted
  obtain ⟨m, reached, -⟩ := (accepts_iff t.toList).mp accepted
  rw [stopped] at reached
  contradiction

theorem mark_rejected (t : String) (mark : 'e' ∈ t.toList) : ¬ ∃ tree, parse t = .ok tree := by
  intro accepted
  obtain ⟨m, reached, -⟩ := (accepts_iff t.toList).mp accepted
  have letter : ∀ m : Mode, m.next 'e' = none := by
    intro m
    cases m <;> rfl
  exact Mode.run_without 'e' letter t.toList .operand m reached mark

theorem negative_rejected (t : String) (rest : List Char) (sign : t.toList = '-' :: rest) :
    ¬ ∃ tree, parse t = .ok tree := by
  apply rejected_run
  rw [sign]
  rfl

theorem signed_text (negative : Bool) (m : Magnitude) : (Double.finite negative m).text.toList =
    (if negative then ['-'] else []) ++ (Decimal.shortest m).write Layout.result := by
  rw [Numeral.finite_text, String.toList_ofList]

theorem clear_text (m : Magnitude) :
    (Double.finite false m).text.toList = (Decimal.shortest m).write Layout.result := by
  rw [signed_text, if_neg Bool.false_ne_true, List.nil_append]

theorem positional_parsed (m : Magnitude) (placed : (Decimal.shortest m).IsPositional) :
    parse (Double.finite false m).text = .ok (.literal (Double.finite false m).text) := by
  apply parse_number
  rw [clear_text]
  exact Decimal.write_number _ placed

theorem result_accepted (x : Double) :
    (∃ tree, parse x.text = .ok tree) ↔ ∃ m, x = .finite false m ∧ (Decimal.shortest m).IsPositional := by
  cases x with
  | nan => simpa using rejected_run Double.nan.text rfl
  | infinite negative =>
      cases negative with
      | true => simpa using rejected_run (Double.infinite true).text rfl
      | false => simpa using rejected_run (Double.infinite false).text rfl
  | finite negative m =>
      cases negative with
      | true => simpa using negative_rejected _ _ (signed_text true m)
      | false =>
          by_cases placed : (Decimal.shortest m).IsPositional
          · exact ⟨fun _ => ⟨m, rfl, placed⟩, fun _ => ⟨_, positional_parsed m placed⟩⟩
          · have mark := Decimal.write_mark _ placed
            rw [← clear_text] at mark
            refine ⟨fun accepted => absurd accepted (mark_rejected _ mark), ?_⟩
            intro positional
            obtain ⟨n, same, other⟩ := positional
            rw [(Double.finite.inj same).2] at placed
            exact absurd other placed

def tenThousandth : Magnitude := ⟨0x3F1A36E2EB1C432D, by decide⟩

def tenQuadrillion : Magnitude := ⟨0x4341C37937E08000, by decide⟩

namespace Magnitude

def IsModerate (m : Magnitude) : Prop :=
  unitsInOne ≤ m.units * Nat.pow 10 4 ∧ m.units < Nat.pow 10 16 * unitsInOne

instance (m : Magnitude) : Decidable m.IsModerate := inferInstanceAs (Decidable (_ ∧ _))

theorem reaches_thousandth (m : Magnitude) : m.Reaches ⟨1, -4⟩ ↔ unitsInOne ≤ m.units * Nat.pow 10 4 := by
  have one : 1 * Nat.pow 10 0 * unitsInOne = unitsInOne := Nat.one_mul unitsInOne
  rw [Reaches, Decimal.ratio_parts]
  change 1 * Nat.pow 10 0 * unitsInOne ≤ m.units * Nat.pow 10 4 ↔ _
  rw [one]

theorem reaches_quadrillion (m : Magnitude) : m.Reaches ⟨1, 16⟩ ↔ Nat.pow 10 16 * unitsInOne ≤ m.units := by
  have one : m.units * Nat.pow 10 0 = m.units := Nat.mul_one m.units
  rw [Reaches, Decimal.ratio_parts]
  change 1 * Nat.pow 10 16 * unitsInOne ≤ m.units * Nat.pow 10 0 ↔ _
  rw [one, Nat.one_mul]

theorem edges_shortest :
    Decimal.shortest tenThousandth = ⟨1, -4⟩ ∧ Decimal.shortest tenQuadrillion = ⟨1, 16⟩ := by
  decide +kernel

theorem edges_reach : tenThousandth.Reaches ⟨1, -4⟩ ∧ tenQuadrillion.Reaches ⟨1, 16⟩ := by
  rw [reaches_thousandth, reaches_quadrillion]
  decide +kernel

theorem edges_rounded :
    Double.round false (Decimal.ratio ⟨1, -4⟩).1 (Decimal.ratio ⟨1, -4⟩).2 = .finite false tenThousandth ∧
      Double.round false (Decimal.ratio ⟨1, 16⟩).1 (Decimal.ratio ⟨1, 16⟩).2 = .finite false tenQuadrillion := by
  have low := (Decimal.shortest_rounded tenThousandth (by decide)).2
  have high := (Decimal.shortest_rounded tenQuadrillion (by decide)).2
  rw [edges_shortest.1] at low
  rw [edges_shortest.2] at high
  exact ⟨low, high⟩

theorem moderate_index (m : Magnitude) :
    m.IsModerate ↔ tenThousandth.index ≤ m.index ∧ m.index < tenQuadrillion.index := by
  have low := reaches_edge tenThousandth m ⟨1, -4⟩ edges_reach.1 edges_rounded.1
  have high := reaches_edge tenQuadrillion m ⟨1, 16⟩ edges_reach.2 edges_rounded.2
  rw [reaches_thousandth] at low
  rw [reaches_quadrillion] at high
  rw [IsModerate, low, ← Nat.not_le, high, Nat.not_le]

theorem shortest_from_thousandth (m : Magnitude) (positive : m.index ≠ 0) :
    m.Reaches ⟨1, -4⟩ ↔ -4 < (Decimal.shortest m).point := by
  have passes := shortest_reaches tenThousandth m (by decide) positive
  rw [edges_shortest.1] at passes
  rw [passes edges_reach.1]
  exact Decimal.ten_at_most (-4) _ (Decimal.shortest_rounded m positive).1

theorem shortest_from_quadrillion (m : Magnitude) (positive : m.index ≠ 0) :
    m.Reaches ⟨1, 16⟩ ↔ 16 < (Decimal.shortest m).point := by
  have passes := shortest_reaches tenQuadrillion m (by decide) positive
  rw [edges_shortest.2] at passes
  rw [passes edges_reach.2]
  exact Decimal.ten_at_most 16 _ (Decimal.shortest_rounded m positive).1

theorem shortest_positional (m : Magnitude) :
    (Decimal.shortest m).IsPositional ↔ m.units = 0 ∨ m.IsModerate := by
  by_cases zero : m.index = 0
  · rw [zero_of_index m zero]
    exact ⟨fun _ => .inl zero_units, fun _ => by decide⟩
  · have some : ¬ m.units = 0 := Nat.ne_of_gt (m.units_pos zero)
    have low := (m.reaches_thousandth).symm.trans (m.shortest_from_thousandth zero)
    have high := (m.reaches_quadrillion).symm.trans (m.shortest_from_quadrillion zero)
    rw [or_iff_right some, IsModerate, low, ← Nat.not_le, high, Int.not_lt]
    exact Iff.rfl

end Magnitude

def Double.IsPlain : Double → Prop
  | .finite false m => m.units = 0 ∨ m.IsModerate
  | _ => False

theorem result_plain (x : Double) : (∃ tree, parse x.text = .ok tree) ↔ x.IsPlain := by
  rw [result_accepted]
  cases x with
  | nan => simp [Double.IsPlain]
  | infinite negative => simp [Double.IsPlain]
  | finite negative m =>
      cases negative with
      | true => simp [Double.IsPlain]
      | false =>
          rw [Double.IsPlain, ← m.shortest_positional]
          simp

theorem result_literal (x : Double) (tree : Expr) (accepted : parse x.text = .ok tree) :
    tree = .literal x.text := by
  obtain ⟨m, rfl, placed⟩ := (result_accepted x).mp ⟨tree, accepted⟩
  exact Except.ok.inj (accepted.symm.trans (positional_parsed m placed))

theorem results_fed_back (x : Double) :
    ((∃ tree, parse x.text = .ok tree) ↔ x.IsPlain) ∧
      (x.IsPlain → evaluate x.text = .ok x ∧ calculate x.text = .ok x.text) ∧
      ∀ m : Magnitude, m.IsModerate ↔ tenThousandth.index ≤ m.index ∧ m.index < tenQuadrillion.index := by
  refine ⟨result_plain x, ?_, Magnitude.moderate_index⟩
  intro plain
  obtain ⟨tree, accepted⟩ := (result_plain x).mpr plain
  obtain rfl := result_literal x tree accepted
  have simplified : (Expr.literal x.text).simplify = .ok (.literal x.text) := by
    rw [Expr.simplify_value, Expr.value, Expr.literal_text_value]
    rfl
  refine ⟨?_, ?_⟩
  · simp only [evaluate, reduceText, accepted, simplified, Expr.literal_text_value]
  · simp only [calculate, reduceText, accepted, simplified, Expr.render_text, Expr.text]

def lastPositional : Double := .finite false ⟨0x4341C37937E07FFF, by decide⟩

theorem results_fed_back_before_exponent :
    lastPositional.IsPlain ∧ lastPositional.text = "9999999999999998" ∧
      evaluate "9999999999999998" = .ok lastPositional ∧ (¬ ∃ tree, parse "1e+16" = .ok tree) ∧
      Numeral.read? "1e-4" = some (.finite false tenThousandth) ∧
      Numeral.read? "1e16" = some (.finite false tenQuadrillion) := by
  have plain : lastPositional.IsPlain := .inr (by decide +kernel)
  have written : lastPositional.text = "9999999999999998" := by decide +kernel
  have next : (Double.finite false tenQuadrillion).text = "1e+16" := by decide +kernel
  have large : ¬ (Double.finite false tenQuadrillion).IsPlain := by
    rw [Double.IsPlain]
    decide +kernel
  have edges : Numeral.read? "1e-4" = some (.finite false tenThousandth) ∧
      Numeral.read? "1e16" = some (.finite false tenQuadrillion) := by decide +kernel
  refine ⟨plain, written, ?_, ?_, edges⟩
  · rw [← written]
    exact ((results_fed_back lastPositional).2.1 plain).1
  · rw [← next, (results_fed_back (.finite false tenQuadrillion)).1]
    exact large

end Reckoner
