import Reckoner.Proofs.Viability

set_option autoImplicit false

namespace Reckoner

def OpenEnding (literal text : List Char) : Prop :=
  IsOpenNumber literal ∧ ∃ before, text = before ++ literal ∧ ∀ c, before.getLast? = some c → c.isDigit = false

def FaultAt (p : Nat) (c : Char) (rest : List Char) (e : ParseError) : Prop :=
  (c ∈ ['+', '-', '*', '/'] ∧ e = ⟨.unexpectedOperator (String.singleton c), some p⟩) ∨
    (c ∉ ['+', '-', '*', '/'] ∧ c.isDigit = false ∧ c ≠ '.' ∧ Text.isBlank c = false ∧
      e = ⟨.unrecognizedCharacter (String.singleton c), some p⟩) ∨
    ((c.isDigit = true ∨ c = '.') ∧
      ((∃ literal, NumberAhead (c :: rest) (.found literal) ∧
          e = ⟨.unexpectedNumber (String.ofList literal), some p⟩) ∨
        ∃ literal, NumberAhead (c :: rest) (.openPoint literal) ∧
          e = ⟨.missingFractionalDigit (String.ofList literal), some (p + literal.length : Nat)⟩))

def Explains (t : List Char) (p : Nat) (e : ParseError) : Prop :=
  if p = t.length then
    if Text.allBlank t then e = ⟨.emptyInput, none⟩
    else if t.getLast? = some '.' then
      ∃ literal, OpenEnding literal t ∧ e = ⟨.missingFractionalDigit (String.ofList literal), some p⟩
    else ∃ incomplete, e = ⟨.missingOperand incomplete, none⟩
  else if 0 < p ∧ t[p - 1]? = some '.' then
    ∃ literal, OpenEnding literal (t.take p) ∧ e = ⟨.missingFractionalDigit (String.ofList literal), some p⟩
  else ∃ c rest, t.drop p = c :: rest ∧ FaultAt p c rest e

theorem run_last (m m' : Mode) (cs : List Char) (c : Char) (reached : m.run cs = some m')
    (last : cs.getLast? = some c) : ∃ before : Mode, before.next c = some m' := by
  obtain ⟨front, rfl⟩ := List.getLast?_eq_some_iff.mp last
  rw [Mode.run_append] at reached
  obtain ⟨before, -, stepped⟩ := Option.bind_eq_some_iff.mp reached
  refine ⟨before, ?_⟩
  simpa [Mode.run] using stepped

theorem agrees_no_point (held : Parser.Held) (m : Mode) (before rest : List Char) (reached : Mode.operand.run before = some m)
    (agrees : held.Agrees m rest) : before.getLast? ≠ some '.' := by
  intro last
  obtain ⟨inner, stepped⟩ := run_last _ _ before '.' reached last
  obtain rfl := Mode.point_next inner m stepped
  cases agrees with
  | full _ _ _ _ settled => cases settled

theorem open_ending (before literal : List Char) (reached : Mode.operand.run before = some .operand)
    (isOpen : IsOpenNumber literal) : OpenEnding literal (before ++ literal) := by
  refine ⟨isOpen, before, rfl, ?_⟩
  intro c last
  obtain ⟨inner, stepped⟩ := run_last _ _ before c reached last
  exact Mode.next_operand inner c stepped

theorem symbol_member (o : Operator) : o.symbol ∈ ['+', '-', '*', '/'] := by
  cases o <;> decide

theorem no_symbol_member (c : Char) (noOperator : Operator.ofSymbol? c = none) : c ∉ ['+', '-', '*', '/'] := by
  intro member
  simp only [List.mem_cons, List.not_mem_nil, or_false] at member
  rcases member with rfl | rfl | rfl | rfl <;> exact absurd noOperator (by decide)

theorem starts_cases (c : Char) (starts : startsNumber c = true) : c.isDigit = true ∨ c = '.' := by
  simp only [startsNumber, Bool.or_eq_true, beq_iff_eq] at starts
  exact starts.symm

theorem fault_at (l : Lexeme) (p : Nat) (c : Char) (rest behind : List Char) (split : l.chars ++ behind = c :: rest)
    (fits : l.Fits behind) : FaultAt p c rest (l.fault p) := by
  obtain ⟨tail, first⟩ := Lexeme.fits_head l c rest behind split.symm fits
  cases l with
  | number literal =>
      have starts := starts_cases c (number_starts c tail (first ▸ fits.1))
      exact .inr (.inr ⟨starts, .inl ⟨literal, split ▸ NumberAhead.found literal behind fits.1 fits.2, rfl⟩⟩)
  | openNumber literal =>
      have starts := starts_cases c (open_number_starts c tail (first ▸ fits.1))
      exact .inr (.inr ⟨starts, .inr ⟨literal, split ▸ NumberAhead.openPoint literal behind fits.1 fits.2, rfl⟩⟩)
  | operator o =>
      obtain ⟨rfl, -⟩ := List.cons.inj first
      exact .inl ⟨symbol_member o, rfl⟩
  | stray d =>
      obtain ⟨rfl, -⟩ := List.cons.inj first
      obtain ⟨noStart, noOperator, noBlank⟩ := fits
      simp only [startsNumber, Bool.or_eq_false_iff, beq_eq_false_iff_ne] at noStart
      exact .inr (.inl ⟨no_symbol_member d noOperator, noStart.2, noStart.1, noBlank, rfl⟩)

theorem open_explained (before literal behind : List Char) (ending : OpenEnding literal (before ++ literal))
    (last : (before ++ literal).getLast? = some '.') :
    Explains (before ++ literal ++ behind) (before ++ literal).length
      ⟨.missingFractionalDigit (String.ofList literal), some (before.length + literal.length : Nat)⟩ := by
  have nonempty : before ++ literal ≠ [] := by
    intro empty
    simp [empty] at last
  have positive : 0 < (before ++ literal).length := List.length_pos_iff.mpr nonempty
  rw [← List.length_append, Explains]
  cases behind with
  | nil =>
      have notBlank : Text.allBlank (before ++ literal) = false := by
        rw [Bool.eq_false_iff]
        intro blank
        have point := List.all_eq_true.mp blank '.' (List.mem_of_getLast? last)
        exact absurd point (by decide)
      rw [List.append_nil, if_pos rfl, notBlank, if_neg Bool.false_ne_true, if_pos last]
      exact ⟨literal, ending, rfl⟩
  | cons d rest =>
      have notWhole : (before ++ literal).length ≠ (before ++ literal ++ d :: rest).length := by simp
      have point : (before ++ literal ++ d :: rest)[(before ++ literal).length - 1]? = some '.' := by
        rw [List.getElem?_append_left (by omega), ← List.getLast?_eq_getElem?, last]
      rw [if_neg notWhole, if_pos ⟨positive, point⟩, List.take_left]
      exact ⟨literal, ending, rfl⟩

theorem stuck_explained (cs : List Char) (e : ParseError) (stuck : Parser.Stuck .operand 0 cs e) :
    ∃ p, IsGreatest {k | k ≤ cs.length ∧ Viable (cs.take k)} p ∧ Explains cs p e := by
  cases stuck with
  | intro before behind l held m fits reached agrees blocked =>
      rw [Nat.zero_add]
      obtain ⟨c, tail, first, -⟩ := Lexeme.fits_not_blank l behind fits
      have split : l.chars ++ behind = c :: (tail ++ behind) := by rw [first, List.cons_append]
      rcases Parser.agrees_blocked held m l c tail behind first agrees fits blocked with dead | ⟨rfl, literal, rfl⟩
      · refine ⟨before.length, greatest_viable before _ m reached ?_, ?_⟩
        · intro d ahead
          rw [split] at ahead
          obtain rfl := Option.some.inj ahead
          exact dead
        · have notWhole : before.length ≠ (before ++ (l.chars ++ behind)).length := by simp [split]
          have noPoint : ¬ (0 < before.length ∧ (before ++ (l.chars ++ behind))[before.length - 1]? = some '.') := by
            rintro ⟨positive, point⟩
            rw [List.getElem?_append_left (by omega), ← List.getLast?_eq_getElem?] at point
            exact agrees_no_point held m before _ reached agrees point
          rw [Explains, if_neg notWhole, if_neg noPoint]
          exact ⟨c, tail ++ behind, by rw [List.drop_left, split], fault_at l _ c _ behind split fits⟩
      · obtain ⟨isOpen, stop⟩ := fits
        have ending := open_ending before literal reached isOpen
        have atPoint : Mode.operand.run (before ++ literal) = some .point := by
          obtain ⟨digits, rfl, isDigits⟩ := isOpen
          rw [Mode.run_append, reached, Option.bind_some, Mode.run_point digits isDigits]
        have last : (before ++ literal).getLast? = some '.' := by
          obtain ⟨digits, rfl, -⟩ := isOpen
          simp
        have whole : before ++ ((Lexeme.openNumber literal).chars ++ behind) = before ++ literal ++ behind := by
          rw [Lexeme.chars, List.append_assoc]
        rw [whole]
        refine ⟨(before ++ literal).length, greatest_viable _ behind .point atPoint ?_, ?_⟩
        · intro d ahead
          simp [Mode.next, stop d ahead]
        · exact open_explained before literal behind ending last

theorem end_explained (cs : List Char) (e : ParseError) (due : Mode.operand.run cs = some .operand)
    (outcome : if Text.allBlank cs then e = ⟨.emptyInput, none⟩ else ∃ incomplete, e = ⟨.missingOperand incomplete, none⟩) :
    IsGreatest {k | k ≤ cs.length ∧ Viable (cs.take k)} cs.length ∧ Explains cs cs.length e := by
  constructor
  · have greatest := greatest_viable cs [] .operand due (by simp)
    rwa [List.append_nil] at greatest
  · have noPoint : cs.getLast? ≠ some '.' := by
      intro last
      obtain ⟨inner, stepped⟩ := run_last _ _ cs '.' due last
      exact absurd (Mode.point_next inner _ stepped) (by decide)
    rw [Explains, if_pos rfl, if_neg noPoint]
    exact outcome

theorem parse_error_explained (t : String) (e : ParseError) (rejected : parse t = .error e) :
    ∃ p, IsGreatest {k | k ≤ t.toList.length ∧ Viable (t.toList.take k)} p ∧ Explains t.toList p e := by
  have outcome := parse_mode t.toList
  rw [parse] at rejected
  rw [rejected] at outcome
  rcases outcome with stuck | ⟨due, error⟩
  · exact stuck_explained t.toList e stuck
  · exact ⟨t.toList.length, end_explained t.toList e due error⟩

theorem parse_error_explained_open_number :
    parse "1 2." = .error ⟨.missingFractionalDigit "2.", some 4⟩ ∧
      ∃ p, IsGreatest {k | k ≤ "1 2.".toList.length ∧ Viable ("1 2.".toList.take k)} p ∧
        Explains "1 2.".toList p ⟨.missingFractionalDigit "2.", some 4⟩ :=
  ⟨rfl, parse_error_explained "1 2." _ rfl⟩

end Reckoner
