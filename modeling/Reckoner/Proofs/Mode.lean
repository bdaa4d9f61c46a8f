import Reckoner.Proofs.Feed

set_option autoImplicit false

namespace Reckoner

-- Where in a sentence its beginning ends: a number is due, inside the whole
-- digits, right behind the point, inside the fraction, or behind a number and a
-- blank. One character at a time decides whether a sentence can still follow.
inductive Mode where
  | operand
  | whole
  | point
  | fraction
  | after
deriving DecidableEq

namespace Mode

def behindNumber (c : Char) : Option Mode :=
  if (Operator.ofSymbol? c).isSome then some operand else if Text.isBlank c then some after else none

def next : Mode → Char → Option Mode
  | operand, c =>
      if c.isDigit then some whole else if c = '.' then some point else if Text.isBlank c then some operand else none
  | whole, c => if c.isDigit then some whole else if c = '.' then some point else behindNumber c
  | point, c => if c.isDigit then some fraction else none
  | fraction, c => if c.isDigit then some fraction else behindNumber c
  | after, c => behindNumber c

def run (m : Mode) : List Char → Option Mode
  | [] => some m
  | c :: rest => (m.next c).bind fun m' => m'.run rest

def accepts : Mode → Bool
  | operand => false
  | whole => true
  | point => false
  | fraction => true
  | after => true

theorem run_append (m : Mode) (front behind : List Char) :
    m.run (front ++ behind) = (m.run front).bind fun m' => m'.run behind := by
  induction front generalizing m with
  | nil => rfl
  | cons c tail ih =>
      rw [List.cons_append, run, run, Option.bind_assoc]
      simp only [ih]

theorem run_without (c : Char) (dead : ∀ m : Mode, m.next c = none) (cs : List Char) (m m' : Mode)
    (reached : m.run cs = some m') : c ∉ cs := by
  induction cs generalizing m with
  | nil => exact List.not_mem_nil
  | cons d rest ih =>
      obtain ⟨between, stepped, later⟩ := Option.bind_eq_some_iff.mp reached
      intro member
      cases List.mem_cons.mp member with
      | inl same =>
          rw [← same, dead m] at stepped
          contradiction
      | inr behind => exact ih between later behind

theorem run_digits (m : Mode) (digits : List Char) (inside : m = whole ∨ m = fraction) (isDigits : Digits digits) :
    m.run digits = some m := by
  induction digits with
  | nil => rfl
  | cons c tail ih =>
      have digit := isDigits c List.mem_cons_self
      have rest := ih (fun d member => isDigits d (List.mem_cons_of_mem _ member))
      rcases inside with rfl | rfl <;> simpa [run, next, digit] using rest

theorem run_whole (digits : List Char) (nonempty : digits ≠ []) (isDigits : Digits digits) :
    operand.run digits = some whole := by
  cases digits with
  | nil => exact absurd rfl nonempty
  | cons c tail =>
      have rest := run_digits whole tail (.inl rfl) (fun d member => isDigits d (List.mem_cons_of_mem _ member))
      simpa [run, next, isDigits c List.mem_cons_self] using rest

theorem run_point (whole : List Char) (isDigits : Digits whole) : operand.run (whole ++ ['.']) = some point := by
  by_cases empty : whole = []
  · subst empty
    rfl
  · rw [run_append, run_whole whole empty isDigits]
    rfl

theorem run_fraction (digits : List Char) (nonempty : digits ≠ []) (isDigits : Digits digits) :
    point.run digits = some fraction := by
  cases digits with
  | nil => exact absurd rfl nonempty
  | cons c tail =>
      have rest := run_digits fraction tail (.inr rfl) (fun d member => isDigits d (List.mem_cons_of_mem _ member))
      simpa [run, next, isDigits c List.mem_cons_self] using rest

inductive Settled : Mode → List Char → Prop where
  | whole (rest : List Char) (stop : ∀ c, rest.head? = some c → startsNumber c = false) : Settled whole rest
  | fraction (rest : List Char) (stop : NoDigitAhead rest) : Settled fraction rest
  | after (rest : List Char) : Settled after rest

theorem run_number (literal rest : List Char) (number : IsNumber literal)
    (stop : ∀ c, rest.head? = some c → ¬ Continues literal c) :
    ∃ m, operand.run literal = some m ∧ Settled m rest := by
  rcases number with ⟨nonempty, digits⟩ | ⟨front, digits, rfl, frontDigits, nonempty, isDigits⟩
  · refine ⟨whole, run_whole literal nonempty digits, .whole rest ?_⟩
    intro c ahead
    have noDigit : c.isDigit = false := by simpa using fun digit => stop c ahead (.inl digit)
    have noPoint : c ≠ '.' := fun same => stop c ahead (.inr ⟨same, digits_no_point literal digits⟩)
    simp [startsNumber, noDigit, noPoint]
  · refine ⟨fraction, ?_, .fraction rest ?_⟩
    · rw [show front ++ '.' :: digits = front ++ ['.'] ++ digits by simp, run_append, run_point front frontDigits]
      exact run_fraction digits nonempty isDigits
    · intro c ahead
      simpa using fun digit => stop c ahead (.inl digit)

theorem behind_start (c : Char) (starts : startsNumber c = true) : behindNumber c = none := by
  have noOperator : Operator.ofSymbol? c = none := by
    cases found : Operator.ofSymbol? c with
    | none => rfl
    | some o =>
        rw [Lexeme.operator_symbol c o found, (Lexeme.symbol_starts_nothing o).1] at starts
        exact absurd starts (by simp)
  have noBlank : Text.isBlank c = false := by
    rw [Bool.eq_false_iff]
    intro blank
    rw [(Lexeme.blank_starts_nothing c blank).1] at starts
    exact absurd starts (by simp)
  simp [behindNumber, noOperator, noBlank]

theorem behind_blank (c : Char) (blank : Text.isBlank c = true) : behindNumber c = some after := by
  simp [behindNumber, (Lexeme.blank_starts_nothing c blank).2, blank]

theorem settled_next (m : Mode) (c : Char) (rest : List Char) (settled : Settled m (c :: rest)) :
    m.next c = behindNumber c := by
  cases settled with
  | whole _ stop =>
      have other := stop c rfl
      simp only [startsNumber, Bool.or_eq_false_iff, beq_eq_false_iff_ne] at other
      simp [next, other.1, other.2]
  | fraction _ stop =>
      have noDigit : c.isDigit = false := stop c rfl
      simp [next, noDigit]
  | after _ => rfl

theorem operand_next (c : Char) (noStart : startsNumber c = false) :
    operand.next c = if Text.isBlank c then some operand else none := by
  simp only [startsNumber, Bool.or_eq_false_iff, beq_eq_false_iff_ne] at noStart
  simp [next, noStart.1, noStart.2]

theorem point_next (m m' : Mode) (reached : m.next '.' = some m') : m' = point := by
  cases m with
  | operand => exact (Option.some.inj reached).symm
  | whole => exact (Option.some.inj reached).symm
  | point => exact absurd reached (by simp [next])
  | fraction => exact absurd reached (by simp [next, behind_start '.' rfl])
  | after => exact absurd reached (by simp [next, behind_start '.' rfl])

theorem next_operand (m : Mode) (c : Char) (reached : m.next c = some operand) : c.isDigit = false := by
  cases digit : c.isDigit with
  | false => rfl
  | true =>
      have starts : startsNumber c = true := by simp [startsNumber, digit]
      cases m <;> simp [next, digit, behind_start c starts] at reached

end Mode

namespace Parser

inductive Held.Agrees : Held → Mode → List Char → Prop where
  | due (stack : List Waiting) (rest : List Char) : Agrees ⟨none, stack⟩ .operand rest
  | full (e : Expr) (stack : List Waiting) (m : Mode) (rest : List Char) (settled : Mode.Settled m rest) :
      Agrees ⟨some e, stack⟩ m rest

theorem agrees_blank (held : Held) (m : Mode) (c : Char) (rest : List Char) (agrees : held.Agrees m (c :: rest))
    (blank : Text.isBlank c = true) : ∃ m', m.next c = some m' ∧ held.Agrees m' rest := by
  cases agrees with
  | due stack _ =>
      refine ⟨.operand, ?_, .due stack rest⟩
      rw [Mode.operand_next c (Lexeme.blank_starts_nothing c blank).1, if_pos blank]
  | full e stack _ _ settled =>
      refine ⟨.after, ?_, .full e stack .after rest (.after rest)⟩
      rw [Mode.settled_next m c rest settled, Mode.behind_blank c blank]

theorem agrees_take (held next : Held) (m : Mode) (l : Lexeme) (behind : List Char)
    (agrees : held.Agrees m (l.chars ++ behind)) (fits : l.Fits behind) (taken : held.take l = some next) :
    ∃ m', m.run l.chars = some m' ∧ next.Agrees m' behind := by
  rcases taken_cases held next l taken with ⟨literal, rfl, empty, rfl⟩ | ⟨o, operand, rfl, full, rfl⟩
  · cases agrees with
    | due stack _ =>
        obtain ⟨m', reached, settled⟩ := Mode.run_number literal behind fits.1 fits.2
        exact ⟨m', reached, .full _ stack m' behind settled⟩
    | full e stack _ _ _ => simp at empty
  · cases agrees with
    | due stack _ => simp at full
    | full e stack _ _ settled =>
        refine ⟨.operand, ?_, .due _ behind⟩
        have reached := Mode.settled_next m o.symbol behind settled
        simp [Lexeme.chars, Mode.run, reached, Mode.behindNumber, Lexeme.symbol_operator]

theorem agrees_blocked (held : Held) (m : Mode) (l : Lexeme) (c : Char) (tail behind : List Char)
    (first : l.chars = c :: tail) (agrees : held.Agrees m (l.chars ++ behind)) (fits : l.Fits behind)
    (blocked : held.take l = none) :
    m.next c = none ∨ (m = .operand ∧ ∃ literal, l = .openNumber literal) := by
  rw [first, List.cons_append] at agrees
  cases agrees with
  | due stack _ =>
      cases l with
      | number literal => simp [Held.take] at blocked
      | openNumber literal => exact .inr ⟨rfl, literal, rfl⟩
      | operator o =>
          obtain ⟨rfl, -⟩ := List.cons.inj first
          obtain ⟨noStart, noBlank⟩ := Lexeme.symbol_starts_nothing o
          exact .inl (by simp [Mode.operand_next _ noStart, noBlank])
      | stray d =>
          obtain ⟨rfl, -⟩ := List.cons.inj first
          exact .inl (by simp [Mode.operand_next _ fits.1, fits.2.2])
  | full e stack _ _ settled =>
      left
      rw [Mode.settled_next m c _ settled]
      cases l with
      | number literal => exact Mode.behind_start c (number_starts c tail (first ▸ fits.1))
      | openNumber literal => exact Mode.behind_start c (open_number_starts c tail (first ▸ fits.1))
      | operator o => simp [Held.take] at blocked
      | stray d =>
          obtain ⟨rfl, -⟩ := List.cons.inj first
          simp [Mode.behindNumber, fits.2.1, fits.2.2]

end Parser

end Reckoner
