import Reckoner.Proofs.Number

set_option autoImplicit false

namespace Reckoner

def IsLongestNumber (literal cs : List Char) : Prop :=
  literal <+: cs ∧ IsNumber literal ∧ ∀ other, other <+: cs → IsNumber other → other.length ≤ literal.length

theorem number_points (cs : List Char) (number : IsNumber cs) :
    (∀ c ∈ cs, c.isDigit = true ∨ c = '.') ∧ cs.count '.' ≤ 1 := by
  rcases number with ⟨-, digits⟩ | ⟨whole, fraction, rfl, wholeDigits, -, fractionDigits⟩
  · refine ⟨fun c member => .inl (digits c member), ?_⟩
    rw [List.count_eq_zero_of_not_mem (digits_no_point cs digits)]
    exact Nat.zero_le 1
  · refine ⟨?_, ?_⟩
    · intro c member
      simp only [List.mem_append, List.mem_cons] at member
      rcases member with before | rfl | behind
      · exact .inl (wholeDigits c before)
      · exact .inr rfl
      · exact .inl (fractionDigits c behind)
    · have before := List.count_eq_zero_of_not_mem (digits_no_point whole wholeDigits)
      have behind := List.count_eq_zero_of_not_mem (digits_no_point fraction fractionDigits)
      rw [List.count_append, List.count_cons_self]
      omega

theorem number_continues (front tail : List Char) (c : Char) (number : IsNumber (front ++ c :: tail)) :
    Continues front c := by
  obtain ⟨characters, points⟩ := number_points _ number
  rcases characters c (by simp) with digit | rfl
  · exact .inl digit
  · refine .inr ⟨rfl, ?_⟩
    rw [List.count_append, List.count_cons_self] at points
    exact List.count_eq_zero.mp (by omega)

theorem found_longest (literal rest : List Char) (number : IsNumber literal)
    (stop : ∀ c, rest.head? = some c → ¬ Continues literal c) : IsLongestNumber literal (literal ++ rest) := by
  refine ⟨List.prefix_append literal rest, number, ?_⟩
  intro other front otherNumber
  apply Nat.le_of_not_lt
  intro longer
  have within : literal <+: other :=
    List.prefix_of_prefix_length_le (List.prefix_append literal rest) front (Nat.le_of_lt longer)
  obtain ⟨more, rfl⟩ := within
  have behind : more <+: rest := (List.prefix_append_right_inj literal).mp front
  cases more with
  | nil => simp at longer
  | cons c tail =>
      obtain ⟨last, rfl⟩ := behind
      exact stop c rfl (number_continues literal tail c otherNumber)

theorem scan_absent_iff (cs : List Char) :
    scanNumber cs = .absent ↔ ∀ c, cs.head? = some c → c.isDigit = false ∧ c ≠ '.' := by
  have other (c : Char) : startsNumber c = false ↔ c.isDigit = false ∧ c ≠ '.' := by
    rw [startsNumber, Bool.or_eq_false_iff, beq_eq_false_iff_ne, and_comm]
  simp only [← other]
  refine ⟨?_, scan_absent cs⟩
  intro scanned
  have ahead := scan_ahead cs
  rw [scanned] at ahead
  cases ahead with
  | absent _ noStart => exact noStart

theorem scan_open_iff (cs : List Char) :
    (∃ literal, scanNumber cs = .openPoint literal) ↔
      ∃ whole behind, cs = whole ++ '.' :: behind ∧ Digits whole ∧ NoDigitAhead behind := by
  refine ⟨?_, ?_⟩
  · intro scannedOpen
    obtain ⟨literal, scanned⟩ := scannedOpen
    have ahead := scan_ahead cs
    rw [scanned] at ahead
    cases ahead with
    | openPoint _ rest isOpen stop =>
        obtain ⟨whole, rfl, digits⟩ := isOpen
        exact ⟨whole, rest, by simp, digits, stop⟩
  · intro unfinished
    obtain ⟨whole, behind, rfl, digits, stop⟩ := unfinished
    exact ⟨_, scan_open whole behind digits stop⟩

namespace Cursor

inductive Move where
  | next
  | take
  | number
deriving DecidableEq

inductive Answer where
  | passed
  | taken (c : Char)
  | pastEnd
  | read (literal : String)
  | refused (e : ParseError)
deriving DecidableEq

def answer (c : Cursor) : Move → Answer × Cursor
  | .next => (.passed, c.next)
  | .take =>
    match c.take? with
    | some (character, behind) => (.taken character, behind)
    | none => (.pastEnd, c)
  | .number =>
    match c.readNumber with
    | (.ok literal, behind) => (.read literal, behind)
    | (.error e, behind) => (.refused e, behind)

structure Turn where
  before : Cursor
  move : Move
  answer : Answer
  after : Cursor

def turn (c : Cursor) (move : Move) : Turn := ⟨c, move, (c.answer move).1, (c.answer move).2⟩

def turns (c : Cursor) : List Move → List Turn
  | [] => []
  | move :: moves => c.turn move :: (c.turn move).after.turns moves

namespace Turn

def ahead (t : Turn) : List Char := t.before.text.drop t.before.position

def span (t : Turn) : List Char := t.ahead.take (t.after.position - t.before.position)

structure TakeLaw (t : Turn) : Prop where
  taken : ∀ c, t.answer = .taken c → t.span = [c]
  pastEnd_iff : t.answer = .pastEnd ↔ t.before.text.length ≤ t.before.position
  pastEnd : t.answer = .pastEnd → t.after = t.before

structure NumberLaw (t : Turn) : Prop where
  read : ∀ literal, t.answer = .read literal →
    literal.toList = t.span ∧ IsLongestNumber t.span t.ahead ∧ ∀ d, t.after.current? = some d → d.isDigit = false
  noStart_iff : (∃ character place, t.answer = .refused ⟨.invalidLiteralStart character, place⟩) ↔
    ∀ d, t.before.current? = some d → d.isDigit = false ∧ d ≠ '.'
  noStart : ∀ character place, t.answer = .refused ⟨.invalidLiteralStart character, place⟩ →
    t.after = t.before ∧ character = t.before.current?.map String.singleton ∧ place = some (t.before.position : Int)
  openPoint_iff : (∃ literal place, t.answer = .refused ⟨.missingFractionalDigit literal, place⟩) ↔
    ∃ whole behind, t.ahead = whole ++ '.' :: behind ∧ Digits whole ∧ NoDigitAhead behind
  openPoint : ∀ literal place, t.answer = .refused ⟨.missingFractionalDigit literal, place⟩ →
    literal.toList = t.span ∧ place = some (t.after.position : Int)
  nothingElse : (∃ literal, t.answer = .read literal) ∨
    (∃ character place, t.answer = .refused ⟨.invalidLiteralStart character, place⟩) ∨
    ∃ literal place, t.answer = .refused ⟨.missingFractionalDigit literal, place⟩

end Turn

inductive Tried (c : Cursor) : Turn → Prop where
  | found (literal rest : List Char) (split : c.rest = literal ++ rest) (number : IsNumber literal)
      (stop : ∀ d, rest.head? = some d → ¬ Continues literal d) (scanned : scanNumber c.rest = .found literal) :
      Tried c ⟨c, .number, .read (String.ofList literal), c.advance literal.length⟩
  | openPoint (literal rest : List Char) (split : c.rest = literal ++ rest)
      (scanned : scanNumber c.rest = .openPoint literal) :
      Tried c ⟨c, .number, .refused ⟨.missingFractionalDigit (String.ofList literal),
        some ((c.advance literal.length).position : Int)⟩, c.advance literal.length⟩
  | absent (scanned : scanNumber c.rest = .absent) :
      Tried c ⟨c, .number, .refused ⟨.invalidLiteralStart (c.current?.map String.singleton), some (c.position : Int)⟩, c⟩

theorem number_tried (c : Cursor) : Tried c (c.turn .number) := by
  have ahead := scan_ahead c.rest
  generalize scanned : scanNumber c.rest = scan at ahead
  generalize split : c.rest = cs at ahead
  cases ahead with
  | found literal rest number stop =>
      have outcome := Tried.found literal rest split number stop scanned
      simpa only [turn, answer, readNumber, scanned] using outcome
  | openPoint literal rest isOpen stop =>
      have outcome := Tried.openPoint literal rest split scanned
      simpa only [turn, answer, readNumber, scanned] using outcome
  | absent _ other =>
      have outcome := Tried.absent scanned
      simpa only [turn, answer, readNumber, scanned] using outcome

theorem span_advance (c : Cursor) (move : Move) (answer : Answer) (taken rest : List Char)
    (split : c.rest = taken ++ rest) : Turn.span ⟨c, move, answer, c.advance taken.length⟩ = taken := by
  have passed : (c.advance taken.length).position - c.position = taken.length := Nat.add_sub_cancel_left ..
  rw [Turn.span, Turn.ahead, ← c.rest_eq, passed, split, List.take_left]

theorem advance_rest (c : Cursor) (taken rest : List Char) (split : c.rest = taken ++ rest) :
    (c.advance taken.length).current? = rest.head? := by
  have left : (c.advance taken.length).rest = rest := by
    change c.rest.drop taken.length = rest
    rw [split, List.drop_left]
  rw [current?, left]

theorem absent_refused (c : Cursor) (t : Turn) (tried : Tried c t) :
    (∃ character place, t.answer = .refused ⟨.invalidLiteralStart character, place⟩) ↔ scanNumber c.rest = .absent := by
  cases tried with
  | found literal _ _ _ _ scanned => simp [scanned]
  | openPoint literal _ _ scanned => simp [scanned]
  | absent scanned => simp [scanned]

theorem open_refused (c : Cursor) (t : Turn) (tried : Tried c t) :
    (∃ literal place, t.answer = .refused ⟨.missingFractionalDigit literal, place⟩) ↔
      ∃ literal, scanNumber c.rest = .openPoint literal := by
  cases tried with
  | found literal _ _ _ _ scanned => simp [scanned]
  | openPoint literal _ _ scanned => simp [scanned]
  | absent scanned => simp [scanned]

theorem tried_before (c : Cursor) (t : Turn) (tried : Tried c t) : t.before = c ∧ t.ahead = c.rest := by
  cases tried <;> exact ⟨rfl, c.rest_eq.symm⟩

theorem tried_law (c : Cursor) (t : Turn) (tried : Tried c t) : t.NumberLaw := by
  obtain ⟨before, ahead⟩ := tried_before c t tried
  have noStart := (absent_refused c t tried).trans (scan_absent_iff c.rest)
  have openPoint := (open_refused c t tried).trans (scan_open_iff c.rest)
  rw [← ahead] at openPoint
  constructor
  · intro literal read
    cases tried with
    | found chars rest split number stop scanned =>
        obtain rfl := Answer.read.inj read
        rw [span_advance c _ _ chars rest split, ahead, split, String.toList_ofList]
        refine ⟨rfl, found_longest chars rest number stop, ?_⟩
        intro d next
        rw [advance_rest c chars rest split] at next
        exact Bool.eq_false_iff.mpr fun digit => stop d next (.inl digit)
    | openPoint _ _ _ _ => contradiction
    | absent _ => contradiction
  · rw [before]
    exact noStart
  · intro character place refused
    cases tried with
    | found _ _ _ _ _ _ => contradiction
    | openPoint _ _ _ _ => simp at refused
    | absent _ =>
        simp only [Answer.refused.injEq, ParseError.mk.injEq, ParseError.Cause.invalidLiteralStart.injEq] at refused
        exact ⟨rfl, refused.1.symm, refused.2.symm⟩
  · exact openPoint
  · intro literal place refused
    cases tried with
    | found _ _ _ _ _ _ => contradiction
    | openPoint chars rest split _ =>
        simp only [Answer.refused.injEq, ParseError.mk.injEq, ParseError.Cause.missingFractionalDigit.injEq] at refused
        rw [span_advance c _ _ chars rest split, ← refused.1, String.toList_ofList]
        exact ⟨rfl, refused.2.symm⟩
    | absent _ => simp at refused
  · cases tried with
    | found _ _ _ _ _ _ => exact .inl ⟨_, rfl⟩
    | openPoint _ _ _ _ => exact .inr (.inr ⟨_, _, rfl⟩)
    | absent _ => exact .inr (.inl ⟨_, _, rfl⟩)

theorem take_law (c : Cursor) : (c.turn .take).TakeLaw := by
  have past : c.rest = [] ↔ c.text.length ≤ c.position := by rw [c.rest_eq, List.drop_eq_nil_iff]
  cases rest : c.rest with
  | nil =>
      have outcome : c.turn .take = ⟨c, .take, .pastEnd, c⟩ := by simp [turn, answer, take?, current?, rest]
      rw [outcome]
      exact ⟨by simp, by simpa using past.mp rest, fun _ => rfl⟩
  | cons d tail =>
      have outcome : c.turn .take = ⟨c, .take, .taken d, c.advance [d].length⟩ := by
        simp [turn, answer, take?, current?, next, rest]
      have within : ¬ c.text.length ≤ c.position := by simp [← past, rest]
      rw [outcome]
      constructor
      · intro character taken
        rw [span_advance c _ _ [d] tail rest, Answer.taken.inj taken]
      · simpa using within
      · simp

theorem turn_forward (c : Cursor) (move : Move) :
    (c.turn move).before = c ∧ (c.turn move).after.text = c.text ∧ c.position ≤ (c.turn move).after.position := by
  refine ⟨rfl, ?_⟩
  cases move with
  | next => exact ⟨rfl, Nat.le_add_right ..⟩
  | take =>
      cases current : c.current? with
      | none => simp [turn, answer, take?, current]
      | some d => simp [turn, answer, take?, current, next, advance]
  | number =>
      have tried := number_tried c
      generalize c.turn .number = t at tried
      cases tried with
      | found => exact ⟨rfl, Nat.le_add_right ..⟩
      | openPoint => exact ⟨rfl, Nat.le_add_right ..⟩
      | absent => exact ⟨rfl, Nat.le_refl _⟩

theorem turn_law (c : Cursor) (move : Move) :
    ((c.turn move).move = .take → (c.turn move).TakeLaw) ∧ ((c.turn move).move = .number → (c.turn move).NumberLaw) := by
  refine ⟨?_, ?_⟩
  · intro take
    obtain rfl : move = .take := take
    exact take_law c
  · intro number
    obtain rfl : move = .number := number
    exact tried_law c _ (number_tried c)

theorem turns_forward (c : Cursor) (moves : List Move) :
    ∀ t ∈ c.turns moves, t.before.text = c.text ∧ t.after.text = c.text ∧ c.position ≤ t.before.position ∧
      t.before.position ≤ t.after.position := by
  induction moves generalizing c with
  | nil => simp [turns]
  | cons move moves ih =>
      intro t member
      obtain ⟨before, text, forward⟩ := turn_forward c move
      cases List.mem_cons.mp member with
      | inl first =>
          rw [first, before]
          exact ⟨rfl, text, Nat.le_refl _, forward⟩
      | inr later =>
          obtain ⟨beforeText, afterText, behind, onward⟩ := ih _ t later
          exact ⟨beforeText.trans text, afterText.trans text, Nat.le_trans forward behind, onward⟩

theorem turns_ordered (c : Cursor) (moves : List Move) :
    (c.turns moves).Pairwise fun earlier later => earlier.after.position ≤ later.before.position := by
  induction moves generalizing c with
  | nil => exact .nil
  | cons move moves ih =>
      refine .cons ?_ (ih _)
      intro later member
      exact (turns_forward _ moves later member).2.2.1

theorem turns_moves (c : Cursor) (moves : List Move) : (c.turns moves).map (·.move) = moves := by
  induction moves generalizing c with
  | nil => rfl
  | cons move moves ih => exact congrArg (move :: ·) (ih _)

theorem turns_lawful (c : Cursor) (moves : List Move) :
    ∀ t ∈ c.turns moves, (t.move = .take → t.TakeLaw) ∧ (t.move = .number → t.NumberLaw) := by
  induction moves generalizing c with
  | nil => simp [turns]
  | cons move moves ih =>
      intro t member
      cases List.mem_cons.mp member with
      | inl first =>
          rw [first]
          exact turn_law c move
      | inr later => exact ih _ t later

end Cursor

theorem cursor_history (text : List Char) (moves : List Cursor.Move) :
    ((Cursor.start text).turns moves).map (·.move) = moves ∧
    ((Cursor.start text).turns moves).Pairwise (fun earlier later => earlier.after.position ≤ later.before.position) ∧
    ∀ t ∈ (Cursor.start text).turns moves,
      t.before.text = text ∧ t.after.text = text ∧ t.before.position ≤ t.after.position ∧
        (t.move = .take → t.TakeLaw) ∧ (t.move = .number → t.NumberLaw) := by
  refine ⟨Cursor.turns_moves _ moves, Cursor.turns_ordered _ moves, ?_⟩
  intro t member
  obtain ⟨before, after, -, forward⟩ := Cursor.turns_forward _ moves t member
  obtain ⟨take, number⟩ := Cursor.turns_lawful _ moves t member
  exact ⟨before, after, forward, take, number⟩

theorem cursor_history_at_open_point :
    ∃ turns, (Cursor.start ['7', '.', 'x']).turns [.take, .number, .next, .take, .number] = turns ∧
      (∃ t ∈ turns, t.answer = .refused ⟨.missingFractionalDigit ".", some 2⟩ ∧ t.span = ['.'] ∧ t.NumberLaw) ∧
      (∃ t ∈ turns, t.answer = .pastEnd ∧ t.after = t.before) ∧
      ∃ t ∈ turns, t.answer = .refused ⟨.invalidLiteralStart none, some 3⟩ ∧ t.after = t.before := by
  let text : List Char := ['7', '.', 'x']
  let moves : List Cursor.Move := [.take, .number, .next, .take, .number]
  refine ⟨(Cursor.start text).turns moves, rfl, ?_⟩
  obtain ⟨-, -, laws⟩ := cursor_history text moves
  have second := List.mem_of_getElem? (show ((Cursor.start text).turns moves)[1]? = some _ from rfl)
  have fourth := List.mem_of_getElem? (show ((Cursor.start text).turns moves)[3]? = some _ from rfl)
  have fifth := List.mem_of_getElem? (show ((Cursor.start text).turns moves)[4]? = some _ from rfl)
  obtain ⟨-, -, -, -, openPoint⟩ := laws _ second
  obtain ⟨-, -, -, pastEnd, -⟩ := laws _ fourth
  obtain ⟨-, -, -, -, noStart⟩ := laws _ fifth
  exact ⟨⟨_, second, rfl, rfl, openPoint rfl⟩, ⟨_, fourth, rfl, (pastEnd rfl).pastEnd rfl⟩,
    ⟨_, fifth, rfl, ((noStart rfl).noStart _ _ rfl).1⟩⟩

end Reckoner
