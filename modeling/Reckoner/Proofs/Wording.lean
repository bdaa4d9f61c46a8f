import Reckoner.Proofs.NumeralText
import Reckoner.Proofs.Rejection
import Reckoner.Proofs.Spelling
import Reckoner.Text.Lines

set_option autoImplicit false

namespace Reckoner

theorem solid_unbroken (c : Char) (solid : Text.isBlank c = false) : Text.isLineBreak c = false := by
  simp [Text.isBlank, Text.blankRanges, Text.inRanges, Text.CharRange.holds] at solid
  simp [Text.isLineBreak, Text.lineBreakRanges, Text.inRanges, Text.CharRange.holds]
  omega

def isQuiet (c : Char) : Bool := c != '=' && c != '>' && c != 'R' && !Text.isLineBreak c

theorem quiet_start (c : Char) (starts : startsNumber c = true) : isQuiet c = true := by
  have solid : Text.isBlank c = false := by
    rw [Bool.eq_false_iff]
    intro blank
    rw [(Lexeme.blank_starts_nothing c blank).1] at starts
    contradiction
  have other (d : Char) (startsNothing : startsNumber d = false) : c ≠ d := by
    intro same
    rw [same, startsNothing] at starts
    contradiction
  simp [isQuiet, solid_unbroken c solid, other '=' rfl, other '>' rfl, other 'R' rfl]

theorem quiet_digit (c : Char) (digit : c.isDigit = true) : isQuiet c = true :=
  quiet_start c (by rw [startsNumber, digit, Bool.or_true])

def Quiet (odd : Option Char) (cs : List Char) : Prop := ∀ c ∈ cs, odd = some c ∨ isQuiet c = true

namespace Quiet

theorem all (odd : Option Char) (cs : List Char) (quiet : cs.all isQuiet = true) : Quiet odd cs :=
  fun c member => .inr (List.all_eq_true.mp quiet c member)

theorem append (odd : Option Char) (front behind : List Char) (quiet : Quiet odd front) (more : Quiet odd behind) :
    Quiet odd (front ++ behind) := by
  intro c member
  cases List.mem_append.mp member with
  | inl first => exact quiet c first
  | inr later => exact more c later

theorem joined (odd : Option Char) (first second : String) (quiet : Quiet odd first.toList)
    (more : Quiet odd second.toList) : Quiet odd (first ++ second).toList := by
  rw [String.toList_append]
  exact append odd _ _ quiet more

theorem digits (odd : Option Char) (cs : List Char) (digits : Digits cs) : Quiet odd cs :=
  fun c member => .inr (quiet_digit c (digits c member))

theorem number (odd : Option Char) (literal : List Char) (number : IsNumber literal) :
    Quiet odd (String.ofList literal).toList := by
  rw [String.toList_ofList]
  exact fun c member => .inr (quiet_start c (number_characters literal number c member))

theorem symbol (odd : Option Char) (o : Operator) : Quiet odd o.text.toList := by
  cases o <;> exact all odd _ rfl

theorem framed (odd : Option Char) (front middle behind : String) (opening : front.toList.all isQuiet = true)
    (quiet : Quiet odd middle.toList) (ending : behind.toList.all isQuiet = true) :
    Quiet odd (front ++ middle ++ behind).toList :=
  joined odd _ _ (joined odd _ _ (all odd _ opening) quiet) (all odd _ ending)

theorem hex (odd : Option Char) (n : Nat) : Quiet odd (Nat.toDigits 16 n) := by
  have single : ∀ d < 16, isQuiet (Nat.digitChar d) = true := by decide
  induction n using Nat.strongRecOn with
  | ind n ih =>
      by_cases small : n < 16
      · rw [Nat.toDigits_of_lt_base small]
        exact all odd _ (by simpa using single n small)
      · rw [Nat.toDigits_of_base_le (by decide) (by omega)]
        exact append odd _ _ (ih (n / 16) (by omega)) (all odd _ (by simpa using single (n % 16) (by omega)))

theorem escapeCode (odd : Option Char) (c : Char) : Quiet odd (Text.escapeCode c) := by
  have padded (width : Nat) : Quiet odd (Text.hex width c.toNat) :=
    append odd _ _ (all odd _ (by simp; exact .inr rfl)) (hex odd c.toNat)
  rw [Text.escapeCode]
  split
  · exact append odd ['\\', 'x'] _ (all odd _ rfl) (padded 2)
  · split
    · exact append odd ['\\', 'u'] _ (all odd _ rfl) (padded 4)
    · exact append odd ['\\', 'U'] _ (all odd _ rfl) (padded 8)

theorem escape (odd : Option Char) (quote c : Char) (quiet : odd = some c ∨ isQuiet c = true) :
    Quiet odd (Text.escape quote c) := by
  have itself : Quiet odd [c] := by
    intro d member
    obtain rfl := List.mem_singleton.mp member
    exact quiet
  rw [Text.escape]
  split
  · exact append odd ['\\'] [c] (all odd _ rfl) itself
  · split
    · exact all odd _ rfl
    · split
      · exact all odd _ rfl
      · split
        · exact all odd _ rfl
        · split
          · exact itself
          · exact escapeCode odd c

theorem quoted (odd : Option Char) (text : String) (quiet : Quiet odd text.toList) :
    Quiet odd (Text.quoted text).toList := by
  have mark : Quiet odd [Text.quoteFor text.toList] := by
    rw [Text.quoteFor]
    split
    · exact all odd _ rfl
    · exact all odd _ rfl
  rw [Text.quoted, String.toList_ofList]
  refine append odd [_] _ mark (append odd _ _ ?_ mark)
  intro d member
  obtain ⟨c, inText, inEscape⟩ := List.mem_flatMap.mp member
  exact escape odd _ c (quiet c inText) d inEscape

theorem unbroken (odd : Option Char) (cs : List Char) (quiet : Quiet odd cs)
    (named : ∀ c, odd = some c → Text.isLineBreak c = false) : ∀ c ∈ cs, Text.isLineBreak c = false := by
  intro c member
  cases quiet c member with
  | inl same => exact named c same
  | inr isQuiet =>
      have noBreak := (Bool.and_eq_true_iff.mp isQuiet).2
      simpa using noBreak

end Quiet

def ParseError.Worded (e : ParseError) : Prop :=
  ∃ odd : Option Char, (∀ c, odd = some c → Text.isLineBreak c = false) ∧ Quiet odd e.message.toList

namespace ParseError

theorem position_quiet (odd : Option Char) (cause : Cause) (position : Nat) (quiet : Quiet odd cause.summary.toList) :
    Quiet odd (message ⟨cause, some position⟩).toList := by
  have written : (toString (position : Int)).toList = Nat.toDigits 10 position := by
    change (Nat.repr position).toList = _
    rw [Nat.toList_repr]
  have digits : Quiet odd (toString (position : Int)).toList := written ▸ Quiet.digits odd _ (digits_of_nat position)
  rw [message]
  exact Quiet.joined odd _ _ (Quiet.joined odd _ _ (Quiet.joined odd _ _ quiet (Quiet.all odd _ rfl)) digits)
    (Quiet.all odd _ rfl)

theorem positioned (odd : Option Char) (cause : Cause) (position : Nat)
    (unbroken : ∀ c, odd = some c → Text.isLineBreak c = false) (quiet : Quiet odd cause.summary.toList) :
    Worded ⟨cause, some position⟩ := ⟨odd, unbroken, position_quiet odd cause position quiet⟩

theorem fault_worded (l : Lexeme) (position : Nat) (behind : List Char) (fits : l.Fits behind) :
    (l.fault position).Worded := by
  cases l with
  | number literal =>
      refine positioned none _ position (by simp) ?_
      exact Quiet.framed none _ _ _ rfl (Quiet.number none literal fits.1) rfl
  | operator o =>
      refine positioned none _ position (by simp) ?_
      exact Quiet.framed none _ _ _ rfl (Quiet.symbol none o) rfl
  | openNumber literal =>
      obtain ⟨⟨whole, rfl, digits⟩, -⟩ := fits
      have chars : Quiet none (String.ofList (whole ++ ['.'])).toList := by
        rw [String.toList_ofList]
        exact Quiet.append none _ _ (Quiet.digits none _ digits) (Quiet.all none _ rfl)
      refine positioned none _ _ (by simp) ?_
      exact Quiet.framed none _ _ _ rfl (Quiet.quoted none _ chars) rfl
  | stray c =>
      have chars : Quiet (some c) (String.singleton c).toList := by
        intro d member
        left
        simpa [eq_comm] using member
      refine positioned (some c) _ position ?_ ?_
      · intro d same
        obtain rfl := Option.some.inj same
        exact solid_unbroken c fits.2.2
      · exact Quiet.joined (some c) _ _ (Quiet.all (some c) _ rfl) (Quiet.quoted (some c) _ chars)

end ParseError

namespace Parser

structure Held.Quiet (held : Held) : Prop where
  operand : ∀ e, held.operand = some e → Reckoner.Quiet none e.text.toList
  waiting : ∀ w ∈ held.stack, Reckoner.Quiet none w.left.text.toList

theorem complete_quiet (w : Waiting) (right : Expr) (left : Quiet none w.left.text.toList)
    (quiet : Quiet none right.text.toList) : Quiet none (w.complete right).text.toList :=
  Quiet.joined none _ _ (Quiet.joined none _ _ left (Quiet.symbol none w.operator)) quiet

theorem fold_quiet (rank : Nat) (stack : List Waiting) (operand : Expr)
    (waiting : ∀ w ∈ stack, Quiet none w.left.text.toList) (quiet : Quiet none operand.text.toList) :
    Quiet none (fold rank stack operand).1.text.toList ∧
      ∀ w ∈ (fold rank stack operand).2, Quiet none w.left.text.toList := by
  induction stack generalizing operand with
  | nil => exact ⟨quiet, waiting⟩
  | cons w tail ih =>
      have others : ∀ other ∈ tail, Quiet none other.left.text.toList :=
        fun other member => waiting other (List.mem_cons_of_mem _ member)
      rw [fold]
      by_cases tight : rank ≤ w.operator.rank
      · rw [if_pos tight]
        exact ih (w.complete operand) others (complete_quiet w operand (waiting w List.mem_cons_self) quiet)
      · rw [if_neg tight]
        exact ⟨quiet, waiting⟩

theorem take_quiet (held next : Held) (l : Lexeme) (number : ∀ literal, l = .number literal → IsNumber literal)
    (quiet : held.Quiet) (taken : held.take l = some next) : next.Quiet := by
  cases taken_cases held next l taken with
  | inl isNumber =>
      obtain ⟨literal, rfl, -, rfl⟩ := isNumber
      refine ⟨?_, quiet.waiting⟩
      intro e same
      obtain rfl := Option.some.inj same
      exact Quiet.number none literal (number literal rfl)
  | inr isOperator =>
      obtain ⟨o, operand, rfl, full, rfl⟩ := isOperator
      obtain ⟨left, others⟩ := fold_quiet o.rank held.stack operand quiet.waiting (quiet.operand operand full)
      refine ⟨by simp, ?_⟩
      intro w member
      cases List.mem_cons.mp member with
      | inl first => exact first ▸ left
      | inr later => exact others w later

theorem take_all_quiet (held result : Held) (ls : List Lexeme)
    (numbers : ∀ literal, .number literal ∈ ls → IsNumber literal) (quiet : held.Quiet)
    (taken : held.takeAll ls = some result) : result.Quiet := by
  refine take_all_keeps (fun held _ => held.Quiet) held result [] ls quiet ?_ taken
  intro before next _ l member quietBefore step
  exact take_quiet before next l (fun literal same => numbers literal (same ▸ member)) quietBefore step

theorem finish_worded (held : Held) (quiet : held.Quiet) (e : ParseError)
    (unfinished : finish held.stack held.operand = .error e) : e.Worded := by
  obtain ⟨operand, stack⟩ := held
  cases operand with
  | some full =>
      rw [finish_operand] at unfinished
      contradiction
  | none =>
      cases stack with
      | nil =>
          obtain rfl := Except.error.inj unfinished
          exact ⟨none, by simp, Quiet.all none _ rfl⟩
      | cons w tail =>
          obtain rfl := Except.error.inj unfinished
          have incomplete : Quiet none w.expr.render.toList := by
            rw [Expr.render_text]
            exact Quiet.joined none _ _ (quiet.waiting w List.mem_cons_self) (Quiet.symbol none w.operator)
          exact ⟨none, by simp, Quiet.framed none _ _ _ rfl incomplete rfl⟩

end Parser

theorem rejection_worded (cs : List Char) (e : ParseError) (rejected : parseChars cs = .error e) : e.Worded := by
  have outcome := Parser.feed_mode cs 0 Parser.nothingHeld .operand (.due [] cs)
  rw [parse_chars_feed] at rejected
  cases fed : Parser.feed Parser.nothingHeld (Lexeme.placed 0 cs) with
  | error fault =>
      rw [fed] at outcome rejected
      obtain rfl := Except.error.inj rejected
      cases outcome with
      | intro before behind l _ _ fits _ _ _ => exact ParseError.fault_worded l _ behind fits
  | ok held =>
      rw [fed] at rejected
      have nothing : Parser.nothingHeld.Quiet := ⟨by simp [Parser.nothingHeld], by simp [Parser.nothingHeld]⟩
      have taken := (Parser.feed_ok_iff _ _ _).mp fed
      exact Parser.finish_worded held (Parser.take_all_quiet _ held _ (placed_numbers 0 cs) nothing taken) e rejected

end Reckoner
