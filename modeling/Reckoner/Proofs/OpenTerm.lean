import Mathlib.Data.List.DropRight
import Reckoner.Proofs.Grammar
import Reckoner.Proofs.Stack

set_option autoImplicit false

open scoped Computability

namespace Reckoner

namespace Grammar

def unfinished : Language Char := sentence * operator * blank∗

def adds (c : Char) : Bool := c == '+' || c == '-'

end Grammar

def openTerm (cs : List Char) : List Char :=
  if cs.getLast?.any Grammar.adds then cs else cs.rtakeWhile fun c => !Grammar.adds c

theorem symbol_adds (o : Operator) : Grammar.adds o.symbol = o.isAdditive := by
  cases o <;> rfl

theorem start_adds_nothing (c : Char) (starts : startsNumber c = true) : Grammar.adds c = false := by
  rw [Bool.eq_false_iff]
  intro adds
  simp only [Grammar.adds, Bool.or_eq_true, beq_iff_eq] at adds
  rcases adds with rfl | rfl <;> contradiction

theorem blanks_joined (blanks others : List Char) (allBlank : Text.allBlank blanks = true)
    (othersBlank : Text.allBlank others = true) : Text.allBlank (blanks ++ others) = true := by
  rw [Text.allBlank, List.all_append]
  exact Bool.and_eq_true_iff.mpr ⟨allBlank, othersBlank⟩

theorem spaced_append (ls more : List Lexeme) (front behind : List Char) (spaced : Spaced ls front)
    (later : Spaced more behind) : Spaced (ls ++ more) (front ++ behind) := by
  induction spaced with
  | nil blanks allBlank =>
      cases later with
      | nil _ othersBlank => exact .nil _ (blanks_joined blanks _ allBlank othersBlank)
      | cons others l tail rest othersBlank spacedTail =>
          rw [← List.append_assoc]
          exact .cons _ l tail rest (blanks_joined blanks others allBlank othersBlank) spacedTail
  | cons blanks l tail rest allBlank _ ih =>
      simpa using Spaced.cons blanks l (tail ++ more) _ allBlank ih

theorem spaced_split (ls more : List Lexeme) (text : List Char) (spaced : Spaced (ls ++ more) text) :
    ∃ front behind, text = front ++ behind ∧ Spaced ls front ∧ Spaced more behind := by
  induction ls generalizing text with
  | nil => exact ⟨[], text, rfl, .nil [] rfl, spaced⟩
  | cons l tail ih =>
      cases spaced with
      | cons blanks _ _ rest allBlank later =>
          obtain ⟨front, behind, rfl, spacedTail, spacedMore⟩ := ih rest later
          exact ⟨blanks ++ (l.chars ++ front), behind, by simp, .cons blanks l tail front allBlank spacedTail, spacedMore⟩

theorem mem_unfinished (text : List Char) :
    text ∈ Grammar.unfinished ↔
      ∃ (chain : Chain) (o : Operator), chain.Valid ∧ Spaced (chain.lexemes ++ [.operator o]) text := by
  constructor
  · intro inMul
    obtain ⟨_, inFront, ending, inEnding, rfl⟩ := Language.mem_mul.mp inMul
    obtain ⟨front, inSentence, symbol, inOperator, rfl⟩ := Language.mem_mul.mp inFront
    obtain ⟨chain, valid, spaced⟩ := (Grammar.mem_sentence front).mp inSentence
    obtain ⟨o, rfl⟩ := (Grammar.mem_operator symbol).mp inOperator
    have last := Spaced.cons [] (.operator o) [] ending rfl (.nil ending ((Grammar.mem_blank_star ending).mp inEnding))
    refine ⟨chain, o, valid, ?_⟩
    rw [List.append_assoc]
    exact spaced_append _ _ _ _ spaced last
  · rintro ⟨chain, o, valid, spaced⟩
    obtain ⟨front, behind, rfl, spacedChain, last⟩ := spaced_split _ _ _ spaced
    cases last with
    | cons blanks _ _ rest allBlank ended =>
        cases ended with
        | nil _ restBlank =>
            have padded := spaced_append _ _ _ _ spacedChain (.nil blanks allBlank)
            rw [List.append_nil] at padded
            have inSentence := (Grammar.mem_sentence _).mpr ⟨chain, valid, padded⟩
            have inFront := Language.append_mem_mul inSentence ((Grammar.mem_operator _).mpr ⟨o, rfl⟩)
            simpa [Grammar.unfinished, Lexeme.chars] using
              Language.append_mem_mul inFront ((Grammar.mem_blank_star rest).mpr restBlank)

theorem apart_member (ls : List Lexeme) (l : Lexeme) (apart : Apart ls) (member : l ∈ ls) :
    (∃ literal, l = .number literal ∧ IsNumber literal) ∨ ∃ o, l = .operator o := by
  induction ls with
  | nil => contradiction
  | cons first tail ih =>
      cases first with
      | openNumber literal => exact False.elim apart
      | stray c => exact False.elim apart
      | operator o =>
          cases List.mem_cons.mp member with
          | inl same => exact .inr ⟨o, same⟩
          | inr later => exact ih apart later
      | number literal =>
          cases List.mem_cons.mp member with
          | inl same => exact .inl ⟨literal, same, apart.1⟩
          | inr later => exact ih apart.2.2 later

theorem apart_operator (ls : List Lexeme) (o : Operator) (apart : Apart ls) : Apart (ls ++ [.operator o]) := by
  induction ls with
  | nil => trivial
  | cons first tail ih =>
      cases first with
      | openNumber literal => exact False.elim apart
      | stray c => exact False.elim apart
      | operator o' => exact ih apart
      | number literal =>
          obtain ⟨number, noNumber, others⟩ := apart
          refine ⟨number, ?_, ih others⟩
          intro other
          cases tail with
          | nil => simp
          | cons second rest => exact noNumber other

theorem rtake_append (p : Char → Bool) (front behind : List Char) (all : ∀ c ∈ behind, p c = true)
    (stop : ∀ c, front.getLast? = some c → p c = false) : (front ++ behind).rtakeWhile p = behind := by
  have reversed : ∀ c ∈ behind.reverse, p c = true := fun c member => all c (List.mem_reverse.mp member)
  have nothing : front.reverse.takeWhile p = [] := by
    cases front.eq_nil_or_concat with
    | inl empty => rw [empty]; rfl
    | inr filled =>
        obtain ⟨before, c, rfl⟩ := filled
        simp [stop c (by simp)]
  rw [List.rtakeWhile, List.reverse_append, List.takeWhile_append_of_pos reversed, nothing, List.append_nil,
    List.reverse_reverse]

namespace Parser

theorem joined_waiting (w : Waiting) (outer : List Waiting) :
    Lexeme.joined (waitingLexemes (w :: outer)) =
      Lexeme.joined (waitingLexemes outer) ++ (w.left.text.toList ++ [w.operator.symbol]) := by
  rw [waitingLexemes, Lexeme.joined_append, Waiting.expr, ← Expr.text_joined, Expr.text, Operator.text]
  simp

theorem waiting_adds (w v : Waiting) (outer : List Waiting)
    (ranks : (w :: outer).Pairwise fun inner outer => outer.operator.rank < inner.operator.rank) (waits : v ∈ outer) :
    v.operator.isAdditive = true ∧ w.operator.isAdditive = false :=
  (rank_lt_iff _ _).mp (List.rel_of_pairwise_cons ranks waits)

theorem multiplies_within (w : Waiting) (taken : List Lexeme) (apart : Apart taken)
    (within : ∀ l ∈ w.expr.lexemes, l ∈ taken) (multiplies : w.operator.isAdditive = false)
    (tight : ∀ o, Lexeme.operator o ∈ w.left.lexemes → w.operator.rank ≤ o.rank) :
    ∀ c ∈ w.expr.text.toList, Grammar.adds c = false := by
  intro c inText
  rw [Expr.text_joined] at inText
  obtain ⟨l, member, inside⟩ := List.mem_flatMap.mp inText
  cases apart_member taken l apart (within l member) with
  | inl isNumber =>
      obtain ⟨literal, rfl, number⟩ := isNumber
      exact start_adds_nothing c (number_characters literal number c inside)
  | inr isOperator =>
      obtain ⟨o, rfl⟩ := isOperator
      obtain rfl := List.mem_singleton.mp inside
      rw [symbol_adds]
      cases (rank_le_iff _ _).mp (expr_lexeme w o member tight) with
      | inl adds =>
          rw [multiplies] at adds
          contradiction
      | inr factor => exact factor

theorem open_term_waits (w : Waiting) (outer : List Waiting) (taken : List Lexeme)
    (built : Held.Built ⟨none, w :: outer⟩ taken) (apart : Apart taken) :
    openTerm (Lexeme.joined taken) = w.expr.text.toList := by
  have lexemes : waitingLexemes outer ++ w.expr.lexemes = taken := by
    rw [← built.lexemes, Held.lexemes, List.append_nil, waitingLexemes]
  have parts : Lexeme.joined taken = Lexeme.joined (waitingLexemes outer) ++ w.expr.text.toList := by
    rw [← lexemes, Lexeme.joined_append, Expr.text_joined]
  have ending : w.expr.text.toList = w.left.text.toList ++ [w.operator.symbol] := by
    simp [Waiting.expr, Expr.text, Operator.text]
  have last : (Lexeme.joined taken).getLast? = some w.operator.symbol := by
    rw [parts, ending, ← List.append_assoc, List.getLast?_concat]
  rw [openTerm, last, Option.any_some, symbol_adds]
  cases additive : w.operator.isAdditive with
  | true =>
      rw [if_pos rfl]
      cases outer with
      | nil => exact parts
      | cons v rest =>
          have multiplies := (waiting_adds w v (v :: rest) built.ranks List.mem_cons_self).2
          rw [additive] at multiplies
          contradiction
  | false =>
      rw [if_neg Bool.false_ne_true, parts]
      apply rtake_append
      · intro c inText
        have within : ∀ l ∈ w.expr.lexemes, l ∈ taken := fun l member => lexemes ▸ List.mem_append_right _ member
        simpa using multiplies_within w taken apart within additive (built.tight w List.mem_cons_self) c inText
      · intro c final
        cases outer with
        | nil => simp [waitingLexemes, Lexeme.joined] at final
        | cons v rest =>
            rw [joined_waiting, ← List.append_assoc, List.getLast?_concat] at final
            obtain rfl := Option.some.inj final
            rw [symbol_adds, (waiting_adds w v (v :: rest) built.ranks List.mem_cons_self).1, Bool.not_true]

theorem fault_not_missing (l : Lexeme) (position : Nat) (incomplete : String) :
    (l.fault position).cause ≠ .missingOperand incomplete := by
  cases l <;> simp [Lexeme.fault]

theorem missing_operand_iff (cs : List Char) (e : ParseError) :
    (parseChars cs = .error e ∧ ∃ incomplete, e.cause = .missingOperand incomplete) ↔
      ∃ w outer, nothingHeld.takeAll ((Lexeme.placed 0 cs).map Prod.snd) = some ⟨none, w :: outer⟩ ∧
        e = ⟨.missingOperand w.expr.text, none⟩ := by
  rw [parse_chars_feed]
  simp only [← feed_ok_iff]
  constructor
  · rintro ⟨rejected, incomplete, missing⟩
    cases fed : feed nothingHeld (Lexeme.placed 0 cs) with
    | error fault =>
        rw [fed] at rejected
        obtain rfl := Except.error.inj rejected
        obtain ⟨l, position, rfl⟩ := feed_fault _ _ fault fed
        exact absurd missing (fault_not_missing l position incomplete)
    | ok held =>
        obtain ⟨operand, stack⟩ := held
        rw [fed, conclude] at rejected
        cases operand with
        | some full =>
            rw [finish_operand] at rejected
            contradiction
        | none =>
            cases stack with
            | nil =>
                obtain rfl := Except.error.inj rejected
                contradiction
            | cons w outer =>
                obtain rfl := Except.error.inj rejected
                exact ⟨w, outer, rfl, by rw [Expr.render_text]⟩
  · rintro ⟨w, outer, fed, rfl⟩
    rw [fed, ← Expr.render_text]
    exact ⟨rfl, _, rfl⟩

theorem chain_waits (chain : Chain) (o : Operator) :
    ∃ w outer, nothingHeld.takeAll (chain.lexemes ++ [.operator o]) = some ⟨none, w :: outer⟩ := by
  obtain ⟨operand, stack, taken, -⟩ := chain_taken chain
  rw [take_all_append, taken]
  exact ⟨_, _, rfl⟩

theorem waits_chain (ls : List Lexeme) (w : Waiting) (outer : List Waiting)
    (taken : nothingHeld.takeAll ls = some ⟨none, w :: outer⟩) :
    ∃ (chain : Chain) (o : Operator), ls = chain.lexemes ++ [.operator o] := by
  have built := take_all_built _ ls taken
  have split : (waitingLexemes outer ++ w.left.lexemes) ++ [.operator w.operator] = ls := by
    simpa [Held.lexemes, waitingLexemes, Waiting.expr, Expr.lexemes] using built.lexemes
  rw [← split, take_all_append] at taken
  obtain ⟨held, before, last⟩ := Option.bind_eq_some_iff.mp taken
  obtain ⟨operand, stack⟩ := held
  cases operand with
  | none => simp [Held.takeAll, Held.take] at last
  | some e =>
      obtain ⟨chain, shape⟩ : ∃ chain : Chain, _ = chain.lexemes := taken_shape _ nothingHeld e stack before
      exact ⟨chain, w.operator, by rw [← split, shape]⟩

end Parser

theorem unfinished_rejected (cs : List Char) (unfinished : cs ∈ Grammar.unfinished) :
    parseChars cs = .error ⟨.missingOperand (String.ofList (openTerm (withoutBlanks cs))), none⟩ := by
  obtain ⟨chain, o, valid, spaced⟩ := (mem_unfinished cs).mp unfinished
  have apart := apart_operator chain.lexemes o (chain_apart chain valid)
  obtain ⟨w, outer, taken⟩ := Parser.chain_waits chain o
  have named := Parser.open_term_waits w outer _ (Parser.take_all_built _ _ taken) apart
  rw [← spaced_without_blanks _ cs spaced apart] at named
  rw [← spaced_placed _ cs 0 spaced apart] at taken
  rw [named, String.ofList_toList]
  exact ((Parser.missing_operand_iff cs _).mpr ⟨w, outer, taken, rfl⟩).1

theorem rejected_unfinished (cs : List Char) (e : ParseError) (incomplete : String)
    (rejected : parseChars cs = .error e) (missing : e.cause = .missingOperand incomplete) :
    cs ∈ Grammar.unfinished := by
  obtain ⟨w, outer, taken, -⟩ := (Parser.missing_operand_iff cs e).mp ⟨rejected, incomplete, missing⟩
  obtain ⟨chain, o, shape⟩ := Parser.waits_chain _ w outer taken
  have numbers : ∀ literal, Lexeme.number literal ∈ chain.lexemes → IsNumber literal := by
    intro literal member
    exact placed_numbers 0 cs literal (shape ▸ List.mem_append_left _ member)
  refine (mem_unfinished cs).mpr ⟨chain, o, ⟨numbers _ List.mem_cons_self, ?_⟩, shape ▸ placed_spaced 0 cs⟩
  exact fun link member => numbers _ (List.mem_cons_of_mem _ (link_number chain.links link member))

theorem unfinished_names_open_term (t : String) :
    (t.toList ∈ Grammar.unfinished ↔ ∃ e incomplete, parse t = .error e ∧ e.cause = .missingOperand incomplete) ∧
    (t.toList ∈ Grammar.unfinished →
      parse t = .error ⟨.missingOperand (String.ofList (openTerm (withoutBlanks t.toList))), none⟩) := by
  refine ⟨⟨?_, ?_⟩, unfinished_rejected t.toList⟩
  · intro unfinished
    exact ⟨_, _, unfinished_rejected t.toList unfinished, rfl⟩
  · intro missing
    obtain ⟨e, incomplete, rejected, cause⟩ := missing
    exact rejected_unfinished t.toList e incomplete rejected cause

def openQuotient : Chain := ⟨['1'], [(.minus, ['2']), (.times, ['3'])]⟩

theorem unfinished_names_open_quotient :
    "1 - 2*3\t/ ".toList ∈ Grammar.unfinished ∧
      parse "1 - 2*3\t/ " = .error ⟨.missingOperand "2*3/", none⟩ := by
  have digit (c : Char) (isDigit : c.isDigit = true) : IsNumber [c] := .inl ⟨by simp, by simpa [Digits] using isDigit⟩
  have valid : openQuotient.Valid := by
    refine ⟨digit '1' rfl, ?_⟩
    intro link member
    simp only [openQuotient, List.mem_cons, List.not_mem_nil, or_false] at member
    rcases member with rfl | rfl
    · exact digit '2' rfl
    · exact digit '3' rfl
  have spaced : Spaced (openQuotient.lexemes ++ [.operator .dividedBy]) "1 - 2*3\t/ ".toList :=
    .cons [] _ _ _ rfl (.cons [' '] _ _ _ rfl (.cons [' '] _ _ _ rfl (.cons [] _ _ _ rfl (.cons [] _ _ _ rfl
      (.cons ['\t'] _ _ _ rfl (.nil [' '] rfl))))))
  have unfinished := (mem_unfinished _).mpr ⟨openQuotient, .dividedBy, valid, spaced⟩
  exact ⟨unfinished, (unfinished_names_open_term "1 - 2*3\t/ ").2 unfinished⟩

end Reckoner
