import Reckoner.Proofs.Precedence
import Reckoner.Proofs.Reduction

set_option autoImplicit false

namespace Reckoner

def withoutBlanks (cs : List Char) : List Char := cs.filter fun c => !Text.isBlank c

namespace Lexeme

def joined (ls : List Lexeme) : List Char := ls.flatMap chars

theorem joined_cons (l : Lexeme) (ls : List Lexeme) : joined (l :: ls) = l.chars ++ joined ls := List.flatMap_cons

theorem joined_append (front behind : List Lexeme) : joined (front ++ behind) = joined front ++ joined behind :=
  List.flatMap_append

theorem joined_spaced (ls : List Lexeme) : Spaced ls (joined ls) := by
  induction ls with
  | nil => exact .nil [] rfl
  | cons l tail ih => exact .cons [] l tail (joined tail) rfl ih

end Lexeme

theorem number_characters (literal : List Char) (number : IsNumber literal) : ∀ c ∈ literal, startsNumber c = true := by
  intro c member
  rcases number with ⟨_, digits⟩ | ⟨whole, fraction, rfl, wholeDigits, _, fractionDigits⟩
  · simp [startsNumber, digits c member]
  · rcases List.mem_append.mp member with before | behind
    · simp [startsNumber, wholeDigits c before]
    · rcases List.mem_cons.mp behind with rfl | after
      · rfl
      · simp [startsNumber, fractionDigits c after]

theorem lexeme_solid (l : Lexeme) (ls : List Lexeme) (apart : Apart (l :: ls)) :
    ∀ c ∈ l.chars, Text.isBlank c = false := by
  intro c member
  cases l with
  | number literal =>
      rw [Bool.eq_false_iff]
      intro blank
      have nothing := (Lexeme.blank_starts_nothing c blank).1
      rw [number_characters literal apart.1 c member] at nothing
      contradiction
  | operator o =>
      obtain rfl := List.mem_singleton.mp member
      exact (Lexeme.symbol_starts_nothing o).2
  | openNumber literal => exact False.elim apart
  | stray d => exact False.elim apart

theorem lexeme_without_blanks (l : Lexeme) (ls : List Lexeme) (apart : Apart (l :: ls)) :
    withoutBlanks l.chars = l.chars := by
  apply List.filter_eq_self.mpr
  intro c member
  simp [lexeme_solid l ls apart c member]

theorem blanks_dropped (blanks : List Char) (allBlank : Text.allBlank blanks = true) : withoutBlanks blanks = [] := by
  apply List.filter_eq_nil_iff.mpr
  intro c member
  simp [List.all_eq_true.mp allBlank c member]

theorem spaced_without_blanks (ls : List Lexeme) (text : List Char) (spaced : Spaced ls text) (apart : Apart ls) :
    withoutBlanks text = Lexeme.joined ls := by
  induction spaced with
  | nil blanks allBlank => exact blanks_dropped blanks allBlank
  | cons blanks l ls rest allBlank tail ih =>
      have others := ih (spaced_fits l ls rest tail apart).2
      have solid := lexeme_without_blanks l ls apart
      rw [Lexeme.joined_cons, ← others]
      calc withoutBlanks (blanks ++ (l.chars ++ rest))
          = withoutBlanks blanks ++ (withoutBlanks l.chars ++ withoutBlanks rest) := by
            simp only [withoutBlanks, List.filter_append]
        _ = l.chars ++ withoutBlanks rest := by rw [blanks_dropped blanks allBlank, solid, List.nil_append]

namespace Expr

def Spelled : Expr → Prop
  | literal text => IsNumber text.toList
  | binary left _ right => left.Spelled ∧ right.Spelled
  | incomplete left _ => left.Spelled

theorem spelled_iff (e : Expr) : e.Spelled ↔ ∀ literal, Lexeme.number literal ∈ e.lexemes → IsNumber literal := by
  induction e with
  | literal text => simp [Spelled, lexemes]
  | binary left o right leftIff rightIff =>
      simp only [Spelled, lexemes, leftIff, rightIff, List.mem_append, List.mem_cons, reduceCtorEq, false_or]
      constructor
      · intro both literal member
        cases member with
        | inl inLeft => exact both.1 literal inLeft
        | inr inRight => exact both.2 literal inRight
      · intro all
        exact ⟨fun literal inLeft => all literal (.inl inLeft), fun literal inRight => all literal (.inr inRight)⟩
  | incomplete left o leftIff => simp [Spelled, lexemes, leftIff]

theorem spelled_chain (e : Expr) (spelled : e.Spelled) : e.chain.Valid := by
  induction e with
  | literal text => exact ⟨spelled, by simp [chain]⟩
  | incomplete left o leftValid => exact leftValid spelled
  | binary left o right leftValid rightValid =>
      obtain ⟨first, links⟩ := leftValid spelled.1
      obtain ⟨second, more⟩ := rightValid spelled.2
      refine ⟨first, ?_⟩
      intro link member
      cases List.mem_append.mp member with
      | inl earlier => exact links link earlier
      | inr later =>
          cases List.mem_cons.mp later with
          | inl same => rw [same]; exact second
          | inr behind => exact more link behind

theorem chain_numbers (chain : Chain) (valid : chain.Valid) (literal : List Char)
    (member : Lexeme.number literal ∈ chain.lexemes) : IsNumber literal := by
  cases List.mem_cons.mp member with
  | inl same =>
      obtain rfl := Lexeme.number.inj same
      exact valid.1
  | inr later =>
      obtain ⟨link, inLinks, inside⟩ := List.mem_flatMap.mp later
      have same : literal = link.2 := by simpa using inside
      rw [same]
      exact valid.2 link inLinks

theorem tree_spelled (chain : Chain) (valid : chain.Valid) : chain.tree.Spelled := by
  rw [spelled_iff, Chain.tree_lexemes]
  exact chain_numbers chain valid

theorem text_joined (e : Expr) : e.text.toList = Lexeme.joined e.lexemes := by
  induction e with
  | literal source => simp [text, lexemes, Lexeme.joined, Lexeme.chars]
  | binary left o right leftJoined rightJoined =>
      rw [text, lexemes, Lexeme.joined_append, Lexeme.joined_cons, ← leftJoined, ← rightJoined]
      simp [Operator.text, Lexeme.chars]
  | incomplete left o leftJoined =>
      rw [text, lexemes, Lexeme.joined_append, Lexeme.joined_cons, ← leftJoined]
      simp [Operator.text, Lexeme.chars, Lexeme.joined]

theorem written_as_text (e : Expr) (complete : e.isComplete = true) (spelled : e.Spelled) :
    e.chain.WrittenAs e.text.toList := by
  refine ⟨spelled_chain e spelled, ?_⟩
  rw [text_joined, complete_lexemes e complete]
  exact Lexeme.joined_spaced e.chain.lexemes

end Expr

theorem parsed_shape (t : String) (tree : Expr) (accepted : parse t = .ok tree) :
    ∃ chain : Chain, chain.WrittenAs t.toList ∧ tree = chain.tree ∧
      tree.isComplete = true ∧ tree.Spelled ∧ tree.Grouped := by
  obtain ⟨chain, written⟩ := parse_tokens t.toList tree accepted
  obtain rfl := Except.ok.inj ((parse_written chain t.toList written).symm.trans accepted)
  exact ⟨chain, written, rfl, chain.tree_complete, Expr.tree_spelled chain written.1, chain.tree_grouped⟩

end Reckoner
