import Mathlib.Computability.Language
import Reckoner.Proofs.Grouping

set_option autoImplicit false

open scoped Computability

namespace Reckoner

namespace Grammar

def oneOf (member : Char → Bool) : Language Char := {word | ∃ c, word = [c] ∧ member c = true}

def blank : Language Char := oneOf Text.isBlank

def digit : Language Char := oneOf Char.isDigit

def operator : Language Char := {['+'], ['-'], ['*'], ['/']}

def number : Language Char := digit * digit∗ + digit∗ * {['.']} * (digit * digit∗)

-- The regular language that the parser is to accept, with nothing of the parser in it.
def sentence : Language Char := blank∗ * number * (blank∗ * operator * blank∗ * number)∗ * blank∗

theorem mem_one_of_star (member : Char → Bool) (word : List Char) :
    word ∈ (oneOf member)∗ ↔ ∀ c ∈ word, member c = true := by
  constructor
  · rintro inStar c inWord
    obtain ⟨parts, rfl, all⟩ := Language.mem_kstar.mp inStar
    obtain ⟨part, inParts, inPart⟩ := List.mem_flatten.mp inWord
    obtain ⟨d, rfl, holds⟩ := all part inParts
    obtain rfl := List.mem_singleton.mp inPart
    exact holds
  · intro all
    refine Language.mem_kstar.mpr ⟨word.map fun c => [c], ?_, ?_⟩
    · induction word with
      | nil => rfl
      | cons c tail ih => simpa using ih (fun d inTail => all d (List.mem_cons_of_mem _ inTail))
    · intro part inParts
      obtain ⟨c, inWord, rfl⟩ := List.mem_map.mp inParts
      exact ⟨c, rfl, all c inWord⟩

theorem mem_blank_star (word : List Char) : word ∈ blank∗ ↔ Text.allBlank word = true := by
  rw [blank, mem_one_of_star, Text.allBlank, List.all_eq_true]

theorem mem_digits (word : List Char) : word ∈ digit * digit∗ ↔ word ≠ [] ∧ Digits word := by
  constructor
  · intro inMul
    obtain ⟨first, ⟨c, rfl, isDigit⟩, rest, inStar, rfl⟩ := Language.mem_mul.mp inMul
    refine ⟨by simp, ?_⟩
    intro d member
    rcases List.mem_cons.mp member with rfl | later
    · exact isDigit
    · exact (mem_one_of_star _ rest).mp inStar d later
  · rintro ⟨nonempty, digits⟩
    cases word with
    | nil => exact absurd rfl nonempty
    | cons c tail =>
        have rest := (mem_one_of_star Char.isDigit tail).mpr fun d later => digits d (List.mem_cons_of_mem _ later)
        exact Language.mem_mul.mpr ⟨[c], ⟨c, rfl, digits c List.mem_cons_self⟩, tail, rest, rfl⟩

theorem mem_number (word : List Char) : word ∈ number ↔ IsNumber word := by
  rw [number, Language.mem_add, mem_digits, IsNumber]
  apply or_congr Iff.rfl
  constructor
  · intro inMul
    obtain ⟨front, inFront, fraction, inFraction, rfl⟩ := Language.mem_mul.mp inMul
    obtain ⟨whole, inWhole, point, rfl, rfl⟩ := Language.mem_mul.mp inFront
    obtain ⟨nonempty, digits⟩ := (mem_digits fraction).mp inFraction
    exact ⟨whole, fraction, by simp, (mem_one_of_star _ whole).mp inWhole, nonempty, digits⟩
  · rintro ⟨whole, fraction, rfl, wholeDigits, nonempty, digits⟩
    have front : whole ++ ['.'] ∈ digit∗ * {['.']} :=
      Language.append_mem_mul ((mem_one_of_star _ whole).mpr wholeDigits) rfl
    simpa using Language.append_mem_mul front ((mem_digits fraction).mpr ⟨nonempty, digits⟩)

theorem mem_operator (word : List Char) : word ∈ operator ↔ ∃ o : Operator, word = [o.symbol] := by
  constructor
  · rintro (rfl | rfl | rfl | rfl)
    · exact ⟨.plus, rfl⟩
    · exact ⟨.minus, rfl⟩
    · exact ⟨.times, rfl⟩
    · exact ⟨.dividedBy, rfl⟩
  · rintro ⟨o, rfl⟩
    cases o with
    | plus => exact .inl rfl
    | minus => exact .inr (.inl rfl)
    | times => exact .inr (.inr (.inl rfl))
    | dividedBy => exact .inr (.inr (.inr rfl))

theorem mem_link (word : List Char) :
    word ∈ blank∗ * operator * blank∗ * number ↔
      ∃ before o after literal, word = before ++ ([Operator.symbol o] ++ (after ++ literal)) ∧
        Text.allBlank before = true ∧ Text.allBlank after = true ∧ IsNumber literal := by
  constructor
  · intro inMul
    obtain ⟨_, inOuter, literal, inNumber, rfl⟩ := Language.mem_mul.mp inMul
    obtain ⟨_, inInner, after, inAfter, rfl⟩ := Language.mem_mul.mp inOuter
    obtain ⟨before, inBefore, symbol, inSymbol, rfl⟩ := Language.mem_mul.mp inInner
    obtain ⟨o, rfl⟩ := (mem_operator symbol).mp inSymbol
    exact ⟨before, o, after, literal, by simp, (mem_blank_star before).mp inBefore, (mem_blank_star after).mp inAfter,
      (mem_number literal).mp inNumber⟩
  · rintro ⟨before, o, after, literal, rfl, beforeBlank, afterBlank, isNumber⟩
    have inner := Language.append_mem_mul ((mem_blank_star before).mpr beforeBlank) ((mem_operator _).mpr ⟨o, rfl⟩)
    have outer := Language.append_mem_mul inner ((mem_blank_star after).mpr afterBlank)
    simpa using Language.append_mem_mul outer ((mem_number literal).mpr isNumber)

theorem links_of_parts (parts : List (List Char)) (ending : List Char) (endBlank : Text.allBlank ending = true)
    (all : ∀ part ∈ parts, part ∈ blank∗ * operator * blank∗ * number) :
    ∃ links, Spaced (Chain.linkLexemes links) (parts.flatten ++ ending) ∧ ∀ link ∈ links, IsNumber link.2 := by
  induction parts with
  | nil => exact ⟨[], .nil ending endBlank, by simp⟩
  | cons part tail ih =>
      obtain ⟨links, spaced, valid⟩ := ih (fun other member => all other (List.mem_cons_of_mem _ member))
      obtain ⟨before, o, after, literal, rfl, beforeBlank, afterBlank, isNumber⟩ :=
        (mem_link part).mp (all part List.mem_cons_self)
      refine ⟨(o, literal) :: links, ?_, ?_⟩
      · have numberSpaced := Spaced.cons after (.number literal) _ _ afterBlank spaced
        have both := Spaced.cons before (.operator o) _ _ beforeBlank numberSpaced
        simpa [Chain.linkLexemes, Lexeme.chars] using both
      · intro link member
        rcases List.mem_cons.mp member with rfl | later
        · exact isNumber
        · exact valid link later

theorem parts_of_links (links : Chain.Links) (text : List Char) (valid : ∀ link ∈ links, IsNumber link.2)
    (spaced : Spaced (Chain.linkLexemes links) text) :
    ∃ (parts : List (List Char)) (ending : List Char), text = parts.flatten ++ ending ∧ Text.allBlank ending = true ∧
      ∀ part ∈ parts, part ∈ blank∗ * operator * blank∗ * number := by
  induction links generalizing text with
  | nil =>
      cases spaced with
      | nil _ allBlank => exact ⟨[], text, rfl, allBlank, by simp⟩
  | cons link tail ih =>
      obtain ⟨o, literal⟩ := link
      cases spaced with
      | cons before _ _ _ beforeBlank numberSpaced =>
          cases numberSpaced with
          | cons after _ _ rest afterBlank others =>
              obtain ⟨parts, ending, rfl, endBlank, all⟩ :=
                ih rest (fun next member => valid next (List.mem_cons_of_mem _ member)) others
              refine ⟨(before ++ ([o.symbol] ++ (after ++ literal))) :: parts, ending, ?_, endBlank, ?_⟩
              · simp [Lexeme.chars]
              · intro part member
                rcases List.mem_cons.mp member with rfl | later
                · exact (mem_link _).mpr ⟨before, o, after, literal, rfl, beforeBlank, afterBlank,
                    valid (o, literal) List.mem_cons_self⟩
                · exact all part later

theorem mem_sentence (text : List Char) : text ∈ sentence ↔ ∃ chain : Chain, chain.WrittenAs text := by
  constructor
  · intro inMul
    obtain ⟨_, inOuter, ending, inEnding, rfl⟩ := Language.mem_mul.mp inMul
    obtain ⟨_, inInner, _, inStar, rfl⟩ := Language.mem_mul.mp inOuter
    obtain ⟨before, inBefore, first, inNumber, rfl⟩ := Language.mem_mul.mp inInner
    obtain ⟨parts, rfl, all⟩ := Language.mem_kstar.mp inStar
    obtain ⟨links, spaced, valid⟩ := links_of_parts parts ending ((mem_blank_star ending).mp inEnding) all
    refine ⟨⟨first, links⟩, ⟨(mem_number first).mp inNumber, valid⟩, ?_⟩
    have whole := Spaced.cons before (.number first) _ _ ((mem_blank_star before).mp inBefore) spaced
    simpa [Chain.lexemes, Lexeme.chars] using whole
  · rintro ⟨⟨first, links⟩, ⟨isNumber, valid⟩, spaced⟩
    cases spaced with
    | cons before _ _ rest beforeBlank tail =>
        obtain ⟨parts, ending, rfl, endBlank, all⟩ := parts_of_links links rest valid tail
        have inner := Language.append_mem_mul ((mem_blank_star before).mpr beforeBlank) ((mem_number first).mpr isNumber)
        have outer := Language.append_mem_mul inner (Language.join_mem_kstar all)
        simpa [sentence, Lexeme.chars] using Language.append_mem_mul outer ((mem_blank_star ending).mpr endBlank)

end Grammar

theorem accepted_iff (t : String) : (∃ tree, parse t = .ok tree) ↔ t.toList ∈ Grammar.sentence := by
  rw [Grammar.mem_sentence]
  constructor
  · intro accepted
    obtain ⟨tree, parsed⟩ := accepted
    exact parse_tokens t.toList tree parsed
  · intro written
    obtain ⟨chain, spaced⟩ := written
    exact ⟨chain.tree, parse_written chain t.toList spaced⟩

theorem parse_accepts_sentences (t : String) :
    ((∃ tree, parse t = .ok tree) ↔ t.toList ∈ Grammar.sentence) ∧
      (t.toList ∉ Grammar.sentence → ∃ e : ParseError, parse t = .error e) ∧
      (∀ tree, parse t = .ok tree → tree.isComplete = true) ∧
      ∀ s, Text.allBlank t.toList = false → Parser.scan t.toList.length (Parser.start t.toList) = .ok s →
        s.operand.isSome = true ∨ s.stack ≠ [] := by
  have accepts := accepted_iff t
  refine ⟨accepts, ?_, ?_, fun s notBlank scanned => Parser.scan_something t.toList s notBlank scanned⟩
  · intro outside
    cases parsed : parse t with
    | error e => exact ⟨e, rfl⟩
    | ok tree => exact absurd (accepts.mp ⟨tree, parsed⟩) outside
  · intro tree accepted
    obtain ⟨chain, written⟩ := parse_tokens t.toList tree accepted
    have same := (parse_written chain t.toList written).symm.trans accepted
    obtain rfl := Except.ok.inj same
    exact Chain.tree_complete chain

end Reckoner
