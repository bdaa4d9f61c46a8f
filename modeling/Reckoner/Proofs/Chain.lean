import Reckoner.Proofs.Feed

set_option autoImplicit false

namespace Reckoner

inductive Spaced : List Lexeme → List Char → Prop where
  | nil (blanks : List Char) (allBlank : Text.allBlank blanks = true) : Spaced [] blanks
  | cons (blanks : List Char) (l : Lexeme) (ls : List Lexeme) (rest : List Char)
      (allBlank : Text.allBlank blanks = true) (tail : Spaced ls rest) : Spaced (l :: ls) (blanks ++ (l.chars ++ rest))

def Apart : List Lexeme → Prop
  | [] => True
  | .operator _ :: ls => Apart ls
  | .number literal :: ls => IsNumber literal ∧ (∀ other, ls.head? ≠ some (.number other)) ∧ Apart ls
  | .openNumber _ :: _ => False
  | .stray _ :: _ => False

structure Chain where
  first : List Char
  links : List (Operator × List Char)
deriving DecidableEq

namespace Chain

def linkLexemes (links : List (Operator × List Char)) : List Lexeme :=
  links.flatMap fun link => [.operator link.1, .number link.2]

def lexemes (chain : Chain) : List Lexeme := .number chain.first :: linkLexemes chain.links

def Valid (chain : Chain) : Prop := IsNumber chain.first ∧ ∀ link ∈ chain.links, IsNumber link.2

def WrittenAs (chain : Chain) (text : List Char) : Prop := chain.Valid ∧ Spaced chain.lexemes text

end Chain

theorem spaced_blank (c : Char) (ls : List Lexeme) (rest : List Char) (blank : Text.isBlank c = true)
    (spaced : Spaced ls rest) : Spaced ls (c :: rest) := by
  cases spaced with
  | nil _ allBlank => exact .nil (c :: rest) (Bool.and_eq_true_iff.mpr ⟨blank, allBlank⟩)
  | cons blanks l ls behind allBlank tail =>
      exact .cons (c :: blanks) l ls behind (Bool.and_eq_true_iff.mpr ⟨blank, allBlank⟩) tail

theorem placed_spaced (position : Nat) (text : List Char) :
    Spaced ((Lexeme.placed position text).map Prod.snd) text := by
  induction text using Lexeme.text_induction generalizing position with
  | nil => simpa [Lexeme.placed] using Spaced.nil [] rfl
  | blank c rest blank ih =>
      rw [Lexeme.placed_blank position c rest blank]
      exact spaced_blank c _ rest blank (ih (position + 1))
  | lexeme l behind fits ih =>
      rw [Lexeme.placed_lexeme position l behind fits]
      exact .cons [] l _ behind rfl (ih (position + l.chars.length))

theorem placed_number (position place : Nat) (text literal : List Char)
    (member : (place, Lexeme.number literal) ∈ Lexeme.placed position text) : IsNumber literal := by
  induction text using Lexeme.text_induction generalizing position with
  | nil => simp [Lexeme.placed] at member
  | blank c rest blank ih =>
      rw [Lexeme.placed_blank position c rest blank] at member
      exact ih (position + 1) member
  | lexeme l behind fits ih =>
      rw [Lexeme.placed_lexeme position l behind fits] at member
      rcases List.mem_cons.mp member with same | later
      · obtain ⟨-, rfl⟩ := Prod.mk.inj same
        exact fits.1
      · exact ih _ later

theorem placed_numbers (position : Nat) (text literal : List Char)
    (member : Lexeme.number literal ∈ (Lexeme.placed position text).map Prod.snd) : IsNumber literal := by
  obtain ⟨⟨place, l⟩, placed, rfl⟩ := List.mem_map.mp member
  exact placed_number position place text literal placed

theorem blank_head (blanks rest : List Char) (c : Char) (allBlank : Text.allBlank blanks = true)
    (ahead : (blanks ++ rest).head? = some c) : Text.isBlank c = true ∨ rest.head? = some c := by
  cases blanks with
  | nil => exact .inr ahead
  | cons d tail =>
      obtain rfl := Option.some.inj ahead
      exact .inl (Bool.and_eq_true_iff.mp allBlank).1

theorem spaced_head (ls : List Lexeme) (text : List Char) (c : Char) (spaced : Spaced ls text) (apart : Apart ls)
    (noNumber : ∀ literal, ls.head? ≠ some (.number literal)) (ahead : text.head? = some c) :
    startsNumber c = false := by
  cases spaced with
  | nil _ allBlank =>
      rcases blank_head text [] c allBlank (by simpa using ahead) with blank | none
      · exact (Lexeme.blank_starts_nothing c blank).1
      · simp at none
  | cons blanks l ls rest allBlank tail =>
      rcases blank_head blanks _ c allBlank ahead with blank | first
      · exact (Lexeme.blank_starts_nothing c blank).1
      · cases l with
        | number literal => exact absurd rfl (noNumber literal)
        | operator o =>
            obtain rfl := Option.some.inj first
            exact (Lexeme.symbol_starts_nothing o).1
        | openNumber literal => exact False.elim apart
        | stray d => exact False.elim apart

theorem spaced_fits (l : Lexeme) (ls : List Lexeme) (rest : List Char) (tail : Spaced ls rest)
    (apart : Apart (l :: ls)) : l.Fits rest ∧ Apart ls := by
  cases l with
  | operator o => exact ⟨trivial, apart⟩
  | openNumber literal => exact False.elim apart
  | stray c => exact False.elim apart
  | number literal =>
      obtain ⟨number, noNumber, others⟩ := apart
      refine ⟨⟨number, ?_⟩, others⟩
      intro c ahead continues
      have noStart := spaced_head ls rest c tail others noNumber ahead
      simp only [startsNumber, Bool.or_eq_false_iff, beq_eq_false_iff_ne] at noStart
      rcases continues with digit | ⟨point, _⟩
      · simp [noStart.2] at digit
      · exact noStart.1 point

theorem spaced_placed (ls : List Lexeme) (text : List Char) (position : Nat) (spaced : Spaced ls text)
    (apart : Apart ls) : (Lexeme.placed position text).map Prod.snd = ls := by
  induction spaced generalizing position with
  | nil blanks allBlank => rw [(Lexeme.placed_nil_iff position blanks).mpr allBlank, List.map_nil]
  | cons blanks l ls rest allBlank tail ih =>
      obtain ⟨fits, others⟩ := spaced_fits l ls rest tail apart
      rw [Lexeme.placed_blanks position blanks _ allBlank, Lexeme.placed_lexeme _ l rest fits, List.map_cons,
        ih _ others]

theorem links_apart (links : List (Operator × List Char)) (valid : ∀ link ∈ links, IsNumber link.2) :
    Apart (Chain.linkLexemes links) ∧ ∀ other, (Chain.linkLexemes links).head? ≠ some (.number other) := by
  induction links with
  | nil => exact ⟨trivial, by simp [Chain.linkLexemes]⟩
  | cons link tail ih =>
      obtain ⟨others, noNumber⟩ := ih (fun next member => valid next (List.mem_cons_of_mem _ member))
      exact ⟨⟨valid link List.mem_cons_self, noNumber, others⟩, by simp [Chain.linkLexemes]⟩

theorem chain_apart (chain : Chain) (valid : chain.Valid) : Apart chain.lexemes :=
  ⟨valid.1, (links_apart chain.links valid.2).2, (links_apart chain.links valid.2).1⟩

end Reckoner
