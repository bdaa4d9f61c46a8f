import Reckoner.Proofs.Spelling

set_option autoImplicit false

namespace Reckoner

namespace Expr

theorem render_of_lexemes (e other : Expr) (same : e.lexemes = other.lexemes) : e.render = other.render := by
  rw [render_text, render_text]
  apply String.toList_injective
  rw [text_joined, text_joined, same]

theorem parse_render (e : Expr) (complete : e.isComplete = true) (spelled : e.Spelled) :
    parse e.render = .ok e.chain.tree := by
  rw [render_text]
  exact parse_written e.chain e.text.toList (written_as_text e complete spelled)

theorem chain_tree_render (e : Expr) (complete : e.isComplete = true) : e.chain.tree.render = e.render := by
  apply render_of_lexemes
  rw [Chain.tree_lexemes, complete_lexemes e complete]

theorem parse_render_iff (e : Expr) (complete : e.isComplete = true) (spelled : e.Spelled) :
    parse e.render = .ok e ↔ e.Grouped := by
  rw [parse_render e complete spelled]
  constructor
  · intro same
    rw [← Except.ok.inj same]
    exact e.chain.tree_grouped
  · intro grouped
    rw [grouped_tree e complete grouped]

end Expr

theorem parsed_render (t : String) (tree : Expr) (accepted : parse t = .ok tree) :
    tree.render.toList = withoutBlanks t.toList := by
  obtain ⟨chain, written, rfl, -, -, -⟩ := parsed_shape t tree accepted
  rw [spaced_without_blanks chain.lexemes t.toList written.2 (chain_apart chain written.1), Expr.render_text,
    Expr.text_joined, Chain.tree_lexemes]

theorem parsed_round_trip (t : String) (tree : Expr) (accepted : parse t = .ok tree) :
    parse tree.render = .ok tree := by
  obtain ⟨chain, -, -, complete, spelled, grouped⟩ := parsed_shape t tree accepted
  exact (Expr.parse_render_iff tree complete spelled).mpr grouped

theorem parse_inverts_render :
    (∀ t tree, parse t = .ok tree →
      tree.render.toList = withoutBlanks t.toList ∧ parse tree.render = .ok tree) ∧
    ∀ e : Expr, e.isComplete = true → e.Spelled →
      (∃ tree, parse e.render = .ok tree ∧ tree.render = e.render) ∧ (parse e.render = .ok e ↔ e.Grouped) := by
  constructor
  · intro t tree accepted
    exact ⟨parsed_render t tree accepted, parsed_round_trip t tree accepted⟩
  · intro e complete spelled
    refine ⟨⟨e.chain.tree, ?_, ?_⟩, Expr.parse_render_iff e complete spelled⟩
    · exact Expr.parse_render e complete spelled
    · exact Expr.chain_tree_render e complete

def differenceOnTheRight : Expr :=
  .binary (.literal "1") .minus (.binary (.literal "2") .minus (.literal "3"))

def productOnTheRight : Expr :=
  .binary (.literal "1") .minus (.binary (.literal ".5") .times (.literal "2"))

theorem parse_inverts_render_up_to_grouping :
    parse " 1 -\t.5*2" = .ok productOnTheRight ∧
      productOnTheRight.render.toList = withoutBlanks " 1 -\t.5*2".toList ∧
      parse productOnTheRight.render = .ok productOnTheRight ∧
      differenceOnTheRight.isComplete = true ∧ differenceOnTheRight.Spelled ∧
      (∃ tree, parse differenceOnTheRight.render = .ok tree ∧ tree.render = differenceOnTheRight.render) ∧
      parse differenceOnTheRight.render ≠ .ok differenceOnTheRight := by
  have accepted : parse " 1 -\t.5*2" = .ok productOnTheRight := rfl
  have forwards := parse_inverts_render.1 _ _ accepted
  have digit (c : Char) (isDigit : c.isDigit = true) : IsNumber [c] := .inl ⟨by simp, by simpa [Digits] using isDigit⟩
  have spelled : differenceOnTheRight.Spelled := ⟨digit '1' rfl, digit '2' rfl, digit '3' rfl⟩
  have backwards := parse_inverts_render.2 differenceOnTheRight rfl spelled
  have notGrouped : ¬ differenceOnTheRight.Grouped := by
    rintro ⟨-, -, -, right⟩
    exact absurd (right .minus rfl) (by decide)
  exact ⟨accepted, forwards.1, forwards.2, rfl, spelled, backwards.1, fun same => notGrouped (backwards.2.mp same)⟩

end Reckoner
