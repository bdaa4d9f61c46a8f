import Reckoner.Proofs.Spelling

set_option autoImplicit false

namespace Reckoner

namespace Parser

def waitingLexemes : List Waiting → List Lexeme
  | [] => []
  | w :: outer => waitingLexemes outer ++ w.expr.lexemes

def Held.lexemes (held : Held) : List Lexeme :=
  waitingLexemes held.stack ++ match held.operand with
    | some e => e.lexemes
    | none => []

theorem waiting_lexeme (stack : List Waiting) (l : Lexeme) (member : l ∈ waitingLexemes stack) :
    ∃ w ∈ stack, l ∈ w.expr.lexemes := by
  induction stack with
  | nil => contradiction
  | cons w outer ih =>
      cases List.mem_append.mp member with
      | inl later =>
          obtain ⟨v, waits, inside⟩ := ih later
          exact ⟨v, List.mem_cons_of_mem _ waits, inside⟩
      | inr first => exact ⟨w, List.mem_cons_self, first⟩

theorem waiting_append (inner outer : List Waiting) :
    waitingLexemes (inner ++ outer) = waitingLexemes outer ++ waitingLexemes inner := by
  induction inner with
  | nil => simp [waitingLexemes]
  | cons w tail ih => rw [List.cons_append, waitingLexemes, waitingLexemes, ih, List.append_assoc]

theorem close_lexemes (stack : List Waiting) (operand : Expr) :
    (closeAll stack operand).lexemes = waitingLexemes stack ++ operand.lexemes := by
  induction stack generalizing operand with
  | nil => rfl
  | cons w tail ih =>
      have completed : (w.complete operand).lexemes = w.expr.lexemes ++ operand.lexemes := by
        simp [Waiting.complete, Waiting.expr, Expr.lexemes]
      have later := ih (w.complete operand)
      rw [completed, ← List.append_assoc] at later
      exact later

theorem fold_pops (rank : Nat) (stack : List Waiting) (operand : Expr) :
    ∃ popped kept, stack = popped ++ kept ∧ fold rank stack operand = (closeAll popped operand, kept) ∧
      (∀ w ∈ popped, rank ≤ w.operator.rank) ∧ ∀ w, kept.head? = some w → w.operator.rank < rank := by
  induction stack generalizing operand with
  | nil => exact ⟨[], [], rfl, rfl, by simp, by simp⟩
  | cons w tail ih =>
      rw [fold]
      by_cases tight : rank ≤ w.operator.rank
      · obtain ⟨popped, kept, rfl, folded, high, low⟩ := ih (w.complete operand)
        rw [if_pos tight]
        exact ⟨w :: popped, kept, rfl, folded, List.forall_mem_cons.mpr ⟨tight, high⟩, low⟩
      · rw [if_neg tight]
        refine ⟨[], w :: tail, rfl, rfl, by simp, ?_⟩
        intro v first
        obtain rfl := Option.some.inj first
        exact Nat.lt_of_not_le tight

structure Held.Built (held : Held) (taken : List Lexeme) : Prop where
  ranks : held.stack.Pairwise fun inner outer => outer.operator.rank < inner.operator.rank
  tight : ∀ w ∈ held.stack, ∀ o, Lexeme.operator o ∈ w.left.lexemes → w.operator.rank ≤ o.rank
  single : ∀ e, held.operand = some e → ∃ text, e = .literal text
  lexemes : held.lexemes = taken

theorem nothing_built : nothingHeld.Built [] where
  ranks := List.Pairwise.nil
  tight := by simp [nothingHeld]
  single := by simp [nothingHeld]
  lexemes := rfl

theorem expr_lexeme (w : Waiting) (o : Operator) (member : Lexeme.operator o ∈ w.expr.lexemes)
    (tight : ∀ inner, Lexeme.operator inner ∈ w.left.lexemes → w.operator.rank ≤ inner.rank) :
    w.operator.rank ≤ o.rank := by
  cases List.mem_append.mp member with
  | inl inside => exact tight o inside
  | inr last =>
      obtain rfl := Lexeme.operator.inj (List.mem_singleton.mp last)
      exact Nat.le_refl _

theorem below_head (kept : List Waiting) (rank : Nat)
    (ranks : kept.Pairwise fun inner outer => outer.operator.rank < inner.operator.rank)
    (low : ∀ w, kept.head? = some w → w.operator.rank < rank) : ∀ w ∈ kept, w.operator.rank < rank := by
  cases kept with
  | nil => simp
  | cons first outer =>
      have bound := low first rfl
      intro w member
      cases List.mem_cons.mp member with
      | inl same => exact same ▸ bound
      | inr later => exact Nat.lt_trans (List.rel_of_pairwise_cons ranks later) bound

theorem operator_built (held : Held) (taken : List Lexeme) (o : Operator) (operand : Expr) (built : held.Built taken)
    (full : held.operand = some operand) :
    Held.Built ⟨none, ⟨(fold o.rank held.stack operand).1, o⟩ :: (fold o.rank held.stack operand).2⟩
      (taken ++ [.operator o]) := by
  obtain ⟨popped, kept, split, folded, high, low⟩ := fold_pops o.rank held.stack operand
  obtain ⟨text, rfl⟩ := built.single operand full
  have ranks := built.ranks
  have tight := built.tight
  rw [split] at ranks tight
  rw [folded]
  refine ⟨?_, ?_, by simp, ?_⟩
  · have keptRanks := (List.pairwise_append.mp ranks).2.1
    exact List.pairwise_cons.mpr ⟨below_head kept o.rank keptRanks low, keptRanks⟩
  · intro w member inner inside
    cases List.mem_cons.mp member with
    | inr later => exact tight w (List.mem_append_right _ later) inner inside
    | inl same =>
        subst same
        rw [close_lexemes] at inside
        cases List.mem_append.mp inside with
        | inr last => simp [Expr.lexemes] at last
        | inl below =>
            obtain ⟨v, wasWaiting, inV⟩ := waiting_lexeme popped _ below
            have least := expr_lexeme v inner inV (tight v (List.mem_append_left _ wasWaiting))
            exact Nat.le_trans (high v wasWaiting) least
  · rw [← built.lexemes, Held.lexemes, Held.lexemes, full, split, waiting_append]
    simp [waitingLexemes, Waiting.expr, Expr.lexemes, close_lexemes]

theorem take_built (held next : Held) (taken : List Lexeme) (l : Lexeme) (built : held.Built taken)
    (takes : held.take l = some next) : next.Built (taken ++ [l]) := by
  cases taken_cases held next l takes with
  | inl isNumber =>
      obtain ⟨literal, rfl, empty, rfl⟩ := isNumber
      refine ⟨built.ranks, built.tight, ?_, ?_⟩
      · intro e same
        exact ⟨_, (Option.some.inj same).symm⟩
      · rw [← built.lexemes, Held.lexemes, Held.lexemes, empty]
        simp [Expr.lexemes]
  | inr isOperator =>
      obtain ⟨o, operand, rfl, full, rfl⟩ := isOperator
      exact operator_built held taken o operand built full

theorem take_all_built (held : Held) (ls : List Lexeme) (takes : nothingHeld.takeAll ls = some held) : held.Built ls :=
  take_all_keeps Held.Built nothingHeld held [] ls nothing_built
    (fun held next taken l _ built step => take_built held next taken l built step) takes

end Parser

end Reckoner
