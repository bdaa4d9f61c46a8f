import Reckoner.Proofs.Chain

set_option autoImplicit false

namespace Reckoner

def Operator.isAdditive : Operator → Bool
  | plus => true
  | minus => true
  | times => false
  | dividedBy => false

namespace Chain

abbrev Links := List (Operator × List Char)

def cut (first : List Char) : Links → Chain × List (Operator × Chain)
  | [] => (⟨first, []⟩, [])
  | (o, literal) :: links =>
      let (term, terms) := cut literal links
      if o.isAdditive then (⟨first, []⟩, (o, term) :: terms)
      else (⟨first, (o, literal) :: term.links⟩, terms)

def leaf (literal : List Char) : Expr := .literal (String.ofList literal)

def multiplyOnto (left : Expr) (links : Links) : Expr :=
  links.foldl (fun left link => .binary left link.1 (leaf link.2)) left

def termTree (term : Chain) : Expr := multiplyOnto (leaf term.first) term.links

def addOnto (left : Expr) (terms : List (Operator × Chain)) : Expr :=
  terms.foldl (fun left term => .binary left term.1 (termTree term.2)) left

def tree (chain : Chain) : Expr :=
  let (term, terms) := cut chain.first chain.links
  addOnto (termTree term) terms

theorem cut_first (first : List Char) (links : Links) : (cut first links).1.first = first := by
  cases links with
  | nil => rfl
  | cons link tail =>
      simp only [cut]
      split <;> rfl

theorem multiply_complete (left : Expr) (links : Links) (complete : left.isComplete = true) :
    (multiplyOnto left links).isComplete = true := by
  induction links generalizing left with
  | nil => exact complete
  | cons link tail ih => exact ih _ (by simp [Expr.isComplete, complete, leaf])

theorem add_complete (left : Expr) (terms : List (Operator × Chain)) (complete : left.isComplete = true) :
    (addOnto left terms).isComplete = true := by
  induction terms generalizing left with
  | nil => exact complete
  | cons term tail ih =>
      have right := multiply_complete (leaf term.2.first) term.2.links rfl
      exact ih _ (by simp [Expr.isComplete, complete, termTree, right])

theorem tree_complete (chain : Chain) : chain.tree.isComplete = true :=
  add_complete _ _ (multiply_complete _ _ rfl)

end Chain

theorem rank_lt_iff (o inner : Operator) : o.rank < inner.rank ↔ o.isAdditive = true ∧ inner.isAdditive = false := by
  cases o <;> cases inner <;> decide

theorem rank_le_iff (o inner : Operator) : o.rank ≤ inner.rank ↔ o.isAdditive = true ∨ inner.isAdditive = false := by
  cases o <;> cases inner <;> decide

namespace Parser

theorem close_append (front behind : List Waiting) (operand : Expr) :
    closeAll (front ++ behind) operand = closeAll behind (closeAll front operand) := List.foldl_append

theorem fold_split (rank : Nat) (popped kept : List Waiting) (operand : Expr)
    (tight : ∀ w ∈ popped, rank ≤ w.operator.rank)
    (loose : ∀ w, kept.head? = some w → w.operator.rank < rank) :
    fold rank (popped ++ kept) operand = (closeAll popped operand, kept) := by
  induction popped generalizing operand with
  | nil =>
      cases kept with
      | nil => rfl
      | cons w tail => rw [List.nil_append, fold, if_neg (Nat.not_le.mpr (loose w rfl))]; rfl
  | cons w tail ih =>
      rw [List.cons_append, fold, if_pos (tight w List.mem_cons_self)]
      exact ih (w.complete operand) (fun next member => tight next (List.mem_cons_of_mem _ member))

theorem fold_multiplicative (o : Operator) (product sum : Option Waiting) (operand : Expr)
    (multiplies : o.isAdditive = false) (product_multiplies : ∀ w, product = some w → w.operator.isAdditive = false)
    (sum_adds : ∀ w, sum = some w → w.operator.isAdditive = true) :
    fold o.rank (product.toList ++ sum.toList) operand = (closeAll product.toList operand, sum.toList) := by
  apply fold_split
  · intro w member
    exact (rank_le_iff _ _).mpr (.inr (product_multiplies w (Option.mem_toList.mp member)))
  · intro w first
    have waits : sum = some w := by simpa using first
    exact (rank_lt_iff _ _).mpr ⟨sum_adds w waits, multiplies⟩

theorem fold_additive (o : Operator) (stack : List Waiting) (operand : Expr) (adds : o.isAdditive = true) :
    fold o.rank stack operand = (closeAll stack operand, []) := by
  have split := fold_split o.rank stack [] operand ?_ (by simp)
  · rwa [List.append_nil] at split
  · intro w _
    exact (rank_le_iff _ _).mpr (.inl adds)

theorem take_link (o : Operator) (literal : List Char) (links : Chain.Links) (operand : Expr) (stack : List Waiting) :
    Held.takeAll ⟨some operand, stack⟩ (Chain.linkLexemes ((o, literal) :: links)) =
      Held.takeAll ⟨some (Chain.leaf literal), ⟨(fold o.rank stack operand).1, o⟩ :: (fold o.rank stack operand).2⟩
        (Chain.linkLexemes links) := rfl

-- The scan holds at most one product and one sum that wait. What it makes of
-- the remaining links is the two-level tree, begun with what is held.
theorem links_taken (links : Chain.Links) (literal : List Char) (product sum : Option Waiting)
    (product_multiplies : ∀ w, product = some w → w.operator.isAdditive = false)
    (sum_adds : ∀ w, sum = some w → w.operator.isAdditive = true) :
    ∃ operand stack,
      Held.takeAll ⟨some (Chain.leaf literal), product.toList ++ sum.toList⟩ (Chain.linkLexemes links) =
        some ⟨some operand, stack⟩ ∧
      closeAll stack operand =
        Chain.addOnto
          (closeAll sum.toList
            (Chain.multiplyOnto (closeAll product.toList (Chain.leaf literal)) (Chain.cut literal links).1.links))
          (Chain.cut literal links).2 := by
  induction links generalizing literal product sum with
  | nil => exact ⟨Chain.leaf literal, product.toList ++ sum.toList, rfl, close_append _ _ _⟩
  | cons link tail ih =>
      obtain ⟨o, next⟩ := link
      cases additive : o.isAdditive with
      | false =>
          have folded := fold_multiplicative o product sum (Chain.leaf literal) additive product_multiplies sum_adds
          obtain ⟨operand, stack, taken, closed⟩ := ih next (some ⟨closeAll product.toList (Chain.leaf literal), o⟩) sum
            (by rintro w ⟨⟩; exact additive) sum_adds
          refine ⟨operand, stack, ?_, ?_⟩
          · rw [take_link, folded]
            exact taken
          · rw [closed]
            simp [Chain.cut, additive, Chain.multiplyOnto, closeAll, Waiting.complete]
      | true =>
          have folded := fold_additive o (product.toList ++ sum.toList) (Chain.leaf literal) additive
          obtain ⟨operand, stack, taken, closed⟩ := ih next none
            (some ⟨closeAll (product.toList ++ sum.toList) (Chain.leaf literal), o⟩) (by simp)
            (by rintro w ⟨⟩; exact additive)
          refine ⟨operand, stack, ?_, ?_⟩
          · rw [take_link, folded]
            exact taken
          · rw [closed]
            simp [Chain.cut, additive, Chain.multiplyOnto, Chain.addOnto, closeAll, Waiting.complete, Chain.termTree,
              Chain.cut_first]

theorem chain_taken (chain : Chain) :
    ∃ operand stack, nothingHeld.takeAll chain.lexemes = some ⟨some operand, stack⟩ ∧
      closeAll stack operand = chain.tree := by
  obtain ⟨operand, stack, taken, closed⟩ := links_taken chain.links chain.first none none (by simp) (by simp)
  refine ⟨operand, stack, taken, ?_⟩
  rw [closed]
  simp [Chain.tree, Chain.termTree, Chain.cut_first, closeAll]

theorem taken_shape (ls : List Lexeme) (held : Held) (e : Expr) (stack : List Waiting)
    (taken : held.takeAll ls = some ⟨some e, stack⟩) :
    match held.operand with
    | some _ => ∃ links, ls = Chain.linkLexemes links
    | none => ∃ chain : Chain, ls = chain.lexemes := by
  induction ls generalizing held with
  | nil =>
      obtain rfl := Option.some.inj taken
      exact ⟨[], rfl⟩
  | cons l tail ih =>
      rw [Held.takeAll] at taken
      cases step : held.take l with
      | none => simp [step] at taken
      | some next =>
          rw [step] at taken
          have shape := ih next taken
          rcases taken_cases held next l step with ⟨literal, rfl, empty, rfl⟩ | ⟨o, operand, rfl, full, rfl⟩
          · obtain ⟨links, rfl⟩ := shape
            rw [empty]
            exact ⟨⟨literal, links⟩, rfl⟩
          · obtain ⟨chain, rfl⟩ := shape
            rw [full]
            exact ⟨(o, chain.first) :: chain.links, rfl⟩

end Parser

theorem link_number (links : Chain.Links) (link : Operator × List Char) (member : link ∈ links) :
    Lexeme.number link.2 ∈ Chain.linkLexemes links :=
  List.mem_flatMap.mpr ⟨link, member, by simp⟩

theorem parse_written (chain : Chain) (cs : List Char) (written : chain.WrittenAs cs) :
    parseChars cs = .ok chain.tree := by
  obtain ⟨operand, stack, taken, closed⟩ := Parser.chain_taken chain
  rw [parse_chars_ok_iff, spaced_placed _ cs 0 written.2 (chain_apart chain written.1)]
  exact ⟨operand, stack, taken, closed⟩

theorem parse_tokens (cs : List Char) (tree : Expr) (accepted : parseChars cs = .ok tree) :
    ∃ chain : Chain, chain.WrittenAs cs := by
  obtain ⟨e, stack, taken, -⟩ := (parse_chars_ok_iff cs tree).mp accepted
  obtain ⟨chain, shape⟩ : ∃ chain : Chain, _ = chain.lexemes := Parser.taken_shape _ Parser.nothingHeld e stack taken
  have valid : ∀ literal, Lexeme.number literal ∈ chain.lexemes → IsNumber literal := by
    intro literal member
    rw [← shape] at member
    exact placed_numbers 0 cs literal member
  refine ⟨chain, ⟨valid _ List.mem_cons_self, ?_⟩, shape ▸ placed_spaced 0 cs⟩
  exact fun link member => valid _ (List.mem_cons_of_mem _ (link_number chain.links link member))

end Reckoner
