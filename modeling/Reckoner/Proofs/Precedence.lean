import Reckoner.Proofs.Grouping

set_option autoImplicit false

namespace Reckoner

namespace Expr

def lexemes : Expr → List Lexeme
  | literal text => [.number text.toList]
  | binary left o right => left.lexemes ++ .operator o :: right.lexemes
  | incomplete left o => left.lexemes ++ [.operator o]

def root? : Expr → Option Operator
  | literal _ => none
  | binary _ o _ => some o
  | incomplete _ o => some o

-- No node below binds looser than the node itself, and on the right none binds
-- equally: this is what grouping equal ranks to the left comes to.
def Grouped : Expr → Prop
  | literal _ => True
  | incomplete left o => left.Grouped ∧ ∀ inner, left.root? = some inner → o.rank ≤ inner.rank
  | binary left o right =>
      left.Grouped ∧ right.Grouped ∧ (∀ inner, left.root? = some inner → o.rank ≤ inner.rank) ∧
        ∀ inner, right.root? = some inner → o.rank < inner.rank

def chain : Expr → Chain
  | literal text => ⟨text.toList, []⟩
  | binary left o right => ⟨left.chain.first, left.chain.links ++ (o, right.chain.first) :: right.chain.links⟩
  | incomplete left _ => left.chain

end Expr

namespace Chain

theorem leaf_text (text : String) : leaf text.toList = .literal text := by
  rw [leaf, String.ofList_toList]

theorem multiply_append (left : Expr) (front behind : Links) :
    multiplyOnto left (front ++ behind) = multiplyOnto (multiplyOnto left front) behind := List.foldl_append

theorem add_append (left : Expr) (front behind : List (Operator × Chain)) :
    addOnto left (front ++ behind) = addOnto (addOnto left front) behind := List.foldl_append

theorem link_lexemes_injective (links others : Links) (same : linkLexemes links = linkLexemes others) :
    links = others := by
  induction links generalizing others with
  | nil =>
      cases others with
      | nil => rfl
      | cons other tail => simp [linkLexemes] at same
  | cons link tail ih =>
      cases others with
      | nil => simp [linkLexemes] at same
      | cons other rest =>
          obtain ⟨o, literal⟩ := link
          obtain ⟨o', literal'⟩ := other
          change .operator o :: .number literal :: linkLexemes tail =
            .operator o' :: .number literal' :: linkLexemes rest at same
          simp only [List.cons.injEq, Lexeme.operator.injEq, Lexeme.number.injEq] at same
          obtain ⟨rfl, rfl, tails⟩ := same
          rw [ih rest tails]

theorem lexemes_injective (chain other : Chain) (same : chain.lexemes = other.lexemes) : chain = other := by
  obtain ⟨first, links⟩ := chain
  obtain ⟨first', links'⟩ := other
  simp only [lexemes, List.cons.injEq, Lexeme.number.injEq] at same
  rw [same.1, link_lexemes_injective links links' same.2]

def Multiplies (links : Links) : Prop := ∀ link ∈ links, link.1.isAdditive = false

theorem cut_of_multiplies (first : List Char) (links : Links) (multiplies : Multiplies links) :
    cut first links = (⟨first, links⟩, []) := by
  induction links generalizing first with
  | nil => rfl
  | cons link tail ih =>
      have others := ih link.2 (fun next member => multiplies next (List.mem_cons_of_mem _ member))
      simp [cut, others, multiplies link List.mem_cons_self]

theorem cut_append (first literal : List Char) (o : Operator) (links factors : Links) (adds : o.isAdditive = true)
    (multiplies : Multiplies factors) :
    cut first (links ++ (o, literal) :: factors) =
      ((cut first links).1, (cut first links).2 ++ [(o, ⟨literal, factors⟩)]) := by
  induction links generalizing first with
  | nil => simp [cut, adds, cut_of_multiplies literal factors multiplies]
  | cons link tail ih =>
      rw [List.cons_append]
      cases additive : link.1.isAdditive <;> simp [cut, additive, ih link.2]

theorem cut_multiplies (first : List Char) (links : Links) :
    Multiplies (cut first links).1.links ∧
      ∀ term ∈ (cut first links).2, term.1.isAdditive = true ∧ Multiplies term.2.links := by
  induction links generalizing first with
  | nil => simp [cut, Multiplies]
  | cons link tail ih =>
      obtain ⟨factors, terms⟩ := ih link.2
      cases additive : link.1.isAdditive with
      | true =>
          refine ⟨by simp [cut, additive, Multiplies], ?_⟩
          intro term member
          simp only [cut, additive, if_true, List.mem_cons] at member
          rcases member with rfl | later
          · exact ⟨additive, factors⟩
          · exact terms term later
      | false =>
          refine ⟨?_, by simpa [cut, additive] using terms⟩
          intro factor member
          simp only [cut, additive, Bool.false_eq_true, if_false, List.mem_cons] at member
          rcases member with rfl | later
          · exact additive
          · exact factors factor later

def termLexemes (terms : List (Operator × Chain)) : List Lexeme :=
  terms.flatMap fun term => .operator term.1 :: term.2.lexemes

theorem cut_lexemes (first : List Char) (links : Links) :
    linkLexemes (cut first links).1.links ++ termLexemes (cut first links).2 = linkLexemes links := by
  induction links generalizing first with
  | nil => rfl
  | cons link tail ih =>
      have others := ih link.2
      cases additive : link.1.isAdditive with
      | true => simpa [cut, additive, linkLexemes, termLexemes, lexemes, cut_first] using others
      | false => simpa [cut, additive, linkLexemes, termLexemes] using others

theorem multiply_lexemes (left : Expr) (links : Links) :
    (multiplyOnto left links).lexemes = left.lexemes ++ linkLexemes links := by
  induction links generalizing left with
  | nil => simp [multiplyOnto, linkLexemes]
  | cons link tail ih =>
      have others := ih (.binary left link.1 (leaf link.2))
      simpa [multiplyOnto, linkLexemes, Expr.lexemes, leaf] using others

theorem term_lexemes (term : Chain) : term.termTree.lexemes = term.lexemes := by
  simp [termTree, multiply_lexemes, Expr.lexemes, leaf, lexemes]

theorem add_lexemes (left : Expr) (terms : List (Operator × Chain)) :
    (addOnto left terms).lexemes = left.lexemes ++ termLexemes terms := by
  induction terms generalizing left with
  | nil => simp [addOnto, termLexemes]
  | cons term tail ih =>
      have others := ih (.binary left term.1 (termTree term.2))
      simpa [addOnto, termLexemes, Expr.lexemes, term_lexemes] using others

theorem tree_lexemes (chain : Chain) : chain.tree.lexemes = chain.lexemes := by
  simp [tree, add_lexemes, term_lexemes, lexemes, cut_first, cut_lexemes]

theorem multiply_grouped (left : Expr) (links : Links) (grouped : left.Grouped)
    (root : ∀ inner, left.root? = some inner → inner.isAdditive = false) (multiplies : Multiplies links) :
    (multiplyOnto left links).Grouped ∧
      ∀ inner, (multiplyOnto left links).root? = some inner → inner.isAdditive = false := by
  induction links generalizing left with
  | nil => exact ⟨grouped, root⟩
  | cons link tail ih =>
      have factor := multiplies link List.mem_cons_self
      refine ih _ ⟨grouped, trivial, ?_, ?_⟩ ?_ (fun next member => multiplies next (List.mem_cons_of_mem _ member))
      · intro inner isRoot
        exact (rank_le_iff _ _).mpr (.inr (root inner isRoot))
      · intro inner isRoot
        simp [leaf, Expr.root?] at isRoot
      · intro inner isRoot
        obtain rfl := Option.some.inj isRoot
        exact factor

theorem term_grouped (term : Chain) (multiplies : Multiplies term.links) :
    term.termTree.Grouped ∧ ∀ inner, term.termTree.root? = some inner → inner.isAdditive = false :=
  multiply_grouped (leaf term.first) term.links trivial (by simp [leaf, Expr.root?]) multiplies

theorem add_grouped (left : Expr) (terms : List (Operator × Chain)) (grouped : left.Grouped)
    (valid : ∀ term ∈ terms, term.1.isAdditive = true ∧ Multiplies term.2.links) :
    (addOnto left terms).Grouped := by
  induction terms generalizing left with
  | nil => exact grouped
  | cons term tail ih =>
      obtain ⟨adds, multiplies⟩ := valid term List.mem_cons_self
      obtain ⟨right, root⟩ := term_grouped term.2 multiplies
      refine ih _ ⟨grouped, right, ?_, ?_⟩ (fun next member => valid next (List.mem_cons_of_mem _ member))
      · intro inner _
        exact (rank_le_iff _ _).mpr (.inl adds)
      · intro inner isRoot
        exact (rank_lt_iff _ _).mpr ⟨adds, root inner isRoot⟩

theorem tree_grouped (chain : Chain) : chain.tree.Grouped := by
  obtain ⟨factors, terms⟩ := cut_multiplies chain.first chain.links
  exact add_grouped _ _ (term_grouped _ factors).1 terms

end Chain

theorem complete_lexemes (e : Expr) (complete : e.isComplete = true) : e.lexemes = e.chain.lexemes := by
  induction e with
  | literal text => rfl
  | incomplete left o _ => simp [Expr.isComplete] at complete
  | binary left o right leftLexemes rightLexemes =>
      simp only [Expr.isComplete, Bool.and_eq_true] at complete
      simp [Expr.lexemes, Expr.chain, leftLexemes complete.1, rightLexemes complete.2, Chain.lexemes,
        Chain.linkLexemes]

theorem factor_literal (right : Expr) (o : Operator) (complete : right.isComplete = true)
    (multiplies : o.isAdditive = false) (root : ∀ inner, right.root? = some inner → o.rank < inner.rank) :
    ∃ text, right = .literal text := by
  cases right with
  | literal text => exact ⟨text, rfl⟩
  | incomplete left inner => simp [Expr.isComplete] at complete
  | binary left inner behind =>
      obtain ⟨adds, -⟩ := (rank_lt_iff _ _).mp (root inner rfl)
      rw [multiplies] at adds
      exact absurd adds Bool.false_ne_true

theorem grouped_term (e : Expr) (complete : e.isComplete = true) (grouped : e.Grouped)
    (root : ∀ inner, e.root? = some inner → inner.isAdditive = false) :
    Chain.Multiplies e.chain.links ∧ e.chain.termTree = e := by
  induction e with
  | literal text => simp [Expr.chain, Chain.Multiplies, Chain.termTree, Chain.multiplyOnto, Chain.leaf]
  | incomplete left o _ => simp [Expr.isComplete] at complete
  | binary left o right leftTerm _ =>
      simp only [Expr.isComplete, Bool.and_eq_true] at complete
      obtain ⟨leftGrouped, -, leftRank, rightRank⟩ := grouped
      have multiplies : o.isAdditive = false := root o rfl
      obtain ⟨text, rfl⟩ := factor_literal right o complete.2 multiplies rightRank
      have leftRoot : ∀ inner, left.root? = some inner → inner.isAdditive = false := by
        intro inner isRoot
        rcases (rank_le_iff _ _).mp (leftRank inner isRoot) with adds | factor
        · rw [multiplies] at adds
          exact absurd adds Bool.false_ne_true
        · exact factor
      obtain ⟨factors, built⟩ := leftTerm complete.1 leftGrouped leftRoot
      refine ⟨?_, ?_⟩
      · intro link member
        rcases List.mem_append.mp member with earlier | last
        · exact factors link earlier
        · obtain rfl := List.mem_singleton.mp last
          exact multiplies
      · rw [Chain.termTree] at built
        rw [Expr.chain, Chain.termTree, Chain.multiply_append, built]
        simp [Expr.chain, Chain.multiplyOnto, Chain.leaf_text]

theorem one_term_tree (e : Expr) (complete : e.isComplete = true) (grouped : e.Grouped)
    (root : ∀ inner, e.root? = some inner → inner.isAdditive = false) : e.chain.tree = e := by
  obtain ⟨factors, built⟩ := grouped_term e complete grouped root
  simp [Chain.tree, Chain.cut_of_multiplies _ _ factors, Chain.addOnto, built]

theorem grouped_tree (e : Expr) (complete : e.isComplete = true) (grouped : e.Grouped) : e.chain.tree = e := by
  induction e with
  | literal text => exact one_term_tree _ complete grouped (by simp [Expr.root?])
  | incomplete left o _ => simp [Expr.isComplete] at complete
  | binary left o right leftTree _ =>
      cases additive : o.isAdditive with
      | false =>
          refine one_term_tree _ complete grouped ?_
          intro inner isRoot
          obtain rfl := Option.some.inj isRoot
          exact additive
      | true =>
          simp only [Expr.isComplete, Bool.and_eq_true] at complete
          obtain ⟨leftGrouped, rightGrouped, -, rightRank⟩ := grouped
          have rightRoot : ∀ inner, right.root? = some inner → inner.isAdditive = false :=
            fun inner isRoot => ((rank_lt_iff _ _).mp (rightRank inner isRoot)).2
          obtain ⟨factors, built⟩ := grouped_term right complete.2 rightGrouped rightRoot
          have leftBuilt := leftTree complete.1 leftGrouped
          simp only [Chain.tree] at leftBuilt
          simp only [Chain.tree, Expr.chain, Chain.cut_append _ _ _ _ _ additive factors, Chain.add_append, leftBuilt]
          exact congrArg (Expr.binary left o) built

theorem grouped_iff (chain : Chain) (e : Expr) :
    (e.isComplete = true ∧ e.lexemes = chain.lexemes ∧ e.Grouped) ↔ e = chain.tree := by
  constructor
  · rintro ⟨complete, tokens, grouped⟩
    rw [complete_lexemes e complete] at tokens
    rw [← Chain.lexemes_injective _ _ tokens, grouped_tree e complete grouped]
  · rintro rfl
    exact ⟨chain.tree_complete, chain.tree_lexemes, chain.tree_grouped⟩

theorem written_unique (chain other : Chain) (cs : List Char) (written : chain.WrittenAs cs)
    (otherWritten : other.WrittenAs cs) : other = chain := by
  apply Chain.lexemes_injective
  rw [← spaced_placed _ cs 0 otherWritten.2 (chain_apart other otherWritten.1)]
  exact spaced_placed _ cs 0 written.2 (chain_apart chain written.1)

theorem parse_groups_by_rank (t : String) (tree : Expr) (accepted : parse t = .ok tree) :
    ∃ chain : Chain, chain.WrittenAs t.toList ∧ (∀ other : Chain, other.WrittenAs t.toList → other = chain) ∧
      tree = chain.tree ∧
      ∀ e : Expr, (e.isComplete = true ∧ e.lexemes = chain.lexemes ∧ e.Grouped) ↔ e = tree := by
  obtain ⟨chain, written⟩ := parse_tokens t.toList tree accepted
  obtain rfl := Except.ok.inj ((parse_written chain t.toList written).symm.trans accepted)
  exact ⟨chain, written, fun other otherWritten => written_unique chain other _ written otherWritten, rfl,
    grouped_iff chain⟩

def mixedRanks : Expr :=
  .binary (.binary (.literal "1") .minus (.binary (.literal "2") .times (.literal "3"))) .plus (.literal "4")

theorem parse_groups_mixed_ranks :
    parse "1-2*3+4" = .ok mixedRanks ∧
      ∃ chain : Chain, chain.WrittenAs "1-2*3+4".toList ∧
        (∀ other : Chain, other.WrittenAs "1-2*3+4".toList → other = chain) ∧ mixedRanks = chain.tree ∧
        ∀ e : Expr, (e.isComplete = true ∧ e.lexemes = chain.lexemes ∧ e.Grouped) ↔ e = mixedRanks :=
  ⟨rfl, parse_groups_by_rank "1-2*3+4" mixedRanks rfl⟩

end Reckoner
