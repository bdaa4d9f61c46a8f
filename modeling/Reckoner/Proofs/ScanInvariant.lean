import Reckoner.Proofs.Stack

set_option autoImplicit false

namespace Reckoner

namespace Cursor

def passed (c : Cursor) : List Char := c.text.take c.position

theorem passed_advance (c : Cursor) (front behind : List Char) (split : c.rest = front ++ behind) :
    (c.advance front.length).passed = c.passed ++ front := by
  have ahead : c.text.drop c.position = front ++ behind := c.rest_eq.symm.trans split
  change c.text.take (c.position + front.length) = c.text.take c.position ++ front
  rw [List.take_add, ahead, List.take_left]

theorem passed_all (c : Cursor) (ended : c.current? = none) : c.passed = c.text := by
  have nothing : c.text.drop c.position = [] := c.rest_eq.symm.trans (List.head?_eq_none_iff.mp ended)
  exact List.take_of_length_le (List.drop_eq_nil_iff.mp nothing)

end Cursor

theorem blank_dropped (front : List Char) (c : Char) (blank : Text.isBlank c = true) :
    withoutBlanks (front ++ [c]) = withoutBlanks front := by
  simp [withoutBlanks, blank]

theorem solid_kept (front : List Char) (l : Lexeme) (apart : Apart [l]) :
    withoutBlanks (front ++ l.chars) = withoutBlanks front ++ l.chars := by
  rw [withoutBlanks, List.filter_append]
  exact congrArg _ (lexeme_without_blanks l [] apart)

namespace Parser

theorem scan_keeps (Keeps : State → Prop) (turns : Nat) (s s' : State) (start : Keeps s)
    (turn : ∀ s s' c, Keeps s → s.cursor.current? = some c → step s c = .ok s' → Keeps s')
    (scanned : scan turns s = .ok s') : Keeps s' := by
  induction turns generalizing s with
  | zero =>
      obtain rfl := Except.ok.inj scanned
      exact start
  | succ turns ih =>
      rw [scan] at scanned
      cases current : s.cursor.current? with
      | none =>
          rw [current] at scanned
          obtain rfl := Except.ok.inj scanned
          exact start
      | some c =>
          cases stepped : step s c with
          | error e => simp [current, stepped] at scanned
          | ok next =>
              simp only [current, stepped] at scanned
              exact ih next (turn s next c start current stepped) scanned

theorem scan_later (turns more : Nat) (s s' : State) (scanned : scan turns s = .ok s') :
    scan (turns + more) s = scan more s' := by
  induction turns generalizing s with
  | zero =>
      obtain rfl := Except.ok.inj scanned
      rw [Nat.zero_add]
  | succ turns ih =>
      rw [Nat.succ_add]
      rw [scan] at scanned ⊢
      cases current : s.cursor.current? with
      | none =>
          rw [current] at scanned
          obtain rfl := Except.ok.inj scanned
          cases more <;> simp [scan, current]
      | some c =>
          cases stepped : step s c with
          | error e => simp [current, stepped] at scanned
          | ok next =>
              simp only [current, stepped] at scanned
              simpa only [stepped] using ih next scanned

theorem step_cases (s s' : State) (c : Char) (current : s.cursor.current? = some c) (stepped : step s c = .ok s') :
    (Text.isBlank c = true ∧ s' = { s with cursor := s.cursor.next }) ∨
      ∃ l behind, s.cursor.rest = l.chars ++ behind ∧ l.Fits behind ∧ s.held.take l = some s'.held ∧
        s'.cursor = s.cursor.advance l.chars.length := by
  obtain ⟨rest, ahead⟩ := List.head?_eq_some_iff.mp current
  cases Lexeme.front_cases c rest with
  | inl blank =>
      rw [step_blank s c blank] at stepped
      exact .inl ⟨blank, (Except.ok.inj stepped).symm⟩
  | inr solid =>
      obtain ⟨l, behind, split, fits⟩ := solid
      obtain ⟨tail, first⟩ := Lexeme.fits_head l c rest behind split fits
      rw [step_lexeme s l c tail behind fits (ahead.trans split) first] at stepped
      cases taken : s.held.take l with
      | none => simp [taken] at stepped
      | some next =>
          rw [taken] at stepped
          obtain rfl := Except.ok.inj stepped
          exact .inr ⟨l, behind, ahead.trans split, fits, taken, rfl⟩

theorem taken_apart (held next : Held) (l : Lexeme) (behind : List Char) (fits : l.Fits behind)
    (taken : held.take l = some next) : Apart [l] := by
  cases taken_cases held next l taken with
  | inl isNumber =>
      obtain ⟨literal, rfl, -, -⟩ := isNumber
      exact ⟨fits.1, by simp, trivial⟩
  | inr isOperator =>
      obtain ⟨o, operand, rfl, -, -⟩ := isOperator
      trivial

structure State.Follows (s : State) (text : List Char) (taken : List Lexeme) : Prop where
  whole : s.cursor.text = text
  held : nothingHeld.takeAll taken = some s.held
  apart : ∀ l ∈ taken, Apart [l]
  passed : withoutBlanks s.cursor.passed = Lexeme.joined taken

theorem start_follows (text : List Char) : (start text).Follows text [] where
  whole := rfl
  held := rfl
  apart := by simp
  passed := rfl

theorem follows_blank (s : State) (text : List Char) (taken : List Lexeme) (c : Char) (follows : s.Follows text taken)
    (current : s.cursor.current? = some c) (blank : Text.isBlank c = true) :
    State.Follows { s with cursor := s.cursor.next } text taken := by
  obtain ⟨rest, ahead⟩ := List.head?_eq_some_iff.mp current
  have passed : s.cursor.next.passed = s.cursor.passed ++ [c] := Cursor.passed_advance s.cursor [c] rest ahead
  refine ⟨follows.whole, follows.held, follows.apart, ?_⟩
  rw [passed, blank_dropped _ c blank, follows.passed]

theorem follows_lexeme (s s' : State) (text behind : List Char) (taken : List Lexeme) (l : Lexeme)
    (follows : s.Follows text taken) (split : s.cursor.rest = l.chars ++ behind) (fits : l.Fits behind)
    (takes : s.held.take l = some s'.held) (moved : s'.cursor = s.cursor.advance l.chars.length) :
    s'.Follows text (taken ++ [l]) := by
  have apart := taken_apart _ _ l behind fits takes
  constructor
  · rw [moved]
    exact follows.whole
  · rw [take_all_append, follows.held, Option.bind_some, Held.takeAll, takes]
    rfl
  · intro other member
    cases List.mem_append.mp member with
    | inl earlier => exact follows.apart other earlier
    | inr last =>
        obtain rfl := List.mem_singleton.mp last
        exact apart
  · rw [moved, Cursor.passed_advance _ _ behind split, solid_kept _ l apart, follows.passed, Lexeme.joined_append,
      Lexeme.joined_cons]
    exact congrArg _ (List.append_nil _).symm

theorem scan_follows (text : List Char) (turns : Nat) (s : State) (scanned : scan turns (start text) = .ok s) :
    ∃ taken, s.Follows text taken := by
  refine scan_keeps (fun s => ∃ taken, s.Follows text taken) turns _ s ⟨[], start_follows text⟩ ?_ scanned
  intro s s' c reached current stepped
  obtain ⟨taken, follows⟩ := reached
  cases step_cases s s' c current stepped with
  | inl blank =>
      obtain ⟨blank, rfl⟩ := blank
      exact ⟨taken, follows_blank s text taken c follows current blank⟩
  | inr solid =>
      obtain ⟨l, behind, split, fits, takes, moved⟩ := solid
      exact ⟨taken ++ [l], follows_lexeme s s' text behind taken l follows split fits takes moved⟩

structure Held.Whole (held : Held) : Prop where
  operand : ∀ e, held.operand = some e → e.isComplete = true
  lefts : ∀ w ∈ held.stack, w.left.isComplete = true

theorem close_complete (stack : List Waiting) (operand : Expr) (lefts : ∀ w ∈ stack, w.left.isComplete = true)
    (complete : operand.isComplete = true) : (closeAll stack operand).isComplete = true := by
  induction stack generalizing operand with
  | nil => exact complete
  | cons w tail ih =>
      have completed : (w.complete operand).isComplete = true :=
        Bool.and_eq_true_iff.mpr ⟨lefts w List.mem_cons_self, complete⟩
      exact ih (w.complete operand) (fun v member => lefts v (List.mem_cons_of_mem _ member)) completed

theorem take_whole (held next : Held) (l : Lexeme) (whole : held.Whole) (taken : held.take l = some next) :
    next.Whole := by
  cases taken_cases held next l taken with
  | inl isNumber =>
      obtain ⟨literal, rfl, -, rfl⟩ := isNumber
      refine ⟨?_, whole.lefts⟩
      rintro e ⟨⟩
      rfl
  | inr isOperator =>
      obtain ⟨o, operand, rfl, full, rfl⟩ := isOperator
      obtain ⟨popped, kept, split, folded, -, -⟩ := fold_pops o.rank held.stack operand
      have lefts := whole.lefts
      rw [split] at lefts
      rw [folded]
      refine ⟨by simp, ?_⟩
      intro w member
      cases List.mem_cons.mp member with
      | inl first =>
          rw [first]
          exact close_complete popped operand (fun v waits => lefts v (List.mem_append_left _ waits))
            (whole.operand operand full)
      | inr later => exact lefts w (List.mem_append_right _ later)

theorem take_all_whole (held : Held) (ls : List Lexeme) (taken : nothingHeld.takeAll ls = some held) : held.Whole :=
  take_all_keeps (fun held _ => held.Whole) nothingHeld held [] ls ⟨by simp [nothingHeld], by simp [nothingHeld]⟩
    (fun held next _ l _ whole step => take_whole held next l whole step) taken

inductive Held.EndsWith (held : Held) : List Lexeme → Prop where
  | nothing (empty : held.operand = none) : EndsWith held []
  | operator (front : List Lexeme) (o : Operator) (empty : held.operand = none) :
      EndsWith held (front ++ [.operator o])
  | number (front : List Lexeme) (literal : List Char) (full : held.operand = some (.literal (String.ofList literal))) :
      EndsWith held (front ++ [.number literal])

theorem take_ends (held next : Held) (front : List Lexeme) (l : Lexeme) (taken : held.take l = some next) :
    next.EndsWith (front ++ [l]) := by
  cases taken_cases held next l taken with
  | inl isNumber =>
      obtain ⟨literal, rfl, -, rfl⟩ := isNumber
      exact .number front literal rfl
  | inr isOperator =>
      obtain ⟨o, operand, rfl, -, rfl⟩ := isOperator
      exact .operator front o rfl

theorem take_all_ends (held : Held) (ls : List Lexeme) (taken : nothingHeld.takeAll ls = some held) :
    held.EndsWith ls :=
  take_all_keeps Held.EndsWith nothingHeld held [] ls (.nothing rfl)
    (fun held next front l _ _ step => take_ends held next front l step) taken

theorem empty_operand_iff (held : Held) (ls : List Lexeme) (apart : ∀ l ∈ ls, Apart [l]) (ends : held.EndsWith ls) :
    held.operand = none ↔
      Lexeme.joined ls = [] ∨ ∃ front o, Lexeme.joined ls = front ++ [Operator.symbol o] := by
  cases ends with
  | nothing empty => simp [empty, Lexeme.joined]
  | operator front o empty =>
      refine iff_of_true empty (.inr ⟨Lexeme.joined front, o, ?_⟩)
      rw [Lexeme.joined_append]
      rfl
  | number front literal full =>
      have number : IsNumber literal := (apart _ (List.mem_append_right _ List.mem_cons_self)).1
      have joined : Lexeme.joined (front ++ [.number literal]) = Lexeme.joined front ++ literal := by
        rw [Lexeme.joined_append, Lexeme.joined_cons]
        exact congrArg _ (List.append_nil _)
      rw [full, joined]
      refine iff_of_false (by simp) ?_
      rintro (empty | ⟨before, o, same⟩)
      · exact number_ne_nil literal number (List.append_eq_nil_iff.mp empty).2
      · have last : literal.getLast? = some o.symbol := by
          have whole := congrArg List.getLast? same
          rw [List.getLast?_append, List.getLast?_concat] at whole
          cases read : literal.getLast? with
          | none => exact absurd (List.getLast?_eq_none_iff.mp read) (number_ne_nil literal number)
          | some c => rwa [read] at whole
        have starts := number_characters literal number o.symbol (List.mem_of_getLast? last)
        rw [(Lexeme.symbol_starts_nothing o).1] at starts
        contradiction

theorem depth_bound (stack : List Waiting)
    (ranks : stack.Pairwise fun inner outer => outer.operator.rank < inner.operator.rank) : stack.length ≤ 2 := by
  match stack with
  | [] => exact Nat.zero_le 2
  | [_] => exact Nat.le_succ 1
  | [_, _] => exact Nat.le_refl 2
  | top :: middle :: bottom :: _ =>
      have upper := List.rel_of_pairwise_cons ranks List.mem_cons_self
      have lower := List.rel_of_pairwise_cons (List.pairwise_cons.mp ranks).2 List.mem_cons_self
      have adds := ((rank_lt_iff _ _).mp upper).1
      rw [((rank_lt_iff _ _).mp lower).2] at adds
      contradiction

def State.rendered (s : State) : String :=
  String.join (s.stack.reverse.map fun w => w.expr.render) ++ (s.operand.map Expr.render).getD ""

theorem waiting_rendered (stack : List Waiting) :
    (String.join (stack.reverse.map fun w => w.expr.render)).toList = Lexeme.joined (waitingLexemes stack) := by
  induction stack with
  | nil => rfl
  | cons w outer ih =>
      rw [List.reverse_cons, List.map_append, String.join_append, String.toList_append, ih, waitingLexemes,
        Lexeme.joined_append, ← Expr.text_joined, ← Expr.render_text]
      simp

theorem state_rendered (s : State) : s.rendered.toList = Lexeme.joined s.held.lexemes := by
  obtain ⟨cursor, operand, stack⟩ := s
  rw [State.rendered, String.toList_append, waiting_rendered]
  cases operand with
  | none =>
      change Lexeme.joined (waitingLexemes stack) ++ [] = Lexeme.joined (waitingLexemes stack ++ [])
      rw [List.append_nil, List.append_nil]
  | some e =>
      change _ ++ e.render.toList = Lexeme.joined (waitingLexemes stack ++ e.lexemes)
      rw [Lexeme.joined_append, ← Expr.text_joined, Expr.render_text]

structure State.Invariant (s : State) (text : List Char) : Prop where
  whole : s.cursor.text = text
  ranks : (s.stack.reverse.map fun w => w.operator.rank).Pairwise (· < ·)
  depth : s.stack.length ≤ 2
  waiting : ∀ node ∈ s.stack.map Waiting.expr, ∃ left o, node = .incomplete left o ∧ left.isComplete = true ∧
    ∀ inner, Lexeme.operator inner ∈ left.lexemes → o.rank ≤ inner.rank
  pending : ∀ e, s.operand = some e → ∃ literal, e = .literal literal
  rendered : s.rendered.toList = withoutBlanks s.cursor.passed
  due : s.operand = none ↔ withoutBlanks s.cursor.passed = [] ∨
    ∃ front o, withoutBlanks s.cursor.passed = front ++ [Operator.symbol o]
  grounded : s.stack = [] → s.operand = none → withoutBlanks s.cursor.passed = []

theorem follows_invariant (s : State) (text : List Char) (taken : List Lexeme) (follows : s.Follows text taken) :
    s.Invariant text := by
  have built := take_all_built s.held taken follows.held
  have whole := take_all_whole s.held taken follows.held
  have ends := take_all_ends s.held taken follows.held
  constructor
  · exact follows.whole
  · rw [List.map_reverse, List.pairwise_reverse, List.pairwise_map]
    exact built.ranks
  · exact depth_bound s.stack built.ranks
  · intro node member
    obtain ⟨w, waits, rfl⟩ := List.mem_map.mp member
    exact ⟨w.left, w.operator, rfl, whole.lefts w waits, built.tight w waits⟩
  · exact built.single
  · rw [state_rendered, built.lexemes, follows.passed]
  · rw [follows.passed]
    exact empty_operand_iff s.held taken follows.apart ends
  · intro emptyStack emptyHanded
    rw [follows.passed]
    cases taken with
    | nil => rfl
    | cons l ls =>
        have something := take_all_something nothingHeld s.held (l :: ls) (List.cons_ne_nil l ls) follows.held
        cases something with
        | inl full =>
            rw [show s.held.operand = none from emptyHanded] at full
            contradiction
        | inr waits => exact absurd emptyStack waits

theorem end_not_empty (s : State) (text : List Char) (invariant : s.Invariant text)
    (notBlank : Text.allBlank text = false) (ended : s.cursor.current? = none) (empty : s.stack = []) :
    s.operand.isSome = true := by
  cases operand : s.operand with
  | some e => rfl
  | none =>
      have nothing := invariant.grounded empty operand
      rw [Cursor.passed_all s.cursor ended, invariant.whole, withoutBlanks, List.filter_eq_nil_iff] at nothing
      have blank : Text.allBlank text = true := List.all_eq_true.mpr fun c member => by simpa using nothing c member
      rw [blank] at notBlank
      contradiction

end Parser

theorem scan_invariant (text : String) (turns : Nat) (s : Parser.State)
    (scanned : Parser.scan turns (Parser.start text.toList) = .ok s) :
    s.Invariant text.toList ∧
      (Text.allBlank text.toList = false → s.cursor.current? = none → s.stack = [] → s.operand.isSome = true) ∧
      ∀ more, Parser.scan (turns + more) (Parser.start text.toList) = Parser.scan more s := by
  obtain ⟨taken, follows⟩ := Parser.scan_follows text.toList turns s scanned
  have invariant := Parser.follows_invariant s text.toList taken follows
  exact ⟨invariant, Parser.end_not_empty s text.toList invariant,
    fun more => Parser.scan_later turns more _ s scanned⟩

theorem scan_invariant_in_product :
    (∃ s, Parser.scan 5 (Parser.start " 1-2*3".toList) = .ok s ∧ s.stack.length = 2 ∧ s.operand = none ∧
      s.Invariant " 1-2*3".toList) ∧
      ∃ s, Parser.scan 1 (Parser.start "7".toList) = .ok s ∧ s.cursor.current? = none ∧ s.stack = [] ∧
        s.operand.isSome = true :=
  ⟨⟨_, rfl, rfl, rfl, (scan_invariant " 1-2*3" 5 _ rfl).1⟩,
    ⟨_, rfl, rfl, rfl, (scan_invariant "7" 1 _ rfl).2.1 rfl rfl rfl⟩⟩

end Reckoner
