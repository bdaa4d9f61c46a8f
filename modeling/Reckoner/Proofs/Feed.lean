import Reckoner.Proofs.Lexeme

set_option autoImplicit false

namespace Reckoner

namespace Lexeme

def placed (position : Nat) : List Char → List (Nat × Lexeme)
  | [] => []
  | c :: rest =>
      match front : front? c rest with
      | none => placed (position + 1) rest
      | some l => (position, l) :: placed (position + l.chars.length) ((c :: rest).drop l.chars.length)
termination_by cs => cs.length
decreasing_by
  · simp
  · have positive := front_length_pos c rest l front
    simp only [List.length_drop, List.length_cons]
    omega

theorem placed_blank (position : Nat) (c : Char) (rest : List Char) (blank : Text.isBlank c = true) :
    placed position (c :: rest) = placed (position + 1) rest := by
  rw [placed, front_blank c rest blank]

theorem placed_lexeme (position : Nat) (l : Lexeme) (behind : List Char) (fits : l.Fits behind) :
    placed position (l.chars ++ behind) = (position, l) :: placed (position + l.chars.length) behind := by
  cases split : l.chars ++ behind with
  | nil => exact absurd (List.append_eq_nil_iff.mp split).1 (fits_ne_nil l behind fits)
  | cons c rest =>
      rw [placed, front_of_fits l c rest behind split.symm fits]
      simp [← split]

theorem placed_blanks (position : Nat) (blanks rest : List Char) (allBlank : Text.allBlank blanks = true) :
    placed position (blanks ++ rest) = placed (position + blanks.length) rest := by
  induction blanks generalizing position with
  | nil => rfl
  | cons c tail ih =>
      obtain ⟨blank, others⟩ := Bool.and_eq_true_iff.mp allBlank
      rw [List.cons_append, placed_blank position c _ blank, ih (position + 1) others, List.length_cons]
      congr 1
      omega

theorem fits_head (l : Lexeme) (c : Char) (rest behind : List Char) (split : c :: rest = l.chars ++ behind)
    (fits : l.Fits behind) : ∃ tail, l.chars = c :: tail := by
  cases chars : l.chars with
  | nil => exact absurd chars (fits_ne_nil l behind fits)
  | cons d tail =>
      rw [chars, List.cons_append] at split
      exact ⟨tail, by rw [(List.cons.inj split).1]⟩

theorem fits_not_blank (l : Lexeme) (behind : List Char) (fits : l.Fits behind) :
    ∃ c tail, l.chars = c :: tail ∧ Text.isBlank c = false := by
  cases split : l.chars with
  | nil => exact absurd split (fits_ne_nil l behind fits)
  | cons c tail =>
      refine ⟨c, tail, rfl, ?_⟩
      rw [Bool.eq_false_iff]
      intro blank
      have front := front_of_fits l c (tail ++ behind) behind (by rw [split, List.cons_append]) fits
      rw [front_blank c _ blank] at front
      exact absurd front (by simp)

theorem placed_nil_iff (position : Nat) (cs : List Char) : placed position cs = [] ↔ Text.allBlank cs = true := by
  induction cs using text_induction generalizing position with
  | nil => simp [placed, Text.allBlank]
  | blank c rest blank ih =>
      rw [placed_blank position c rest blank, ih]
      simp [Text.allBlank, blank]
  | lexeme l behind fits ih =>
      obtain ⟨c, tail, split, notBlank⟩ := fits_not_blank l behind fits
      rw [placed_lexeme position l behind fits, split]
      simp [Text.allBlank, notBlank]

end Lexeme

namespace Parser

structure Held where
  operand : Option Expr
  stack : List Waiting
deriving DecidableEq

def State.held (s : State) : Held := ⟨s.operand, s.stack⟩

def nothingHeld : Held := ⟨none, []⟩

def Held.take : Held → Lexeme → Option Held
  | ⟨none, stack⟩, .number literal => some ⟨some (.literal (String.ofList literal)), stack⟩
  | ⟨some operand, stack⟩, .operator o =>
      some ⟨none, ⟨(fold o.rank stack operand).1, o⟩ :: (fold o.rank stack operand).2⟩
  | _, _ => none

def feed : Held → List (Nat × Lexeme) → Except ParseError Held
  | held, [] => .ok held
  | held, (position, l) :: rest =>
      match held.take l with
      | some next => feed next rest
      | none => .error (l.fault position)

def conclude : Except ParseError Held → Except ParseError Expr
  | .error e => .error e
  | .ok held => finish held.stack held.operand

theorem step_blank (s : State) (c : Char) (blank : Text.isBlank c = true) :
    step s c = .ok { s with cursor := s.cursor.next } := by
  obtain ⟨noStart, noOperator⟩ := Lexeme.blank_starts_nothing c blank
  simp [step, noStart, noOperator, blank]

theorem step_lexeme (s : State) (l : Lexeme) (c : Char) (tail behind : List Char) (fits : l.Fits behind)
    (rest : s.cursor.rest = l.chars ++ behind) (first : l.chars = c :: tail) :
    step s c = match s.held.take l with
      | some next => .ok ⟨s.cursor.advance l.chars.length, next.operand, next.stack⟩
      | none => .error (l.fault s.cursor.position) := by
  cases l with
  | number literal =>
      have starts := number_starts c tail (first ▸ fits.1)
      have scan := scan_of_ahead _ _ (.found literal behind fits.1 fits.2)
      rw [Lexeme.chars] at rest
      cases held : s.operand <;>
        simp [step, starts, stepNumber, Cursor.readNumber, rest, scan, held, State.held, Held.take, failAt, Lexeme.fault,
          Lexeme.chars]
  | openNumber literal =>
      have starts := open_number_starts c tail (first ▸ fits.1)
      have scan := scan_of_ahead _ _ (.openPoint literal behind fits.1 fits.2)
      rw [Lexeme.chars] at rest
      cases held : s.operand <;>
        simp [step, starts, stepNumber, Cursor.readNumber, rest, scan, held, State.held, Held.take, Lexeme.fault,
          Cursor.advance]
  | operator o =>
      obtain ⟨rfl, -⟩ := List.cons.inj first
      cases held : s.operand <;>
        simp [step, (Lexeme.symbol_starts_nothing o).1, Lexeme.symbol_operator, stepOperator, held, State.held,
          Held.take, failAt, Lexeme.fault, Lexeme.chars, Cursor.next]
  | stray d =>
      obtain ⟨rfl, -⟩ := List.cons.inj first
      obtain ⟨noStart, noOperator, noBlank⟩ := fits
      cases held : s.operand <;>
        simp [step, noStart, noOperator, noBlank, held, State.held, Held.take, failAt, Lexeme.fault]

theorem scan_feed (turns : Nat) (s : State) (enough : s.cursor.rest.length ≤ turns) :
    (scan turns s).map State.held = feed s.held (Lexeme.placed s.cursor.position s.cursor.rest) := by
  induction turns generalizing s with
  | zero =>
      have ended := List.length_eq_zero_iff.mp (Nat.le_zero.mp enough)
      simp [scan, ended, Lexeme.placed, feed, Except.map]
  | succ turns ih =>
      cases ahead : s.cursor.rest with
      | nil => simp [scan, Cursor.current?, ahead, Lexeme.placed, feed, Except.map]
      | cons c rest =>
          rw [ahead, List.length_cons] at enough
          have current : s.cursor.current? = some c := by rw [Cursor.current?, ahead, List.head?_cons]
          rcases Lexeme.front_cases c rest with blank | ⟨l, behind, split, fits⟩
          · have passed : s.cursor.next.rest = rest := by simp [Cursor.next, Cursor.advance, ahead]
            simp only [scan, current, step_blank s c blank]
            rw [ih _ (by rw [passed]; omega), passed, Lexeme.placed_blank _ c rest blank]
            rfl
          · obtain ⟨tail, first⟩ := Lexeme.fits_head l c rest behind split fits
            have passed : (s.cursor.advance l.chars.length).rest = behind := by
              simp [Cursor.advance, ahead, split]
            simp only [scan, current, step_lexeme s l c tail behind fits (ahead.trans split) first]
            rw [split, Lexeme.placed_lexeme _ l behind fits, feed]
            cases taken : s.held.take l with
            | none => rfl
            | some next =>
                have shorter : behind.length ≤ turns := by
                  have whole := congrArg List.length split
                  rw [first] at whole
                  simp at whole
                  omega
                simp only
                rw [ih _ (by rw [passed]; exact shorter), passed]
                rfl

theorem taken_cases (held next : Held) (l : Lexeme) (taken : held.take l = some next) :
    (∃ literal, l = .number literal ∧ held.operand = none ∧ next = ⟨some (.literal (String.ofList literal)), held.stack⟩) ∨
      ∃ o operand, l = .operator o ∧ held.operand = some operand ∧
        next = ⟨none, ⟨(fold o.rank held.stack operand).1, o⟩ :: (fold o.rank held.stack operand).2⟩ := by
  obtain ⟨operand, stack⟩ := held
  cases operand with
  | none =>
      cases l with
      | number literal => exact .inl ⟨literal, rfl, rfl, (Option.some.inj taken).symm⟩
      | operator o => simp [Held.take] at taken
      | openNumber literal => simp [Held.take] at taken
      | stray c => simp [Held.take] at taken
  | some e =>
      cases l with
      | operator o => exact .inr ⟨o, e, rfl, rfl, (Option.some.inj taken).symm⟩
      | number literal => simp [Held.take] at taken
      | openNumber literal => simp [Held.take] at taken
      | stray c => simp [Held.take] at taken

def Held.takeAll : Held → List Lexeme → Option Held
  | held, [] => some held
  | held, l :: ls =>
      match held.take l with
      | some next => next.takeAll ls
      | none => none

theorem take_all_keeps (Keeps : Held → List Lexeme → Prop) (held result : Held) (taken ls : List Lexeme)
    (start : Keeps held taken)
    (step : ∀ held next taken l, l ∈ ls → Keeps held taken → held.take l = some next → Keeps next (taken ++ [l]))
    (takes : held.takeAll ls = some result) : Keeps result (taken ++ ls) := by
  induction ls generalizing held taken with
  | nil =>
      obtain rfl := Option.some.inj takes
      rwa [List.append_nil]
  | cons l tail ih =>
      rw [Held.takeAll] at takes
      cases first : held.take l with
      | none => simp [first] at takes
      | some next =>
          rw [first] at takes
          have kept := step held next taken l List.mem_cons_self start first
          have later := ih next (taken ++ [l]) kept
            (fun held next taken l member => step held next taken l (List.mem_cons_of_mem _ member)) takes
          rwa [List.append_assoc] at later

theorem take_all_append (held : Held) (front behind : List Lexeme) :
    held.takeAll (front ++ behind) = (held.takeAll front).bind fun next => next.takeAll behind := by
  induction front generalizing held with
  | nil => rfl
  | cons l tail ih =>
      rw [List.cons_append, Held.takeAll, Held.takeAll]
      cases held.take l with
      | none => rfl
      | some next => exact ih next

def closeAll (stack : List Waiting) (operand : Expr) : Expr := stack.foldl (fun right w => w.complete right) operand

theorem feed_ok_iff (held result : Held) (lexemes : List (Nat × Lexeme)) :
    feed held lexemes = .ok result ↔ held.takeAll (lexemes.map Prod.snd) = some result := by
  induction lexemes generalizing held with
  | nil => simp [feed, Held.takeAll]
  | cons head tail ih =>
      obtain ⟨position, l⟩ := head
      cases taken : held.take l with
      | none => simp [feed, Held.takeAll, taken]
      | some next => simpa [feed, Held.takeAll, taken] using ih next

theorem feed_fault (held : Held) (ls : List (Nat × Lexeme)) (e : ParseError) (failed : feed held ls = .error e) :
    ∃ l position, e = Lexeme.fault position l := by
  induction ls generalizing held with
  | nil => contradiction
  | cons entry tail ih =>
      obtain ⟨position, l⟩ := entry
      rw [feed] at failed
      cases step : held.take l with
      | none =>
          rw [step] at failed
          exact ⟨l, position, (Except.error.inj failed).symm⟩
      | some next =>
          rw [step] at failed
          exact ih next failed

theorem finish_operand (stack : List Waiting) (operand : Expr) :
    finish stack (some operand) = .ok (closeAll stack operand) := by
  induction stack generalizing operand with
  | nil => rfl
  | cons w tail ih => exact ih (w.complete operand)

theorem finish_ok_iff (stack : List Waiting) (operand : Option Expr) (tree : Expr) :
    finish stack operand = .ok tree ↔ ∃ e, operand = some e ∧ closeAll stack e = tree := by
  cases operand with
  | none => cases stack <;> simp [finish]
  | some e => simp [finish_operand]

def Held.Something (held : Held) : Prop := held.operand.isSome = true ∨ held.stack ≠ []

theorem take_something (held next : Held) (l : Lexeme) (taken : held.take l = some next) : next.Something := by
  rcases taken_cases held next l taken with ⟨literal, -, -, rfl⟩ | ⟨o, operand, -, -, rfl⟩
  · exact .inl rfl
  · exact .inr (by simp)

theorem take_all_something (held result : Held) (ls : List Lexeme) (nonempty : ls ≠ [])
    (taken : held.takeAll ls = some result) : result.Something := by
  have kept := take_all_keeps (fun held taken => taken = [] ∨ held.Something) held result [] ls (.inl rfl)
    (fun _ next _ l _ _ step => .inr (take_something _ next l step)) taken
  exact kept.resolve_left nonempty

theorem scan_something (cs : List Char) (s : State) (notBlank : Text.allBlank cs = false)
    (scanned : scan cs.length (start cs) = .ok s) : s.held.Something := by
  have fed := scan_feed cs.length (start cs) (Nat.le_refl _)
  rw [scanned] at fed
  have taken := (feed_ok_iff _ _ _).mp fed.symm
  refine take_all_something _ _ _ ?_ taken
  intro empty
  have blank := (Lexeme.placed_nil_iff _ cs).mp (List.map_eq_nil_iff.mp empty)
  simp [notBlank] at blank

end Parser

theorem parse_chars_feed (cs : List Char) :
    parseChars cs = Parser.conclude (Parser.feed Parser.nothingHeld (Lexeme.placed 0 cs)) := by
  by_cases blank : Text.allBlank cs = true
  · rw [parseChars, if_pos blank, (Lexeme.placed_nil_iff 0 cs).mpr blank]
    rfl
  · have scanned : (Parser.scan cs.length (Parser.start cs)).map Parser.State.held =
        Parser.feed Parser.nothingHeld (Lexeme.placed 0 cs) := Parser.scan_feed _ _ (Nat.le_refl _)
    rw [parseChars, if_neg blank, ← scanned]
    cases Parser.scan cs.length (Parser.start cs) <;> rfl

theorem parse_chars_ok_iff (cs : List Char) (tree : Expr) :
    parseChars cs = .ok tree ↔
      ∃ e stack, Parser.nothingHeld.takeAll ((Lexeme.placed 0 cs).map Prod.snd) = some ⟨some e, stack⟩ ∧
        Parser.closeAll stack e = tree := by
  rw [parse_chars_feed]
  constructor
  · intro accepted
    cases fed : Parser.feed Parser.nothingHeld (Lexeme.placed 0 cs) with
    | error e => simp [fed, Parser.conclude] at accepted
    | ok held =>
        rw [fed, Parser.conclude, Parser.finish_ok_iff] at accepted
        obtain ⟨e, operand, closed⟩ := accepted
        obtain ⟨_, stack⟩ := held
        obtain rfl := operand
        exact ⟨e, stack, (Parser.feed_ok_iff _ _ _).mp fed, closed⟩
  · rintro ⟨e, stack, taken, closed⟩
    rw [(Parser.feed_ok_iff _ _ _).mpr taken, Parser.conclude, Parser.finish_operand, closed]

end Reckoner
