import Reckoner.Proofs.Spelling

set_option autoImplicit false

namespace Reckoner

def Parted (front behind : List Char) : Prop :=
  ∀ c d, front.getLast? = some c → behind.head? = some d → startsNumber c = false ∨ startsNumber d = false

theorem parted_later (before front behind : List Char) (parted : Parted (before ++ front) behind) :
    Parted front behind := by
  intro c d last next
  exact parted c d (by rw [List.getLast?_append, last, Option.some_or]) next

theorem parted_blanks (front blanks behind : List Char) (allBlank : Text.allBlank blanks = true)
    (parted : Parted front behind) : Parted front (blanks ++ behind) := by
  intro c d last next
  cases blank_head blanks behind d allBlank next with
  | inl blank => exact .inr (Lexeme.blank_starts_nothing d blank).1
  | inr ahead => exact parted c d last ahead

theorem continues_starts (literal : List Char) (c : Char) (continues : Continues literal c) : startsNumber c = true := by
  cases continues with
  | inl digit => rw [startsNumber, digit, Bool.or_true]
  | inr point => rw [point.1]; rfl

namespace Lexeme

theorem fits_ahead (l : Lexeme) (behind other : List Char) (same : behind.head? = other.head?) (fits : l.Fits behind) :
    l.Fits other := by
  cases l with
  | number literal => exact ⟨fits.1, same ▸ fits.2⟩
  | operator o => trivial
  | openNumber literal =>
      refine ⟨fits.1, ?_⟩
      intro c ahead
      exact fits.2 c (same.trans ahead)
  | stray c => exact fits

theorem fits_parted (l : Lexeme) (behind : List Char) (fits : l.Fits []) (parted : Parted l.chars behind) :
    l.Fits behind := by
  cases l with
  | operator o => trivial
  | stray c => exact fits
  | number literal =>
      refine ⟨fits.1, ?_⟩
      intro c ahead continues
      have nonempty := number_ne_nil literal fits.1
      have inside := number_characters literal fits.1 _ (List.getLast_mem nonempty)
      cases parted _ c (List.getLast?_eq_some_getLast nonempty) ahead with
      | inl nothing =>
          rw [inside] at nothing
          contradiction
      | inr nothing =>
          rw [continues_starts literal c continues] at nothing
          contradiction
  | openNumber literal =>
      refine ⟨fits.1, ?_⟩
      intro c ahead
      obtain ⟨whole, rfl, -⟩ := fits.1
      have last : (whole ++ ['.']).getLast? = some '.' := by simp
      cases parted '.' c last ahead with
      | inl nothing => contradiction
      | inr nothing => exact (Bool.or_eq_false_iff.mp nothing).2

theorem placed_parted (position : Nat) (front behind : List Char) (parted : Parted front behind) :
    placed position (front ++ behind) = placed position front ++ placed (position + front.length) behind := by
  induction front using text_induction generalizing position with
  | nil => simp [placed]
  | blank c rest blank ih =>
      have later := ih (position + 1) (parted_later [c] rest behind parted)
      rw [List.cons_append, placed_blank position c _ blank, placed_blank position c rest blank, later, List.length_cons,
        Nat.add_right_comm, Nat.add_assoc]
  | lexeme l after fits ih =>
      have later := ih (position + l.chars.length) (parted_later l.chars after behind parted)
      have fitsBoth : l.Fits (after ++ behind) := by
        cases after with
        | nil => exact fits_parted l behind fits (by simpa using parted)
        | cons d rest => exact fits_ahead l (d :: rest) _ rfl fits
      rw [List.append_assoc, placed_lexeme position l _ fitsBoth, placed_lexeme position l after fits, later,
        List.length_append, Nat.add_assoc, List.cons_append]

def shifted (place count position : Nat) : Nat := if place ≤ position then position + count else position

def shift (place count : Nat) (entry : Nat × Lexeme) : Nat × Lexeme := (shifted place count entry.1, entry.2)

theorem placed_later (position count : Nat) (cs : List Char) :
    placed (position + count) cs = (placed position cs).map fun entry => (entry.1 + count, entry.2) := by
  induction cs using text_induction generalizing position with
  | nil => simp [placed]
  | blank c rest blank ih =>
      rw [placed_blank _ c rest blank, placed_blank _ c rest blank, Nat.add_right_comm, ih]
  | lexeme l behind fits ih =>
      rw [placed_lexeme _ l behind fits, placed_lexeme _ l behind fits, Nat.add_right_comm, ih]
      rfl

theorem placed_range (position place : Nat) (l : Lexeme) (cs : List Char) (member : (place, l) ∈ placed position cs) :
    position ≤ place ∧ place < position + cs.length := by
  induction cs using text_induction generalizing position with
  | nil => simp [placed] at member
  | blank c rest blank ih =>
      rw [placed_blank position c rest blank] at member
      have range := ih (position + 1) member
      rw [List.length_cons]
      omega
  | lexeme first behind fits ih =>
      rw [placed_lexeme position first behind fits] at member
      have positive := List.length_pos_iff.mpr (fits_ne_nil first behind fits)
      rw [List.length_append]
      cases List.mem_cons.mp member with
      | inl same =>
          obtain ⟨rfl, -⟩ := Prod.mk.inj same
          omega
      | inr later =>
          have range := ih _ later
          omega

theorem placed_inserted (front blanks behind : List Char) (allBlank : Text.allBlank blanks = true)
    (parted : Parted front behind) :
    placed 0 (front ++ (blanks ++ behind)) = (placed 0 (front ++ behind)).map (shift front.length blanks.length) := by
  have before : (placed 0 front).map (shift front.length blanks.length) = placed 0 front := by
    refine (List.map_congr_left ?_).trans (List.map_id _)
    intro entry member
    have range := placed_range 0 entry.1 entry.2 front member
    rw [shift, shifted, if_neg (by omega), id]
  have after : (placed front.length behind).map (shift front.length blanks.length) =
      placed (front.length + blanks.length) behind := by
    rw [placed_later]
    apply List.map_congr_left
    intro entry member
    rw [shift, shifted, if_pos (placed_range _ entry.1 entry.2 behind member).1]
  rw [placed_parted 0 front _ (parted_blanks front blanks behind allBlank parted), placed_parted 0 front behind parted,
    placed_blanks _ blanks behind allBlank, Nat.zero_add, List.map_append, before, after]

end Lexeme

namespace ParseError

def tokenStart (e : ParseError) (position : Int) : Int :=
  match e.cause with
  | .missingFractionalDigit literal => position - literal.length
  | _ => position

def pushed (place count : Nat) (e : ParseError) : ParseError :=
  { e with
    position := e.position.map fun position => if place ≤ e.tokenStart position then position + count else position }

theorem fault_start (l : Lexeme) (position : Nat) :
    ∃ told, (l.fault position).position = some told ∧ (l.fault position).tokenStart told = position := by
  cases l with
  | number literal => exact ⟨position, rfl, rfl⟩
  | operator o => exact ⟨position, rfl, rfl⟩
  | stray c => exact ⟨position, rfl, rfl⟩
  | openNumber literal =>
      refine ⟨_, rfl, ?_⟩
      simp [tokenStart, Lexeme.fault]

theorem fault_moved (l : Lexeme) (position count : Nat) :
    (l.fault (position + count)).cause = (l.fault position).cause ∧
      (l.fault (position + count)).position = (l.fault position).position.map fun told : Int => told + count := by
  cases l with
  | number literal => exact ⟨rfl, rfl⟩
  | operator o => exact ⟨rfl, rfl⟩
  | stray c => exact ⟨rfl, rfl⟩
  | openNumber literal => exact ⟨rfl, congrArg some (congrArg Int.ofNat (Nat.add_right_comm position count _))⟩

theorem fault_pushed (l : Lexeme) (place position count : Nat) :
    (l.fault position).pushed place count = l.fault (Lexeme.shifted place count position) := by
  obtain ⟨told, tells, start⟩ := fault_start l position
  rw [pushed, tells, Option.map_some, start, Lexeme.shifted]
  by_cases behind : place ≤ position
  · obtain ⟨cause, moved⟩ := fault_moved l position count
    rw [tells, Option.map_some] at moved
    rw [if_pos (Int.ofNat_le.mpr behind), if_pos behind, ← cause, ← moved]
  · rw [if_neg (by omega), if_neg behind, ← tells]

theorem placeless_pushed (e : ParseError) (place count : Nat) (placeless : e.position = none) :
    e.pushed place count = e := by
  rw [pushed, placeless, Option.map_none, ← placeless]

end ParseError

namespace Parser

theorem feed_shifted (held : Held) (ls : List (Nat × Lexeme)) (place count : Nat) :
    feed held (ls.map (Lexeme.shift place count)) = (feed held ls).mapError (·.pushed place count) := by
  induction ls generalizing held with
  | nil => rfl
  | cons entry tail ih =>
      obtain ⟨position, l⟩ := entry
      rw [List.map_cons, Lexeme.shift, feed, feed]
      cases held.take l with
      | none => exact congrArg Except.error (ParseError.fault_pushed l place position count).symm
      | some next => exact ih next

theorem finish_placeless (stack : List Waiting) (operand : Option Expr) (e : ParseError)
    (unfinished : finish stack operand = .error e) : e.position = none := by
  cases operand with
  | some full =>
      rw [finish_operand] at unfinished
      contradiction
  | none => cases stack <;> exact Except.error.inj unfinished ▸ rfl

theorem conclude_pushed (outcome : Except ParseError Held) (place count : Nat) :
    conclude (outcome.mapError (·.pushed place count)) = (conclude outcome).mapError (·.pushed place count) := by
  cases outcome with
  | error e => rfl
  | ok held =>
      change finish held.stack held.operand = (finish held.stack held.operand).mapError _
      cases finished : finish held.stack held.operand with
      | ok tree => rfl
      | error e =>
          have placeless := finish_placeless _ _ e finished
          exact congrArg Except.error (ParseError.placeless_pushed e place count placeless).symm

end Parser

theorem blanks_between (front blanks behind : List Char) (allBlank : Text.allBlank blanks = true)
    (parted : Parted front behind) :
    parseChars (front ++ (blanks ++ behind)) =
      (parseChars (front ++ behind)).mapError (·.pushed front.length blanks.length) := by
  rw [parse_chars_feed, parse_chars_feed, Lexeme.placed_inserted front blanks behind allBlank parted,
    Parser.feed_shifted, Parser.conclude_pushed]

theorem parted_at (cs : List Char) (p : Nat)
    (between : p = 0 ∨ p = cs.length ∨ ∀ c d, cs[p - 1]? = some c → cs[p]? = some d →
      startsNumber c = false ∨ startsNumber d = false) : Parted (cs.take p) (cs.drop p) := by
  intro c d last next
  rw [List.head?_drop] at next
  obtain ⟨inside, -⟩ := List.getElem?_eq_some_iff.mp next
  rcases between with rfl | rfl | apart
  · simp at last
  · exact absurd inside (Nat.lt_irrefl _)
  · have nonzero : p ≠ 0 := by
      rintro rfl
      simp at last
    have filled : cs[p - 1]? = some cs[p - 1] := List.getElem?_eq_getElem (by omega)
    rw [List.getLast?_take, if_neg nonzero, filled, Option.some_or, ← filled] at last
    exact apart c d last next

def inserted (t w : String) (p : Nat) : String := String.ofList (t.toList.take p ++ (w.toList ++ t.toList.drop p))

theorem parse_ignores_blanks (t w : String) (p : Nat) (within : p ≤ t.length) (blank : Text.allBlank w.toList = true)
    (between : p = 0 ∨ p = t.length ∨ ∀ c d, t.toList[p - 1]? = some c → t.toList[p]? = some d →
      startsNumber c = false ∨ startsNumber d = false) :
    match parse t with
    | .ok tree => parse (inserted t w p) = .ok tree
    | .error e => parse (inserted t w p) = .error (e.pushed p w.length) := by
  rw [← String.length_toList] at within between
  have outcome := blanks_between (t.toList.take p) w.toList (t.toList.drop p) blank (parted_at t.toList p between)
  rw [List.take_append_drop, List.length_take, Nat.min_eq_left within, String.length_toList] at outcome
  simp only [parse, inserted, String.toList_ofList, outcome]
  cases parseChars t.toList <;> rfl

theorem parse_ignores_blanks_at_open_number :
    parse "3*.5 7." = .error ⟨.missingFractionalDigit "7.", some 7⟩ ∧
      parse "3*.5\t\u2003 7." = .error ⟨.missingFractionalDigit "7.", some 9⟩ ∧
      parse "3*.5 7.\n" = .error ⟨.missingFractionalDigit "7.", some 7⟩ := by
  have rejected : parse "3*.5 7." = .error ⟨.missingFractionalDigit "7.", some 7⟩ := rfl
  have before := parse_ignores_blanks "3*.5 7." "\t\u2003" 4 (by decide) rfl (.inr (.inr fun c d _ next => by
    obtain rfl : ' ' = d := Option.some.inj next
    exact .inr rfl))
  have behind := parse_ignores_blanks "3*.5 7." "\n" 7 (by decide) rfl (.inr (.inl rfl))
  rw [rejected] at before behind
  exact ⟨rejected, before, behind⟩

end Reckoner
