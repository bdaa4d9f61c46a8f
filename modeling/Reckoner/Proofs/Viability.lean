import Mathlib.Order.Bounds.Defs
import Reckoner.Proofs.Mode

set_option autoImplicit false

namespace Reckoner

namespace Parser

inductive Stuck (m : Mode) (position : Nat) : List Char → ParseError → Prop where
  | intro (before behind : List Char) (l : Lexeme) (held : Held) (m' : Mode) (fits : l.Fits behind)
      (reached : m.run before = some m') (agrees : held.Agrees m' (l.chars ++ behind)) (blocked : held.take l = none) :
      Stuck m position (before ++ (l.chars ++ behind)) (l.fault (position + before.length))

theorem stuck_later (m m' : Mode) (position : Nat) (front cs : List Char) (e : ParseError)
    (reached : m.run front = some m') (stuck : Stuck m' (position + front.length) cs e) :
    Stuck m position (front ++ cs) e := by
  cases stuck with
  | intro before behind l held inner fits later agrees blocked =>
      have whole : m.run (front ++ before) = some inner := by rw [Mode.run_append, reached]; exact later
      rw [Nat.add_assoc, ← List.length_append, ← List.append_assoc]
      exact .intro (front ++ before) behind l held inner fits whole agrees blocked

theorem feed_mode (cs : List Char) (position : Nat) (held : Held) (m : Mode) (agrees : held.Agrees m cs) :
    match feed held (Lexeme.placed position cs) with
    | .ok result => ∃ m', m.run cs = some m' ∧ result.Agrees m' []
    | .error e => Stuck m position cs e := by
  induction cs using Lexeme.text_induction generalizing position held m with
  | nil =>
      rw [Lexeme.placed]
      exact ⟨m, rfl, agrees⟩
  | blank c rest blank ih =>
      rw [Lexeme.placed_blank position c rest blank]
      obtain ⟨m', stepped, later⟩ := agrees_blank held m c rest agrees blank
      have one : m.run [c] = some m' := by simp [Mode.run, stepped]
      have outcome := ih (position + 1) held m' later
      cases fed : feed held (Lexeme.placed (position + 1) rest) with
      | ok result =>
          rw [fed] at outcome
          obtain ⟨last, reached, final⟩ := outcome
          exact ⟨last, by rw [← reached, Mode.run, stepped]; rfl, final⟩
      | error e =>
          rw [fed] at outcome
          exact stuck_later m m' position [c] rest e one outcome
  | lexeme l behind fits ih =>
      rw [Lexeme.placed_lexeme position l behind fits, feed]
      cases taken : held.take l with
      | none => exact Stuck.intro [] behind l held m fits rfl agrees taken
      | some next =>
          obtain ⟨m', reached, later⟩ := agrees_take held next m l behind agrees fits taken
          have outcome := ih (position + l.chars.length) next m' later
          simp only
          cases fed : feed next (Lexeme.placed (position + l.chars.length) behind) with
          | ok result =>
              rw [fed] at outcome
              obtain ⟨last, whole, final⟩ := outcome
              exact ⟨last, by rw [Mode.run_append, reached]; exact whole, final⟩
          | error e =>
              rw [fed] at outcome
              exact stuck_later m m' position l.chars behind e reached outcome

theorem stuck_run (m : Mode) (position : Nat) (cs : List Char) (e : ParseError) (stuck : Stuck m position cs e) :
    m.run cs = none ∨ m.run cs = some .point := by
  cases stuck with
  | intro before behind l held m' fits reached agrees blocked =>
      rw [Mode.run_append, reached, Option.bind_some]
      obtain ⟨c, tail, first, -⟩ := Lexeme.fits_not_blank l behind fits
      rcases agrees_blocked held m' l c tail behind first agrees fits blocked with dead | ⟨rfl, literal, rfl⟩
      · left
        rw [first, List.cons_append, Mode.run, dead, Option.bind_none]
      · obtain ⟨⟨whole, rfl, digits⟩, stop⟩ := fits
        rw [Lexeme.chars, Mode.run_append, Mode.run_point whole digits, Option.bind_some]
        cases behind with
        | nil => exact .inr rfl
        | cons d rest =>
            left
            simp [Mode.run, Mode.next, stop d rfl]

end Parser

theorem parse_mode (cs : List Char) :
    match parseChars cs with
    | .ok _ => ∃ m, Mode.operand.run cs = some m ∧ m.accepts = true
    | .error e => Parser.Stuck .operand 0 cs e ∨
        Mode.operand.run cs = some .operand ∧
          if Text.allBlank cs then e = ⟨.emptyInput, none⟩ else ∃ incomplete, e = ⟨.missingOperand incomplete, none⟩ := by
  have outcome := Parser.feed_mode cs 0 Parser.nothingHeld .operand (.due [] cs)
  rw [parse_chars_feed]
  cases fed : Parser.feed Parser.nothingHeld (Lexeme.placed 0 cs) with
  | error e =>
      rw [fed] at outcome
      exact .inl outcome
  | ok held =>
      rw [fed] at outcome
      obtain ⟨m, reached, final⟩ := outcome
      cases final with
      | full e stack _ _ settled =>
          rw [Parser.conclude, Parser.finish_operand]
          exact ⟨m, reached, by cases settled <;> rfl⟩
      | due stack _ =>
          cases blank : Text.allBlank cs with
          | true =>
              rw [(Lexeme.placed_nil_iff 0 cs).mpr blank] at fed
              obtain ⟨-, rfl⟩ := Parser.Held.mk.inj (Except.ok.inj fed)
              exact .inr ⟨reached, rfl⟩
          | false =>
              have nonempty : (Lexeme.placed 0 cs).map Prod.snd ≠ [] := by
                intro empty
                have isBlank := (Lexeme.placed_nil_iff 0 cs).mp (List.map_eq_nil_iff.mp empty)
                simp [blank] at isBlank
              have something := Parser.take_all_something _ _ _ nonempty ((Parser.feed_ok_iff _ _ _).mp fed)
              cases stack with
              | nil => simp [Parser.Held.Something] at something
              | cons w tail => exact .inr ⟨reached, w.expr.render, rfl⟩

theorem accepts_iff (cs : List Char) :
    (∃ tree, parseChars cs = .ok tree) ↔ ∃ m, Mode.operand.run cs = some m ∧ m.accepts = true := by
  have outcome := parse_mode cs
  cases parsed : parseChars cs with
  | ok tree =>
      rw [parsed] at outcome
      simpa using outcome
  | error e =>
      rw [parsed] at outcome
      simp only [reduceCtorEq, exists_false, false_iff]
      rintro ⟨m, reached, accepted⟩
      have stopped : Mode.operand.run cs = none ∨ Mode.operand.run cs = some .point ∨
          Mode.operand.run cs = some .operand := by
        rcases outcome with stuck | ⟨due, -⟩
        · rcases Parser.stuck_run _ _ cs e stuck with dead | point
          · exact .inl dead
          · exact .inr (.inl point)
        · exact .inr (.inr due)
      rw [reached] at stopped
      rcases stopped with dead | point | due
      · simp at dead
      · obtain rfl := Option.some.inj point
        simp [Mode.accepts] at accepted
      · obtain rfl := Option.some.inj due
        simp [Mode.accepts] at accepted

def Viable (cs : List Char) : Prop := ∃ ending tree, parseChars (cs ++ ending) = .ok tree

theorem viable_iff (cs : List Char) : Viable cs ↔ ∃ m, Mode.operand.run cs = some m := by
  constructor
  · rintro ⟨ending, accepted⟩
    obtain ⟨m, reached, -⟩ := (accepts_iff (cs ++ ending)).mp accepted
    rw [Mode.run_append] at reached
    obtain ⟨m', front, -⟩ := Option.bind_eq_some_iff.mp reached
    exact ⟨m', front⟩
  · rintro ⟨m, reached⟩
    have completion : ∃ ending m', m.run ending = some m' ∧ m'.accepts = true := by
      cases m with
      | operand => exact ⟨['1'], .whole, rfl, rfl⟩
      | whole => exact ⟨[], .whole, rfl, rfl⟩
      | point => exact ⟨['1'], .fraction, rfl, rfl⟩
      | fraction => exact ⟨[], .fraction, rfl, rfl⟩
      | after => exact ⟨[], .after, rfl, rfl⟩
    obtain ⟨ending, m', completed, accepted⟩ := completion
    refine ⟨ending, (accepts_iff (cs ++ ending)).mpr ⟨m', ?_, accepted⟩⟩
    rw [Mode.run_append, reached, Option.bind_some, completed]

theorem greatest_viable (front behind : List Char) (m : Mode) (reached : Mode.operand.run front = some m)
    (dead : ∀ c, behind.head? = some c → m.next c = none) :
    IsGreatest {k | k ≤ (front ++ behind).length ∧ Viable ((front ++ behind).take k)} front.length := by
  constructor
  · refine ⟨by simp, (viable_iff _).mpr ⟨m, ?_⟩⟩
    rw [List.take_left, reached]
  · rintro k ⟨bound, viable⟩
    obtain ⟨m', alive⟩ := (viable_iff _).mp viable
    apply Nat.le_of_not_lt
    intro longer
    have split : (front ++ behind).take k = front ++ behind.take (k - front.length) := by
      rw [List.take_append, List.take_of_length_le (by omega)]
    rw [split, Mode.run_append, reached, Option.bind_some] at alive
    cases behind with
    | nil =>
        simp at bound
        omega
    | cons c rest =>
        obtain ⟨n, length⟩ : ∃ n, k - front.length = n + 1 := ⟨k - front.length - 1, by omega⟩
        rw [length, List.take_succ_cons, Mode.run, dead c rfl] at alive
        simp at alive

end Reckoner
