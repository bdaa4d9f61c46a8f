import Reckoner.Proofs.FieldCheck
import Reckoner.Text.Lines

set_option autoImplicit false

namespace Reckoner.Text

def StartsPair (c : Char) (rest : List Char) : Prop := c = '\r' ∧ ∃ behind, rest = '\n' :: behind

theorem lines_break (c : Char) (rest : List Char) (single : ¬ StartsPair c rest) (broken : isLineBreak c = true) :
    lines (c :: rest) = [] :: lines rest := by
  rw [lines]
  · rw [if_pos broken]
  · intro behind first second
    exact single ⟨first, behind, second⟩

theorem letter_single (c : Char) (rest : List Char) (letter : isLineBreak c = false) : ¬ StartsPair c rest := by
  intro pair
  rw [pair.1] at letter
  contradiction

theorem lines_letter (c : Char) (rest : List Char) (letter : isLineBreak c = false) :
    lines (c :: rest) = ((c :: (lines rest).head?.getD []) :: (lines rest).tail) := by
  rw [lines]
  · rw [letter, if_neg Bool.false_ne_true]
    cases lines rest <;> rfl
  · intro behind first second
    exact letter_single c rest letter ⟨first, behind, second⟩

theorem lines_feed (rest : List Char) : lines ('\n' :: rest) = [] :: lines rest := by
  refine lines_break '\n' rest ?_ rfl
  intro pair
  exact absurd pair.1 (by decide)

theorem lines_pair (rest : List Char) : lines ('\r' :: '\n' :: rest) = [] :: lines rest := by
  rw [lines]

@[elab_as_elim]
theorem lines_induction {motive : List Char → Prop} (nil : motive [])
    (pair : ∀ rest, motive rest → motive ('\r' :: '\n' :: rest))
    (broken : ∀ c rest, ¬ StartsPair c rest → isLineBreak c = true → motive rest → motive (c :: rest))
    (letter : ∀ c rest, isLineBreak c = false → motive rest → motive (c :: rest)) (cs : List Char) : motive cs := by
  induction cs using lines.induct with
  | case1 => exact nil
  | case2 rest ih => exact pair rest ih
  | case3 c rest single isBreak ih =>
      exact broken c rest (fun pair => pair.2.elim fun behind second => single behind pair.1 second) isBreak ih
  | case4 c rest _ other _ ih => exact letter c rest (Bool.eq_false_iff.mpr other) ih
  | case5 c rest _ other _ _ _ ih => exact letter c rest (Bool.eq_false_iff.mpr other) ih

theorem lines_nil (cs : List Char) (none : lines cs = []) : cs = [] := by
  induction cs using lines_induction with
  | nil => rfl
  | pair rest _ =>
      rw [lines_pair] at none
      contradiction
  | broken c rest single isBreak _ =>
      rw [lines_break c rest single isBreak] at none
      contradiction
  | letter c rest isLetter _ =>
      rw [lines_letter c rest isLetter] at none
      contradiction

theorem lines_seam (cs ds : List Char) :
    lines (cs ++ '\n' :: ds) = lines cs ++ lines ds ∨ lines (cs ++ '\n' :: ds) = lines cs ++ [] :: lines ds := by
  induction cs using lines_induction with
  | nil => exact .inr (lines_feed ds)
  | pair rest ih =>
      simp only [List.cons_append, lines_pair]
      exact ih.imp (congrArg _) (congrArg _)
  | broken c rest single isBreak ih =>
      rw [lines_break c rest single isBreak, List.cons_append]
      by_cases pair : StartsPair c (rest ++ '\n' :: ds)
      · obtain ⟨rfl, behind, joined⟩ := pair
        cases rest with
        | nil => exact .inl (lines_pair ds)
        | cons d tail =>
            obtain ⟨rfl, -⟩ := List.cons.inj joined
            exact absurd ⟨rfl, tail, rfl⟩ single
      · rw [lines_break c _ pair isBreak]
        exact ih.imp (congrArg _) (congrArg _)
  | letter c rest isLetter ih =>
      rw [List.cons_append, lines_letter c _ isLetter, lines_letter c rest isLetter]
      cases split : lines rest with
      | nil =>
          obtain rfl := lines_nil rest split
          rw [List.nil_append, lines_feed]
          exact .inl rfl
      | cons line more =>
          rw [split] at ih
          cases ih with
          | inl joined => exact .inl (by rw [joined]; rfl)
          | inr parted => exact .inr (by rw [parted]; rfl)

theorem lines_before (line behind rest : List Char) (unbroken : ∀ c ∈ line, isLineBreak c = false)
    (broken : lines behind = [] :: lines rest) : lines (line ++ behind) = line :: lines rest := by
  induction line with
  | nil => exact broken
  | cons c tail ih =>
      have later := ih (fun d member => unbroken d (List.mem_cons_of_mem _ member))
      rw [List.cons_append, lines_letter c _ (unbroken c List.mem_cons_self), later]
      rfl

theorem lines_ended (line rest : List Char) (unbroken : ∀ c ∈ line, isLineBreak c = false) :
    lines (line ++ '\n' :: rest) = line :: lines rest :=
  lines_before line _ rest unbroken (lines_feed rest)

theorem line_unbroken (cs line : List Char) (member : line ∈ lines cs) : ∀ c ∈ line, isLineBreak c = false := by
  induction cs using lines_induction generalizing line with
  | nil =>
      rw [lines] at member
      contradiction
  | pair rest ih =>
      rw [lines_pair] at member
      cases List.mem_cons.mp member with
      | inl first => simp [first]
      | inr later => exact ih line later
  | broken c rest single isBreak ih =>
      rw [lines_break c rest single isBreak] at member
      cases List.mem_cons.mp member with
      | inl first => simp [first]
      | inr later => exact ih line later
  | letter c rest isLetter ih =>
      rw [lines_letter c rest isLetter] at member
      cases split : lines rest with
      | nil => simp_all
      | cons next more =>
          rw [split] at member ih
          cases List.mem_cons.mp member with
          | inl first =>
              intro d inside
              rw [first] at inside
              cases List.mem_cons.mp inside with
              | inl same => exact same ▸ isLetter
              | inr behind => exact ih next List.mem_cons_self d behind
          | inr later => exact ih line (List.mem_cons_of_mem _ later)

theorem drop_blanks_member (cs : List Char) (c : Char) (member : c ∈ dropBlanks cs) : c ∈ cs :=
  (List.dropWhile_sublist isBlank).mem member

theorem strip_member (cs : List Char) (c : Char) (member : c ∈ strip cs) : c ∈ cs := by
  have inside := drop_blanks_member _ c (List.mem_reverse.mp member)
  exact drop_blanks_member cs c (List.mem_reverse.mp inside)

theorem strip_all (cs : List Char) : allBlank (strip cs) = allBlank cs := by
  rw [strip, allBlank, List.all_reverse]
  change allBlank (dropBlanks (dropBlanks cs).reverse) = allBlank cs
  rw [drop_blanks_all, allBlank, List.all_reverse]
  exact drop_blanks_all cs

def filledLines (cs : List Char) : List (List Char) := (lines cs).filter fun line => !allBlank line

theorem content_lines_filled (cs : List Char) : contentLines cs = (filledLines cs).map strip := by
  rw [contentLines, filledLines, List.filter_map]
  congr 1
  apply List.filter_congr
  intro line _
  cases blank : allBlank line with
  | true => simp [(strip_nil line).mpr blank]
  | false =>
      have filled : strip line ≠ [] := by
        rw [Ne, strip_nil, blank]
        exact Bool.false_ne_true
      simp [filled]

theorem filled_lines_seam (cs ds : List Char) : filledLines (cs ++ '\n' :: ds) = filledLines cs ++ filledLines ds := by
  cases lines_seam cs ds with
  | inl joined => rw [filledLines, joined, List.filter_append, filledLines, filledLines]
  | inr parted =>
      have nothing : (!allBlank []) = false := rfl
      rw [filledLines, parted, List.filter_append, List.filter_cons, nothing, if_neg Bool.false_ne_true, filledLines,
        filledLines]

theorem content_line_filled (cs line : List Char) (member : line ∈ contentLines cs) : strip line ≠ [] := by
  rw [content_lines_filled] at member
  obtain ⟨given, inFilled, rfl⟩ := List.mem_map.mp member
  have filled := (List.mem_filter.mp inFilled).2
  rw [Ne, strip_nil, strip_all]
  simpa using filled

theorem content_line_unbroken (cs line : List Char) (member : line ∈ contentLines cs) :
    ∀ c ∈ line, isLineBreak c = false := by
  rw [content_lines_filled] at member
  obtain ⟨given, inFilled, rfl⟩ := List.mem_map.mp member
  intro c inside
  exact line_unbroken cs given (List.mem_filter.mp inFilled).1 c (strip_member given c inside)

end Reckoner.Text
