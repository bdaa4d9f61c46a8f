import Reckoner.Sheet.Basic

set_option autoImplicit false

namespace Reckoner

namespace Expr

def Pending.text : Pending → String
  | tree e => e.text
  | symbol o => o.text

def pendingText : List Pending → String
  | [] => ""
  | pending :: rest => pending.text ++ pendingText rest

theorem push_text (o : Operator) (written : String) : written.push o.symbol = written ++ o.text := by
  rw [Operator.text, String.push_eq_append]

theorem pending_binary (left right : Expr) (o : Operator) (rest : List Pending) :
    pendingText (.tree left :: .symbol o :: .tree right :: rest) = pendingText (.tree (binary left o right) :: rest) := by
  simp only [pendingText, Pending.text, text, String.append_assoc]

theorem pending_incomplete (left : Expr) (o : Operator) (rest : List Pending) :
    pendingText (.tree left :: .symbol o :: rest) = pendingText (.tree (incomplete left o) :: rest) := by
  simp only [pendingText, Pending.text, text, String.append_assoc]

theorem write_pending (pending : List Pending) (written : String) :
    writePending pending written = written ++ pendingText pending := by
  induction pending, written using writePending.induct with
  | case1 written => rw [writePending, pendingText, String.append_empty]
  | case2 written o rest ih =>
      rw [writePending, ih, push_text, String.append_assoc]
      rfl
  | case3 written text rest ih =>
      rw [writePending, ih, String.append_assoc]
      rfl
  | case4 written left o right rest ih => rw [writePending, ih, pending_binary]
  | case5 written left o rest ih => rw [writePending, ih, pending_incomplete]

theorem render_text (e : Expr) : e.render = e.text := by
  rw [render, write_pending, String.empty_append]
  exact String.append_empty

end Expr

namespace Subject

theorem render_tree (e : Expr) : (tree e).render = .ok e.text := by
  rw [render, Expr.render_text]

theorem render_fails (subject : Subject) (error : SubjectError) :
    subject.render = .error error ↔
      ∃ a, subject = .atom a ∧ (∀ s, a ≠ .value (.text s)) ∧ error = .notExpression a := by
  cases subject with
  | tree e => simp [render]
  | atom a =>
      by_cases isText : ∃ s, a = .value (.text s)
      · obtain ⟨s, rfl⟩ := isText
        simp [render]
      · have other : ∀ s, a ≠ .value (.text s) := fun s same => isText ⟨s, same⟩
        have fails : (atom a).render = .error (.notExpression a) := by
          unfold render
          split
          · next same => contradiction
          · next s same => exact absurd (Subject.atom.inj same) (other s)
          · next b _ same => rw [Subject.atom.inj same]
        rw [fails]
        simp [other, eq_comm]

end Subject

theorem render_follows_tree :
    (∀ pending written, Expr.writePending pending written = written ++ Expr.pendingText pending) ∧
      (∀ text, (Expr.literal text).render = text) ∧
      (∀ left o right, (Expr.binary left o right).render = left.render ++ o.text ++ right.render) ∧
      (∀ left o, (Expr.incomplete left o).render = left.render ++ o.text) ∧
      (∀ e, (Subject.tree e).render = .ok e.text) ∧
      ∀ subject error, Subject.render subject = .error error ↔
        ∃ a, subject = .atom a ∧ (∀ s, a ≠ .value (.text s)) ∧ error = .notExpression a := by
  refine ⟨Expr.write_pending, ?_, ?_, ?_, Subject.render_tree, Subject.render_fails⟩
  · intro text
    rw [Expr.render_text, Expr.text]
  · intro left o right
    simp only [Expr.render_text, Expr.text]
  · intro left o
    simp only [Expr.render_text, Expr.text]

end Reckoner
