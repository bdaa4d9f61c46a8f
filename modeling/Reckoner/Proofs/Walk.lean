import Reckoner.Proofs.FirstFault

set_option autoImplicit false

namespace Reckoner

namespace Expr

structure Walk where
  tasks : List Task
  operands : List Operand

def effort : Expr → Nat
  | literal _ => 1
  | incomplete _ _ => 1
  | binary left _ right => left.effort + right.effort + 2

def Task.effort : Task → Nat
  | visit e => e.effort
  | join _ _ _ => 1

def totalEffort : List Task → Nat
  | [] => 0
  | task :: rest => task.effort + totalEffort rest

theorem effort_pos (e : Expr) : 0 < e.effort := by
  cases e <;> simp [effort]

theorem no_effort_iff (tasks : List Task) : totalEffort tasks = 0 ↔ tasks = [] := by
  cases tasks with
  | nil => simp [totalEffort]
  | cons task rest =>
      have positive : 0 < task.effort := by
        cases task with
        | visit e => exact effort_pos e
        | join left o right => exact Nat.one_pos
      simp only [totalEffort, reduceCtorEq, iff_false]
      omega

theorem operand_of_literal (text : String) : (literal text).simplifyOperand = simplifyLiteral text := by
  rw [simplifyOperand, runTasks]
  cases simplifyLiteral text with
  | error cause => rfl
  | ok operand => simp [runTasks]

theorem operand_of_binary (left right : Expr) (o : Operator) (l r : Operand) (leftDone : left.simplifyOperand = .ok l)
    (rightDone : right.simplifyOperand = .ok r) :
    (binary left o right).simplifyOperand = combine (binary left o right) o l r := by
  obtain ⟨x, leftValue, rfl⟩ := operand_reduced left l leftDone
  obtain ⟨y, rightValue, rfl⟩ := operand_reduced right r rightDone
  rw [combine_reduced, simplify_operand, value, leftValue, rightValue]

theorem operand_value (e : Expr) (x : Double) (done : Operand) (valued : e.value = .ok x)
    (simplified : e.simplifyOperand = .ok done) : done.expr = ofDouble x := by
  obtain ⟨y, same, rfl⟩ := operand_reduced e done simplified
  obtain rfl := Except.ok.inj (valued.symm.trans same)
  rfl

namespace Walk

def turn : Walk → Except SimplifyError Walk
  | ⟨[], operands⟩ => .ok ⟨[], operands⟩
  | ⟨.visit (literal text) :: tasks, operands⟩ =>
    match simplifyLiteral text with
    | .error e => .error e
    | .ok operand => .ok ⟨tasks, operand :: operands⟩
  | ⟨.visit (incomplete left o) :: _, _⟩ => .error (.incomplete (incomplete left o).render)
  | ⟨.visit (binary left o right) :: tasks, operands⟩ =>
    .ok ⟨.visit left :: .visit right :: .join left o right :: tasks, operands⟩
  | ⟨.join left o right :: tasks, r :: l :: operands⟩ =>
    match combine (.binary left o right) o l r with
    | .error e => .error e
    | .ok operand => .ok ⟨tasks, operand :: operands⟩
  | ⟨.join _ _ _ :: _, _⟩ => .error .missingOperands

def turns : (count : Nat) → Walk → Except SimplifyError Walk
  | 0, w => .ok w
  | count + 1, w =>
    match w.turn with
    | .error e => .error e
    | .ok w' => turns count w'

def onto (w : Walk) (tasks : List Task) (operands : List Operand) : Walk := ⟨w.tasks ++ tasks, w.operands ++ operands⟩

inductive Turned : Walk → Walk → Prop where
  | rest (operands : List Operand) : Turned ⟨[], operands⟩ ⟨[], operands⟩
  | literal (text : String) (tasks : List Task) (operands : List Operand) (operand : Operand)
      (simplified : simplifyLiteral text = .ok operand) :
      Turned ⟨.visit (literal text) :: tasks, operands⟩ ⟨tasks, operand :: operands⟩
  | node (left right : Expr) (o : Operator) (tasks : List Task) (operands : List Operand) :
      Turned ⟨.visit (binary left o right) :: tasks, operands⟩
        ⟨.visit left :: .visit right :: .join left o right :: tasks, operands⟩
  | join (left right : Expr) (o : Operator) (tasks : List Task) (l r operand : Operand) (operands : List Operand)
      (combined : combine (binary left o right) o l r = .ok operand) :
      Turned ⟨.join left o right :: tasks, r :: l :: operands⟩ ⟨tasks, operand :: operands⟩

theorem turned_iff (w w' : Walk) : w.turn = .ok w' ↔ Turned w w' := by
  constructor
  · fun_cases turn w with
    | case1 operands =>
        rintro ⟨⟩
        exact .rest operands
    | case3 text tasks operands operand simplified =>
        rintro ⟨⟩
        exact .literal text tasks operands operand simplified
    | case5 left o right tasks operands =>
        rintro ⟨⟩
        exact .node left right o tasks operands
    | case7 left o right tasks r l operands operand combined =>
        rintro ⟨⟩
        exact .join left right o tasks l r operand operands combined
    | _ => exact nofun
  · intro turned
    cases turned with
    | rest operands => rfl
    | literal text tasks operands operand simplified => simp [turn, simplified]
    | node left right o tasks operands => rfl
    | join left right o tasks l r operand operands combined => simp [turn, combined]

theorem run_turn (w : Walk) :
    runTasks w.tasks w.operands = match w.turn with
      | .error e => .error e
      | .ok w' => runTasks w'.tasks w'.operands := by
  fun_cases turn w with
  | case1 operands => rfl
  | case2 text tasks operands cause simplified => simp [runTasks, simplified]
  | case3 text tasks operands operand simplified => simp [runTasks, simplified]
  | case4 left o tasks operands => simp [runTasks]
  | case5 left o right tasks operands => simp [runTasks]
  | case6 left o right tasks r l operands cause combined => simp [runTasks, combined]
  | case7 left o right tasks r l operands operand combined => simp [runTasks, combined]
  | case8 left o right tasks operands few => rw [runTasks]; exact few

theorem turned_effort (w w' : Walk) (turned : Turned w w') : totalEffort w'.tasks = totalEffort w.tasks - 1 := by
  cases turned with
  | rest operands => rfl
  | literal text tasks operands operand _ => simp [totalEffort, Task.effort, effort]
  | node left right o tasks operands =>
      simp only [totalEffort, Task.effort, effort]
      omega
  | join left right o tasks l r operand operands _ => simp [totalEffort, Task.effort]

theorem turned_onto (w w' : Walk) (tasks : List Task) (operands : List Operand) (busy : w.tasks ≠ [])
    (turned : Turned w w') : Turned (w.onto tasks operands) (w'.onto tasks operands) := by
  cases turned with
  | rest _ => contradiction
  | literal text _ _ operand simplified => exact .literal text _ _ operand simplified
  | node left right o _ _ => exact .node left right o _ _
  | join left right o _ l r operand _ combined => exact .join left right o _ l r operand _ combined

theorem turns_succ_iff (count : Nat) (w last : Walk) :
    w.turns (count + 1) = .ok last ↔ ∃ next, Turned w next ∧ next.turns count = .ok last := by
  simp only [← turned_iff]
  rw [turns]
  cases w.turn with
  | error cause => simp
  | ok next => simp

theorem turns_earlier (front behind : Nat) (w last : Walk) (turned : w.turns (front + behind) = .ok last) :
    ∃ w', w.turns front = .ok w' := by
  induction front generalizing w with
  | zero => exact ⟨w, rfl⟩
  | succ front ih =>
      rw [Nat.succ_add, turns_succ_iff] at turned
      obtain ⟨next, first, later⟩ := turned
      obtain ⟨w', reached⟩ := ih next later
      exact ⟨w', (turns_succ_iff front w w').mpr ⟨next, first, reached⟩⟩

theorem turns_onto (count : Nat) (w w' : Walk) (tasks : List Task) (operands : List Operand)
    (within : count ≤ totalEffort w.tasks) (turned : w.turns count = .ok w') :
    (w.onto tasks operands).turns count = .ok (w'.onto tasks operands) := by
  induction count generalizing w with
  | zero =>
      obtain rfl := Except.ok.inj turned
      rfl
  | succ count ih =>
      obtain ⟨next, first, later⟩ := (turns_succ_iff count w w').mp turned
      have busy : w.tasks ≠ [] := by
        intro idle
        rw [idle, totalEffort] at within
        omega
      have nearer := turned_effort w next first
      exact (turns_succ_iff count _ _).mpr
        ⟨next.onto tasks operands, turned_onto w next tasks operands busy first, ih next (by omega) later⟩

theorem turns_run (count : Nat) (w : Walk) (enough : totalEffort w.tasks ≤ count) :
    w.turns count = (runTasks w.tasks w.operands).map (Walk.mk []) := by
  induction count generalizing w with
  | zero =>
      obtain ⟨tasks, operands⟩ := w
      obtain rfl := (no_effort_iff tasks).mp (Nat.le_zero.mp enough)
      rw [runTasks]
      rfl
  | succ count ih =>
      rw [run_turn, turns]
      cases first : w.turn with
      | error cause => rfl
      | ok next =>
          have nearer := turned_effort w next ((turned_iff w next).mp first)
          exact ih next (by omega)

theorem visit_alone (e : Expr) (done : Operand) (simplified : e.simplifyOperand = .ok done) :
    turns e.effort ⟨[.visit e], []⟩ = .ok ⟨[], [done]⟩ := by
  rw [turns_run e.effort ⟨[.visit e], []⟩ (Nat.le_refl e.effort), run_visit]
  obtain ⟨x, valued, rfl⟩ := operand_reduced e done simplified
  simp [valued, runTasks, Except.map]

theorem visit_onto (e : Expr) (tasks : List Task) (operands : List Operand) (done : Operand)
    (simplified : e.simplifyOperand = .ok done) :
    turns e.effort ⟨.visit e :: tasks, operands⟩ = .ok ⟨tasks, done :: operands⟩ ∧
      ∀ count ≤ e.effort, ∃ w, turns count ⟨[.visit e], []⟩ = .ok w ∧
        turns count ⟨.visit e :: tasks, operands⟩ = .ok (w.onto tasks operands) := by
  have alone := visit_alone e done simplified
  refine ⟨turns_onto e.effort _ _ tasks operands (Nat.le_refl _) alone, ?_⟩
  intro count bounded
  obtain ⟨rest, split⟩ := Nat.exists_eq_add_of_le bounded
  rw [split] at alone
  obtain ⟨w, reached⟩ := turns_earlier count rest _ _ alone
  exact ⟨w, reached, turns_onto count ⟨[.visit e], []⟩ w tasks operands bounded reached⟩

def Supplied (root : Expr) : List Task → List Operand → Prop
  | [], operands => ∃ done, root.simplifyOperand = .ok done ∧ operands = [done]
  | .visit e :: tasks, operands => ∀ done, e.simplifyOperand = .ok done → Supplied root tasks (done :: operands)
  | .join left o right :: tasks, operands =>
    ∃ l r below, operands = r :: l :: below ∧ left.simplifyOperand = .ok l ∧ right.simplifyOperand = .ok r ∧
      ∀ done, combine (binary left o right) o l r = .ok done → Supplied root tasks (done :: below)

theorem supplied_join_iff (root left right : Expr) (o : Operator) (tasks : List Task) (l r : Operand)
    (operands : List Operand) :
    Supplied root (.join left o right :: tasks) (r :: l :: operands) ↔
      left.simplifyOperand = .ok l ∧ right.simplifyOperand = .ok r ∧
        ∀ done, combine (binary left o right) o l r = .ok done → Supplied root tasks (done :: operands) := by
  constructor
  · rintro ⟨_, _, _, same, leftDone, rightDone, later⟩
    simp only [List.cons.injEq] at same
    obtain ⟨rfl, rfl, rfl⟩ := same
    exact ⟨leftDone, rightDone, later⟩
  · rintro ⟨leftDone, rightDone, later⟩
    exact ⟨l, r, operands, rfl, leftDone, rightDone, later⟩

theorem turned_supplied (root : Expr) (w w' : Walk) (supplied : Supplied root w.tasks w.operands)
    (turned : Turned w w') : Supplied root w'.tasks w'.operands := by
  cases turned with
  | rest operands => exact supplied
  | literal text tasks operands operand simplified => exact supplied operand ((operand_of_literal text).trans simplified)
  | node left right o tasks operands =>
      intro l leftDone r rightDone
      refine (supplied_join_iff root left right o tasks l r operands).mpr ⟨leftDone, rightDone, ?_⟩
      intro done combined
      exact supplied done ((operand_of_binary left right o l r leftDone rightDone).trans combined)
  | join left right o tasks l r operand operands combined =>
      obtain ⟨-, -, later⟩ := (supplied_join_iff root left right o tasks l r operands).mp supplied
      exact later operand combined

theorem turns_supplied (root : Expr) (count : Nat) (w w' : Walk) (supplied : Supplied root w.tasks w.operands)
    (turned : w.turns count = .ok w') : Supplied root w'.tasks w'.operands := by
  induction count generalizing w with
  | zero =>
      obtain rfl := Except.ok.inj turned
      exact supplied
  | succ count ih =>
      obtain ⟨next, first, later⟩ := (turns_succ_iff count w w').mp turned
      exact ih next (turned_supplied root w next supplied first) later

theorem start_supplied (root : Expr) : Supplied root [.visit root] [] :=
  fun done simplified => ⟨done, simplified, rfl⟩

theorem reached_supplied (root : Expr) (count : Nat) (w : Walk) (turned : turns count ⟨[.visit root], []⟩ = .ok w) :
    Supplied root w.tasks w.operands :=
  turns_supplied root count _ w (start_supplied root) turned

theorem join_supplied (root : Expr) (count : Nat) (w : Walk) (left : Expr) (o : Operator) (right : Expr)
    (tasks : List Task) (turned : turns count ⟨[.visit root], []⟩ = .ok w)
    (top : w.tasks = .join left o right :: tasks) :
    ∃ l r below x y, w.operands = r :: l :: below ∧ left.simplifyOperand = .ok l ∧ right.simplifyOperand = .ok r ∧
      left.value = .ok x ∧ right.value = .ok y ∧ l.expr = ofDouble x ∧ r.expr = ofDouble y ∧
      combine (binary left o right) o l r = .ok ⟨ofDouble (o.apply x y), false⟩ := by
  have supplied := reached_supplied root count w turned
  rw [top] at supplied
  obtain ⟨l, r, below, same, leftDone, rightDone, -⟩ := supplied
  obtain ⟨x, y, leftValue, rightValue, combined⟩ :=
    combine_simplified (binary left o right) left right o l r leftDone rightDone
  exact ⟨l, r, below, x, y, same, leftDone, rightDone, leftValue, rightValue,
    operand_value left x l leftValue leftDone, operand_value right y r rightValue rightDone, combined⟩

theorem end_supplied (root : Expr) (count : Nat) (w : Walk) (turned : turns count ⟨[.visit root], []⟩ = .ok w)
    (ended : w.tasks = []) : ∃ done, root.simplifyOperand = .ok done ∧ w.operands = [done] := by
  have supplied := reached_supplied root count w turned
  rwa [ended] at supplied

theorem literal_not_missing (text : String) : simplifyLiteral text ≠ .error .missingOperands := by
  cases read : Numeral.read? text <;> simp [simplifyLiteral, literalValue, read]

theorem turn_not_missing (root : Expr) (w : Walk) (supplied : Supplied root w.tasks w.operands) :
    w.turn ≠ .error .missingOperands := by
  fun_cases turn w with
  | case2 text tasks operands cause simplified =>
      rintro ⟨⟩
      exact literal_not_missing text simplified
  | case6 left o right tasks r l operands cause combined =>
      obtain ⟨leftDone, rightDone, -⟩ := (supplied_join_iff root left right o tasks l r operands).mp supplied
      obtain ⟨x, y, -, -, computed⟩ := combine_simplified (binary left o right) left right o l r leftDone rightDone
      simp [computed] at combined
  | case8 left o right tasks operands few =>
      obtain ⟨l, r, below, same, -⟩ := supplied
      exact (few r l below same).elim
  | _ => simp

theorem turns_not_missing (root : Expr) (count : Nat) (w : Walk) (supplied : Supplied root w.tasks w.operands) :
    w.turns count ≠ .error .missingOperands := by
  induction count generalizing w with
  | zero => exact nofun
  | succ count ih =>
      rw [turns]
      cases first : w.turn with
      | error cause =>
          have other := turn_not_missing root w supplied
          rwa [first] at other
      | ok next => exact ih next (turned_supplied root w next supplied ((turned_iff w next).mp first))

theorem simplify_not_missing (e : Expr) : e.simplify ≠ .error .missingOperands := by
  have whole := turns_run e.effort ⟨[.visit e], []⟩ (Nat.le_refl e.effort)
  have never := turns_not_missing e e.effort ⟨[.visit e], []⟩ (start_supplied e)
  cases run : runTasks [.visit e] [] with
  | error cause =>
      rw [whole, run] at never
      simpa [simplify, simplifyOperand, run, Except.map] using never
  | ok operands =>
      rw [run] at whole
      obtain ⟨done, -, alone⟩ := end_supplied e e.effort _ whole rfl
      obtain rfl : operands = [done] := alone
      simp [simplify, simplifyOperand, run]

end Walk

theorem walk_balanced :
    (∀ e tasks operands done, simplifyOperand e = .ok done →
      Walk.turns e.effort ⟨.visit e :: tasks, operands⟩ = .ok ⟨tasks, done :: operands⟩ ∧
      ∀ count ≤ e.effort, ∃ w, Walk.turns count ⟨[.visit e], []⟩ = .ok w ∧
        Walk.turns count ⟨.visit e :: tasks, operands⟩ = .ok (w.onto tasks operands)) ∧
    (∀ e count w left o right tasks, Walk.turns count ⟨[.visit e], []⟩ = .ok w → w.tasks = .join left o right :: tasks →
      ∃ l r below x y, w.operands = r :: l :: below ∧ left.simplifyOperand = .ok l ∧ right.simplifyOperand = .ok r ∧
        left.value = .ok x ∧ right.value = .ok y ∧ l.expr = ofDouble x ∧ r.expr = ofDouble y ∧
        combine (binary left o right) o l r = .ok ⟨ofDouble (o.apply x y), false⟩) ∧
    (∀ e count w, Walk.turns count ⟨[.visit e], []⟩ = .ok w → w.tasks = [] →
      ∃ done, e.simplifyOperand = .ok done ∧ w.operands = [done]) ∧
    (∀ e count, Walk.turns count ⟨[.visit e], []⟩ ≠ .error .missingOperands) ∧
    (∀ e, simplify e ≠ .error .missingOperands) ∧
    ∀ tasks operands count, totalEffort tasks ≤ count →
      Walk.turns count ⟨tasks, operands⟩ = (runTasks tasks operands).map (Walk.mk []) := by
  refine ⟨Walk.visit_onto, Walk.join_supplied, Walk.end_supplied, ?_, Walk.simplify_not_missing, ?_⟩
  · intro e count
    exact Walk.turns_not_missing e count _ (Walk.start_supplied e)
  · intro tasks operands count enough
    exact Walk.turns_run count ⟨tasks, operands⟩ enough

def sixByThree : Expr := .binary (.literal "6") .dividedBy (.literal "3")

theorem walk_balanced_at_quotient :
    (∃ done, sixByThree.simplifyOperand = .ok done ∧
      Walk.turns 4 ⟨[.visit sixByThree, .join (.literal "1") .minus sixByThree], [⟨.literal "1", true⟩]⟩ =
        .ok ⟨[.join (.literal "1") .minus sixByThree], [done, ⟨.literal "1", true⟩]⟩) ∧
    (∃ w, Walk.turns 3 ⟨[.visit sixByThree], []⟩ = .ok w ∧
      w.tasks = [.join (.literal "6") .dividedBy (.literal "3")] ∧
      ∃ l r below, w.operands = r :: l :: below ∧ (literal "6").simplifyOperand = .ok l ∧
        (literal "3").simplifyOperand = .ok r) ∧
    (∃ w, Walk.turns 4 ⟨[.visit sixByThree], []⟩ = .ok w ∧ w.tasks = [] ∧ ∃ done, w.operands = [done]) ∧
    Walk.turns 4 ⟨[.visit sixByThree], []⟩ = (runTasks [.visit sixByThree] []).map (Walk.mk []) := by
  obtain ⟨reached, joined, ended, -, -, whole⟩ := walk_balanced
  obtain ⟨x, six⟩ := numeric_value (.literal "6") rfl rfl
  obtain ⟨y, three⟩ := numeric_value (.literal "3") rfl rfl
  have simplified : sixByThree.simplifyOperand = .ok (reduced sixByThree (Operator.apply .dividedBy x y)) := by
    simp only [simplify_operand, sixByThree, value] at six three ⊢
    rw [six, three]
  have before : Walk.turns 3 ⟨[.visit sixByThree], []⟩ =
      .ok ⟨[.join (.literal "6") .dividedBy (.literal "3")], [reduced (.literal "3") y, reduced (.literal "6") x]⟩ := by
    simp [Walk.turns, Walk.turn, sixByThree, simplify_literal "6" x six, simplify_literal "3" y three]
  have alone := Walk.visit_alone sixByThree _ simplified
  obtain ⟨l, r, below, _, _, same, leftDone, rightDone, -⟩ := joined sixByThree 3 _ _ _ _ _ before rfl
  obtain ⟨done, -, last⟩ := ended sixByThree 4 _ alone rfl
  exact ⟨⟨_, simplified, (reached sixByThree _ _ _ simplified).1⟩,
    ⟨_, before, rfl, l, r, below, same, leftDone, rightDone⟩, ⟨_, alone, rfl, done, last⟩,
    whole [.visit sixByThree] [] 4 (Nat.le_refl 4)⟩

end Expr

end Reckoner
