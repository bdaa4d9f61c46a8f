import Mathlib.Data.List.DropRight
import Reckoner.Command.Run

set_option autoImplicit false

namespace Reckoner

namespace Path

def marker (c : Char) : Char := if c = '.' then '_' else c

def marked (name : List Char) : List Char :=
  if name.getLast? = some '.' then name
  else name.takeWhile (· == '.') ++ (name.dropWhile (· == '.')).map marker

theorem no_dot_ahead (cs : List Char) : ∀ c ∈ cs.takeWhile (· != '.'), c ≠ '.' := by
  intro c member
  simpa using List.mem_takeWhile_imp member

theorem dotted_flatten (cs : List Char) : (dotted cs).flatten = cs.dropWhile (· != '.') := by
  induction cs using dotted.induct with
  | case1 => rw [dotted]; rfl
  | case2 rest ih =>
      rw [dotted, if_pos rfl, List.flatten_cons, ih, List.dropWhile_idempotent, List.cons_append, List.takeWhile_append_dropWhile]
      rfl
  | case3 c rest other ih =>
      rw [dotted, if_neg other, ih, List.dropWhile_cons_of_pos (by simpa using other)]

theorem marker_stays (cs : List Char) (plain : ∀ c ∈ cs, c ≠ '.') : cs.map marker = cs := by
  have same : ∀ c ∈ cs, marker c = id c := fun c member => if_neg (plain c member)
  rw [List.map_congr_left same, List.map_id]

theorem results_name (name : List Char) : resultsName name = marked name ++ "_results.txt".toList := by
  by_cases ended : name.getLast? = some '.'
  · have whole : name.take (name.length - 0) = name := List.take_length
    simp only [resultsName, endings, if_pos ended, List.flatten_nil, List.length_nil, whole, List.map_nil, List.append_nil,
      marked]
  · let front := name.takeWhile (· == '.')
    let stem := (name.dropWhile (· == '.')).takeWhile (· != '.')
    let ending := (name.dropWhile (· == '.')).dropWhile (· != '.')
    have rest : name.dropWhile (· == '.') = stem ++ ending := List.takeWhile_append_dropWhile.symm
    have parts : name = front ++ stem ++ ending := by
      rw [List.append_assoc, ← rest]
      exact List.takeWhile_append_dropWhile.symm
    have found : (endings name).flatten = ending := by rw [endings, if_neg ended, dotted_flatten]
    have base : name.take (name.length - ending.length) = front ++ stem := by
      have length : name.length - ending.length = (front ++ stem).length := by
        rw [parts, List.length_append, Nat.add_sub_cancel]
      rw [length]
      conv => lhs; rw [parts]
      exact List.take_left
    have replaced : marked name = front ++ stem ++ ending.map marker := by
      rw [marked, if_neg ended, rest, List.map_append, marker_stays stem (no_dot_ahead _), List.append_assoc]
    rw [replaced]
    simp only [resultsName, found, base]
    rfl

theorem marked_length (name : List Char) : (marked name).length = name.length := by
  rw [marked]
  split
  · rfl
  · rw [List.length_append, List.length_map, ← List.length_append, List.takeWhile_append_dropWhile]

theorem last_marker (cs : List Char) : (cs.map marker).getLast? ≠ some '.' := by
  rw [List.getLast?_map]
  intro last
  obtain ⟨c, -, replaced⟩ := Option.map_eq_some_iff.mp last
  rw [marker] at replaced
  split at replaced
  · contradiction
  · contradiction

theorem marked_ended (name : List Char) : (marked name).getLast? = some '.' ↔ name.getLast? = some '.' := by
  by_cases ended : name.getLast? = some '.'
  · rw [marked, if_pos ended]
  · refine ⟨?_, fun same => absurd same ended⟩
    intro last
    rw [marked, if_neg ended] at last
    cases rest : name.dropWhile (· == '.') with
    | nil =>
        have dots : name.takeWhile (· == '.') = name := by
          have parts := List.takeWhile_append_dropWhile (p := (· == '.')) (l := name)
          rwa [rest, List.append_nil] at parts
        rwa [dots, rest, List.map_nil, List.append_nil] at last
    | cons c more =>
        rw [rest, List.getLast?_append] at last
        cases final : ((c :: more).map marker).getLast? with
        | none => simp at final
        | some d =>
            rw [final, Option.some_or] at last
            exact absurd (final.trans last) (last_marker _)

def unmarker (c : Char) : Char := if c = '_' then '.' else c

theorem unmarker_marker (c : Char) (plain : c ≠ '_') : unmarker (marker c) = c := by
  by_cases dot : c = '.'
  · rw [marker, if_pos dot, unmarker, if_pos rfl, dot]
  · rw [marker, if_neg dot, unmarker, if_neg plain]

theorem marked_back (name : List Char) (plain : '_' ∉ name) (unended : name.getLast? ≠ some '.') :
    (marked name).map unmarker = name := by
  have parts : name.takeWhile (· == '.') ++ name.dropWhile (· == '.') = name := List.takeWhile_append_dropWhile
  have front : ∀ c ∈ name.takeWhile (· == '.'), unmarker c = id c := by
    intro c member
    have dot : c = '.' := by simpa using List.mem_takeWhile_imp member
    rw [dot]
    rfl
  have rest : ∀ c ∈ name.dropWhile (· == '.'), (unmarker ∘ marker) c = id c := by
    intro c member
    have within : c ∈ name := parts ▸ List.mem_append_right _ member
    exact unmarker_marker c fun same => plain (same ▸ within)
  rw [marked, if_neg unended, List.map_append, List.map_map, List.map_congr_left front, List.map_congr_left rest,
    List.map_id, List.map_id, parts]

theorem marked_injective (first second : List Char) (firstPlain : '_' ∉ first) (secondPlain : '_' ∉ second)
    (same : marked first = marked second) : first = second := by
  have ends := (marked_ended first).symm.trans (same ▸ marked_ended second)
  by_cases ended : first.getLast? = some '.'
  · rwa [marked, marked, if_pos ended, if_pos (ends.mp ended)] at same
  · rw [← marked_back first firstPlain ended, same, marked_back second secondPlain (fun last => ended (ends.mpr last))]

theorem results_length (name : List Char) : (resultsName name).length = name.length + 12 := by
  rw [results_name, List.length_append, marked_length]
  rfl

theorem results_ending (name : List Char) : lastEnding (resultsName name) = ".txt".toList := by
  have turned : (resultsName name).reverse = 't' :: 'x' :: 't' :: '.' :: ("_results".toList.reverse ++ (marked name).reverse) := by
    rw [results_name, List.reverse_append]
    rfl
  have tail : ((resultsName name).reverse.takeWhile (· != '.')).reverse = ['t', 'x', 't'] := by
    rw [turned]
    rfl
  have long : (3 : Nat) + 1 < (resultsName name).length := by
    rw [results_length]
    omega
  simp [lastEnding, tail, long]

theorem name_parts (p : Path) (named : p.name ≠ "") : p.parts = p.parts.dropLast ++ [p.name] := by
  cases last : p.parts.getLast? with
  | none => exact absurd (by rw [name, last]; rfl) named
  | some final =>
      have same : p.name = final := by rw [name, last]; rfl
      obtain ⟨front, split⟩ := List.getLast?_eq_some_iff.mp last
      rw [same, split, List.dropLast_concat]

theorem with_name_parts (p : Path) (name : String) :
    (p.withName name).root = p.root ∧ (p.withName name).parts.dropLast = p.parts.dropLast ∧ (p.withName name).name = name := by
  refine ⟨rfl, ?_, ?_⟩
  · exact List.dropLast_concat
  · rw [Path.name, withName, List.getLast?_concat]
    rfl

theorem results_some (p out : Path) (found : p.results? = some out) :
    p.name ≠ "" ∧ out = p.withName (String.ofList (resultsName p.name.toList)) := by
  rw [results?] at found
  by_cases unnamed : p.name = ""
  · rw [if_pos unnamed] at found
    contradiction
  · rw [if_neg unnamed] at found
    exact ⟨unnamed, (Option.some.inj found).symm⟩

theorem results_apart (p q out : Path) (firstPlain : '_' ∉ p.name.toList) (secondPlain : '_' ∉ q.name.toList)
    (first : p.results? = some out) (second : q.results? = some out) : p.name = q.name := by
  have firstName := (with_name_parts p (String.ofList (resultsName p.name.toList))).2.2
  have secondName := (with_name_parts q (String.ofList (resultsName q.name.toList))).2.2
  rw [← (results_some p out first).2] at firstName
  rw [← (results_some q out second).2, firstName, String.ofList_inj, results_name, results_name] at secondName
  have same := marked_injective _ _ firstPlain secondPlain (List.append_cancel_right secondName)
  exact String.toList_inj.mp same

end Path

namespace Folder

theorem place_end (p : Path) (front : List String) (last : String) (split : p.parts = front ++ [last]) :
    placeOf p = if last = ".." then above (placeOf { p with parts := front }) else placeOf { p with parts := front } ++ [last] := by
  rw [placeOf, split, List.foldl_append]
  rfl

theorem above_other (here : List String) (name : String) (other : name ≠ "..") : here ++ [name] ≠ above here := by
  rw [above]
  split
  · simp [other]
  · split
    · next top => simp [top, root]
    · intro same
      have length := congrArg List.length same
      rw [List.length_append, List.length_dropLast, List.length_singleton] at length
      omega

theorem place_apart (p : Path) (named : p.name ≠ "") (name : String) (other : name ≠ p.name) (proper : name ≠ "..") :
    placeOf (p.withName name) ≠ placeOf p := by
  have there := place_end (p.withName name) p.parts.dropLast name rfl
  rw [if_neg proper] at there
  rw [there, place_end p p.parts.dropLast p.name (p.name_parts named)]
  by_cases upward : p.name = ".."
  · rw [if_pos upward]
    exact above_other _ name proper
  · rw [if_neg upward]
    intro same
    exact other (List.cons.inj (List.append_cancel_left same)).1

end Folder

theorem results_beside_input (p : Path) (named : p.name ≠ "") :
    ∃ out, p.results? = some out ∧ out.root = p.root ∧ out.parts.dropLast = p.parts.dropLast ∧
      out.name.toList = Path.marked p.name.toList ++ "_results.txt".toList ∧
      out.name.length = p.name.length + 12 ∧ Folder.placeOf out ≠ Folder.placeOf p ∧ out.suffix = ".txt" ∧
      (∀ f verbose, Command.runBatch f verbose p none = Command.runBatch f verbose p (some out)) ∧
      ∀ q : Path, q.name ≠ p.name → '_' ∉ p.name.toList → '_' ∉ q.name.toList → q.results? ≠ some out := by
  let name := String.ofList (Path.resultsName p.name.toList)
  obtain ⟨root, parent, last⟩ := p.with_name_parts name
  have found : p.results? = some (p.withName name) := if_neg named
  have written : name.toList = Path.resultsName p.name.toList := String.toList_ofList
  have longer : name.length = p.name.length + 12 := by
    rw [← String.length_toList, written, Path.results_length, String.length_toList]
  have other : name ≠ p.name := by
    intro same
    rw [same] at longer
    omega
  have proper : name ≠ ".." := by
    intro same
    rw [same] at longer
    have two : "..".length = 2 := rfl
    omega
  refine ⟨p.withName name, found, root, parent, ?_, ?_, Folder.place_apart p named name other proper, ?_, ?_, ?_⟩
  · rw [last, written, Path.results_name]
  · rw [last, longer]
  · rw [Path.suffix, last, written, Path.results_ending, String.ofList_toList]
  · intro f verbose
    rw [Command.runBatch, Command.runBatch, found]
    rfl
  · intro q different pPlain qPlain collides
    exact different (Path.results_apart q p _ qPlain pPlain collides found)

theorem results_beside_hidden_archive :
    (Path.ofText "data/.sums.tar.xz").name ≠ "" ∧
      ∃ out, (Path.ofText "data/.sums.tar.xz").results? = some out ∧ out = Path.ofText "data/.sums_tar_xz_results.txt" ∧
        Folder.placeOf out ≠ ["data", ".sums.tar.xz"] ∧ out.suffix = ".txt" ∧
        (Path.ofText "data/.sums.tar").results? ≠ some out := by
  have named : (Path.ofText "data/.sums.tar.xz").name ≠ "" := by decide +kernel
  obtain ⟨out, found, -, -, -, -, apart, suffix, -, others⟩ := results_beside_input _ named
  have expected : (Path.ofText "data/.sums.tar.xz").results? = some (Path.ofText "data/.sums_tar_xz_results.txt") := by
    decide +kernel
  have place : Folder.placeOf (Path.ofText "data/.sums.tar.xz") = ["data", ".sums.tar.xz"] := by decide +kernel
  rw [place] at apart
  have same := Option.some.inj (found.symm.trans expected)
  exact ⟨named, out, found, same, apart, suffix,
    others (Path.ofText "data/.sums.tar") (by decide +kernel) (by decide +kernel) (by decide +kernel)⟩

end Reckoner
