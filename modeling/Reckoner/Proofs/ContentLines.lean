import Reckoner.Proofs.Outcome

set_option autoImplicit false

namespace Reckoner

namespace Text

def boundaries : List Char :=
  ['\n', '\r', '\x0b', '\x0c', '\x1c', '\x1d', '\x1e', '\u0085', '\u2028', '\u2029']

theorem boundary_iff (c : Char) : isLineBreak c = true ↔ c ∈ boundaries := by
  have number (d : Char) : c = d ↔ c.toNat = d.toNat := Char.toNat_inj.symm
  simp only [boundaries, List.mem_cons, List.not_mem_nil, or_false, number, Char.reduceToNat]
  simp only [isLineBreak, inRanges, lineBreakRanges, CharRange.holds, List.any_cons, List.any_nil, Bool.or_false,
    Bool.or_eq_true, Bool.and_eq_true, decide_eq_true_eq]
  omega

theorem not_boundary (c : Char) : isLineBreak c = false ↔ c ∉ boundaries := by
  rw [← boundary_iff, Bool.not_eq_true]

inductive Ends : List Char → List Char → Prop where
  | pair (rest : List Char) : Ends ['\r', '\n'] rest
  | single (c : Char) (rest : List Char) (boundary : c ∈ boundaries) (whole : ¬ StartsPair c rest) : Ends [c] rest

inductive Segmented : List Char → List (List Char) → Prop where
  | last (segment : List Char) (solid : ∀ c ∈ segment, c ∉ boundaries) : Segmented segment [segment]
  | next (segment ending rest : List Char) (segments : List (List Char)) (solid : ∀ c ∈ segment, c ∉ boundaries)
      (ends : Ends ending rest) (later : Segmented rest segments) :
      Segmented (segment ++ (ending ++ rest)) (segment :: segments)

theorem ends_lines (ending rest : List Char) (ends : Ends ending rest) : lines (ending ++ rest) = [] :: lines rest := by
  cases ends with
  | pair => exact lines_pair rest
  | single c _ boundary whole => exact lines_break c rest whole ((boundary_iff c).mpr boundary)

theorem segment_lines (segment ending rest : List Char) (solid : ∀ c ∈ segment, c ∉ boundaries)
    (ends : Ends ending rest) : lines (segment ++ (ending ++ rest)) = segment :: lines rest :=
  lines_before segment _ rest (fun c member => (not_boundary c).mpr (solid c member)) (ends_lines ending rest ends)

theorem last_lines (segment : List Char) (solid : ∀ c ∈ segment, c ∉ boundaries) (filled : segment ≠ []) :
    lines segment = [segment] := by
  induction segment with
  | nil => exact absurd rfl filled
  | cons c tail ih =>
      rw [lines_letter c tail ((not_boundary c).mpr (solid c List.mem_cons_self))]
      by_cases ended : tail = []
      · rw [ended]
        rfl
      · rw [ih (fun d member => solid d (List.mem_cons_of_mem _ member)) ended]
        rfl

theorem segmented_lines (cs : List Char) (segments : List (List Char)) (segmented : Segmented cs segments) :
    segments = lines cs ∨ segments = lines cs ++ [[]] := by
  induction segmented with
  | last segment solid =>
      by_cases empty : segment = []
      · rw [empty]
        exact .inr rfl
      · exact .inl (last_lines segment solid empty).symm
  | next segment ending rest segments solid ends _ ih =>
      rw [segment_lines segment ending rest solid ends]
      exact ih.imp (congrArg _) (congrArg _)

theorem segmented_content (cs : List Char) (segments : List (List Char)) (segmented : Segmented cs segments) :
    contentLines cs = (segments.map strip).filter (· ≠ []) := by
  cases segmented_lines cs segments segmented with
  | inl same => rw [contentLines, same]
  | inr ended =>
      have nothing : (([[]] : List (List Char)).map strip).filter (· ≠ []) = [] := rfl
      rw [ended, List.map_append, List.filter_append, nothing, List.append_nil, contentLines]

theorem segments_exist (cs : List Char) : ∃ segments, Segmented cs segments := by
  induction cs using lines_induction with
  | nil => exact ⟨_, .last [] (by simp)⟩
  | pair rest ih =>
      obtain ⟨segments, later⟩ := ih
      exact ⟨_, .next [] _ rest segments (by simp) (.pair rest) later⟩
  | broken c rest whole isBreak ih =>
      obtain ⟨segments, later⟩ := ih
      exact ⟨_, .next [] _ rest segments (by simp) (.single c rest ((boundary_iff c).mp isBreak) whole) later⟩
  | letter c rest isLetter ih =>
      have letter := (not_boundary c).mp isLetter
      obtain ⟨segments, segmented⟩ := ih
      cases segmented with
      | last _ solid => exact ⟨_, .last (c :: rest) (List.forall_mem_cons.mpr ⟨letter, solid⟩)⟩
      | next segment ending behind segments solid ends later =>
          exact ⟨_, .next (c :: segment) ending behind segments (List.forall_mem_cons.mpr ⟨letter, solid⟩) ends later⟩

theorem segmented_cases (cs : List Char) (segments : List (List Char)) (segmented : Segmented cs segments) :
    (segments = [cs] ∧ ∀ c ∈ cs, c ∉ boundaries) ∨
      ∃ segment ending rest more, cs = segment ++ (ending ++ rest) ∧ segments = segment :: more ∧
        (∀ c ∈ segment, c ∉ boundaries) ∧ Ends ending rest ∧ Segmented rest more := by
  cases segmented with
  | last segment solid => exact .inl ⟨rfl, solid⟩
  | next segment ending rest more solid ends later =>
      exact .inr ⟨segment, ending, rest, more, rfl, rfl, solid, ends, later⟩

theorem ends_boundary (ending rest : List Char) (ends : Ends ending rest) : ∃ c ∈ ending, c ∈ boundaries := by
  cases ends with
  | pair => exact ⟨'\n', by simp, by decide⟩
  | single c _ boundary _ => exact ⟨c, List.mem_cons_self, boundary⟩

theorem ends_unique (ending rest ending' rest' : List Char) (first : Ends ending rest) (second : Ends ending' rest')
    (same : ending ++ rest = ending' ++ rest') : ending = ending' ∧ rest = rest' := by
  cases first with
  | pair =>
      cases second with
      | pair => exact ⟨rfl, by simpa using same⟩
      | single c _ _ whole =>
          obtain ⟨rfl, behind⟩ := List.cons.inj same
          exact absurd ⟨rfl, rest, behind.symm⟩ whole
  | single c _ _ whole =>
      cases second with
      | pair =>
          obtain ⟨rfl, behind⟩ := List.cons.inj same
          exact absurd ⟨rfl, rest', behind⟩ whole
      | single d _ _ _ => 
          obtain ⟨rfl, behind⟩ := List.cons.inj same
          exact ⟨rfl, behind⟩

theorem segments_unique (cs : List Char) (first second : List (List Char)) (segmented : Segmented cs first)
    (other : Segmented cs second) : first = second := by
  induction segmented generalizing second with
  | last segment solid =>
      cases segmented_cases segment second other with
      | inl whole => exact whole.1.symm
      | inr parts =>
          obtain ⟨front, ending, rest, more, rfl, -, -, ends, -⟩ := parts
          obtain ⟨c, inside, boundary⟩ := ends_boundary ending rest ends
          exact absurd boundary (solid c (by simp [inside]))
  | next segment ending rest segments solid ends _ ih =>
      cases segmented_cases _ second other with
      | inl whole =>
          obtain ⟨c, inside, boundary⟩ := ends_boundary ending rest ends
          exact absurd boundary (whole.2 c (by simp [inside]))
      | inr parts =>
          obtain ⟨segment', ending', rest', more, same, rfl, solid', ends', later⟩ := parts
          have heads := congrArg lines same
          rw [segment_lines segment ending rest solid ends, segment_lines segment' ending' rest' solid' ends'] at heads
          obtain ⟨rfl, -⟩ := List.cons.inj heads
          obtain ⟨-, rfl⟩ := ends_unique ending rest ending' rest' ends ends' (List.append_cancel_left same)
          rw [ih more later]

theorem drop_blanks_head (cs : List Char) (c : Char) (first : (dropBlanks cs).head? = some c) : isBlank c = false := by
  have solid := List.head?_dropWhile_not isBlank cs
  rw [dropBlanks] at first
  rwa [first] at solid

theorem drop_blanks_last (cs : List Char) (c : Char) (last : (dropBlanks cs).getLast? = some c) :
    cs.getLast? = some c := by
  have parts : cs.takeWhile isBlank ++ dropBlanks cs = cs := List.takeWhile_append_dropWhile
  rw [← parts, List.getLast?_append, last]
  rfl

theorem strip_last (cs : List Char) (c : Char) (last : (strip cs).getLast? = some c) : isBlank c = false := by
  rw [strip, List.getLast?_reverse] at last
  exact drop_blanks_head _ c last

theorem strip_head (cs : List Char) (c : Char) (first : (strip cs).head? = some c) : isBlank c = false := by
  rw [strip, List.head?_reverse] at first
  have last := drop_blanks_last _ c first
  rw [List.getLast?_reverse] at last
  exact drop_blanks_head cs c last

theorem drop_blanks_solid (cs : List Char) (solid : ∀ c, cs.head? = some c → isBlank c = false) : dropBlanks cs = cs := by
  cases cs with
  | nil => rfl
  | cons c tail => exact List.dropWhile_cons_of_neg (by simp [solid c rfl])

theorem strip_solid (cs : List Char) (front : ∀ c, cs.head? = some c → isBlank c = false)
    (behind : ∀ c, cs.getLast? = some c → isBlank c = false) : strip cs = cs := by
  rw [strip, drop_blanks_solid cs front, drop_blanks_solid cs.reverse, List.reverse_reverse]
  intro c first
  rw [List.head?_reverse] at first
  exact behind c first

theorem unify_letter (c : Char) (rest : List Char) (other : c ≠ '\r') : unifyBreaks (c :: rest) = c :: unifyBreaks rest := by
  rw [unifyBreaks]
  · rw [if_neg other]
  · intro behind carriage
    exact absurd carriage other

theorem unify_carriage (rest : List Char) (whole : ¬ StartsPair '\r' rest) :
    unifyBreaks ('\r' :: rest) = '\n' :: unifyBreaks rest := by
  rw [unifyBreaks]
  · rfl
  · intro behind _ same
    exact whole ⟨rfl, behind, same⟩

theorem lines_unified (cs : List Char) : lines (unifyBreaks cs) = lines cs := by
  induction cs using lines_induction with
  | nil => rfl
  | pair rest ih => rw [unifyBreaks, lines_feed, lines_pair, ih]
  | broken c rest whole isBreak ih =>
      rw [lines_break c rest whole isBreak]
      by_cases carriage : c = '\r'
      · rw [carriage] at whole ⊢
        rw [unify_carriage rest whole, lines_feed, ih]
      · have single : ¬ StartsPair c (unifyBreaks rest) := fun pair => carriage pair.1
        rw [unify_letter c rest carriage, lines_break c _ single isBreak, ih]
  | letter c rest isLetter ih =>
      have other : c ≠ '\r' := by
        intro carriage
        rw [carriage] at isLetter
        contradiction
      rw [unify_letter c rest other, lines_letter c _ isLetter, lines_letter c rest isLetter, ih]

end Text

namespace Folder

inductive Offers (f : Folder) (p : Path) : ByteArray → Prop where
  | file (bytes : ByteArray) (named : p.suffix = ".txt") (held : f.content p = .ok (.bytes bytes)) : Offers f p bytes
  | archive (format : Format) (members : List Member) (bytes : ByteArray) (other : p.suffix ≠ ".txt")
      (named : formatOf? p = some format) (held : f.content p = .ok (.archive format members))
      (extracted : extract .late format members = .ok bytes) : Offers f p bytes

theorem offers_read (f : Folder) (p : Path) (bytes : ByteArray) (offers : f.Offers p bytes) :
    f.readText p = decodeText bytes := by
  cases offers with
  | file _ named held => rw [readText, if_pos named, readTextFile, held]
  | archive format members _ other named held extracted =>
      rw [readText, if_neg other, readArchive, readArchiveWith, named]
      simp only [held, Folder.members, if_true, extracted]

theorem file_read (f : Folder) (p : Path) (text : String) (named : p.suffix = ".txt")
    (read : f.readTextFile p = .ok text) : ∃ bytes, f.Offers p bytes ∧ decodeText bytes = .ok text := by
  rw [readTextFile] at read
  cases held : f.content p with
  | error e => simp only [held, reduceCtorEq] at read
  | ok content =>
      cases content with
      | archive _ _ => simp only [held, reduceCtorEq] at read
      | bytes bytes =>
          rw [held] at read
          exact ⟨bytes, .file bytes named held, read⟩

theorem archive_read (f : Folder) (p : Path) (text : String) (other : p.suffix ≠ ".txt")
    (read : f.readArchive p = .ok text) : ∃ bytes, f.Offers p bytes ∧ decodeText bytes = .ok text := by
  rw [readArchive, readArchiveWith] at read
  cases named : formatOf? p with
  | none => simp only [named, reduceCtorEq] at read
  | some format =>
      cases held : f.content p with
      | error e => simp only [named, held, reduceCtorEq] at read
      | ok content =>
          cases content with
          | bytes _ => simp only [named, held, members, reduceCtorEq] at read
          | archive actual given =>
              by_cases same : actual = format
              · simp only [named, held, members, if_pos same] at read
                cases extracted : extract .late format given with
                | error e => simp only [extracted, reduceCtorEq] at read
                | ok bytes =>
                    rw [extracted] at read
                    exact ⟨bytes, .archive format given bytes other named (same ▸ held) extracted, read⟩
              · simp only [named, held, members, if_neg same, reduceCtorEq] at read

theorem read_text_offers (f : Folder) (p : Path) (text : String) (read : f.readText p = .ok text) :
    ∃ bytes, f.Offers p bytes ∧ decodeText bytes = .ok text := by
  rw [readText] at read
  by_cases named : p.suffix = ".txt"
  · rw [if_pos named] at read
    exact file_read f p text named read
  · rw [if_neg named] at read
    exact archive_read f p text named read

theorem expressions_unified (c : String) : expressionsOf (String.ofList (Text.unifyBreaks c.toList)) = expressionsOf c := by
  rw [expressionsOf, String.toList_ofList, Text.contentLines, Text.lines_unified, expressionsOf, Text.contentLines]

theorem decoded_unified (bytes : ByteArray) (text : String) (decoded : decodeText bytes = .ok text) :
    ∃ c, Utf8.decode bytes = .ok c ∧ expressionsOf text = expressionsOf c := by
  rw [decodeText] at decoded
  cases decodes : Utf8.decode bytes with
  | error fault => simp only [decodes, reduceCtorEq] at decoded
  | ok c =>
      rw [decodes] at decoded
      rw [← Except.ok.inj decoded]
      exact ⟨c, rfl, expressions_unified c⟩

theorem read_expressions_iff (f : Folder) (p : Path) (expressions : List String) :
    f.readExpressions p = .ok expressions ↔
      ∃ bytes c, f.Offers p bytes ∧ Utf8.decode bytes = .ok c ∧ expressions = expressionsOf c := by
  refine ⟨?_, ?_⟩
  · intro read
    obtain ⟨text, readable, rfl⟩ := expressions_cases f p expressions read
    obtain ⟨bytes, offers, decoded⟩ := read_text_offers f p text readable
    obtain ⟨c, decodes, same⟩ := decoded_unified bytes text decoded
    exact ⟨bytes, c, offers, decodes, same⟩
  · intro held
    obtain ⟨bytes, c, offers, decodes, rfl⟩ := held
    rw [readExpressions, offers_read f p bytes offers, decodeText, decodes]
    exact congrArg Except.ok (expressions_unified c)

structure IsContentLine (t : String) : Prop where
  filled : t ≠ ""
  front : ∀ c, t.toList.head? = some c → Text.isBlank c = false
  behind : ∀ c, t.toList.getLast? = some c → Text.isBlank c = false
  unbroken : ∀ c ∈ t.toList, c ∉ Text.boundaries

theorem expressions_content (c t : String) (member : t ∈ expressionsOf c) : IsContentLine t := by
  have filled := expression_filled c t member
  have unbroken := expression_unbroken c t member
  obtain ⟨line, inLines, rfl⟩ := List.mem_map.mp member
  rw [Text.content_lines_filled] at inLines
  obtain ⟨given, -, rfl⟩ := List.mem_map.mp inLines
  rw [String.toList_ofList] at filled unbroken
  constructor
  · intro empty
    rw [String.ofList_eq_empty_iff] at empty
    rw [empty] at filled
    exact filled rfl
  · rw [String.toList_ofList]
    exact Text.strip_head given
  · rw [String.toList_ofList]
    exact Text.strip_last given
  · rw [String.toList_ofList]
    exact fun d inside => (Text.not_boundary d).mp (unbroken d inside)

theorem content_line_alone (t : String) (content : IsContentLine t) : expressionsOf t = [t] := by
  have filled : t.toList ≠ [] := fun empty => content.filled (String.toList_eq_nil_iff.mp empty)
  have same : Text.strip t.toList = t.toList := Text.strip_solid t.toList content.front content.behind
  have kept : [t.toList].filter (· ≠ []) = [t.toList] := by simp [filled]
  rw [expressionsOf, Text.contentLines, Text.last_lines t.toList content.unbroken filled, List.map_singleton, same, kept,
    List.map_singleton, String.ofList_toList]

theorem content_lines_joined (ts : List String) (content : ∀ t ∈ ts, IsContentLine t) :
    expressionsOf ("\n".intercalate ts) = ts := by
  induction ts with
  | nil => rfl
  | cons t more ih =>
      have alone := content_line_alone t (content t List.mem_cons_self)
      have others := ih (fun u member => content u (List.mem_cons_of_mem _ member))
      cases more with
      | nil => rw [String.intercalate_singleton, alone]
      | cons u rest => rw [String.intercalate_cons_cons, expressions_seam, alone, others]; rfl

end Folder

theorem content_lines_read :
    (∀ c : String, ∃ segments, Text.Segmented c.toList segments ∧
      (∀ other, Text.Segmented c.toList other → other = segments) ∧
      Folder.expressionsOf c = ((segments.map Text.strip).filter (· ≠ [])).map String.ofList) ∧
    (∀ c, ∀ t ∈ Folder.expressionsOf c, Folder.IsContentLine t) ∧
    (∀ c : String, Folder.expressionsOf (String.ofList (Text.unifyBreaks c.toList)) = Folder.expressionsOf c) ∧
    (∀ (f : Folder) (p : Path) (expressions : List String), f.readExpressions p = .ok expressions ↔
      ∃ bytes c, f.Offers p bytes ∧ Utf8.decode bytes = .ok c ∧ expressions = Folder.expressionsOf c) ∧
    (∀ first second : String, Folder.expressionsOf (first ++ "\n" ++ second) =
      Folder.expressionsOf first ++ Folder.expressionsOf second) ∧
    ∀ c, Folder.expressionsOf ("\n".intercalate (Folder.expressionsOf c)) = Folder.expressionsOf c := by
  refine ⟨?_, Folder.expressions_content, Folder.expressions_unified, Folder.read_expressions_iff,
    Folder.expressions_seam, ?_⟩
  · intro c
    obtain ⟨segments, segmented⟩ := Text.segments_exist c.toList
    refine ⟨segments, segmented, ?_, ?_⟩
    · intro other also
      exact Text.segments_unique c.toList other segments also segmented
    · rw [Folder.expressionsOf, Text.segmented_content c.toList segments segmented]
  · intro c
    exact Folder.content_lines_joined _ (Folder.expressions_content c)

def mixedBreaks : String := "1\r\n\x0b 2 \r3\u0085\u2028 "

def mixedFolder : Folder := ⟨[(["mixed.txt"], .file (.bytes mixedBreaks.toUTF8))]⟩

theorem content_lines_read_of_mixed_breaks :
    mixedFolder.readExpressions (Path.ofText "mixed.txt") = .ok ["1", "2", "3"] ∧
      (∀ t ∈ ["1", "2", "3"], Folder.IsContentLine t) ∧
      Folder.expressionsOf "1\n2\n3" = ["1", "2", "3"] := by
  have yielded : Folder.expressionsOf mixedBreaks = ["1", "2", "3"] := by decide +kernel
  obtain ⟨-, content, -, read, -, joined⟩ := content_lines_read
  have again := joined mixedBreaks
  have lines := content mixedBreaks
  rw [yielded] at again lines
  refine ⟨?_, lines, again⟩
  exact (read mixedFolder _ _).mpr ⟨_, mixedBreaks, .file _ rfl rfl, Folder.decode_written mixedBreaks, yielded.symm⟩

end Reckoner
