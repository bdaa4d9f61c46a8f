import Mathlib.Data.List.Induction
import Reckoner.Proofs.Writing

set_option autoImplicit false

namespace Reckoner.Folder

def IsTextMember (format : Format) (m : Member) : Prop :=
  ".txt".toList <:+ m.name.toList ∧ (format = .tarXz → ∃ bytes, m.item = some (.bytes bytes))

def IsFirstName (format : Format) (members : List Member) (name : String) : Prop :=
  ∃ before first after, members = before ++ first :: after ∧ IsTextMember format first ∧
    (∀ o ∈ before, ¬ IsTextMember format o) ∧ first.name = name

-- The members that a hard link leads to, one after the other, when it stands
-- behind the given ones.
inductive Leads : List Member → Member → List Member → Prop where
  | plain (before : List Member) (m : Member) (item : m.target? = none) : Leads before m []
  | lost (before : List Member) (m : Member) (place : List String) (link : m.target? = some place)
      (nowhere : ∀ o ∈ before, o.place ≠ place) : Leads before m []
  | on (before after : List Member) (m o : Member) (rest : List Member) (link : m.target? = some o.place)
      (last : ∀ later ∈ after, later.place ≠ o.place) (further : Leads before o rest) :
      Leads (before ++ o :: after) m (o :: rest)

inductive IsTrail (format : Format) (members : List Member) : List Member → Prop where
  | unnamed (untitled : ∀ m ∈ members, ¬ IsTextMember format m) : IsTrail format members []
  | named (before after rest : List Member) (m : Member) (split : members = before ++ m :: after)
      (first : IsFirstName format members m.name) (last : ∀ o ∈ after, o.name ≠ m.name) (leads : Leads before m rest) :
      IsTrail format members (m :: rest)

def trailOf (format : Format) (members : List Member) : List Member :=
  match textName? format members with
  | none => []
  | some name => trail format members name

theorem is_file_iff (m : Member) : m.isFile = true ↔ ∃ bytes, m.item = some (.bytes bytes) := by
  rw [Member.isFile]
  split
  · next bytes held => simp [held]
  · next other =>
      refine ⟨fun file => by contradiction, ?_⟩
      intro file
      obtain ⟨bytes, held⟩ := file
      exact absurd held (other bytes)

theorem text_member_iff (format : Format) (m : Member) :
    (format.counts m = true ∧ isTextName m.name = true) ↔ IsTextMember format m := by
  have suffix : isTextName m.name = true ↔ ".txt".toList <:+ m.name.toList := List.isSuffixOf_iff_suffix
  have counted : format.counts m = true ↔ (format = .tarXz → ∃ bytes, m.item = some (.bytes bytes)) := by
    by_cases tar : format = .tarXz
    · simp [Format.counts, tar, is_file_iff]
    · simp [Format.counts, tar]
  rw [suffix, counted, IsTextMember, and_comm]

theorem text_name_first (format : Format) (members : List Member) :
    textName? format members =
      (members.find? fun m => decide (format.counts m = true ∧ isTextName m.name = true)).map (·.name) := by
  rw [textName?, List.find?_map, List.find?_filter]
  rfl

theorem text_name_some (format : Format) (members : List Member) (name : String) :
    textName? format members = some name ↔ IsFirstName format members name := by
  rw [text_name_first, Option.map_eq_some_iff]
  simp only [List.find?_eq_some_iff_append, text_member_iff, decide_eq_true_eq, Bool.not_eq_true', decide_eq_false_iff_not]
  refine ⟨?_, ?_⟩
  · intro found
    obtain ⟨first, ⟨text, before, after, split, others⟩, named⟩ := found
    exact ⟨before, first, after, split, text, others, named⟩
  · intro placed
    obtain ⟨before, first, after, split, text, others, named⟩ := placed
    exact ⟨first, ⟨text, before, after, split, others⟩, named⟩

theorem text_name_none (format : Format) (members : List Member) :
    textName? format members = none ↔ ∀ m ∈ members, ¬ IsTextMember format m := by
  rw [text_name_first, Option.map_eq_none_iff, List.find?_eq_none]
  simp only [text_member_iff, decide_eq_true_eq]

theorem led_none (members : List Member) : led none members = [] := by
  induction members with
  | nil => rfl
  | cons m earlier ih => rw [led, if_neg (by simp), ih]

theorem led_passed (place : List String) (others earlier : List Member) (apart : ∀ o ∈ others, o.place ≠ place) :
    led (some place) (others ++ earlier) = led (some place) earlier := by
  induction others with
  | nil => rfl
  | cons o others ih =>
      have other : some place ≠ some o.place := fun same => apart o (by simp) (Option.some.inj same).symm
      rw [List.cons_append, led, if_neg other, ih (fun later member => apart later (by simp [member]))]

theorem leads_further (before : List Member) (m o : Member) (rest : List Member) (leads : Leads before m rest)
    (apart : m.target? ≠ some o.place) : Leads (before ++ [o]) m rest := by
  cases leads with
  | plain before m item => exact .plain _ m item
  | lost before m place link nowhere =>
      refine .lost _ m place link ?_
      intro earlier member
      cases List.mem_append.mp member with
      | inl within => exact nowhere earlier within
      | inr new =>
          obtain rfl := List.mem_singleton.mp new
          intro same
          exact apart (by rw [link, same])
  | on before after m target rest link last further =>
      rw [List.append_assoc, List.cons_append]
      refine .on before (after ++ [o]) m target rest link ?_ further
      intro later member
      cases List.mem_append.mp member with
      | inl within => exact last later within
      | inr new =>
          obtain rfl := List.mem_singleton.mp new
          intro same
          exact apart (by rw [link, same])

theorem led_leads (before : List Member) (m : Member) : Leads before m (led m.target? before.reverse) := by
  induction before using List.reverseRecOn generalizing m with
  | nil =>
      cases link : m.target? with
      | none => exact .plain [] m link
      | some place => exact .lost [] m place link (by simp)
  | append_singleton before o ih =>
      rw [List.reverse_append, List.reverse_singleton, List.singleton_append, led]
      by_cases here : m.target? = some o.place
      · rw [if_pos here]
        exact .on before [] m o _ here (by simp) (ih o)
      · rw [if_neg here]
        exact leads_further before m o _ (ih m) here

theorem leads_led (before : List Member) (m : Member) (rest : List Member) (leads : Leads before m rest) :
    led m.target? before.reverse = rest := by
  induction leads with
  | plain before m item => rw [item, led_none]
  | lost before m place link nowhere =>
      have passed := led_passed place before.reverse [] (fun o member => nowhere o (List.mem_reverse.mp member))
      rw [link, ← List.append_nil before.reverse, passed, led]
  | on before after m o rest link last further ih =>
      have passed := led_passed o.place after.reverse (o :: before.reverse)
        (fun later member => last later (List.mem_reverse.mp member))
      rw [link, List.reverse_append, List.reverse_cons, List.append_assoc, List.singleton_append, passed, led,
        if_pos rfl, ih]

theorem trail_split (format : Format) (listed : format ≠ .sevenZip) (before after : List Member) (m : Member)
    (last : ∀ o ∈ after, o.name ≠ m.name) :
    trail format (before ++ m :: after) m.name = m :: led m.target? before.reverse := by
  have passed : (before ++ m :: after).reverse.dropWhile (·.name != m.name) = m :: before.reverse := by
    rw [List.reverse_append, List.reverse_cons, List.append_assoc, List.singleton_append]
    rw [List.dropWhile_append_of_pos (by simpa using last)]
    exact List.dropWhile_cons_of_neg (by simp)
  simp only [trail, if_neg listed, passed]

theorem last_named (members : List Member) (name : String) (named : ∃ m ∈ members, m.name = name) :
    ∃ before m after, members = before ++ m :: after ∧ m.name = name ∧ ∀ o ∈ after, o.name ≠ name := by
  obtain ⟨o, member, same⟩ := named
  have found : (members.reverse.find? (·.name == name)).isSome = true := by
    rw [List.find?_isSome]
    exact ⟨o, List.mem_reverse.mpr member, beq_iff_eq.mpr same⟩
  obtain ⟨m, first⟩ := Option.isSome_iff_exists.mp found
  obtain ⟨here, after, before, split, others⟩ := List.find?_eq_some_iff_append.mp first
  refine ⟨before.reverse, m, after.reverse, ?_, beq_iff_eq.mp here, ?_⟩
  · rw [← List.reverse_reverse members, split]
    simp
  · intro later within
    simpa using others later (List.mem_reverse.mp within)

theorem first_name_held (format : Format) (members : List Member) (name : String)
    (first : IsFirstName format members name) : ∃ m ∈ members, m.name = name := by
  obtain ⟨before, m, after, rfl, -, -, same⟩ := first
  exact ⟨m, by simp, same⟩

theorem trail_of_trail (format : Format) (listed : format ≠ .sevenZip) (members : List Member) :
    IsTrail format members (trailOf format members) := by
  rw [trailOf]
  cases named : textName? format members with
  | none => exact .unnamed ((text_name_none format members).mp named)
  | some name =>
      have first := (text_name_some format members name).mp named
      obtain ⟨before, m, after, rfl, rfl, last⟩ := last_named members name (first_name_held format members name first)
      simp only [trail_split format listed before after m last]
      exact .named before after _ m rfl first last (led_leads before m)

theorem trail_iff (format : Format) (listed : format ≠ .sevenZip) (members taken : List Member) :
    trailOf format members = taken ↔ IsTrail format members taken := by
  refine ⟨fun same => same ▸ trail_of_trail format listed members, ?_⟩
  intro placed
  rw [trailOf]
  cases placed with
  | unnamed untitled => rw [(text_name_none format members).mpr untitled]
  | named before after rest m split first last leads =>
      rw [(text_name_some format members m.name).mpr first, split]
      simp only [trail_split format listed before after m last, leads_led before m rest leads]

theorem trail_of_empty (format : Format) (listed : format ≠ .sevenZip) (members : List Member) :
    trailOf format members = [] ↔ ∀ m ∈ members, ¬ IsTextMember format m := by
  rw [trail_iff format listed]
  refine ⟨?_, .unnamed⟩
  intro placed
  cases placed with
  | unnamed untitled => exact untitled

def unpackedBytes (release : TarRelease) (format : Format) (m : Member) (led : List Member) :
    Except ArchiveError ByteArray :=
  match unpack release format m led with
  | .error e => .error e
  | .ok f =>
    match f.content (Path.ofText m.name) with
    | .ok (.bytes bytes) => .ok bytes
    | .ok (.archive _ _) => .error (.access .notFound)
    | .error e => .error (.access e)

theorem extract_trail (release : TarRelease) (format : Format) (listed : format ≠ .sevenZip) (given : List Member) :
    extract release format given =
      match trailOf format (given.map format.listed) with
      | [] => .error (.noText format)
      | m :: led => unpackedBytes release format m led := by
  rw [extract, trailOf]
  cases named : textName? format (given.map format.listed) with
  | none => rfl
  | some name =>
      have first := (text_name_some format _ name).mp named
      obtain ⟨before, m, after, split, rfl, last⟩ := last_named _ name (first_name_held format _ name first)
      simp only [split, trail_split format listed before after m last]
      rfl

inductive Inserted (Extra : Member → Prop) : List Member → List Member → Prop where
  | done : Inserted Extra [] []
  | kept (m : Member) (small large : List Member) (later : Inserted Extra small large) :
      Inserted Extra (m :: small) (m :: large)
  | added (m : Member) (small large : List Member) (extra : Extra m) (later : Inserted Extra small large) :
      Inserted Extra small (m :: large)

theorem inserted_mapped (Extra Listed : Member → Prop) (listing : Member → Member) (small large : List Member)
    (inserted : Inserted Extra small large) (listed : ∀ m, Extra m → Listed (listing m)) :
    Inserted Listed (small.map listing) (large.map listing) := by
  induction inserted with
  | done => exact .done
  | kept m small large _ ih => exact .kept (listing m) _ _ ih
  | added m small large extra _ ih => exact .added (listing m) _ _ (listed m extra) ih

theorem text_name_trimmed (name : String) (text : isTextName name = true) : trimSlashes name = name := by
  obtain ⟨stem, split⟩ := List.isSuffixOf_iff_suffix.mp text
  have turned : name.toList.reverse = 't' :: ("xt.".toList ++ stem.reverse) := by
    rw [← split, List.reverse_append]
    rfl
  have kept : name.toList.reverse.dropWhile (· == '/') = name.toList.reverse := by
    rw [turned]
    exact List.dropWhile_cons_of_neg (by decide)
  rw [trimSlashes, kept, List.reverse_reverse, String.ofList_toList]

theorem text_member_name (format : Format) (m : Member) (text : IsTextMember format m) : isTextName m.name = true :=
  ((text_member_iff format m).mpr text).2

theorem untitled_not_text (format : Format) (m : Member) (untitled : isTextName (trimSlashes m.name) = false) :
    isTextName m.name = false ∧ ¬ IsTextMember format m := by
  have unnamed : isTextName m.name = false := by
    cases text : isTextName m.name with
    | false => rfl
    | true =>
        rw [text_name_trimmed m.name text, text] at untitled
        exact Bool.noConfusion untitled
  exact ⟨unnamed, fun text => Bool.noConfusion ((text_member_name format m text).symm.trans unnamed)⟩

theorem inserted_split (Extra : Member → Prop) (m : Member) (before after large : List Member)
    (inserted : Inserted Extra (before ++ m :: after) large) :
    ∃ front back, large = front ++ m :: back ∧ Inserted Extra before front ∧ Inserted Extra after back := by
  generalize whole : before ++ m :: after = small at inserted
  induction inserted generalizing before with
  | done => simp at whole
  | kept o small large later ih =>
      cases before with
      | nil =>
          obtain ⟨rfl, rfl⟩ := List.cons.inj whole
          exact ⟨[], large, rfl, .done, later⟩
      | cons first before =>
          obtain ⟨rfl, rest⟩ := List.cons.inj whole
          obtain ⟨front, back, rfl, around, behind⟩ := ih before rest
          exact ⟨first :: front, back, rfl, .kept first _ _ around, behind⟩
  | added o small large extra later ih =>
      obtain ⟨front, back, rfl, around, behind⟩ := ih before whole
      exact ⟨o :: front, back, rfl, .added o _ _ extra around, behind⟩

theorem inserted_member (Extra : Member → Prop) (small large : List Member) (inserted : Inserted Extra small large)
    (m : Member) (member : m ∈ large) : m ∈ small ∨ Extra m := by
  induction inserted with
  | done => contradiction
  | kept o small large later ih =>
      cases List.mem_cons.mp member with
      | inl same => exact .inl (by simp [same])
      | inr within => exact (ih within).imp_left (List.mem_cons_of_mem o)
  | added o small large extra later ih =>
      cases List.mem_cons.mp member with
      | inl same => exact .inr (same ▸ extra)
      | inr within => exact ih within

theorem leads_inserted (Extra : Member → Prop) (before large : List Member) (m : Member) (rest : List Member)
    (leads : Leads before m rest) (inserted : Inserted Extra before large)
    (apart : ∀ link ∈ m :: rest, ∀ o, Extra o → link.target? ≠ some o.place) : Leads large m rest := by
  induction leads generalizing large with
  | plain before m item => exact .plain large m item
  | lost before m place link nowhere =>
      refine .lost large m place link ?_
      intro o member same
      cases inserted_member Extra before large inserted o member with
      | inl old => exact nowhere o old same
      | inr extra => exact apart m (by simp) o extra (by rw [link, same])
  | on before after m target rest link last further ih =>
      obtain ⟨front, back, rfl, around, behind⟩ := inserted_split Extra target before after large inserted
      refine .on front back m target rest link ?_ ?_
      · intro later member same
        cases inserted_member Extra after back behind later member with
        | inl old => exact last later old same
        | inr extra => exact apart m (by simp) later extra (by rw [link, same])
      · exact ih front around (fun passed member => apart passed (List.mem_cons_of_mem m member))

theorem first_name_inserted (format : Format) (Extra : Member → Prop) (small large : List Member) (name : String)
    (first : IsFirstName format small name) (inserted : Inserted Extra small large)
    (untitled : ∀ o, Extra o → ¬ IsTextMember format o) : IsFirstName format large name := by
  obtain ⟨before, m, after, rfl, text, others, same⟩ := first
  obtain ⟨front, back, rfl, around, -⟩ := inserted_split Extra m before after large inserted
  refine ⟨front, m, back, rfl, text, ?_, same⟩
  intro o member
  exact (inserted_member Extra before front around o member).elim (others o) (untitled o)

def Beside (taken : List Member) (o : Member) : Prop :=
  isTextName (trimSlashes o.name) = false ∧ ∀ link ∈ taken, link.target? ≠ some o.place

theorem trail_inserted (format : Format) (small large taken : List Member) (placed : IsTrail format small taken)
    (inserted : Inserted (Beside taken) small large) : IsTrail format large taken := by
  have untitled (o : Member) (beside : Beside taken o) : ¬ IsTextMember format o :=
    (untitled_not_text format o beside.1).2
  cases placed with
  | unnamed none =>
      refine .unnamed ?_
      intro o member
      exact (inserted_member _ small large inserted o member).elim (none o) (untitled o)
  | named before after rest m split first last leads =>
      have named := first_name_inserted format _ small large m.name first inserted untitled
      obtain ⟨-, source, -, -, text, -, same⟩ := first
      subst split
      obtain ⟨front, back, rfl, around, behind⟩ := inserted_split _ m before after large inserted
      refine .named front back rest m rfl named ?_ ?_
      · intro o member
        cases inserted_member _ after back behind o member with
        | inl old => exact last o old
        | inr beside =>
            intro equal
            have unnamed := (untitled_not_text format o beside.1).1
            rw [equal, ← same, text_member_name format source text] at unnamed
            exact Bool.noConfusion unnamed
      · exact leads_inserted _ before front m rest leads around (fun link member o beside => beside.2 link member)

theorem trail_appended (format : Format) (members extra : List Member) (m : Member) (rest : List Member)
    (placed : IsTrail format members (m :: rest)) (others : ∀ o ∈ extra, trimSlashes o.name ≠ m.name) :
    IsTrail format (members ++ extra) (m :: rest) := by
  cases placed with
  | named before after rest m split first last leads =>
      obtain ⟨front, source, back, opened, text, earlier, same⟩ := first
      refine .named before (after ++ extra) rest m ?_ ?_ ?_ leads
      · rw [split, List.append_assoc, List.cons_append]
      · exact ⟨front, source, back ++ extra, by rw [opened, List.append_assoc, List.cons_append], text, earlier, same⟩
      · intro o member
        cases List.mem_append.mp member with
        | inl within => exact last o within
        | inr added =>
            intro equal
            have trimmed := text_name_trimmed source.name (text_member_name format source text)
            exact others o added (by rw [equal, ← same, trimmed])

end Reckoner.Folder
