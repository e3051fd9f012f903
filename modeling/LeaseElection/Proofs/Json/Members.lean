import LeaseElection.Proofs.Json.Skipping

namespace LeaseElection.Json.Reader

open LeaseElection.Text (Glyph)

variable {α δ : Type} {s : Shape δ} {field : Field δ} {draft filled final : δ} {name : String}
  {gap text more value : List Char} {rest before : List Glyph} {m : Member} {inside : Blanks}

/-- A member from the colon to the end of its value. -/
def bodyText (m : Member) : List Char :=
  m.beforeColon.val ++ (':' :: (m.before.val ++ m.value))

theorem spoken_of_named (named : m.name? = some name) : spoken? m.name = some name.toList := by
  obtain ⟨cs, spoken, rfl⟩ := Option.map_eq_some_iff.mp named
  rw [spoken, String.toList_ofList]

theorem named_of_spoken (spoken : spoken? m.name = some name.toList) : m.name? = some name := by
  rw [Member.name?, spoken, Option.map_some, String.ofList_toList]

theorem reads_colon : Reads colon [':'] rest () := by
  unfold colon
  exact .token (by decide) (.last (f := fun _ => pure ()) (.advance .pure) .pure)

theorem reads_gapColon (blank : IsBlank gap) : Reads colon (gap ++ [':']) rest () :=
  TakesBlanks.reads (.bind .peekToken) blank reads_colon

theorem reads_knownMember (named : m.name? = some name) (known : s.field? name = some field)
    (absent : field.present draft = false)
    (fills : Reads (field.fill draft) (m.before.val ++ m.value) rest filled) :
    Reads (member s draft) (quoted m.name ++ bodyText m) rest filled := by
  unfold member quoted bodyText
  refine .advance (.bind (reads_stringBody_of_spoken (spoken_of_named named)) ?_)
  rw [known]
  dsimp only
  rw [absent, if_neg (by decide), ← List.singleton_append, ← List.append_assoc]
  exact .bind (reads_gapColon m.beforeColon.property) fills

theorem reads_unknownMember (named : m.name? = some name) (unknown : s.field? name = none)
    (tolerant : s.closed = false) (wellFormed : WellFormed m.value) (ends : EndsNumber rest) :
    Reads (member s draft) (quoted m.name ++ bodyText m) rest draft := by
  unfold member quoted bodyText
  refine .advance (.bind (reads_stringBody_of_spoken (spoken_of_named named)) ?_)
  rw [unknown]
  dsimp only
  rw [tolerant, if_neg (by decide), ← List.singleton_append, ← List.append_assoc]
  exact .bind (reads_gapColon m.beforeColon.property)
    (.last (reads_skipValue m.before.property wellFormed ends) .pure)

theorem takesBlanks_anotherMember (first : Bool) : TakesBlanks (anotherMember first) :=
  .bind .peekToken

theorem reads_blankThen {β : Type} {f : Option Glyph → Reader β} {g : Glyph} {b : β}
    (blank : IsBlank gap) (ahead : rest.head? = some g) (solid : isSpace g = false)
    (next : Reads (f (some g)) [] rest b) : Reads (peekToken >>= f) gap rest b := by
  rw [← List.append_nil gap]
  exact TakesBlanks.reads (.bind .peekToken) blank (.tokenRest ahead solid next)

/-- The next member is met at its name, behind a comma unless it is the first. -/
theorem reads_nextName (first : Bool) (blank : IsBlank gap) (m : Member) :
    Reads (anotherMember first) (gap ++ ((if first then [] else [',']) ++ m.beforeName.val))
      (.char '"' :: rest) true := by
  refine (takesBlanks_anotherMember first).reads blank ?_
  unfold anotherMember
  cases first with
  | true => exact reads_blankThen m.beforeName.property rfl (by decide) .pure
  | false =>
      refine .token (by decide) (.advance ?_)
      exact reads_blankThen m.beforeName.property rfl (by decide) .pure

theorem memberThen_text (first : List Char) (m : Member) (more : List Char) :
    gap ++ (first ++ (m.text ++ more)) = (gap ++ (first ++ m.beforeName.val)) ++
      ((quoted m.name ++ bodyText m) ++ (m.after.val ++ more)) := by
  simp only [Member.text, Member.key, Element.text, bodyText, List.append_assoc, List.cons_append,
    List.nil_append]

theorem endsNumber_after (m : Member) (ends : EndsNumber (more.map .char ++ rest)) :
    EndsNumber ((m.after.val ++ more).map .char ++ rest) := by
  rw [List.map_append, List.append_assoc]
  exact endsNumber_gap m.after.property ends

theorem reads_memberFirst (first : Bool) (blank : IsBlank gap)
    (read : ∀ rest, EndsNumber rest →
      Reads (member s draft) (quoted m.name ++ bodyText m) rest filled)
    (ends : EndsNumber (more.map .char ++ rest)) {fuel : Nat}
    (later : Reads (members s fuel false filled) (m.after.val ++ more) rest final) :
    Reads (members s (fuel + 1) first draft)
      (gap ++ ((if first then [] else [',']) ++ (m.text ++ more))) rest final := by
  have both : Reads (member s draft >>= members s fuel false) _ rest final :=
    (read _ (endsNumber_after m ends)).bind later
  rw [memberThen_text, members]
  exact .bind (reads_nextName first blank m) both

theorem reads_noName (blank : IsBlank gap) (first : Bool) :
    Reads (anotherMember first) gap (.char '\x7d' :: rest) false := by
  unfold anotherMember
  exact reads_blankThen blank rfl (by decide) .pure

theorem reads_gapEnd (complete : s.missing? final = none) (blank : IsBlank gap) (fuel : Nat)
    (first : Bool) :
    Reads (members s (fuel + 1) first final) gap (.char '\x7d' :: rest) final := by
  rw [members]
  refine .last (reads_noName blank first) ?_
  rw [if_neg (by decide), complete]
  exact .pure

/-- What follows a member, up to the closing brace. -/
def othersText (members : List Member) (inside : Blanks) : List Char :=
  members.flatMap (fun m => ',' :: m.text) ++ inside.val

theorem endsNumber_others (members : List Member) (inside : Blanks) (rest : List Glyph) :
    EndsNumber ((othersText members inside).map .char ++ (.char '\x7d' :: rest)) := by
  cases members with
  | nil => exact endsNumber_gap inside.property (.cons (by decide) _)
  | cons m more => exact .cons (by decide) _

theorem othersText_cons (m : Member) (more : List Member) (inside : Blanks) :
    othersText (m :: more) inside = [','] ++ (m.text ++ othersText more inside) := by
  simp only [othersText, List.flatMap_cons, List.append_assoc, List.cons_append, List.nil_append]

/-- Members that fill a draft one after another, between members that are no fields. -/
inductive Gathers {δ : Type} (s : Shape δ) : List Member → δ → δ → Prop
  | nil {draft : δ} : Gathers s [] draft draft
  | known {m : Member} {more : List Member} {name : String} {field : Field δ}
      {draft filled final : δ} (named : m.name? = some name) (known : s.field? name = some field)
      (absent : field.present draft = false)
      (fills : ∀ rest, EndsNumber rest →
        Reads (field.fill draft) (m.before.val ++ m.value) rest filled)
      (others : Gathers s more filled final) : Gathers s (m :: more) draft final
  | unknown {m : Member} {more : List Member} {name : String} {draft final : δ}
      (tolerant : s.closed = false) (named : m.name? = some name) (unknown : s.field? name = none)
      (wellFormed : WellFormed m.value) (others : Gathers s more draft final) :
      Gathers s (m :: more) draft final

/-- What the first of such members does, and what is left for the others. -/
theorem Gathers.first {more : List Member} (gathers : Gathers s (m :: more) draft final) :
    ∃ filled, (∀ rest, EndsNumber rest →
      Reads (member s draft) (quoted m.name ++ bodyText m) rest filled) ∧
      Gathers s more filled final := by
  cases gathers with
  | known named known absent fills others =>
      exact ⟨_, fun rest ends => reads_knownMember named known absent (fills rest ends), others⟩
  | unknown tolerant named unknown wellFormed others =>
      exact ⟨_, fun rest ends => reads_unknownMember named unknown tolerant wellFormed ends, others⟩

theorem reads_others {all : List Member} (gathers : Gathers s all draft final)
    (complete : s.missing? final = none) (blank : IsBlank gap) {fuel : Nat}
    (enough : all.length < fuel) :
    Reads (members s fuel false draft) (gap ++ othersText all inside) (.char '\x7d' :: rest)
      final := by
  induction all generalizing draft gap fuel with
  | nil =>
      obtain ⟨fuel, rfl⟩ := Nat.exists_eq_add_one_of_ne_zero (Nat.ne_zero_of_lt enough)
      cases gathers with
      | nil => exact reads_gapEnd complete (blank.append inside.property) fuel false
  | cons m more ih =>
      obtain ⟨fuel, rfl⟩ := Nat.exists_eq_add_one_of_ne_zero (Nat.ne_zero_of_lt enough)
      obtain ⟨filled, read, others⟩ := gathers.first
      rw [othersText_cons]
      exact reads_memberFirst false blank read (endsNumber_others more inside rest)
        (ih others m.after.property (Nat.lt_of_succ_lt_succ enough))

/-- An object's text between its braces. -/
def membersText (all : List Member) (inside : Blanks) : List Char :=
  commaSeparated (all.map Member.text) ++ inside.val

theorem membersText_cons (m : Member) (more : List Member) (inside : Blanks) :
    membersText (m :: more) inside = m.text ++ othersText more inside := by
  simp only [membersText, othersText, List.map_cons, commaSeparated_cons, List.flatMap_map,
    List.append_assoc]

theorem objectText_eq (all : List Member) (inside : Blanks) :
    objectText all inside = '\x7b' :: (membersText all inside ++ ['\x7d']) := by
  rw [objectText, membersText, List.append_assoc]

theorem length_le_membersText (all : List Member) (inside : Blanks) :
    all.length ≤ (membersText all inside).length := by
  cases all with
  | nil => exact Nat.zero_le _
  | cons m more =>
      have others : more.length ≤ (othersText more inside).length := by
        induction more with
        | nil => exact Nat.zero_le _
        | cons next more ih =>
            rw [othersText_cons]
            simp only [List.length_append, List.length_cons] at ih ⊢
            omega
      have first : 1 ≤ m.text.length := by
        simp only [Member.text, Member.key, quoted, List.length_append, List.length_cons]
        omega
      rw [membersText_cons, List.length_append, List.length_cons]
      omega

theorem reads_membersText {all : List Member} (gathers : Gathers s all draft final)
    (complete : s.missing? final = none) {fuel : Nat} (enough : all.length < fuel) :
    Reads (members s fuel true draft) (membersText all inside) (.char '\x7d' :: rest) final := by
  obtain ⟨fuel, rfl⟩ := Nat.exists_eq_add_one_of_ne_zero (Nat.ne_zero_of_lt enough)
  cases all with
  | nil =>
      cases gathers with
      | nil => exact reads_gapEnd complete inside.property fuel true
  | cons m more =>
      have none : IsBlank [] := fun c among => (List.not_mem_nil among).elim
      obtain ⟨filled, read, others⟩ := gathers.first
      rw [membersText_cons]
      exact reads_memberFirst true none read (endsNumber_others more inside rest)
        (reads_others others complete m.after.property (Nat.lt_of_succ_lt_succ enough))

variable {finish : δ → Except String α} {a : α}

theorem reads_object {all : List Member} (gathers : Gathers s all s.empty final)
    (complete : s.missing? final = none) (finished : finish final = .ok a) :
    Reads (structure? s finish) (objectText all inside) rest a := by
  have closes : Reads objectEnd ['\x7d'] rest () := by
    unfold objectEnd
    exact .token (by decide) (.last (f := fun _ => pure ()) (.advance .pure) .pure)
  have enough (place : Place) : all.length <
      (Cursor.mk ((membersText all inside).map .char ++ .char '\x7d' :: rest)
        place).rest.length + 1 := by
    have length := length_le_membersText all inside
    simp only [List.length_append, List.length_map]
    omega
  unfold structure?
  extract_lets refuse
  rw [objectText_eq]
  refine .settle (.token (by decide) (.advance (.closedBy (.get fun place => ?_) closes)))
  refine .last (reads_membersText gathers complete (enough place)) ?_
  simp only [refuse, finished]
  exact .pure

theorem takesBlanks_structure (s : Shape δ) (finish : δ → Except String α) :
    TakesBlanks (structure? s finish) := .settle (.bind .peekToken)

theorem decode_of_whole {r : Reader α} {a : α} (reads : Reads (whole r) text [] a) :
    decode r (text.map .char) = .ok a := by
  obtain ⟨behind, done⟩ := reads ⟨1, 0⟩
  rw [List.append_nil] at done
  change (whole r ⟨text.map .char, ⟨1, 0⟩⟩).1 = _
  rw [done]

/-- Blanks may stand before the object that makes up a text, and behind it. -/
theorem decode_document {d : Document} (gathers : Gathers s d.members s.empty final)
    (complete : s.missing? final = none) (finished : finish final = .ok a) :
    decode (structure? s finish) (d.text.map .char) = .ok a := by
  have object : Reads (structure? s finish) (objectText d.members d.inside)
      (d.after.val.map .char ++ []) a := reads_object gathers complete finished
  refine decode_of_whole ?_
  unfold whole
  refine ((takesBlanks_structure s finish).bind.reads d.before.property (object.bind ?_))
  rw [← List.append_nil d.after.val]
  exact TakesBlanks.reads (.bind .peekToken) d.after.property (.tokenEnd .pure)

/-- Each field is marked as present by its own members only, and by one member at most. -/
structure Orderly (s : Shape δ) : Prop where
  found : ∀ f ∈ s.fields, s.field? f.name = some f
  fresh : ∀ f ∈ s.fields, f.present s.empty = false
  fills : ∀ f ∈ s.fields, ∀ draft gap value rest, IsBlank gap → WellFormed value → EndsNumber rest →
    Ensures (f.fill draft) ((gap ++ value).map .char ++ rest) fun filled left => left = rest ∧
      f.present filled = true ∧ ∀ g ∈ s.fields, g.name ≠ f.name → g.present filled = g.present draft

/-- A field that one reader reads and one entry of the draft keeps. -/
theorem Consumes.fills {β : Type} {r : Reader β} {put : β → δ} (consumes : Consumes r)
    (fill : field.fill draft = r >>= fun b => pure (put b)) (blank : IsBlank gap)
    (wellFormed : WellFormed value) (ends : EndsNumber rest)
    (marked : ∀ b, field.present (put b) = true)
    (spared : ∀ b, ∀ g ∈ s.fields, g.name ≠ field.name → g.present (put b) = g.present draft) :
    Ensures (field.fill draft) ((gap ++ value).map .char ++ rest) fun filled left => left = rest ∧
      field.present filled = true ∧
      ∀ g ∈ s.fields, g.name ≠ field.name → g.present filled = g.present draft := by
  rw [fill]
  refine (consumes.ensures blank wellFormed ends).bind ?_
  rintro b left rfl
  exact .pure ⟨rfl, marked b, spared b⟩

/-- From one draft to the next, fields were met as often as these names name them. -/
def Counts (s : Shape δ) (names : List (Option String)) (draft filled : δ) : Prop :=
  ∀ f ∈ s.fields, (f.present filled).toNat = (f.present draft).toNat + names.count (some f.name)

theorem Counts.cons {named : Option String} {names : List (Option String)}
    (first : Counts s [named] draft filled) (others : Counts s names filled final) :
    Counts s (named :: names) draft final := by
  intro f among
  have parts : ([named] ++ names).count (some f.name) = _ := List.count_append
  rw [List.singleton_append] at parts
  rw [others f among, first f among, parts, Nat.add_assoc]

theorem field?_spec (known : s.field? name = some field) : field ∈ s.fields ∧ field.name = name := by
  unfold Shape.field? at known
  exact ⟨List.mem_of_find?_eq_some known, by simpa using List.find?_some known⟩

theorem Orderly.counts (orderly : Orderly s) (known : s.field? name = some field)
    (absent : field.present draft = false) (marked : field.present filled = true)
    (spared : ∀ g ∈ s.fields, g.name ≠ field.name → g.present filled = g.present draft) :
    Counts s [some name] draft filled := by
  obtain ⟨among, rfl⟩ := field?_spec known
  intro f listed
  by_cases own : f.name = field.name
  · have same : field = f := by
      have found := orderly.found f listed
      rw [own, known] at found
      exact Option.some.inj found
    subst same
    rw [marked, absent, List.count_singleton_self]
    rfl
  · have other : some field.name ≠ some f.name := fun same => own (Option.some.inj same).symm
    rw [spared f listed own, List.count_singleton, if_neg (by simpa using other), Nat.add_zero]

theorem counts_unknown (unknown : s.field? name = none) : Counts s [some name] draft draft := by
  intro f listed
  have other : f.name ≠ name := by
    unfold Shape.field? at unknown
    simpa using List.find?_eq_none.mp unknown f listed
  have apart : some name ≠ some f.name := fun same => other (Option.some.inj same).symm
  rw [List.count_singleton, if_neg (by simpa using apart), Nat.add_zero]

theorem ensures_member (orderly : Orderly s) (wellFormed : WellFormed m.value)
    (ends : EndsNumber rest) :
    Ensures (member s draft) ((quoted m.name ++ bodyText m).map .char ++ rest)
      fun filled left => left = rest ∧ Counts s [m.name?] draft filled := by
  have colonThen {r : Reader δ} {post : δ → List Glyph → Prop}
      (ensures : Ensures r ((m.before.val ++ m.value).map .char ++ rest) post) :
      Ensures (colon >>= fun _ => r) ((bodyText m).map .char ++ rest) post := by
    rw [bodyText, ← List.singleton_append, ← List.append_assoc, List.map_append, List.append_assoc]
    exact .bindReads (reads_gapColon m.beforeColon.property) ensures
  unfold member
  rw [quoted, List.cons_append, List.map_cons, List.map_append, List.cons_append, List.append_assoc]
  refine .advance ((ensures_stringBody m.name).bind ?_)
  rintro name left ⟨spoken, rfl⟩
  rw [named_of_spoken spoken]
  cases known : s.field? name with
  | none =>
      dsimp only
      split
      · exact .of_refuses (.failData _)
      · refine colonThen (.bindReads (reads_skipValue m.before.property wellFormed ends) ?_)
        exact .pure ⟨rfl, counts_unknown known⟩
  | some field =>
      dsimp only
      split
      · exact .of_refuses (.failData _)
      next absent =>
        have among := (field?_spec known).1
        refine colonThen ((orderly.fills field among draft _ _ rest m.before.property wellFormed
          ends).mono ?_)
        rintro filled left ⟨whole, marked, spared⟩
        exact ⟨whole, orderly.counts known (Bool.eq_false_iff.mpr absent) marked spared⟩

theorem ensures_memberFirst {post : δ → List Glyph → Prop} (orderly : Orderly s)
    (wellFormed : WellFormed m.value) (first : Bool) (blank : IsBlank gap)
    (ends : EndsNumber (more.map .char ++ rest)) {fuel : Nat}
    (later : ∀ filled, Counts s [m.name?] draft filled →
      Ensures (members s fuel false filled) ((m.after.val ++ more).map .char ++ rest) post) :
    Ensures (members s (fuel + 1) first draft)
      ((gap ++ ((if first then [] else [',']) ++ (m.text ++ more))).map .char ++ rest) post := by
  have both : Ensures (member s draft >>= members s fuel false)
      (((quoted m.name ++ bodyText m) ++ (m.after.val ++ more)).map .char ++ rest) post := by
    rw [List.map_append, List.append_assoc]
    refine (ensures_member orderly wellFormed (endsNumber_after m ends)).bind ?_
    rintro filled left ⟨rfl, counts⟩
    exact later filled counts
  rw [memberThen_text, members, List.map_append, List.append_assoc]
  exact .bindReads (reads_nextName first blank m) both

theorem ensures_gapEnd (blank : IsBlank gap) (fuel : Nat) (first : Bool) :
    Ensures (members s (fuel + 1) first draft) (gap.map .char ++ (.char '\x7d' :: rest))
      fun final _ => Counts s [] draft final ∧ s.missing? final = none := by
  rw [members]
  refine .bindReads (reads_noName blank first) ?_
  rw [if_neg (by decide)]
  split
  · exact .of_refuses (.failData _)
  next complete => exact .pure ⟨fun f among => rfl, complete⟩

/-- Members that are read have met each field once at most, and each needed field. -/
theorem ensures_others (orderly : Orderly s) {all : List Member}
    (wellFormed : ∀ m ∈ all, WellFormed m.value) (blank : IsBlank gap) (fuel : Nat) :
    Ensures (members s fuel false draft)
      ((gap ++ othersText all inside).map .char ++ (.char '\x7d' :: rest))
      fun final _ => Counts s (all.map Member.name?) draft final ∧ s.missing? final = none := by
  induction all generalizing draft gap fuel with
  | nil =>
      cases fuel with
      | zero => exact .of_refuses (.fail _)
      | succ fuel => exact ensures_gapEnd (blank.append inside.property) fuel false
  | cons m more ih =>
      cases fuel with
      | zero => exact .of_refuses (.fail _)
      | succ fuel =>
          rw [othersText_cons]
          refine ensures_memberFirst orderly (wellFormed m List.mem_cons_self) false blank
            (endsNumber_others more inside rest) fun filled counts => ?_
          refine (ih (fun m among => wellFormed m (List.mem_cons_of_mem _ among))
            m.after.property fuel).mono ?_
          rintro final left ⟨others, complete⟩
          exact ⟨counts.cons others, complete⟩

theorem ensures_membersText (orderly : Orderly s) {all : List Member}
    (wellFormed : ∀ m ∈ all, WellFormed m.value) (fuel : Nat) :
    Ensures (members s fuel true draft)
      ((membersText all inside).map .char ++ (.char '\x7d' :: rest))
      fun final _ => Counts s (all.map Member.name?) draft final ∧ s.missing? final = none := by
  cases fuel with
  | zero => exact .of_refuses (.fail _)
  | succ fuel =>
      cases all with
      | nil => exact ensures_gapEnd inside.property fuel true
      | cons m more =>
          have none : IsBlank [] := fun c among => (List.not_mem_nil among).elim
          rw [membersText_cons]
          refine ensures_memberFirst orderly (wellFormed m List.mem_cons_self) true none
            (endsNumber_others more inside rest) fun filled counts => ?_
          refine (ensures_others orderly (fun m among => wellFormed m (List.mem_cons_of_mem _ among))
            m.after.property fuel).mono ?_
          rintro final left ⟨others, complete⟩
          exact ⟨counts.cons others, complete⟩

/-- An object is refused if a field has two members, or if a needed field has none. -/
theorem refuses_object (orderly : Orderly s) {all : List Member}
    (wellFormed : ∀ m ∈ all, WellFormed m.value) {f : Field δ} (among : f ∈ s.fields)
    (faulty : 2 ≤ (all.map Member.name?).count (some f.name) ∨
      (f.optional = false ∧ some f.name ∉ all.map Member.name?))
    (finish : δ → Except String α) :
    Refuses (structure? s finish) ((objectText all inside).map .char ++ rest) := by
  have impossible (final : δ) (counts : Counts s (all.map Member.name?) s.empty final)
      (complete : s.missing? final = none) : False := by
    have count := counts f among
    rw [orderly.fresh f among, Bool.toNat_false, Nat.zero_add] at count
    rcases faulty with twice | ⟨needed, never⟩
    · have once := Bool.toNat_le (f.present final)
      omega
    · unfold Shape.missing? at complete
      have present := List.find?_eq_none.mp complete f among
      rw [List.count_eq_zero_of_not_mem never] at count
      simp [needed, Bool.toNat_eq_zero.mp count] at present
  unfold structure?
  extract_lets refuse
  rw [objectText_eq, List.map_cons, List.map_append, List.cons_append, List.append_assoc]
  refine .settle (.token (by decide) (.advance (.closedBy (.get fun place => ?_))))
  refine (ensures_membersText orderly wellFormed _).bind ?_
  rintro final left ⟨counts, complete⟩
  exact (impossible final counts complete).elim

theorem decode_faulty {d : Document} (orderly : Orderly s) {f : Field δ} (among : f ∈ s.fields)
    (faulty : 2 ≤ d.names.count (some f.name) ∨ (f.optional = false ∧ some f.name ∉ d.names))
    (finish : δ → Except String α) :
    ∃ fault, decode (structure? s finish) (d.text.map .char) = .error fault := by
  refine decode_of_refuses ?_
  rw [Document.text, List.map_append, List.map_append]
  exact (takesBlanks_structure s finish).ensures d.before.property
    (refuses_object orderly d.values among faulty finish)

theorem Orderly.counts_read (orderly : Orderly s) (wellFormed : WellFormed m.value)
    (known : s.field? name = some field) (absent : field.present draft = false)
    (fills : Reads (field.fill draft) (m.before.val ++ m.value) [] filled) :
    Counts s [some name] draft filled := by
  have among := (field?_spec known).1
  have ends : EndsNumber [] := fun g first => by cases first
  obtain ⟨-, marked, spared⟩ :=
    (orderly.fills field among draft _ _ [] m.before.property wellFormed ends).holds fills
  exact orderly.counts known absent marked spared

/-- Members that mark a draft's fields each in its own way. `mark` says what a member of each name
makes of a draft; a name that is no field's has no effect. -/
theorem gathers_counts (tolerant : s.closed = false) (mark : String → δ → δ) {all : List Member}
    (wellFormed : ∀ m ∈ all, WellFormed m.value) {names : List String}
    (named : all.map Member.name? = names.map some)
    (marks : ∀ m ∈ all, ∀ name field draft, m.name? = some name → s.field? name = some field →
      ∀ rest, EndsNumber rest →
        Reads (field.fill draft) (m.before.val ++ m.value) rest (mark name draft))
    (counts : ∀ m ∈ all, ∀ name field draft, m.name? = some name → s.field? name = some field →
      field.present draft = false → Counts s [some name] draft (mark name draft))
    (others : ∀ name draft, s.field? name = none → mark name draft = draft)
    (once : ∀ f ∈ s.fields, (f.present draft).toNat + (names.map some).count (some f.name) ≤ 1) :
    Gathers s all draft (names.foldl (fun draft name => mark name draft) draft) := by
  induction all generalizing draft names with
  | nil =>
      obtain rfl : names = [] := by simpa using named.symm
      exact .nil
  | cons m more ih =>
      cases names with
      | nil => cases named
      | cons name names =>
          obtain ⟨own, later⟩ := List.cons.inj named
          have split (f : Field δ) : ((name :: names).map some).count (some f.name) =
              [some name].count (some f.name) + (names.map some).count (some f.name) := by
            rw [List.map_cons, ← List.count_append, List.singleton_append]
          have continues (filled : δ) (counted : Counts s [some name] draft filled) :
              Gathers s more filled (names.foldl (fun draft name => mark name draft) filled) := by
            refine ih (fun m among => wellFormed m (List.mem_cons_of_mem _ among)) later
              (fun m among => marks m (List.mem_cons_of_mem _ among))
              (fun m among => counts m (List.mem_cons_of_mem _ among)) fun f among => ?_
            have bound := once f among
            rw [split] at bound
            rw [counted f among]
            omega
          cases known : s.field? name with
          | none =>
              rw [List.foldl_cons, others name draft known]
              exact .unknown tolerant own known (wellFormed m List.mem_cons_self)
                (continues draft (counts_unknown known))
          | some field =>
              have absent : field.present draft = false := by
                obtain ⟨among, rfl⟩ := field?_spec known
                have bound := once field among
                rw [split, List.count_singleton_self] at bound
                exact Bool.toNat_eq_zero.mp (by omega)
              exact .known own known absent (marks m List.mem_cons_self name field draft own known)
                (continues _ (counts m List.mem_cons_self name field draft own known absent))

/-- The same if no member marks any field but its own, whatever it holds. -/
theorem gathers_marks (tolerant : s.closed = false) (orderly : Orderly s) (mark : String → δ → δ)
    {all : List Member} (wellFormed : ∀ m ∈ all, WellFormed m.value) {names : List String}
    (named : all.map Member.name? = names.map some)
    (marks : ∀ m ∈ all, ∀ name field draft, m.name? = some name → s.field? name = some field →
      ∀ rest, EndsNumber rest →
        Reads (field.fill draft) (m.before.val ++ m.value) rest (mark name draft))
    (others : ∀ name draft, s.field? name = none → mark name draft = draft)
    (once : ∀ f ∈ s.fields, (f.present draft).toNat + (names.map some).count (some f.name) ≤ 1) :
    Gathers s all draft (names.foldl (fun draft name => mark name draft) draft) := by
  refine gathers_counts tolerant mark wellFormed named marks ?_ others once
  intro m among name field draft own known absent
  have ends : EndsNumber [] := fun g first => by cases first
  exact orderly.counts_read (wellFormed m among) known absent
    (marks m among name field draft own known [] ends)

/-- What a projection of a draft is after all marks, if one name marks it. -/
theorem projection_foldl {β : Type} {mark : String → δ → δ} {project : δ → β} {key : String}
    {told : β} (own : ∀ name draft, project (mark name draft) =
      if name = key then told else project draft) (names : List String) (draft : δ) :
    project (names.foldl (fun draft name => mark name draft) draft) =
      if key ∈ names then told else project draft := by
  induction names generalizing draft with
  | nil => rfl
  | cons name names ih =>
      rw [List.foldl_cons, ih, own]
      by_cases later : key ∈ names
      · rw [if_pos later, if_pos (List.mem_cons_of_mem _ later)]
      · by_cases now : name = key
        · rw [if_neg later, if_pos now, if_pos (now ▸ List.mem_cons_self)]
        · rw [if_neg later, if_neg now, if_neg]
          simp [later, Ne.symm now]

end LeaseElection.Json.Reader
