import MediaShelves.Proofs.Playlist.Passages

/-!
# Entries that stay apart

What is found before an entry makes no difference to it, and when it ends the reader is where it was
before it, but for the base: a base counts from where it stands to the end of the document.

Main statement: what an entry changes about a playlist (`entries_stay_apart`).
-/

namespace MediaShelves.Playlist.Asx

open MediaShelves.Xml

/-! ## Entries found before -/

/-- The state after some more entries. -/
def State.behind (found : List Entry) (st : State) : State :=
  { st with found := st.found ++ found }

theorem State.opened_behind (st : State) (word : String) (attributes : List Attribute)
    (found : List Entry) :
    (st.behind found).opened word attributes = (st.opened word attributes).behind found := by
  obtain ⟨place, use, base, current, found'⟩ := st
  -- What is found already is never read: each place looks at the element and the entry only.
  cases place with
  | outside =>
    by_cases hasx : word = "asx"
    · simp [opened, behind, hasx]
    · simp [opened, behind, hasx]
  | list =>
    by_cases hentry : word = "entry"
    · simp [opened, behind, hentry]
    · rw [opened_in_list _ word attributes rfl hentry, opened_in_list _ word attributes rfl hentry]
      rfl
  | entry =>
    obtain ⟨current', hopened⟩ :=
      opened_in_entry ⟨.entry, use, base, current, found'⟩ word attributes rfl
    have hfirst := hopened found'
    rw [hfirst]
    exact hopened (found' ++ found)

theorem State.closed_behind (st : State) (word : String) (found : List Entry) :
    (st.behind found).closed word = (st.closed word).behind found := by
  unfold closed behind
  split_ifs <;> rfl

theorem State.withText_behind (st : State) (written : List Char) (found : List Entry) :
    (st.behind found).withText written = (st.withText written).behind found := by
  obtain ⟨place, use, base, current, found'⟩ := st
  cases use with
  | none => rfl
  | some use => cases use <;> rfl

/-- **What was found before makes no difference** to what comes after it. -/
theorem foldl_step_behind (es : List Event) (st : State) (found : List Entry) :
    es.foldl State.step (st.behind found) = (es.foldl State.step st).behind found := by
  induction es generalizing st with
  | nil => rfl
  | cons e es ih =>
    have hstep : (st.behind found).step e = (st.step e).behind found := by
      -- No step looks at what was found before.
      cases e with
      | opened name attributes => exact st.opened_behind _ attributes found
      | empty name attributes =>
        rw [State.step, State.step, State.opened_behind, State.closed_behind]
      | closed name => exact st.closed_behind _ found
      | text written => exact st.withText_behind written found
    rw [List.foldl_cons, List.foldl_cons, hstep, ih]

/-! ## Entries -/

/-- Right after the start tag of an entry. -/
def begun (base : Option (List Char)) : State :=
  ⟨.entry, none, base, Entry.ofLocation "", []⟩

/-- In a playlist, right after an entry. -/
def ended (base : Option (List Char)) : State :=
  ⟨.list, none, base, Entry.ofLocation "", []⟩

/-- The entry that its content alone tells, below a base; one without a location is none. -/
def entryOf? (base : Option (List Char)) (c : Content) : Option Entry :=
  let e := (c.events.foldl State.step (begun base)).current
  if e.location = "" then none else some e

section

variable {name : List Char} (hname : lowerName name = "entry") {c : Content}
  (hentry : ¬ Has "entry" c) {st : State} (huse : st.use = none) (attributes : List Attribute)

include hname hentry huse

/-- **An entry is read on its own**, and leaves nothing but its last base behind. -/
theorem foldl_step_entry (hplace : st.place = .list) :
    State.step (c.events.foldl State.step (st.step (.opened name attributes))) (.closed name) =
      (ended ((lastBase? c).or st.base)).behind ((entryOf? st.base c).toList ++ st.found) := by
  have hopened : st.step (.opened name attributes) = (begun st.base).behind st.found := by
    obtain ⟨place, use, base, current, found⟩ := st
    obtain rfl : place = .list := hplace
    obtain rfl : use = none := huse
    rw [State.step, hname]
    rfl
  have hruns := runs_content c (begun st.base)
  have hends := hruns.ends
  have hgoes := hruns.goesOn hentry rfl
  rw [hopened, foldl_step_behind, State.step, State.closed_behind, hname]
  unfold entryOf?
  generalize c.events.foldl State.step (begun st.base) = st' at hends hgoes ⊢
  -- At its end the entry is where it began, with no text at hand.
  obtain ⟨place, use, base, current, found⟩ := st'
  obtain rfl : place = .entry := hgoes.place
  obtain rfl : base = (lastBase? c).or st.base := hgoes.base
  obtain rfl : found = [] := hgoes.found
  obtain rfl : use = none := by
    rcases hends.use with hnone | hsame
    · exact hnone
    · exact hsame
  by_cases hlocation : current.location = ""
  · simp [State.closed, State.behind, ended, hlocation]
  · simp [State.closed, State.behind, ended, hlocation]

/-- Outside of playlists an entry is none, but playlists in it may set a base. -/
theorem foldl_step_entry_outside (hplace : st.place = .outside) :
    ∃ base, (lastBase? c = none → base = st.base) ∧
      State.step (c.events.foldl State.step (st.step (.opened name attributes))) (.closed name) =
        { st with base } := by
  -- Outside of the list an entry is any other element, and its content is passed over.
  have hbetween : Between st := by
    refine ⟨?_, huse⟩
    rw [hplace]
    exact Place.noConfusion
  have hopened : st.step (.opened name attributes) = st := by
    rw [State.step, hname]
    exact st.opened_outside _ attributes hplace (by decide)
  have hruns := runs_content c st
  have hidles := hruns.idles hentry hbetween
  have houtside := hruns.ends.outside hplace
  have huse' := (hruns.ends.between hbetween).use
  rw [hopened, State.step, hname]
  generalize c.events.foldl State.step st = st' at hidles houtside huse' ⊢
  obtain ⟨place, use, base, current, found⟩ := st
  obtain rfl : place = .outside := hplace
  obtain rfl : use = none := huse
  obtain ⟨place', use', base', current', found'⟩ := st'
  obtain rfl : place' = .outside := houtside
  obtain rfl : use' = none := huse'
  obtain rfl : current' = current := hidles.current
  obtain rfl : found' = found := hidles.found
  exact ⟨base', hidles.base, rfl⟩

end

/-! ## Places -/

/-- The place is in an element with a name, in any case. -/
def Within (word : String) : Context → Prop
  | .hole => False
  | .text _ rest => Within word rest
  | .empty _ _ rest => Within word rest
  | .after _ _ _ rest => Within word rest
  | .inside name _ content _ => lowerName name = word ∨ Within word content

/-- The last base that is set before a place. -/
def lastBaseBefore? : Context → Option (List Char)
  | .hole => none
  | .text _ rest => lastBaseBefore? rest
  | .empty name attributes rest => (lastBaseBefore? rest).or (baseOf? name attributes)
  | .after name attributes content rest =>
    (lastBaseBefore? rest).or ((lastBase? content).or (baseOf? name attributes))
  | .inside name attributes content _ => (lastBaseBefore? content).or (baseOf? name attributes)

/-- Before a place that is in no entry the reader is between entries. -/
theorem between_before {k : Context} (hwithin : ¬ Within "entry" k) {st : State}
    (h : Between st) : Between (k.before.foldl State.step st) := by
  -- Outside of entries every element that ends before the place leaves the reader between entries.
  induction k generalizing st with
  | hole => exact h
  | text written rest ih => exact ih hwithin ((ends_text st written).between h)
  | empty name attributes rest ih => exact ih hwithin ((Ends.element (.refl _)).between h)
  | after name attributes content rest ih =>
    rw [Context.before, List.foldl_cons, List.foldl_append, List.foldl_cons]
    exact ih hwithin ((runs_content content _).ends.element.between h)
  | inside name attributes content rest ih =>
    obtain ⟨hname, hwithin⟩ := not_or.1 hwithin
    exact ih hwithin (h.opened hname attributes)

/-- What comes before a place is passed as a content is. -/
theorem passes_before {k : Context} {c : Content} (hasx : ¬ Has "asx" (k.fill c)) (st : State) :
    Passes (lastBaseBefore? k) st (k.before.foldl State.step st) := by
  -- The base is the last one on the way to the hole, in the order of the document.
  induction k generalizing st with
  | hole => exact .refl st
  | text written rest ih =>
    have htrans := (passes_text st written).trans (ih hasx _)
    rwa [Option.or_none] at htrans
  | empty name attributes rest ih =>
    obtain ⟨hname, hrest⟩ := not_or.1 hasx
    exact (carries_passes.element trivial hname fun _ => .refl _).trans (ih hrest _)
  | after name attributes content rest ih =>
    obtain ⟨hname, hrest⟩ := not_or.1 hasx
    obtain ⟨hcontent, hrest⟩ := not_or.1 hrest
    have hpasses := (runs_content content (st.opened (lowerName name) attributes)).passes hcontent
    rw [Context.before, List.foldl_cons, List.foldl_append, List.foldl_cons]
    exact (carries_passes.element trivial hname fun _ => hpasses).trans (ih hrest _)
  | inside name attributes content rest ih =>
    obtain ⟨-, hrest⟩ := not_or.1 hasx
    obtain ⟨hcontent, -⟩ := not_or.1 hrest
    exact (passes_opened st name attributes).trans (ih hcontent _)

/-! ## Documents -/

theorem entries?_of_isDocument {text : String} {c : Content} (h : IsDocument text c) :
    entries? text = some (c.events.foldl State.step State.start).found.reverse := by
  unfold IsDocument at h
  simp only [entries?, h, if_true]

/-- A document with an element is read up to it, through it and on behind it. -/
theorem entries?_of_place {k : Context} {name : List Char} {attributes : List Attribute}
    {c rest : Content} {text : String}
    (h : IsDocument text (k.fill (.element name attributes c rest))) :
    entries? text = some ((rest.events ++ k.behind).foldl State.step (State.step
      (c.events.foldl State.step
        ((k.before.foldl State.step State.start).step (.opened name attributes)))
      (.closed name))).found.reverse := by
  rw [entries?_of_isDocument h, Context.events_fill]
  simp only [Content.events_element, List.cons_append, List.append_assoc, List.foldl_append,
    List.foldl_cons]

/-- Where the root is the only playlist that has begun, a place is in it, below the last base. -/
theorem before_of_single {k inner : Context} {root : List Char} {attributes : List Attribute}
    (hk : k = .inside root attributes inner .nil) (hroot : lowerName root = "asx")
    (hasx : ¬ Has "asx" (inner.fill .nil)) :
    (k.before.foldl State.step State.start).place ≠ .outside ∧
      (k.before.foldl State.step State.start).base = lastBaseBefore? inner := by
  -- The root element opens the list, and nothing inside can leave it.
  have hfirst : State.start.step (.opened root attributes) =
      { State.start with place := .list } := by
    rw [State.step, hroot]
    rfl
  have hpasses := passes_before hasx { State.start with place := .list }
  rw [hk, Context.before, List.foldl_cons, hfirst]
  refine ⟨hpasses.place Place.noConfusion, ?_⟩
  rw [hpasses.base Place.noConfusion]
  exact Option.or_none

/--
**Entries stay apart.**  An entry that is in no other entry tells at most what its content tells
below the base before it.  The entries before it do not depend on its content, and those after it do
so only by the base that it leaves, which is the last one that is set in it, if there is one.  Where
the root is the only playlist that has begun, the base before the entry is the last one that is set
before it in the document.
-/
theorem entries_stay_apart {k : Context} {name : List Char} {attributes : List Attribute}
    {rest : Content} (hname : lowerName name = "entry") (hwithin : ¬ Within "entry" k) :
    ∃ (listed : Bool) (base : Option (List Char)) (before : List Entry)
      (after : Option (List Char) → List Entry),
      (∀ (text : String) (c : Content), ¬ Has "entry" c →
        IsDocument text (k.fill (.element name attributes c rest)) →
        ∃ base', (listed = true ∨ lastBase? c = none → base' = (lastBase? c).or base) ∧
          entries? text = some (before ++
            (if listed then entryOf? base c else none).toList ++ after base')) ∧
      ∀ (root : List Char) (attributes' : List Attribute) (inner : Context),
        k = .inside root attributes' inner .nil → lowerName root = "asx" →
        ¬ Has "asx" (inner.fill .nil) → listed = true ∧ base = lastBaseBefore? inner := by
  have hread {text : String} {c : Content} := @entries?_of_place k name attributes c rest text
  have hbetween : Between (k.before.foldl State.step State.start) :=
    between_before hwithin ⟨Place.noConfusion, rfl⟩
  have hsingle {root : List Char} {attributes' : List Attribute} {inner : Context} :=
    @before_of_single k inner root attributes'
  -- Neither what is read before the entry nor what comes after it depends on its content.
  generalize k.before.foldl State.step State.start = start at hread hbetween hsingle
  generalize rest.events ++ k.behind = tail at hread
  cases hplace : start.place with
  | entry => exact absurd hplace hbetween.place
  | outside =>
    refine ⟨false, start.base, start.found.reverse,
      fun base => (tail.foldl State.step { start with base, found := [] }).found.reverse, ?_, ?_⟩
    · intro text c hentry h
      obtain ⟨base, hbase, hentries⟩ :=
        foldl_step_entry_outside hname hentry hbetween.use attributes hplace
      refine ⟨base, ?_, ?_⟩
      · rintro (hlisted | hnone)
        · cases hlisted
        · rw [hbase hnone, hnone, Option.none_or]
      · have hfound : { start with base } =
            State.behind start.found { start with base, found := [] } := rfl
        rw [hread h, hentries, hfound, foldl_step_behind]
        simp [State.behind]
    · intro root attributes' inner hk hroot hasx
      exact absurd hplace (hsingle hk hroot hasx).1
  | list =>
    refine ⟨true, start.base, start.found.reverse,
      fun base => (tail.foldl State.step (ended base)).found.reverse, ?_, ?_⟩
    · intro text c hentry h
      refine ⟨(lastBase? c).or start.base, fun _ => rfl, ?_⟩
      have hentries := foldl_step_entry hname hentry hbetween.use attributes hplace
      -- What is found comes in reverse order.
      have hone : (entryOf? start.base c).toList.reverse = (entryOf? start.base c).toList := by
        cases entryOf? start.base c <;> rfl
      rw [hread h, hentries, foldl_step_behind]
      simp [State.behind, hone]
    · intro root attributes' inner hk hroot hasx
      exact ⟨rfl, (hsingle hk hroot hasx).2⟩

/-- With or without its reference, an entry leaves the entry after it as it is. -/
theorem entries_stay_apart_two :
    ∃ before after : List Entry,
      entries?
        "<ASX><Entry><title>A</title><ref href='a'/></Entry><entry><ref href='b'/></entry></ASX>" =
          some (before ++ [{ Entry.ofLocation "a" with title := some "A" }] ++ after) ∧
      entries? "<ASX><Entry><title>A</title></Entry><entry><ref href='b'/></entry></ASX>" =
        some (before ++ [] ++ after) := by
  let reference (location : String) : Content :=
    .empty "ref".toList [⟨"href".toList, location.toList⟩] .nil
  let content (rest : Content) : Content := .element "title".toList [] (.text "A".toList .nil) rest
  let rest : Content := .element "entry".toList [] (reference "b") .nil
  have hroot : lowerName "ASX".toList = "asx" := by
    decide
  have hname : lowerName "Entry".toList = "entry" := by
    decide
  have hwithin : ¬ Within "entry" (.inside "ASX".toList [] .hole .nil) := by
    rintro (hentry | hnothing)
    · exact absurd hentry (by decide)
    · exact hnothing
  obtain ⟨listed, base, before, after, hread, hsingle⟩ :=
    @entries_stay_apart (.inside "ASX".toList [] .hole .nil) "Entry".toList [] rest hname hwithin
  obtain ⟨rfl, rfl⟩ := hsingle _ _ _ rfl hroot not_false
  refine ⟨before, after none, ?_, ?_⟩
  · -- With a reference the entry is in the list, between the same others.
    have hentry : entryOf? none (content (reference "a")) =
        some { Entry.ofLocation "a" with title := some "A" } := by
      decide +kernel
    obtain ⟨base', hbase', hentries⟩ := hread
      "<ASX><Entry><title>A</title><ref href='a'/></Entry><entry><ref href='b'/></entry></ASX>"
      (content (reference "a")) (by decide +kernel) (by decide +kernel)
    obtain rfl : base' = none := hbase' (.inl rfl)
    rwa [lastBaseBefore?, if_pos rfl, hentry] at hentries
  · -- Without one it is not, and nothing else has changed.
    have hentry : entryOf? none (content .nil) = none := by
      decide +kernel
    obtain ⟨base', hbase', hentries⟩ := hread
      "<ASX><Entry><title>A</title></Entry><entry><ref href='b'/></entry></ASX>" (content .nil)
      (by decide +kernel) (by decide +kernel)
    obtain rfl : base' = none := hbase' (.inl rfl)
    rwa [lastBaseBefore?, if_pos rfl, hentry] at hentries

/--
A base in the first entry is the base of the second one.  Of two entries in the title of another one
the first can end the title, so that a text in the second one is no title any more.
-/
theorem entries_do_not_stay_apart :
    (∃ (k : Context) (c c' rest : Content), ¬ Has "entry" c ∧ ¬ Has "entry" c' ∧
      IsDocument "<asx><entry><ref href='/a'/></entry><entry><ref href='b'/></entry></asx>"
        (k.fill (.element "entry".toList [] c rest)) ∧
      IsDocument
        "<asx><entry><base href='/c'/><ref href='/a'/></entry><entry><ref href='b'/></entry></asx>"
        (k.fill (.element "entry".toList [] c' rest)) ∧
      entries? "<asx><entry><ref href='/a'/></entry><entry><ref href='b'/></entry></asx>" =
        some [Entry.ofLocation "/a", Entry.ofLocation "b"] ∧
      entries?
        "<asx><entry><base href='/c'/><ref href='/a'/></entry><entry><ref href='b'/></entry></asx>"
        = some [Entry.ofLocation "/a", Entry.ofLocation "/c/b"]) ∧
    ∃ (k : Context) (c c' rest : Content), ¬ Has "entry" c ∧ ¬ Has "entry" c' ∧
      IsDocument ("<asx><entry><title><entry></entry>" ++
        "<entry><ref href='b'/>B</entry></title></entry></asx>")
        (k.fill (.element "entry".toList [] c rest)) ∧
      IsDocument ("<asx><entry><title><entry><title/></entry>" ++
        "<entry><ref href='b'/>B</entry></title></entry></asx>")
        (k.fill (.element "entry".toList [] c' rest)) ∧
      entries? ("<asx><entry><title><entry></entry>" ++
        "<entry><ref href='b'/>B</entry></title></entry></asx>") =
          some [{ Entry.ofLocation "b" with title := some "B" }] ∧
      entries? ("<asx><entry><title><entry><title/></entry>" ++
        "<entry><ref href='b'/>B</entry></title></entry></asx>") =
          some [Entry.ofLocation "b"] := by
  let reference (location : String) (rest : Content) : Content :=
    .empty "ref".toList [⟨"href".toList, location.toList⟩] rest
  let list : Context := .inside "asx".toList [] .hole .nil
  let title : Context := .inside "asx".toList []
    (.inside "entry".toList [] (.inside "title".toList [] .hole .nil) .nil) .nil
  constructor
  · -- A base of one entry is the base of the next.
    let moved : Content :=
      .empty "base".toList [⟨"href".toList, "/c".toList⟩] (reference "/a" .nil)
    let second : Content := .element "entry".toList [] (reference "b" .nil) .nil
    refine ⟨list, reference "/a" .nil, moved, second, ?_, ?_, ?_, ?_, ?_, ?_⟩
    · decide +kernel
    · decide +kernel
    · decide +kernel
    · decide +kernel
    · decide +kernel
    · decide +kernel
  · -- A title that was left open catches the text of a later entry.
    let second : Content :=
      .element "entry".toList [] (reference "b" (.text "B".toList .nil)) .nil
    refine ⟨title, .nil, .empty "title".toList [] .nil, second, ?_, ?_, ?_, ?_, ?_, ?_⟩
    · decide +kernel
    · decide +kernel
    · decide +kernel
    · decide +kernel
    · decide +kernel
    · decide +kernel

end MediaShelves.Playlist.Asx
