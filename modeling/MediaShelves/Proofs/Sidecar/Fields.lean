import Mathlib.Data.List.Induction
import MediaShelves.Proofs.Xml.Contents
import MediaShelves.Sidecar

/-!
# What sidecars tell

A sidecar is read event by event, with a counter of the elements that are open.  What it tells can
be said by its elements: the fields right below the root, and the names in the actors there
(`told`).  Whatever stands elsewhere is passed over, at any depth.

Main statement: `ofText_eq_told`.
-/

namespace MediaShelves.Sidecar

open MediaShelves.Xml

/-! ## What is told -/

/-- The name of an element in lower case. -/
def lowerName (name : List Char) : String :=
  String.ofList (FilePath.asciiLower name)

/-- A text without the blanks around it; nothing where it is blank altogether. -/
def spoken (written : List Char) : List String :=
  match Text.trim (textMeaning written) with
  | [] => []
  | text => [String.ofList text]

/-- The texts of a field.  An element with two tags ends the field. -/
def heard : Content → List String
  | .nil => []
  | .text written rest => spoken written ++ heard rest
  | .empty _ _ rest => heard rest
  | .element _ _ _ _ => []

/-- The names in the element of an actor. -/
def named : Content → List String
  | .nil => []
  | .text _ rest => named rest
  | .empty _ _ rest => named rest
  | .element name _ content rest =>
    (if lowerName name = "name" then heard content else []) ++ named rest

/-- What the element of a field tells, or that of an actor. -/
def toldBy (word : String) (content : Content) : List (String × String) :=
  if word = "actor" then (named content).map (MetaKey.actor, ·)
  else (sidecarFields.lookup word).toList.flatMap fun key => (heard content).map (key, ·)

/-- Keys and values in the order in which the elements below the root tell them. -/
def told : Content → List (String × String)
  | .nil => []
  | .text _ rest => told rest
  | .empty _ _ rest => told rest
  | .element name _ content rest => toldBy (lowerName name) content ++ told rest

/-- The values under one key, in their order. -/
def valuesOf (key : String) (xs : List (String × String)) : List String :=
  (xs.filter (·.1 = key)).map (·.2)

@[simp] theorem valuesOf_nil (key : String) : valuesOf key [] = [] := rfl

@[simp] theorem valuesOf_append (key : String) (xs ys : List (String × String)) :
    valuesOf key (xs ++ ys) = valuesOf key xs ++ valuesOf key ys := by
  simp [valuesOf]

/-- What is left of some values: all genres and all actors, but the last one of anything else. -/
def kept (key : String) (values : List String) : List String :=
  if key = MetaKey.genre ∨ key = MetaKey.actor then values else values.getLast?.toList

/-! ## Recording -/

/-- The metadata with some more values. -/
def recordAll (xs : List (String × String)) (m : Metadata) : Metadata :=
  xs.foldl (fun m x => recordField x.1 x.2 m) m

/-- **The values of a key come together**: all of them for genres and actors, else the last one. -/
theorem find?_recordAll (xs : List (String × String)) (key : String) :
    (recordAll xs Metadata.empty).table.find? key =
      if valuesOf key xs = [] then none else some (kept key (valuesOf key xs)) := by
  -- The induction takes away the last value, as this is the one that may replace others.
  induction xs using List.reverseRecOn with
  | nil => rfl
  | append_singleton xs x ih =>
    have hrecord : recordAll (xs ++ [x]) Metadata.empty =
        recordField x.1 x.2 (recordAll xs Metadata.empty) := by
      simp [recordAll]
    rw [hrecord, recordField, valuesOf_append]
    by_cases hkey : key = x.1
    · subst hkey
      have hvalue : valuesOf x.1 [x] = [x.2] := by
        simp [valuesOf]
      have hne : valuesOf x.1 xs ++ [x.2] ≠ [] := by
        simp
      rw [hvalue, if_neg hne]
      split
      · rename_i hmany
        -- One more value comes behind those that were there.
        have hall : (recordAll xs Metadata.empty).all x.1 = valuesOf x.1 xs := by
          rw [Metadata.all, ih]
          split
          · rename_i hnone
            rw [hnone, Option.getD_none]
          · rw [kept, if_pos hmany, Option.getD_some]
        simp [Metadata.add, hall, kept, hmany]
      · rename_i hone
        simp [Metadata.set, kept, if_neg hone]
    · have hnone : valuesOf key [x] = [] := by
        simp [valuesOf, Ne.symm hkey]
      rw [hnone, List.append_nil, ← ih]
      split
      · simp [Metadata.add, hkey]
      · simp [Metadata.set, hkey]

/-- What has been read, with some more keys and values. -/
def State.record (xs : List (String × String)) (st : State) : State :=
  { st with
    title := (valuesOf MetaKey.title xs).getLast?.or st.title
    metadata := recordAll xs st.metadata }

theorem State.record_nil (st : State) : st.record [] = st := rfl

theorem State.record_append (xs ys : List (String × String)) (st : State) :
    st.record (xs ++ ys) = (st.record xs).record ys := by
  simp [record, recordAll, List.getLast?_append, Option.or_assoc]

/-- What has been read, with some texts of the field at hand. -/
def State.hear (texts : List String) (st : State) : State :=
  st.record (st.field.toList.flatMap fun key => texts.map (key, ·))

theorem State.hear_nil (st : State) : st.hear [] = st := by
  have hnothing : (st.field.toList.flatMap fun key => ([] : List String).map (key, ·)) = [] :=
    List.flatMap_eq_nil_iff.2 fun _ _ => rfl
  rw [hear, hnothing, record_nil]

theorem State.hear_append (texts texts' : List String) (st : State) :
    st.hear (texts ++ texts') = (st.hear texts).hear texts' := by
  cases hfield : st.field with
  | none => simp [hear, hfield, record_nil]
  | some key =>
    have hfield' (xs : List (String × String)) : (st.record xs).field = some key := hfield
    simp [hear, hfield, hfield', record_append]

theorem State.hear_of_none {st : State} (h : st.field = none) (texts : List String) :
    st.hear texts = st := by
  simp [hear, h, record_nil]

/-- A text is heard, as far as it tells something. -/
theorem State.withText_eq (st : State) (written : List Char) :
    st.withText written = st.hear (spoken written) := by
  obtain ⟨subject, inActor, depth, field, title, metadata⟩ := st
  unfold State.withText State.hear spoken
  cases field with
  | none => rfl
  | some key =>
    -- A text of blanks is not heard.
    cases Text.trim (textMeaning written) with
    | nil => simp [record_nil]
    | cons c cs =>
      by_cases hkey : key = MetaKey.title
      · simp [record, recordAll, valuesOf, hkey]
      · simp [record, recordAll, valuesOf, hkey]

/-! ## Reading a content -/

/-- Reading a content turns one state into another. -/
def Turns (c : Content) (st st' : State) : Prop :=
  c.events.foldlM State.step st = .ok st'

theorem turns_nil (st : State) : Turns .nil st st := rfl

section

variable {c : Content} {st st' st₁ st₂ : State}

theorem Turns.text {written : List Char} (h : Turns c (st.withText written) st') :
    Turns (.text written c) st st' := h

theorem Turns.empty {name : List Char} {attributes : List Attribute} (h : Turns c st st') :
    Turns (.empty name attributes c) st st' := h

/-- An element is opened, read and closed. -/
theorem Turns.element {name : List Char} {attributes : List Attribute} {content : Content}
    (hopened : st.opened (lowerName name) = .ok st₁) (hcontent : Turns content st₁ st₂)
    (h : Turns c st₂.closed st') : Turns (.element name attributes content c) st st' := by
  -- The element is its start tag, its content and its end tag, one after the other.
  have hfirst : State.step st (.opened name attributes) = .ok st₁ := hopened
  have hlast : State.step st₂ (.closed name) = .ok st₂.closed := rfl
  unfold Turns at hcontent h ⊢
  rw [Content.events_element, List.foldlM_cons, hfirst]
  change List.foldlM State.step st₁ _ = _
  rw [List.foldlM_append, hcontent]
  change List.foldlM State.step st₂ _ = _
  rw [List.foldlM_cons, hlast]
  exact h

end

/-- Elements that are opened now are so deep that none of them is a field. -/
structure State.Deep (st : State) : Prop where
  subject : st.subject ≠ none
  depth : 2 ≤ st.depth
  actor : st.inActor = true → 3 ≤ st.depth

theorem State.Deep.opened {st : State} (h : st.Deep) (word : String) :
    st.opened word = .ok { st with depth := st.depth + 1, field := none } := by
  have hsubject : ¬ st.subject.isNone = true := by
    simp [h.subject]
  unfold State.opened
  rw [if_neg hsubject]
  -- The one depth at which a name of an actor counts is passed, and so is that of the fields.
  split
  · rename_i hactor
    have hdepth : ¬ (st.depth + 1 = 3 ∧ word = "name") := by
      have := h.actor hactor
      omega
    simp only [if_neg hdepth]
  · have hdepth : ¬ (st.depth + 1 = 2) := by
      have := h.depth
      omega
    simp only [if_neg hdepth]

/-- Deep down the texts of the field at hand are heard up to the first element, and nothing else. -/
theorem State.Deep.turns {st : State} (h : st.Deep) (c : Content) :
    ∃ field, Turns c st { st.hear (heard c) with field } := by
  induction c generalizing st with
  | nil =>
    refine ⟨st.field, ?_⟩
    rw [heard, hear_nil]
    exact turns_nil st
  | text written rest ih =>
    have hdeep : (st.hear (spoken written)).Deep := ⟨h.subject, h.depth, h.actor⟩
    obtain ⟨field, hrest⟩ := ih hdeep
    refine ⟨field, .text ?_⟩
    rw [withText_eq, heard, hear_append]
    exact hrest
  | empty name attributes rest ih =>
    obtain ⟨field, hrest⟩ := ih h
    exact ⟨field, hrest.empty⟩
  | element name attributes content rest ihcontent ih =>
    have hinner : State.Deep { st with depth := st.depth + 1, field := none } :=
      ⟨h.subject, Nat.le_succ_of_le h.depth, fun hactor => Nat.le_succ_of_le (h.actor hactor)⟩
    have houter : State.Deep { st with field := none } := ⟨h.subject, h.depth, h.actor⟩
    obtain ⟨field₁, hcontent⟩ := ihcontent hinner
    obtain ⟨field, hrest⟩ := ih houter
    -- Without a field at hand nothing is heard, neither in the element nor after it.
    rw [hear_of_none rfl] at hcontent hrest
    have hdepth : st.depth ≠ 1 := by
      have := h.depth
      omega
    have hclosed : State.closed { st with depth := st.depth + 1, field := field₁ } =
        { st with field := none } := by
      simp [State.closed, hdepth]
    refine ⟨field, .element (h.opened _) hcontent ?_⟩
    rw [hclosed, heard, hear_nil]
    exact hrest

/-! ## Fields and actors -/

/-- A field is opened, heard and closed. -/
theorem Turns.field {st : State} {name : List Char} {attributes : List Attribute}
    {content rest : Content} {st' : State} {key : Option String}
    (hdeep : State.Deep { st with depth := st.depth + 1 })
    (hopened : st.opened (lowerName name) = .ok { st with depth := st.depth + 1, field := key })
    (hfield : st.field = none) (hactor : (st.inActor && st.depth != 1) = st.inActor)
    (h : Turns rest (st.record (key.toList.flatMap fun key => (heard content).map (key, ·))) st') :
    Turns (.element name attributes content rest) st st' := by
  have hdeep' : State.Deep { st with depth := st.depth + 1, field := key } :=
    ⟨hdeep.subject, hdeep.depth, hdeep.actor⟩
  obtain ⟨field, hcontent⟩ := hdeep'.turns content
  refine .element hopened hcontent ?_
  -- The end tag puts the field away, so that what follows is read as before.
  have hclosed : State.closed { State.hear (heard content)
      { st with depth := st.depth + 1, field := key } with field } =
      st.record (key.toList.flatMap fun key => (heard content).map (key, ·)) := by
    simp [State.closed, State.hear, State.record, hfield, hactor]
  rw [hclosed]
  exact h

/-- Of an actor the names are read. -/
theorem turns_actor {st : State} (hsubject : st.subject ≠ none) (hactor : st.inActor = true)
    (hdepth : st.depth = 2) (hfield : st.field = none) (c : Content) :
    Turns c st (st.record ((named c).map (MetaKey.actor, ·))) := by
  induction c generalizing st with
  | nil => exact turns_nil st
  | text written rest ih =>
    apply Turns.text
    rw [State.withText_eq, State.hear_of_none hfield]
    exact ih hsubject hactor hdepth hfield
  | empty name attributes rest ih => exact (ih hsubject hactor hdepth hfield).empty
  | element name attributes content rest ihcontent ih =>
    -- Right below an actor any element is deep, and only the names among them are heard.
    have hdeep : State.Deep { st with depth := st.depth + 1 } := by
      refine ⟨hsubject, ?_, ?_⟩
      · simp [hdepth]
      · simp [hdepth]
    have hopened : st.opened (lowerName name) = .ok { st with
        depth := st.depth + 1
        field := if lowerName name = "name" then some MetaKey.actor else none } := by
      simp [State.opened, hsubject, hactor, hdepth]
    refine .field hdeep hopened hfield (by simp [hactor, hdepth]) ?_
    rw [named, List.map_append, State.record_append]
    have hnames : ((if lowerName name = "name" then some MetaKey.actor else none).toList.flatMap
        fun key => (heard content).map (key, ·)) =
        (if lowerName name = "name" then heard content else []).map (MetaKey.actor, ·) := by
      split
      · simp
      · rfl
    rw [hnames]
    exact ih hsubject hactor hdepth hfield

/-- Right below the root everything is told that is told at all. -/
theorem turns_told {st : State} (hsubject : st.subject ≠ none) (hactor : st.inActor = false)
    (hdepth : st.depth = 1) (hfield : st.field = none) (c : Content) :
    Turns c st (st.record (told c)) := by
  induction c generalizing st with
  | nil => exact turns_nil st
  | text written rest ih =>
    apply Turns.text
    rw [State.withText_eq, State.hear_of_none hfield]
    exact ih hsubject hactor hdepth hfield
  | empty name attributes rest ih => exact (ih hsubject hactor hdepth hfield).empty
  | element name attributes content rest ihcontent ih =>
    rw [told, State.record_append]
    by_cases hname : lowerName name = "actor"
    · -- The actor ends where the counter is back at one, which its own end tag brings about.
      have hopened : st.opened (lowerName name) = .ok { st with
          depth := st.depth + 1
          inActor := true } := by
        simp [State.opened, hsubject, hactor, hdepth, hname]
      have hinner : st.depth + 1 = 2 := by
        rw [hdepth]
      have hcontent := @turns_actor { st with depth := st.depth + 1, inActor := true } hsubject
        rfl hinner hfield content
      refine .element hopened hcontent ?_
      have hclosed : State.closed (State.record ((named content).map (MetaKey.actor, ·))
          { st with depth := st.depth + 1, inActor := true }) =
          st.record (toldBy (lowerName name) content) := by
        simp [State.closed, State.record, toldBy, hname, hfield, hactor, hdepth]
      rw [hclosed]
      exact ih hsubject hactor hdepth hfield
    · -- Any other element is a field that is listed, or none.
      have hdeep : State.Deep { st with depth := st.depth + 1 } := by
        refine ⟨hsubject, ?_, ?_⟩
        · simp [hdepth]
        · simp [hactor]
      have hopened : st.opened (lowerName name) = .ok { st with
          depth := st.depth + 1
          field := sidecarFields.lookup (lowerName name) } := by
        simp [State.opened, hsubject, hactor, hdepth, hname]
      refine .field hdeep hopened hfield (by simp [hactor]) ?_
      have htold : toldBy (lowerName name) content =
          (sidecarFields.lookup (lowerName name)).toList.flatMap
            fun key => (heard content).map (key, ·) := if_neg hname
      rw [← htold]
      exact ih hsubject hactor hdepth hfield

/-! ## What counts -/

/-- The content with other contents in the elements right below it. -/
def mapElements (change : String → Content → Content) : Content → Content
  | .nil => .nil
  | .text written rest => .text written (mapElements change rest)
  | .empty name attributes rest => .empty name attributes (mapElements change rest)
  | .element name attributes content rest =>
    .element name attributes (change (lowerName name) content) (mapElements change rest)

/-- The content without the contents of elements that are neither fields nor names of actors. -/
def essence (c : Content) : Content :=
  mapElements (fun word content =>
    if word = "actor" then
      mapElements (fun word content => if word = "name" then content else .nil) content
    else if (sidecarFields.lookup word).isSome then content
    else .nil) c

theorem named_mapElements (c : Content) :
    named (mapElements (fun word content => if word = "name" then content else .nil) c) =
      named c := by
  induction c with
  | nil => rfl
  | text written rest ih => exact ih
  | empty name attributes rest ih => exact ih
  | element name attributes content rest ihcontent ih =>
    rw [mapElements, named, named, ih]
    by_cases hname : lowerName name = "name"
    · simp only [if_pos hname]
    · simp only [if_neg hname]

/-- Other contents tell nothing. -/
theorem told_essence (c : Content) : told (essence c) = told c := by
  induction c with
  | nil => rfl
  | text written rest ih => exact ih
  | empty name attributes rest ih => exact ih
  | element name attributes content rest ihcontent ih =>
    unfold essence at ih ⊢
    rw [mapElements, told, told, ih, toldBy, toldBy]
    -- What is left of an element is what is heard of it: names in actors, and the listed fields.
    by_cases hname : lowerName name = "actor"
    · simp only [if_pos hname, named_mapElements]
    · cases hfield : sidecarFields.lookup (lowerName name) with
      | none => simp only [if_neg hname, Option.toList_none, List.flatMap_nil]
      | some key => simp only [if_neg hname, Option.isSome_some, if_true]

/-! ## Documents -/

section

variable {text : String} {name : List Char} {attributes : List Attribute} {content : Content}
  (h : IsDocument text (.element name attributes content .nil))

include h

theorem ofText_of_unexpected (hroot : SidecarSubject.ofRoot? (lowerName name) = none) :
    ofText text = .error (.unexpectedRoot (lowerName name)) := by
  have hopened : State.step State.start (.opened name attributes) =
      .error (.unexpectedRoot (lowerName name)) := by
    simp only [lowerName] at hroot
    simp [State.step, State.opened, State.start, hroot, lowerName]
  unfold IsDocument at h
  rw [ofText, h, ofDocument, Content.events_element, List.foldlM_cons, hopened]
  rfl

theorem ofText_of_expected {subject : SidecarSubject}
    (hroot : SidecarSubject.ofRoot? (lowerName name) = some subject) :
    ofText text = .ok ⟨subject, (valuesOf MetaKey.title (told content)).getLast?,
      recordAll (told content) Metadata.empty⟩ := by
  have hopened : State.start.opened (lowerName name) =
      .ok { State.start with subject := some subject, depth := 1 } := by
    simp [State.opened, State.start, hroot]
  -- The root leaves the reader at the depth of the fields, and its end tag ends the document.
  have hcontent : Turns content { State.start with subject := some subject, depth := 1 }
      (State.record (told content) { State.start with subject := some subject, depth := 1 }) :=
    turns_told (Option.some_ne_none subject) rfl rfl rfl content
  have hturns : Turns (.element name attributes content .nil) State.start
      (State.record (told content)
        { State.start with subject := some subject, depth := 1 }).closed :=
    .element hopened hcontent (turns_nil _)
  unfold IsDocument at h
  unfold Turns at hturns
  rw [ofText, h, ofDocument, hturns]
  simp [State.record, State.closed, State.start]
  rfl

/-- What is told and the name of the root decide what becomes of a document. -/
theorem ofText_eq_of_told {text' : String} {attributes' : List Attribute} {content' : Content}
    (h' : IsDocument text' (.element name attributes' content' .nil))
    (htold : told content' = told content) : ofText text' = ofText text := by
  cases hroot : SidecarSubject.ofRoot? (lowerName name) with
  | none => rw [ofText_of_unexpected h hroot, ofText_of_unexpected h' hroot]
  | some subject => rw [ofText_of_expected h hroot, ofText_of_expected h' hroot, htold]

end

end MediaShelves.Sidecar
