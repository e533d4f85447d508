import Mathlib.Data.List.Basic
import MediaShelves.Playlist.Asx
import MediaShelves.Proofs.Xml.Contents

/-!
# What contents do to a reader

The reader of a playlist carries four things through a document: where it is, what the text at hand
is, the base of references, and the entry so far.  A content takes it from one state to another
(`Runs`), and what is open at the end of the content was open at its beginning (`Runs.ends`).

More is known of contents without some elements.  What each tag and each text of such a content does to
a state and its base, the whole content does with its last base (`Runs.carries`).  So contents without
other playlists keep the place and set their last base (`Runs.passes`), and those without entries leave
an entry where it is (`Runs.goesOn`) or find none (`Runs.idles`).
-/

namespace MediaShelves.Playlist.Asx

open MediaShelves.Xml

/-! ## Elements by their names -/

/-- Somewhere there is an element with a name, in any case. -/
def Has (word : String) : Content → Prop
  | .nil => False
  | .text _ rest => Has word rest
  | .empty name _ rest => lowerName name = word ∨ Has word rest
  | .element name _ content rest => lowerName name = word ∨ Has word content ∨ Has word rest

/-- Whether there is such an element can be looked up. -/
instance decidableHas (word : String) : (c : Content) → Decidable (Has word c)
  | .nil => inferInstanceAs (Decidable False)
  | .text _ rest => decidableHas word rest
  | .empty _ _ rest =>
    have := decidableHas word rest
    inferInstanceAs (Decidable (_ ∨ _))
  | .element _ _ content rest =>
    have := decidableHas word content
    have := decidableHas word rest
    inferInstanceAs (Decidable (_ ∨ _ ∨ _))

/-- The base that an element sets. -/
def baseOf? (name : List Char) (attributes : List Attribute) : Option (List Char) :=
  if lowerName name = "base" then value? "href" attributes else none

/-- The last base that is set in a content. -/
def lastBase? : Content → Option (List Char)
  | .nil => none
  | .text _ rest => lastBase? rest
  | .empty name attributes rest => (lastBase? rest).or (baseOf? name attributes)
  | .element name attributes content rest =>
    (lastBase? rest).or ((lastBase? content).or (baseOf? name attributes))

/-! ## Single steps -/

namespace State

section

variable (st : State) (word : String) (attributes : List Attribute) (written : List Char)

/-- In front of the list nothing counts but the element of the list itself. -/
theorem opened_outside (h : st.place = .outside) (hword : word ≠ "asx") :
    st.opened word attributes = st := by
  simp only [opened, h, if_neg hword]

/-- Between the entries an element may set the base, and nothing else. -/
theorem opened_in_list (h : st.place = .list) (hword : word ≠ "entry") :
    st.opened word attributes =
      { st with
        base := (if word = "base" then value? "href" attributes else none).or st.base } := by
  obtain ⟨place, use, base, current, found⟩ := st
  obtain rfl : place = .list := h
  by_cases hbase : word = "base"
  · simp [opened, hbase]
  · simp [opened, hbase, hword]

/-- In an entry a start tag sets the base or the use of texts, or tells something of the entry. -/
theorem opened_in_entry (h : st.place = .entry) :
    ∃ current, ∀ found, State.opened { st with found } word attributes =
      { st with
        base := (if word = "base" then value? "href" attributes else none).or st.base
        use :=
          if word = "title" then some .title
          else if word = "abstract" then some .description
          else st.use
        current
        found } := by
  obtain ⟨place, use, base, current, found⟩ := st
  obtain rfl : place = .entry := h
  -- What becomes of the entry is the same whatever was found before it.
  by_cases hbase : word = "base"
  · exact ⟨current, fun found => by simp [opened, hbase]⟩
  by_cases href : word = "ref"
  · cases hvalue : value? "href" attributes with
    | none => exact ⟨current, fun found => by simp [opened, href, hvalue]⟩
    | some reference =>
      by_cases hempty : current.location = ""
      · exact ⟨_, fun found => by simp [opened, href, hvalue, hempty, resolve]; rfl⟩
      · exact ⟨current, fun found => by simp [opened, href, hvalue, hempty]⟩
  by_cases htitle : word = "title"
  · exact ⟨current, fun found => by simp [opened, htitle]⟩
  by_cases habstract : word = "abstract"
  · exact ⟨current, fun found => by simp [opened, habstract]⟩
  by_cases hparam : word = "param"
  · cases hname : value? "name" attributes with
    | none => exact ⟨current, fun found => by simp [opened, hparam, hname]⟩
    | some name =>
      cases hvalue : value? "value" attributes with
      | none => exact ⟨current, fun found => by simp [opened, hparam, hname, hvalue]⟩
      | some value => exact ⟨_, fun found => by simp [opened, hparam, hname, hvalue]; rfl⟩
  · exact ⟨current, fun found => by simp [opened, hbase, href, htitle, habstract, hparam]⟩

/-- An element changes the place only where it opens the list or, in the list, an entry. -/
theorem place_opened :
    (st.opened word attributes).place =
      if st.place = .outside ∧ word = "asx" then .list
      else if st.place = .list ∧ word = "entry" then .entry
      else st.place := by
  -- Only the start tags of a playlist and of an entry lead on, each from its own place.
  cases hplace : st.place with
  | outside =>
    by_cases hasx : word = "asx"
    · simp [opened, hplace, hasx]
    · simp [st.opened_outside word attributes hplace hasx, hplace, hasx]
  | list =>
    by_cases hentry : word = "entry"
    · simp [opened, hplace, hentry]
    · simp [st.opened_in_list word attributes hplace hentry, hplace, hentry]
  | entry =>
    obtain ⟨current, hopened⟩ := st.opened_in_entry word attributes hplace
    simp [hopened st.found, hplace]

/-- No entry is found where an element begins. -/
theorem found_opened : (st.opened word attributes).found = st.found := by
  -- Only an end tag finds an entry, wherever the reader is.
  cases hplace : st.place with
  | outside =>
    simp only [opened, hplace]
    split <;> rfl
  | list =>
    simp only [opened, hplace]
    split_ifs <;> rfl
  | entry =>
    obtain ⟨current, hopened⟩ := st.opened_in_entry word attributes hplace
    rw [hopened st.found]

/-- Text is of use behind the beginning of a title or an abstract, or as it was. -/
theorem use_opened :
    (st.opened word attributes).use = st.use ∨ word = "title" ∨ word = "abstract" := by
  -- Texts are of use in entries only.
  cases hplace : st.place with
  | outside =>
    left
    simp only [opened, hplace]
    split <;> rfl
  | list =>
    left
    simp only [opened, hplace]
    split_ifs <;> rfl
  | entry =>
    obtain ⟨current, hopened⟩ := st.opened_in_entry word attributes hplace
    rw [hopened st.found]
    by_cases hfield : word = "title" ∨ word = "abstract"
    · exact .inr hfield
    · obtain ⟨htitle, habstract⟩ := not_or.1 hfield
      exact .inl (by simp only [if_neg htitle, if_neg habstract])

/-- In the list and in an entry the base is the last one that was set. -/
theorem base_opened (h : st.place ≠ .outside) :
    (st.opened word attributes).base =
      (if word = "base" then value? "href" attributes else none).or st.base := by
  -- In a playlist and in an entry alike a base is set by its element.
  cases hplace : st.place with
  | outside => exact absurd hplace h
  | list =>
    by_cases hentry : word = "entry"
    · simp [opened, hplace, hentry]
    · rw [st.opened_in_list word attributes hplace hentry]
  | entry =>
    obtain ⟨current, hopened⟩ := st.opened_in_entry word attributes hplace
    rw [hopened st.found]

/-- The end of an entry leads back into the list, and that of the list leads out of it. -/
theorem place_closed :
    (st.closed word).place =
      if st.place = .entry ∧ word = "entry" then .list
      else if st.place = .list ∧ word = "asx" then .outside
      else st.place := by
  unfold closed
  split_ifs <;> rfl

/-- Behind a title or an abstract text is of no use any more. -/
theorem use_closed :
    (st.closed word).use = if word = "title" ∨ word = "abstract" then none else st.use := by
  by_cases hfield : word = "title" ∨ word = "abstract"
  · -- These two end neither an entry nor the list.
    have hentry : word ≠ "entry" := by
      rintro rfl
      exact absurd hfield (by decide)
    have hasx : word ≠ "asx" := by
      rintro rfl
      exact absurd hfield (by decide)
    simp [closed, hentry, hasx, hfield]
  · rw [if_neg hfield]
    unfold closed
    split_ifs <;> rfl

/-- An entry is found at the end of its element, and nowhere else. -/
theorem found_closed (hword : word ≠ "entry") : (st.closed word).found = st.found := by
  unfold closed
  rw [if_neg fun hboth => hword hboth.2]
  split_ifs <;> rfl

/-- The base outlives the element that has set it. -/
theorem base_closed : (st.closed word).base = st.base := by
  unfold closed
  split_ifs <;> rfl

theorem place_withText : (st.withText written).place = st.place := by
  unfold withText
  split <;> rfl

theorem use_withText : (st.withText written).use = st.use := by
  unfold withText
  split <;> rfl

theorem found_withText : (st.withText written).found = st.found := by
  unfold withText
  split <;> rfl

theorem base_withText : (st.withText written).base = st.base := by
  unfold withText
  split <;> rfl

end

end State

/-! ## Reading a content -/

/-- Reading a content turns one state into another. -/
inductive Runs : Content → State → State → Prop where
  | nil (st : State) : Runs .nil st st
  | text {rest : Content} {st st' : State} (written : List Char)
      (h : Runs rest (st.withText written) st') : Runs (.text written rest) st st'
  | empty {rest : Content} {st st' : State} (name : List Char) (attributes : List Attribute)
      (h : Runs rest ((st.opened (lowerName name) attributes).closed (lowerName name)) st') :
      Runs (.empty name attributes rest) st st'
  | element {content rest : Content} {st inner st' : State} (name : List Char)
      (attributes : List Attribute)
      (hcontent : Runs content (st.opened (lowerName name) attributes) inner)
      (h : Runs rest (inner.closed (lowerName name)) st') :
      Runs (.element name attributes content rest) st st'

/-- The events of a content lead on from any state. -/
theorem runs_content (c : Content) (st : State) : Runs c st (c.events.foldl State.step st) := by
  induction c generalizing st with
  | nil => exact .nil st
  | text written rest ih => exact .text written (ih _)
  | empty name attributes rest ih => exact .empty name attributes (ih _)
  | element name attributes content rest ihcontent ih =>
    rw [Content.events_element, List.foldl_cons, List.foldl_append, List.foldl_cons]
    exact .element name attributes (ihcontent _) (ih _)

/-! ### Any content -/

/-- What is open at the end of a content was open at its beginning. -/
structure Ends (st st' : State) : Prop where
  use : st'.use = none ∨ st'.use = st.use
  entry : st.place ≠ .entry → st'.place ≠ .entry
  outside : st.place = .outside → st'.place = .outside

/-- Where nothing was read, nothing has begun. -/
theorem Ends.refl (st : State) : Ends st st :=
  ⟨.inr rfl, id, id⟩

/-- What two passages leave behind is what the second one does. -/
theorem Ends.trans {st st' st'' : State} (h : Ends st st') (h' : Ends st' st'') : Ends st st'' where
  use := by
    rcases h'.use with hnone | hsame
    · exact .inl hnone
    · rw [hsame]
      exact h.use
  entry hplace := h'.entry (h.entry hplace)
  outside hplace := h'.outside (h.outside hplace)

/-- Text begins no element and ends none. -/
theorem ends_text (st : State) (written : List Char) : Ends st (st.withText written) where
  use := .inr (st.use_withText written)
  entry hplace := by rwa [st.place_withText]
  outside hplace := by rwa [st.place_withText]

/-- The end tag of an element ends what its start tag began. -/
theorem Ends.element {word : String} {attributes : List Attribute} {st inner : State}
    (h : Ends (st.opened word attributes) inner) : Ends st (inner.closed word) where
  use := by
    rw [State.use_closed]
    split_ifs with hfield
    · exact .inl rfl
    · -- Only the tags of titles and abstracts change the use, and this is none.
      rcases st.use_opened word attributes with hsame | htext
      · rw [← hsame]
        exact h.use
      · exact absurd htext hfield
  entry hplace := by
    rw [State.place_closed]
    split_ifs with hentry hasx
    · exact Place.noConfusion
    · exact Place.noConfusion
    · by_cases hword : word = "entry"
      · exact fun hinner => hentry ⟨hinner, hword⟩
      · -- Another start tag leads into no entry, and what the content begins it ends.
        apply h.entry
        rw [st.place_opened]
        split_ifs with hasx' hentry'
        · exact Place.noConfusion
        · exact absurd hentry'.2 hword
        · exact hplace
  outside hplace := by
    rw [State.place_closed]
    by_cases hword : word = "asx"
    · -- A playlist that began here has ended here, or some playlist in it has ended for it.
      have hinner : inner.place ≠ .entry := by
        apply h.entry
        rw [st.place_opened, if_pos ⟨hplace, hword⟩]
        exact Place.noConfusion
      cases hend : inner.place with
      | outside => simp
      | list => simp [hword]
      | entry => exact absurd hend hinner
    · have hinner : inner.place = .outside := by
        apply h.outside
        rw [st.place_opened, if_neg fun hboth => hword hboth.2, hplace]
        rfl
      simp [hinner]

/-- **A content ends what it begins**, whatever is in it. -/
theorem Runs.ends {c : Content} {st st' : State} (h : Runs c st st') : Ends st st' := by
  induction h with
  | nil st => exact .refl st
  | text written h ih => exact (ends_text _ written).trans ih
  | empty name attributes h ih => exact (Ends.element (.refl _)).trans ih
  | element name attributes hcontent h ihcontent ih => exact ihcontent.element.trans ih

/-! ### Contents without some elements -/

/--
A relation of states and of the base that is set between them, which each tag and each text keeps as
long as a condition holds, unless the tag is that of an element with a certain name.
-/
structure Carries (word : String) (P : State → Prop)
    (R : Option (List Char) → State → State → Prop) : Prop where
  keeps : ∀ {base st st'}, P st → R base st st' → P st'
  refl : ∀ {st}, P st → R none st st
  trans : ∀ {base base' st st' st''}, R base st st' → R base' st' st'' → R (base'.or base) st st''
  text : ∀ {st}, P st → ∀ written, R none st (st.withText written)
  opened : ∀ {st name}, P st → lowerName name ≠ word → ∀ attributes,
    R (baseOf? name attributes) st (st.opened (lowerName name) attributes)
  closed : ∀ {st name}, P st → lowerName name ≠ word → R none st (st.closed (lowerName name))

section

variable {word : String} {P : State → Prop} {R : Option (List Char) → State → State → Prop}

/-- An element carries what its content carries, and may set a base itself. -/
theorem Carries.element (h : Carries word P R) {name : List Char} {attributes : List Attribute}
    {base : Option (List Char)} {st inner : State} (hst : P st) (hname : lowerName name ≠ word)
    (hinner : P (st.opened (lowerName name) attributes) →
      R base (st.opened (lowerName name) attributes) inner) :
    R (base.or (baseOf? name attributes)) st (inner.closed (lowerName name)) := by
  have hopened := h.opened hst hname attributes
  have hbegun := h.keeps hst hopened
  have hdone := h.keeps hbegun (hinner hbegun)
  have hclosed := h.trans (h.trans hopened (hinner hbegun)) (h.closed hdone hname)
  rwa [Option.none_or] at hclosed

/-- **What tags and texts carry is carried by a content**, with the last base that is set in it. -/
theorem Runs.carries {c : Content} {st st' : State} (h : Runs c st st') (hR : Carries word P R)
    (hword : ¬ Has word c) (hst : P st) : R (lastBase? c) st st' := by
  -- The condition goes along from each part of the content to the next one.
  induction h with
  | nil st => exact hR.refl hst
  | text written h ih =>
    have hfirst := hR.text hst written
    have htrans := hR.trans hfirst (ih hword (hR.keeps hst hfirst))
    rwa [Option.or_none] at htrans
  | empty name attributes h ih =>
    obtain ⟨hname, hrest⟩ := not_or.1 hword
    have helement := hR.element hst hname fun h : P (State.opened _ _ attributes) => hR.refl h
    exact hR.trans helement (ih hrest (hR.keeps hst helement))
  | element name attributes hcontent h ihcontent ih =>
    obtain ⟨hname, hrest⟩ := not_or.1 hword
    obtain ⟨hinner, hrest⟩ := not_or.1 hrest
    have helement := hR.element hst hname (ihcontent hinner)
    exact hR.trans helement (ih hrest (hR.keeps hst helement))

end

/-! ### Contents without other playlists -/

/-- What becomes of the place and the base in a content that sets a base. -/
structure Passes (base : Option (List Char)) (st st' : State) : Prop where
  place : st.place ≠ .outside → st'.place ≠ .outside
  base : st.place ≠ .outside → st'.base = base.or st.base

/-- Where nothing was read, place and base are as they were. -/
theorem Passes.refl (st : State) : Passes none st st :=
  ⟨id, fun _ => rfl⟩

/-- Over two passages the base is the last one that either of them sets. -/
theorem Passes.trans {base base' : Option (List Char)} {st st' st'' : State}
    (h : Passes base st st') (h' : Passes base' st' st'') : Passes (base'.or base) st st'' where
  place hplace := h'.place (h.place hplace)
  base hplace := by
    rw [h'.base (h.place hplace), h.base hplace, Option.or_assoc]

/-- Text changes neither the place nor the base. -/
theorem passes_text (st : State) (written : List Char) : Passes none st (st.withText written) where
  place hplace := by rwa [st.place_withText]
  base _ := st.base_withText written

/-- The beginning of an element is passed over, apart from the base. -/
theorem passes_opened (st : State) (name : List Char) (attributes : List Attribute) :
    Passes (baseOf? name attributes) st (st.opened (lowerName name) attributes) where
  place hplace := by
    rw [st.place_opened, if_neg fun hboth => hplace hboth.1]
    split
    · exact Place.noConfusion
    · exact hplace
  base hplace := st.base_opened _ attributes hplace

/-- So is its end, unless it is the end of the list. -/
theorem passes_closed {word : String} (hword : word ≠ "asx") (st : State) :
    Passes none st (st.closed word) where
  place hplace := by
    rw [State.place_closed]
    split_ifs with hentry hasx
    · exact Place.noConfusion
    · exact absurd hasx.2 hword
    · exact hplace
  base _ := st.base_closed word

/-- All that is asked of a way through the elements of a list holds of passing over them. -/
theorem carries_passes : Carries "asx" (fun _ => True) Passes where
  keeps _ _ := trivial
  refl _ := .refl _
  trans := .trans
  text _ written := passes_text _ written
  opened _ _ attributes := passes_opened _ _ attributes
  closed _ hname := passes_closed hname _

/-- **A content without a list is passed over**, apart from the last base in it. -/
theorem Runs.passes {c : Content} {st st' : State} (h : Runs c st st') (hasx : ¬ Has "asx" c) :
    Passes (lastBase? c) st st' :=
  h.carries carries_passes hasx trivial

/-! ### Contents without entries -/

/-- An entry goes on and nothing is found in it, whatever elements but entries it has. -/
structure GoesOn (base : Option (List Char)) (st st' : State) : Prop where
  place : st'.place = .entry
  base : st'.base = base.or st.base
  found : st'.found = st.found

/-- Where nothing was read, the entry is as it was. -/
theorem GoesOn.refl {st : State} (hplace : st.place = .entry) : GoesOn none st st :=
  ⟨hplace, rfl, rfl⟩

/-- An entry goes on through two passages, and its base is the last one in them. -/
theorem GoesOn.trans {base base' : Option (List Char)} {st st' st'' : State}
    (h : GoesOn base st st') (h' : GoesOn base' st' st'') : GoesOn (base'.or base) st st'' where
  place := h'.place
  base := by
    rw [h'.base, h.base, Option.or_assoc]
  found := h'.found.trans h.found

/-- Text adds to an entry and does not end it. -/
theorem goesOn_text {st : State} (hplace : st.place = .entry) (written : List Char) :
    GoesOn none st (st.withText written) where
  place := by rw [st.place_withText, hplace]
  base := st.base_withText written
  found := st.found_withText written

/-- In an entry no other one begins. -/
theorem goesOn_opened {st : State} (hplace : st.place = .entry) (name : List Char)
    (attributes : List Attribute) :
    GoesOn (baseOf? name attributes) st (st.opened (lowerName name) attributes) where
  place := by
    rw [st.place_opened, hplace]
    rfl
  base := by
    apply st.base_opened
    rw [hplace]
    exact Place.noConfusion
  found := st.found_opened _ attributes

/-- An entry ends with its own element only. -/
theorem goesOn_closed {word : String} (hword : word ≠ "entry") {st : State}
    (hplace : st.place = .entry) : GoesOn none st (st.closed word) where
  place := by
    rw [State.place_closed, hplace, if_neg fun hboth => hword hboth.2]
    rfl
  base := st.base_closed word
  found := st.found_closed word hword

/-- All that is asked of a way through the elements of an entry holds of going on. -/
theorem carries_goesOn : Carries "entry" (·.place = .entry) GoesOn where
  keeps _ h := h.place
  refl := .refl
  trans := .trans
  text := goesOn_text
  opened hplace _ attributes := goesOn_opened hplace _ attributes
  closed hplace hname := goesOn_closed hname hplace

/-- **An entry goes on through a content without the end of an entry.** -/
theorem Runs.goesOn {c : Content} {st st' : State} (h : Runs c st st') (hentry : ¬ Has "entry" c)
    (hplace : st.place = .entry) : GoesOn (lastBase? c) st st' :=
  h.carries carries_goesOn hentry hplace

/-- Not in an entry, and with no text at hand. -/
structure Between (st : State) : Prop where
  place : st.place ≠ .entry
  use : st.use = none

/-- Between two entries it stays so as long as no element is left open. -/
theorem Ends.between {st st' : State} (h : Ends st st') (hst : Between st) : Between st' where
  place := h.entry hst.place
  use := by
    rcases h.use with hnone | hsame
    · exact hnone
    · exact hsame.trans hst.use

/-- No element but that of an entry begins one. -/
theorem Between.opened {st : State} (h : Between st) {word : String} (hword : word ≠ "entry")
    (attributes : List Attribute) : Between (st.opened word attributes) where
  place := by
    rw [st.place_opened]
    split_ifs with hasx hentry
    · exact Place.noConfusion
    · exact absurd hentry.2 hword
    · exact h.place
  use := by
    -- Between entries no element has text, so that none is listened to.
    cases hplace : st.place with
    | outside =>
      simp only [State.opened, hplace]
      split
      · exact h.use
      · exact h.use
    | list =>
      rw [st.opened_in_list word attributes hplace hword]
      exact h.use
    | entry => exact absurd hplace h.place

/-- The end of an element begins no entry. -/
theorem Between.closed {st : State} (h : Between st) (word : String) : Between (st.closed word) where
  place := by
    rw [State.place_closed]
    split_ifs
    · exact Place.noConfusion
    · exact Place.noConfusion
    · exact h.place
  use := by
    rw [State.use_closed, h.use, ite_self]

/-- With no text at hand a text tells nothing. -/
theorem Between.withText {st : State} (h : Between st) (written : List Char) :
    st.withText written = st := by
  rw [State.withText, h.use]

/-- Between entries nothing is told of an entry, and none is found. -/
structure Idles (base : Option (List Char)) (st st' : State) : Prop where
  current : st'.current = st.current
  found : st'.found = st.found
  base : base = none → st'.base = st.base

/-- Where nothing was read, the reader has idled. -/
theorem Idles.refl (st : State) : Idles none st st :=
  ⟨rfl, rfl, fun _ => rfl⟩

/-- A reader that idles through two passages idles through both at once. -/
theorem Idles.trans {base base' : Option (List Char)} {st st' st'' : State}
    (h : Idles base st st') (h' : Idles base' st' st'') : Idles (base'.or base) st st'' where
  current := h'.current.trans h.current
  found := h'.found.trans h.found
  base hnone := by
    obtain ⟨hsecond, hfirst⟩ := Option.or_eq_none_iff.1 hnone
    exact (h'.base hsecond).trans (h.base hfirst)

/-- Between the entries a beginning element is idled through, apart from the base. -/
theorem idles_opened {st : State} (h : Between st) {name : List Char}
    (hname : lowerName name ≠ "entry") (attributes : List Attribute) :
    Idles (baseOf? name attributes) st (st.opened (lowerName name) attributes) where
  current := by
    -- Only an entry has anything that a start tag could change.
    cases hplace : st.place with
    | outside =>
      simp only [State.opened, hplace]
      split <;> rfl
    | list => rw [st.opened_in_list _ attributes hplace hname]
    | entry => exact absurd hplace h.place
  found := st.found_opened _ attributes
  base hnone := by
    by_cases hplace : st.place = .outside
    · simp only [State.opened, hplace]
      split <;> rfl
    · have hbase : (st.opened (lowerName name) attributes).base =
          (baseOf? name attributes).or st.base := st.base_opened _ attributes hplace
      rw [hbase, hnone, Option.none_or]

/-- So is its end. -/
theorem idles_closed {word : String} (hword : word ≠ "entry") (st : State) :
    Idles none st (st.closed word) where
  current := by
    unfold State.closed
    rw [if_neg fun hboth => hword hboth.2]
    split_ifs <;> rfl
  found := st.found_closed word hword
  base _ := st.base_closed word

/-- Between entries the reader stays between entries. -/
theorem carries_idles :
    Carries "entry" Between fun base st st' => Idles base st st' ∧ Between st' where
  keeps _ h := h.2
  refl hst := ⟨.refl _, hst⟩
  trans h h' := ⟨h.1.trans h'.1, h'.2⟩
  text hst written := by
    rw [hst.withText]
    exact ⟨.refl _, hst⟩
  opened hst hname attributes := ⟨idles_opened hst hname attributes, hst.opened hname attributes⟩
  closed hst hname := ⟨idles_closed hname _, hst.closed _⟩

/-- **Between the entries a content without an entry is idled through.** -/
theorem Runs.idles {c : Content} {st st' : State} (h : Runs c st st') (hentry : ¬ Has "entry" c)
    (hst : Between st) : Idles (lastBase? c) st st' :=
  (h.carries carries_idles hentry hst).1

end MediaShelves.Playlist.Asx
