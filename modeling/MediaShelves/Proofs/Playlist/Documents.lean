import MediaShelves.Playlist.Asx
import MediaShelves.Proofs.Text.Numbers
import MediaShelves.Proofs.Xml.Reading

/-!
# Writing ASX documents

An entry is written as an element for each thing that it tells, in any order (`WritesEntry`), and a
playlist as the elements of its entries (`WritesDocument`).  Reading goes through the elements one by
one and adds to the entry what each of them tells (`Part.addTo`).  As different things do not get into
the way of each other, their order does not matter.

Main statement: a document that is written for some entries is read back as them
(`entries?_of_writesDocument`).
-/

namespace MediaShelves.Playlist.Asx

open MediaShelves.Text MediaShelves.Xml

/-! ## Parts of entries -/

/-- What one element tells about an entry. -/
inductive Part where
  | reference (location : String)
  | title (title : String)
  | description (description : String)
  | mimetype (mimetype : String)
  | protocol (protocol : String)
  | size (size : Nat)
  | extra (key value : String)

/-- The entry with what an element tells. -/
def Part.addTo : Part → Entry → Entry
  | .reference l, e => { e with location := if e.location = "" then l else e.location }
  | .title t, e => { e with title := some t }
  | .description d, e => { e with description := some d }
  | .mimetype m, e => { e with mimetype := some m }
  | .protocol p, e => { e with protocol := some p }
  | .size n, e => { e with size := some n }
  | .extra k v, e => { e with extra := e.extra.insert k v }

/-- All that an entry tells. -/
def parts (e : Entry) : List Part :=
  .reference e.location :: (e.title.toList.map .title ++ (e.description.toList.map .description ++
    (e.mimetype.toList.map .mimetype ++ (e.protocol.toList.map .protocol ++
      (e.size.toList.map .size ++ e.extra.entries.map fun x => .extra x.1 x.2)))))

/-! ## How they are written -/

/-- A text that begins and ends with no blank. -/
def IsVisible (s : String) : Prop :=
  s ≠ "" ∧ (∀ c, s.toList.head? = some c → isBlank c = false) ∧
    ∀ c, s.toList.getLast? = some c → isBlank c = false

/-- A text in an element, perhaps with white space around it. -/
inductive WritesText (name : List Char) (text : String) : List Char → Prop where
  | intro {front w back s : List Char} (hfront : IsGap front) (hw : Escapes text.toList w)
      (hback : IsGap back) (hs : Wraps name [] (front ++ (w ++ back)) s) : WritesText name text s

/-- A name and a value in the attributes of an element. -/
inductive WritesParameter (key value : String) : List Char → Prop where
  | intro {name s : List Char} (hname : lowerName name = "param")
      (hs : EmptyElement name
        [("name".toList, key.toList), ("value".toList, value.toList)] s) :
      WritesParameter key value s

/-- The element of a part.  The case of its name does not matter. -/
inductive Part.Writes : Part → List Char → Prop where
  | reference {name s : List Char} {location : String} (hname : lowerName name = "ref")
      (hs : EmptyElement name [("href".toList, location.toList)] s) :
      Part.Writes (.reference location) s
  | title {name s : List Char} {title : String} (hname : lowerName name = "title")
      (hs : WritesText name title s) : Part.Writes (.title title) s
  | description {name s : List Char} {description : String} (hname : lowerName name = "abstract")
      (hs : WritesText name description s) : Part.Writes (.description description) s
  | mimetype {s : List Char} {mimetype : String} (hs : WritesParameter "mimetype" mimetype s) :
      Part.Writes (.mimetype mimetype) s
  | protocol {s : List Char} {protocol : String} (hs : WritesParameter "protocol" protocol s) :
      Part.Writes (.protocol protocol) s
  | size {s : List Char} {size : Nat}
      (hs : WritesParameter "size" (String.ofList (digits size)) s) : Part.Writes (.size size) s
  | extra {s : List Char} {key value : String} (hs : WritesParameter key value s) :
      Part.Writes (.extra key value) s

/-- Elements one after another, with or without white space between them. -/
inductive InTurn {α : Type} (Writes : α → List Char → Prop) : List α → List Char → Prop where
  | nil {gap : List Char} (hgap : IsGap gap) : InTurn Writes [] gap
  | cons {x : α} {xs : List α} {gap s rest : List Char} (hgap : IsGap gap) (hs : Writes x s)
      (hrest : InTurn Writes xs rest) : InTurn Writes (x :: xs) (gap ++ (s ++ rest))

/-- The element of an entry, with those of its parts in any order. -/
inductive WritesEntry (e : Entry) : List Char → Prop where
  | intro {name content s : List Char} {ps : List Part} (hname : lowerName name = "entry")
      (hps : ps.Perm (parts e)) (hcontent : InTurn Part.Writes ps content)
      (hs : Wraps name [] content s) : WritesEntry e s

/-- The document of a playlist. -/
inductive WritesDocument : List Entry → List Char → Prop where
  | list {name content front s back : List Char} {es : List Entry}
      {attributes : List (List Char × List Char)} (hname : lowerName name = "asx")
      (hnodup : (attributes.map (·.1)).Nodup) (hcontent : InTurn WritesEntry es content)
      (hs : Wraps name attributes content s) (hfront : IsGap front) (hback : IsGap back) :
      WritesDocument es (front ++ (s ++ back))
  | empty {name front s back : List Char} {attributes : List (List Char × List Char)}
      (hname : lowerName name = "asx") (hnodup : (attributes.map (·.1)).Nodup)
      (hs : EmptyElement name attributes s) (hfront : IsGap front) (hback : IsGap back) :
      WritesDocument [] (front ++ (s ++ back))

/-- Whether a key is that of a field of its own, in any case. -/
def IsFieldKey (key : String) : Prop :=
  lowerName key.toList ∈ ["mimetype", "protocol", "size"]

/-- Whether an entry can be told by its elements. -/
structure Writable (e : Entry) : Prop where
  location : IsVisible e.location
  title : ∀ title ∈ e.title, IsVisible title
  description : ∀ description ∈ e.description, IsVisible description
  order : e.order = none
  size : ∀ size ∈ e.size, size ≤ max64
  extra : ∀ key ∈ e.extra.keys, ¬ IsFieldKey key

instance : DecidablePred IsVisible := fun s =>
  decidable_of_iff
    (s ≠ "" ∧ (∀ c ∈ s.toList.head?, isBlank c = false) ∧
      ∀ c ∈ s.toList.getLast?, isBlank c = false) Iff.rfl

instance : DecidablePred IsFieldKey := fun key =>
  inferInstanceAs (Decidable (lowerName key.toList ∈ ["mimetype", "protocol", "size"]))

instance : DecidablePred Writable := fun e =>
  decidable_of_iff
    (IsVisible e.location ∧ (∀ title ∈ e.title, IsVisible title) ∧
      (∀ description ∈ e.description, IsVisible description) ∧ e.order = none ∧
      (∀ size ∈ e.size, size ≤ max64) ∧ ∀ key ∈ e.extra.keys, ¬ IsFieldKey key)
    ⟨fun ⟨h₁, h₂, h₃, h₄, h₅, h₆⟩ => ⟨h₁, h₂, h₃, h₄, h₅, h₆⟩,
      fun h => ⟨h.location, h.title, h.description, h.order, h.size, h.extra⟩⟩

/-! ## Adding parts -/

/-- The entry with some parts more. -/
def addAll (ps : List Part) (e : Entry) : Entry :=
  ps.foldl (fun e p => p.addTo e) e

/-- Parts are added one after the other. -/
theorem addAll_append (ps qs : List Part) (e : Entry) :
    addAll (ps ++ qs) e = addAll qs (addAll ps e) :=
  List.foldl_append

/-- Parameters without a field of their own go into the table of the entry. -/
theorem addAll_extra (xs : List (String × String)) (e : Entry) :
    addAll (xs.map fun x => .extra x.1 x.2) e =
      { e with extra := xs.foldl (fun t x => t.insert x.1 x.2) e.extra } := by
  induction xs generalizing e with
  | nil => rfl
  | cons x xs ih => exact ih _

/-- **The parts of an entry make it up.** -/
theorem addAll_parts {e : Entry} (horder : e.order = none) :
    addAll (parts e) (Entry.ofLocation "") = e := by
  -- A part that is there fills its field, and one that is not leaves the field as it is.
  have htitle (o : Option String) (e : Entry) :
      addAll (o.toList.map .title) e = { e with title := o.or e.title } := by
    cases o <;> rfl
  have hdescription (o : Option String) (e : Entry) :
      addAll (o.toList.map .description) e = { e with description := o.or e.description } := by
    cases o <;> rfl
  have hmimetype (o : Option String) (e : Entry) :
      addAll (o.toList.map .mimetype) e = { e with mimetype := o.or e.mimetype } := by
    cases o <;> rfl
  have hprotocol (o : Option String) (e : Entry) :
      addAll (o.toList.map .protocol) e = { e with protocol := o.or e.protocol } := by
    cases o <;> rfl
  have hsize (o : Option Nat) (e : Entry) :
      addAll (o.toList.map .size) e = { e with size := o.or e.size } := by
    cases o <;> rfl
  have hextra : e.extra.entries.foldl (fun t x => t.insert x.1 x.2) Keyed.empty = e.extra :=
    Keyed.empty_overlay e.extra
  have hreference (ps : List Part) (l : String) (e : Entry) :
      addAll (.reference l :: ps) e = addAll ps (Part.addTo (.reference l) e) := rfl
  -- Every field is still empty when its part comes, so that it holds what the entry has.
  rw [parts, hreference]
  simp only [addAll_append, htitle, hdescription, hmimetype, hprotocol, hsize, addAll_extra,
    Part.addTo, Entry.ofLocation, if_true, Option.or_none, hextra]
  rw [← horder]

/-- A part tells what stands in an entry. -/
def Part.IsOf (e : Entry) : Part → Prop
  | .reference l => l = e.location
  | .title t => e.title = some t
  | .description d => e.description = some d
  | .mimetype m => e.mimetype = some m
  | .protocol p => e.protocol = some p
  | .size n => e.size = some n
  | .extra k v => (k, v) ∈ e.extra.entries

/-- The parts of an entry are true of it. -/
theorem isOf_of_mem_parts {e : Entry} {p : Part} (h : p ∈ parts e) : p.IsOf e := by
  simp only [parts, List.mem_cons, List.mem_append, List.mem_map, Option.mem_toList] at h
  rcases h with rfl | ⟨_, h, rfl⟩ | ⟨_, h, rfl⟩ | ⟨_, h, rfl⟩ | ⟨_, h, rfl⟩ | ⟨_, h, rfl⟩ | ⟨_, h, rfl⟩
  · rfl
  · exact h
  · exact h
  · exact h
  · exact h
  · exact h
  · exact h

/-- Two parts that tell the same thing about an entry are the same. -/
theorem addTo_comm {e : Entry} {p q : Part} (hp : p.IsOf e) (hq : q.IsOf e) (d : Entry) :
    q.addTo (p.addTo d) = p.addTo (q.addTo d) := by
  have hsame {α : Type} {o : Option α} {x y : α} (hx : o = some x) (hy : o = some y) : x = y :=
    Option.some.inj (hx.symm.trans hy)
  -- Parts of different kinds fill different fields, and two of one kind are the same part, unless
  -- they are parameters with different keys.
  cases p with
  | reference l =>
    cases q with
    | reference l' => rw [show l = l' from Eq.trans hp (Eq.symm hq)]
    | _ => rfl
  | title t =>
    cases q with
    | title t' => rw [hsame hp hq]
    | _ => rfl
  | description t =>
    cases q with
    | description t' => rw [hsame hp hq]
    | _ => rfl
  | mimetype m =>
    cases q with
    | mimetype m' => rw [hsame hp hq]
    | _ => rfl
  | protocol m =>
    cases q with
    | protocol m' => rw [hsame hp hq]
    | _ => rfl
  | size n =>
    cases q with
    | size n' => rw [hsame hp hq]
    | _ => rfl
  | extra k v =>
    cases q with
    | extra k' v' =>
      by_cases hk : k = k'
      · subst hk
        rw [hsame (e.extra.find?_of_mem hp) (e.extra.find?_of_mem hq)]
      · simp only [Part.addTo, Keyed.insert_comm _ hk]
    | _ => rfl

/-- The parts of an entry make it up in any order. -/
theorem addAll_perm {e : Entry} (horder : e.order = none) {ps : List Part}
    (hps : ps.Perm (parts e)) : addAll ps (Entry.ofLocation "") = e := by
  rw [← addAll_parts horder]
  apply hps.foldl_eq'
  intro p hp q hq d
  exact addTo_comm (isOf_of_mem_parts (hps.subset hp)) (isOf_of_mem_parts (hps.subset hq)) d

/-! ## Reading elements -/

/-- A name that is a word in lower case is one in any case. -/
theorem isWord_of_lowerName {name : List Char} {word : String} (h : lowerName name = word)
    (hne : word ≠ "") (hword : ∀ c ∈ word.toList, c.isLower = true) : IsWord name := by
  subst h
  rw [lowerName, String.toList_ofList, FilePath.asciiLower] at hword
  constructor
  · rintro rfl
    exact hne rfl
  · intro c hc
    -- A character that becomes a letter in lower case is a letter.
    have hlower := hword c.toLower (List.mem_map_of_mem hc)
    unfold Char.toLower at hlower
    show (c.isUpper || c.isLower) = true
    rw [Bool.or_eq_true]
    split at hlower
    · rename_i hupper
      exact .inl (isUpper_iff.2 hupper)
    · exact .inr hlower

/-- Reading a text turns one state into another. -/
def Turns (s : List Char) (st st' : State) : Prop :=
  ∃ es, Reads s es ∧ es.foldl State.step st = st'

/-- Texts after each other turn in turn. -/
theorem Turns.append {s t : List Char} {st st' st'' : State} (hs : Turns s st st')
    (ht : Turns t st' st'') : Turns (s ++ t) st st'' := by
  obtain ⟨es, hes, rfl⟩ := hs
  obtain ⟨fs, hfs, rfl⟩ := ht
  exact ⟨es ++ fs, hes.append hfs, List.foldl_append⟩

/-- A gap turns nothing. -/
theorem turns_gap {gap : List Char} (hgap : IsGap gap) (st : State) : Turns gap st st :=
  ⟨[], reads_gap hgap, rfl⟩

section

variable {name s : List Char} {attributes : List (List Char × List Char)} {word : String}
  (hname : IsWord name) (hlower : lowerName name = word)
  (hnodup : (attributes.map (·.1)).Nodup) (st : State)

include hname hlower hnodup

/-- An element is opened and closed around what its content does. -/
theorem turns_of_wraps {content : List Char} {es : List Event}
    (hs : Wraps name attributes content s) (hcontent : ReadsBeforeTag content es) :
    ∃ as, List.Forall₂ Attribute.Says as attributes ∧
      Turns s st ((es.foldl State.step (st.opened word as)).closed word) := by
  obtain ⟨as, has, hreads⟩ := hs.reads hname hnodup hcontent
  refine ⟨as, has, _, hreads, ?_⟩
  simp [State.step, hlower]

/-- An element without content is opened and closed, whether it is one tag or two. -/
theorem turns_of_emptyElement (hs : EmptyElement name attributes s) :
    ∃ as, List.Forall₂ Attribute.Says as attributes ∧
      Turns s st ((st.opened word as).closed word) := by
  obtain ⟨as, has, hreads | hreads⟩ := hs.reads hname hnodup
  · refine ⟨as, has, _, hreads, ?_⟩
    simp [State.step, hlower]
  · refine ⟨as, has, _, hreads, ?_⟩
    simp [State.step, hlower]

end

/-! ## Reading parts -/

/-- Between the parts of an entry, after some entries. -/
def inEntry (e : Entry) (found : List Entry) : State :=
  ⟨.entry, none, none, e, found⟩

/-- Between entries. -/
def inList (found : List Entry) : State :=
  ⟨.list, none, none, Entry.ofLocation "", found⟩

theorem trim_toList {s : String} (h : IsVisible s) : Text.trim s.toList = s.toList := by
  have hdrop {t : List Char} (ht : ∀ c, t.head? = some c → isBlank c = false) :
      t.dropWhile isBlank = t :=
    dropWhile_append_of_stop (s := []) (by simp) ht
  obtain ⟨-, hhead, hlast⟩ := h
  have hreverse : ∀ c, s.toList.reverse.head? = some c → isBlank c = false := by
    simpa using hlast
  rw [Text.trim, trimFront, hdrop hhead, trimBack, hdrop hreverse, List.reverse_reverse]

theorem isTrimmed_toList {s : String} (h : IsVisible s) : IsTrimmed s.toList := by
  -- White space of documents is blank, so what is visible at its ends is trimmed.
  have hspace {c : Char} (hc : isBlank c = false) : isSpace c = false := by
    have hspaces : ∀ c ∈ [' ', '\t', '\n', '\r'], isBlank c = true := by
      decide
    cases hspace : isSpace c with
    | false => rfl
    | true =>
      rw [hspaces c (isSpace_iff.1 hspace)] at hc
      cases hc
  obtain ⟨hne, hhead, hlast⟩ := h
  exact ⟨by simpa using hne, fun c hc => hspace (hhead c hc), fun c hc => hspace (hlast c hc)⟩

/-- The value of an attribute is that of the first one with its name. -/
theorem value?_of_said {as : List Attribute} {attributes : List (List Char × List Char)}
    (h : List.Forall₂ Attribute.Says as attributes) (name : String) :
    value? name as =
      (attributes.find? fun p => FilePath.asciiLower p.1 == name.toList).map (·.2) := by
  unfold value? attribute?
  -- What an attribute says is compared by its name in lower case on either side.
  induction h with
  | nil => rfl
  | cons hp _ ih =>
    obtain ⟨hname, htext⟩ := hp
    rw [List.find?_cons, List.find?_cons, hname]
    split
    · exact congrArg some htext
    · exact ih

theorem turns_reference {name s : List Char} {location : String} (hname : lowerName name = "ref")
    (hs : EmptyElement name [("href".toList, location.toList)] s) (hlocation : IsVisible location)
    (e : Entry) (found : List Entry) :
    Turns s (inEntry e found) (inEntry ((Part.reference location).addTo e) found) := by
  have hword : IsWord name := isWord_of_lowerName hname (by decide) (by decide)
  obtain ⟨as, has, hturns⟩ :=
    turns_of_emptyElement hword hname (by simp) (inEntry e found) hs
  have hvalue : value? "href" as = some location.toList := by
    rw [value?_of_said has]
    rfl
  have hopened : (inEntry e found).opened "ref" as =
      inEntry ((Part.reference location).addTo e) found := by
    -- The first reference counts, for the reader as for the part.
    by_cases he : e.location = ""
    · simp [State.opened, inEntry, hvalue, trim_toList hlocation, State.resolve, Part.addTo, he]
    · simp [State.opened, inEntry, hvalue, Part.addTo, he]
  rw [hopened] at hturns
  exact hturns

/-- A parameter is set in the entry. -/
theorem turns_parameter {key value : String} {s : List Char} (hs : WritesParameter key value s)
    (e : Entry) (found : List Entry) :
    Turns s (inEntry e found) (inEntry (setParameter key.toList value.toList e) found) := by
  obtain ⟨hname, hs⟩ := hs
  have hword : IsWord _ := isWord_of_lowerName hname (by decide) (by decide)
  have hnodup : ([("name".toList, key.toList), ("value".toList, value.toList)].map (·.1)).Nodup :=
    show ["name".toList, "value".toList].Nodup by decide
  obtain ⟨as, has, hturns⟩ :=
    turns_of_emptyElement hword hname hnodup (inEntry e found) hs
  -- The attributes may stand in either order, so they are looked up by their names.
  have hkey : value? "name" as = some key.toList := by
    rw [value?_of_said has]
    rfl
  have hvalue : value? "value" as = some value.toList := by
    rw [value?_of_said has]
    rfl
  have hopened : (inEntry e found).opened "param" as =
      inEntry (setParameter key.toList value.toList e) found := by
    simp [State.opened, inEntry, hkey, hvalue]
  rw [hopened] at hturns
  exact hturns

/-- A text between two tags is told by the element around it. -/
theorem turns_text {name s : List Char} {word text : String} (hname : lowerName name = word)
    (hword : IsWord name) (hs : WritesText name text s) (htext : IsVisible text) {e e' : Entry}
    {found : List Entry}
    (htold : ∀ as w, textMeaning w = text.toList →
      (((inEntry e found).opened word as).withText w).closed word = inEntry e' found) :
    Turns s (inEntry e found) (inEntry e' found) := by
  obtain ⟨hfront, hw, hback, hs⟩ := hs
  have hcontent := readsBeforeTag_text hfront (hw.isTrimmed (isTrimmed_toList htext))
    (hw.not_mem (d := '<') (by decide)) hback
  obtain ⟨as, -, hturns⟩ := turns_of_wraps hword hname (by simp) (inEntry e found) hs hcontent
  rw [List.foldl_cons, List.foldl_nil, State.step, htold] at hturns
  · exact hturns
  · rw [textMeaning, hw.unescape?, Option.getD_some]

/-- Whether what a part tells can be written. -/
def Part.IsWritable : Part → Prop
  | .reference l => IsVisible l
  | .title t => IsVisible t
  | .description d => IsVisible d
  | .mimetype _ => True
  | .protocol _ => True
  | .size n => n ≤ max64
  | .extra k _ => ¬ IsFieldKey k

theorem Writable.part {e : Entry} (h : Writable e) {p : Part} (hp : p.IsOf e) : p.IsWritable := by
  cases p with
  | reference l =>
    cases hp
    exact h.location
  | title t => exact h.title t hp
  | description d => exact h.description d hp
  | mimetype m => trivial
  | protocol p => trivial
  | size n => exact h.size n hp
  | extra k v => exact h.extra k (List.mem_map_of_mem hp)

/-- The word that a key is in lower case tells which field a parameter sets. -/
theorem setParameter_eq {key word : String} (hkey : lowerName key.toList = word) (value : String)
    (e : Entry) :
    setParameter key.toList value.toList e =
      if word = "mimetype" then (Part.mimetype value).addTo e
      else if word = "protocol" then (Part.protocol value).addTo e
      else if word = "size" then { e with size := unsigned? max64 value.toList }
      else (Part.extra key value).addTo e := by
  subst hkey
  simp only [setParameter, lowerName, Part.addTo, String.ofList_toList]
  rfl

/-- **What a part tells is added to the entry.** -/
theorem Part.turns {p : Part} {s : List Char} (hs : p.Writes s) (hp : p.IsWritable) (e : Entry)
    (found : List Entry) : Turns s (inEntry e found) (inEntry (p.addTo e) found) := by
  -- Parameters with a key of their own fill a field, and all others are kept under their key.
  cases hs with
  | reference hname hs => exact turns_reference hname hs hp e found
  | title hname hs =>
    apply turns_text hname (isWord_of_lowerName hname (by decide) (by decide)) hs hp
    intro as w hw
    simp [State.opened, State.withText, State.closed, inEntry, hw, Part.addTo]
  | description hname hs =>
    apply turns_text hname (isWord_of_lowerName hname (by decide) (by decide)) hs hp
    intro as w hw
    simp [State.opened, State.withText, State.closed, inEntry, hw, Part.addTo]
  | mimetype hs =>
    have hkey : lowerName "mimetype".toList = "mimetype" := by
      decide
    have hturns := turns_parameter hs e found
    rw [setParameter_eq hkey] at hturns
    exact hturns
  | protocol hs =>
    have hkey : lowerName "protocol".toList = "protocol" := by
      decide
    have hturns := turns_parameter hs e found
    rw [setParameter_eq hkey] at hturns
    exact hturns
  | @size _ size hs =>
    have hkey : lowerName "size".toList = "size" := by
      decide
    have hturns := turns_parameter hs e found
    rw [setParameter_eq hkey, String.toList_ofList, unsigned?_digits hp] at hturns
    exact hturns
  | @extra _ key value hs =>
    have hkey : lowerName key.toList ∉ ["mimetype", "protocol", "size"] := hp
    simp only [List.mem_cons, List.not_mem_nil, or_false, not_or] at hkey
    have hturns := turns_parameter hs e found
    rw [setParameter_eq rfl, if_neg hkey.1, if_neg hkey.2.1, if_neg hkey.2.2] at hturns
    exact hturns

/-- Parts that are read in turn are added in turn. -/
theorem turns_parts {ps : List Part} {s : List Char} (hs : InTurn Part.Writes ps s)
    (hps : ∀ p ∈ ps, p.IsWritable) (e : Entry) (found : List Entry) :
    Turns s (inEntry e found) (inEntry (addAll ps e) found) := by
  induction hs generalizing e with
  | nil hgap => exact turns_gap hgap _
  | cons hgap hs _ ih =>
    obtain ⟨hp, hps⟩ := List.forall_mem_cons.1 hps
    exact (turns_gap hgap _).append ((Part.turns hs hp e found).append (ih hps _))

/-! ## Reading entries -/

/-- **An entry is read back.** -/
theorem turns_entry {e : Entry} {s : List Char} (hs : WritesEntry e s) (he : Writable e)
    (found : List Entry) : Turns s (inList found) (inList (e :: found)) := by
  obtain ⟨hname, hps, hcontent, hs⟩ := hs
  have hword : IsWord _ := isWord_of_lowerName hname (by decide) (by decide)
  have hwritable : ∀ p ∈ _, Part.IsWritable p :=
    fun p hp => he.part (isOf_of_mem_parts (hps.subset hp))
  obtain ⟨es, hreads, hes⟩ := turns_parts hcontent hwritable (Entry.ofLocation "") found
  obtain ⟨as, -, hturns⟩ :=
    turns_of_wraps hword hname (by simp) (inList found) hs hreads.readsBeforeTag
  -- The parts come in some order, and make up the entry in any.
  rw [addAll_perm he.order hps] at hes
  have hopened : (inList found).opened "entry" as = inEntry (Entry.ofLocation "") found := by
    simp [State.opened, inList, inEntry]
  have hclosed : (inEntry e found).closed "entry" = inList (e :: found) := by
    simp [State.closed, inList, inEntry, he.location.1]
  rw [hopened, hes, hclosed] at hturns
  exact hturns

/-- Entries that are read in turn are found, the last one first. -/
theorem turns_entries {es : List Entry} {s : List Char} (hs : InTurn WritesEntry es s)
    (hes : ∀ e ∈ es, Writable e) (found : List Entry) :
    Turns s (inList found) (inList (es.reverse ++ found)) := by
  induction hs generalizing found with
  | nil hgap => exact turns_gap hgap _
  | cons hgap hs _ ih =>
    obtain ⟨he, hes⟩ := List.forall_mem_cons.1 hes
    rw [List.reverse_cons, List.append_assoc]
    exact (turns_gap hgap _).append ((turns_entry hs he found).append (ih hes _))

/-! ## Reading documents -/

/-- A document is read as the entries that it writes. -/
theorem turns_document {es : List Entry} {s : List Char} (hs : WritesDocument es s)
    (hes : ∀ e ∈ es, Writable e) : ∃ st, Turns s State.start st ∧ st.found = es.reverse := by
  cases hs with
  | list hname hnodup hcontent hs hfront hback =>
    have hword : IsWord _ := isWord_of_lowerName hname (by decide) (by decide)
    obtain ⟨events, hreads, hevents⟩ := turns_entries hcontent hes []
    obtain ⟨as, -, hturns⟩ :=
      turns_of_wraps hword hname hnodup State.start hs hreads.readsBeforeTag
    have hopened : State.start.opened "asx" as = inList [] := by
      simp [State.opened, State.start, inList]
    rw [hopened, hevents, List.append_nil] at hturns
    refine ⟨_, (turns_gap hfront _).append (hturns.append (turns_gap hback _)), ?_⟩
    simp [State.closed, inList]
  | empty hname hnodup hs hfront hback =>
    have hword : IsWord _ := isWord_of_lowerName hname (by decide) (by decide)
    -- A list without entries may be written as one tag.
    obtain ⟨as, -, hturns⟩ := turns_of_emptyElement hword hname hnodup State.start hs
    refine ⟨_, (turns_gap hfront _).append (hturns.append (turns_gap hback _)), ?_⟩
    simp [State.opened, State.closed, State.start]

/-- A document begins with white space or a tag. -/
theorem exists_head_of_writesDocument {es : List Entry} {s : List Char}
    (hs : WritesDocument es s) : ∃ c, s.head? = some c ∧ c.toNat ≠ 0xFEFF := by
  -- In either case there is white space before an element.
  have hhead {front rest : List Char} (hfront : IsGap front) :
      ∃ c, (front ++ '<' :: rest).head? = some c ∧ c.toNat ≠ 0xFEFF := by
    cases front with
    | nil => exact ⟨'<', rfl, by decide⟩
    | cons c front =>
      have hspaces : ∀ c ∈ [' ', '\t', '\n', '\r'], c.toNat ≠ 0xFEFF := by
        decide
      exact ⟨c, rfl, hspaces c (isSpace_iff.1 (hfront c (List.mem_cons_self ..)))⟩
  cases hs with
  | list _ _ _ hs hfront _ =>
    cases hs
    exact hhead hfront
  | empty _ _ hs hfront _ =>
    cases hs with
    | single => exact hhead hfront
    | pair _ hs =>
      cases hs
      exact hhead hfront

/-! ## Writing -/

theorem exists_writesParameter (key value : String) : ∃ s, WritesParameter key value s := by
  have hname : lowerName "param".toList = "param" := by
    decide
  have hwords : ∀ p ∈ [("name".toList, key.toList), ("value".toList, value.toList)], IsWord p.1 := by
    have hname : IsWord "name".toList := ⟨by decide, by decide⟩
    have hvalue : IsWord "value".toList := ⟨by decide, by decide⟩
    exact List.forall_mem_cons.2 ⟨hname, List.forall_mem_singleton.2 hvalue⟩
  obtain ⟨tag, htag⟩ := exists_writesAttributes hwords
  exact ⟨_, .intro hname (.single htag)⟩

theorem exists_writesText (name : List Char) (text : String) : ∃ s, WritesText name text s := by
  obtain ⟨w, hw⟩ := exists_escapes text.toList
  exact ⟨_, .intro isGap_nil hw isGap_nil (.intro (.nil isGap_nil) isGap_nil)⟩

/-- Every part can be written. -/
theorem Part.exists_writes (p : Part) : ∃ s, p.Writes s := by
  -- Every part has an element of its own, and whatever it says can be escaped.
  cases p with
  | reference location =>
    have hname : lowerName "ref".toList = "ref" := by
      decide
    have hwords : ∀ p ∈ [("href".toList, location.toList)], IsWord p.1 := by
      have hhref : IsWord "href".toList := ⟨by decide, by decide⟩
      exact List.forall_mem_singleton.2 hhref
    obtain ⟨tag, htag⟩ := exists_writesAttributes hwords
    exact ⟨_, .reference hname (.single htag)⟩
  | title title =>
    have hname : lowerName "title".toList = "title" := by
      decide
    obtain ⟨s, hs⟩ := exists_writesText "title".toList title
    exact ⟨s, .title hname hs⟩
  | description description =>
    have hname : lowerName "abstract".toList = "abstract" := by
      decide
    obtain ⟨s, hs⟩ := exists_writesText "abstract".toList description
    exact ⟨s, .description hname hs⟩
  | mimetype mimetype =>
    obtain ⟨s, hs⟩ := exists_writesParameter "mimetype" mimetype
    exact ⟨s, .mimetype hs⟩
  | protocol protocol =>
    obtain ⟨s, hs⟩ := exists_writesParameter "protocol" protocol
    exact ⟨s, .protocol hs⟩
  | size size =>
    obtain ⟨s, hs⟩ := exists_writesParameter "size" (String.ofList (digits size))
    exact ⟨s, .size hs⟩
  | extra key value =>
    obtain ⟨s, hs⟩ := exists_writesParameter key value
    exact ⟨s, .extra hs⟩

/-- What can be written one by one can be written in turn. -/
theorem exists_inTurn {α : Type} {Writes : α → List Char → Prop} (h : ∀ x, ∃ s, Writes x s)
    (xs : List α) : ∃ s, InTurn Writes xs s := by
  induction xs with
  | nil => exact ⟨[], .nil isGap_nil⟩
  | cons x xs ih =>
    obtain ⟨s, hs⟩ := h x
    obtain ⟨rest, hrest⟩ := ih
    exact ⟨_, .cons isGap_nil hs hrest⟩

/-- Every entry can be written. -/
theorem exists_writesEntry (e : Entry) : ∃ s, WritesEntry e s := by
  have hname : lowerName "entry".toList = "entry" := by
    decide
  obtain ⟨content, hcontent⟩ := exists_inTurn Part.exists_writes (parts e)
  exact ⟨_, .intro hname (.refl _) hcontent (.intro (.nil isGap_nil) isGap_nil)⟩

/-- Every playlist can be written. -/
theorem exists_writesDocument (es : List Entry) : ∃ s, WritesDocument es s := by
  have hname : lowerName "asx".toList = "asx" := by
    decide
  obtain ⟨content, hcontent⟩ := exists_inTurn exists_writesEntry es
  have hnodup : (([] : List (List Char × List Char)).map (·.1)).Nodup := .nil
  have htag : WritesAttributes [] [] := .nil isGap_nil
  exact ⟨_, .list hname hnodup hcontent (.intro htag isGap_nil) isGap_nil isGap_nil⟩

/--
**Decoding undoes encoding.**  Entries whose texts can be written have a document, and each document
that is written for them is read back as exactly these entries: whatever the case of the names of its
elements, the order of the elements of an entry, and the tags of elements without content.
-/
theorem entries?_of_writesDocument {es : List Entry} (hes : ∀ e ∈ es, Writable e) :
    (∃ text : String, WritesDocument es text.toList) ∧
      ∀ text : String, WritesDocument es text.toList → entries? text = some es := by
  constructor
  · obtain ⟨s, hs⟩ := exists_writesDocument es
    refine ⟨String.ofList s, ?_⟩
    rwa [String.toList_ofList]
  · intro text htext
    obtain ⟨st, ⟨events, hreads, rfl⟩, hfound⟩ := turns_document htext hes
    -- A document does not begin with a byte order mark, so none is taken off.
    obtain ⟨c, hc, hmark⟩ := exists_head_of_writesDocument htext
    have hdocument := ofText_eq hreads hc hmark
    rw [String.ofList_toList] at hdocument
    simp only [entries?, hdocument, if_true, hfound, List.reverse_reverse]

/-- An entry with special characters, one with a size, and a document for both. -/
theorem entries?_of_writesDocument_two :
    ∃ text : String, entries? text = some
      [{ Entry.ofLocation "http://a/?b=1&c=2" with
          title := some "Rock & <Roll>"
          extra := Keyed.empty.insert "Bitrate" "\"64\"" },
        { Entry.ofLocation "/music/a.mp3" with
          mimetype := some ""
          size := some 7 }] := by
  have hwritable : ∀ e ∈
      [{ Entry.ofLocation "http://a/?b=1&c=2" with
          title := some "Rock & <Roll>"
          extra := Keyed.empty.insert "Bitrate" "\"64\"" },
        { Entry.ofLocation "/music/a.mp3" with
          mimetype := some ""
          size := some 7 }], Writable e := by
    decide
  obtain ⟨⟨text, htext⟩, hread⟩ := entries?_of_writesDocument hwritable
  exact ⟨text, hread text htext⟩

end MediaShelves.Playlist.Asx
