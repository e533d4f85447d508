import Mathlib.Data.List.Basic
import MediaShelves.Xml.Event

/-!
# Contents

What stands in a document as elements within elements, where a reader sees a series of tags and
texts (`Content.events`).

Main statements: a sound document that leaves no element open has exactly one content
(`existsUnique_content_iff`); the events around a place in a document (`Context.events_fill`).
-/

namespace MediaShelves.Xml

/-! ## Elements within elements -/

/-- What stands in an element or a document: texts and elements, one after another. -/
inductive Content where
  | nil
  | text (written : List Char) (rest : Content)
  /-- An element that is a single tag. -/
  | empty (name : List Char) (attributes : List Attribute) (rest : Content)
  /-- An element between its two tags. -/
  | element (name : List Char) (attributes : List Attribute) (content rest : Content)
deriving DecidableEq, Repr

namespace Content

/-- The tags and texts in their order. -/
def events : Content → List Event
  | nil => []
  | text written rest => .text written :: rest.events
  | empty name attributes rest => .empty name attributes :: rest.events
  | element name attributes content rest =>
    .opened name attributes :: (content.events ++ .closed name :: rest.events)

@[simp] theorem events_nil : nil.events = [] := rfl

@[simp] theorem events_text (written : List Char) (rest : Content) :
    (text written rest).events = .text written :: rest.events := rfl

@[simp] theorem events_empty (name : List Char) (attributes : List Attribute) (rest : Content) :
    (empty name attributes rest).events = .empty name attributes :: rest.events := rfl

@[simp] theorem events_element (name : List Char) (attributes : List Attribute)
    (content rest : Content) :
    (element name attributes content rest).events =
      .opened name attributes :: (content.events ++ .closed name :: rest.events) := rfl

/-- Nothing more comes, or an end tag. -/
def Ended (es : List Event) : Prop :=
  es = [] ∨ ∃ name rest, es = .closed name :: rest

theorem eq_nil_of_ended {c : Content} {es es' : List Event} (hes : Ended es)
    (h : c.events ++ es' = es) : c = nil := by
  subst h
  cases c with
  | nil => rfl
  | text | empty | element =>
    obtain hnil | ⟨name, rest, hclosed⟩ := hes
    · cases hnil
    · cases hclosed

/-- Events can be read as a content in one way only, up to where it ends. -/
theorem events_append_inj {c c' : Content} {es es' : List Event} (hes : Ended es)
    (hes' : Ended es') (h : c.events ++ es = c'.events ++ es') : c = c' ∧ es = es' := by
  induction c generalizing c' es es' with
  | nil =>
    obtain rfl : c' = nil := eq_nil_of_ended hes h.symm
    exact ⟨rfl, h⟩
  | text written rest ih =>
    cases c' with
    | nil => cases eq_nil_of_ended hes' h
    | text written' rest' =>
      injection h with hfirst hrest
      cases hfirst
      obtain ⟨rfl, rfl⟩ := ih hes hes' hrest
      exact ⟨rfl, rfl⟩
    | empty | element => cases h
  | empty name attributes rest ih =>
    cases c' with
    | nil => cases eq_nil_of_ended hes' h
    | empty name' attributes' rest' =>
      injection h with hfirst hrest
      cases hfirst
      obtain ⟨rfl, rfl⟩ := ih hes hes' hrest
      exact ⟨rfl, rfl⟩
    | text | element => cases h
  | element name attributes content rest ihcontent ih =>
    cases c' with
    | nil => cases eq_nil_of_ended hes' h
    | element name' attributes' content' rest' =>
      simp only [events_element, List.cons_append, List.append_assoc] at h
      injection h with hfirst hrest
      cases hfirst
      -- The content ends at the first end tag that is not its own.
      obtain ⟨rfl, hend⟩ := ihcontent (.inr ⟨_, _, rfl⟩) (.inr ⟨_, _, rfl⟩) hrest
      obtain ⟨rfl, rfl⟩ := ih hes hes' (List.cons_inj_right _ |>.1 hend)
      exact ⟨rfl, rfl⟩
    | text | empty => cases h

theorem events_injective : Function.Injective events := by
  intro c c' h
  have happend : c.events ++ [] = c'.events ++ [] := by
    rw [h]
  exact (events_append_inj (.inl rfl) (.inl rfl) happend).1

end Content

/-! ## Documents -/

/-- A text is a well-formed document with some content. -/
def IsDocument (text : String) (c : Content) : Prop :=
  Document.ofText text = ⟨c.events, true⟩

instance (text : String) (c : Content) : Decidable (IsDocument text c) :=
  inferInstanceAs (Decidable (_ = _))

/-- The names of the elements that are open after some events, the innermost first. -/
def openAfter (stack : List (List Char)) : List Event → List (List Char)
  | [] => stack
  | .opened name _ :: es => openAfter (name :: stack) es
  | .closed _ :: es => openAfter stack.tail es
  | .empty _ _ :: es => openAfter stack es
  | .text _ :: es => openAfter stack es

/-- A content leaves those elements open that were open before. -/
theorem openAfter_events (stack : List (List Char)) (c : Content) (es : List Event) :
    openAfter stack (c.events ++ es) = openAfter stack es := by
  induction c generalizing stack es with
  | nil => rfl
  | text written rest ih => exact ih stack es
  | empty name attributes rest ih => exact ih stack es
  | element name attributes content rest ihcontent ih =>
    rw [Content.events_element, List.cons_append, List.append_assoc, openAfter, ihcontent]
    exact ih stack es

/-- Contents one after another, each but the last one with the end tag of its element. -/
inductive Completes : List (List Char) → List Event → Prop where
  | last (c : Content) : Completes [] c.events
  | next {name : List Char} {stack : List (List Char)} {es : List Event} (c : Content)
      (h : Completes stack es) : Completes (name :: stack) (c.events ++ .closed name :: es)

/-- What may begin one content may begin the first of several. -/
theorem Completes.prepend {stack : List (List Char)} {es : List Event} (h : Completes stack es)
    (extend : Content → Content) (before : List Event)
    (hextend : ∀ c, (extend c).events = before ++ c.events) : Completes stack (before ++ es) := by
  cases h with
  | last c =>
    rw [← hextend]
    exact .last (extend c)
  | next c h =>
    rw [← List.append_assoc, ← hextend]
    exact .next (extend c) h

theorem Completes.element {name : List Char} {stack : List (List Char)} {es : List Event}
    (h : Completes (name :: stack) es) (attributes : List Attribute) :
    Completes stack (.opened name attributes :: es) := by
  cases h with
  | next c h =>
    have hprepend := h.prepend (.element name attributes c)
      (.opened name attributes :: (c.events ++ [.closed name])) (by simp)
    simpa using hprepend

theorem Completes.exists_content {es : List Event} (h : Completes [] es) :
    ∃ c : Content, es = c.events := by
  cases h with
  | last c => exact ⟨c, rfl⟩

/-- What is read completes the elements that are open, if it leaves none of them open. -/
theorem completes_readEvents {stack : List (List Char)} {s : List Char}
    (h : openAfter stack (readEvents stack s).events = []) :
    Completes stack (readEvents stack s).events := by
  have hnothing {stack : List (List Char)} (h : openAfter stack [] = []) :
      Completes stack [] := by
    obtain rfl : stack = [] := h
    exact .last .nil
  -- Where reading stops nothing may be open; all other cases put one event before the rest.
  fun_induction readEvents stack s with
  | case1 => exact hnothing h
  | case2 stack c rest hspace ih => exact ih h
  | case3 stack c rest hspace htext ih =>
    exact (ih h).prepend (.text _) [_] fun _ => rfl
  | case5 stack c rest hspace hmark d hd hskipped n hn ih => exact ih h
  | case4 | case6 | case7 | case8 | case10 => exact hnothing h
  | case9 c rest hspace hmark n hn content name stack hd hskipped ih => exact .next .nil (ih h)
  | case11 stack c rest hspace hmark d hd hskipped n hn content hslash inner hinner name attributes
      htag ih =>
    exact (ih h).prepend (.empty name attributes) [_] fun _ => rfl
  | case12 stack c rest hspace hmark d hd hskipped n hn content hslash hopen name attributes htag
      ih =>
    exact (ih h).element attributes

/-- A document is read from its beginning, or from behind its byte order mark. -/
theorem exists_readEvents_eq (text : String) : ∃ s, Document.ofText text = readEvents [] s := by
  unfold Document.ofText
  split
  · split
    · exact ⟨_, rfl⟩
    · exact ⟨_, rfl⟩
  · exact ⟨[], by rw [readEvents]⟩

/-- **A sound document that leaves no element open has exactly one content.** -/
theorem existsUnique_content_iff {text : String} :
    (∃! c, IsDocument text c) ↔
      (Document.ofText text).sound = true ∧ openAfter [] (Document.ofText text).events = [] := by
  constructor
  · rintro ⟨c, hc, -⟩
    rw [hc]
    refine ⟨rfl, ?_⟩
    have hopen := openAfter_events [] c []
    rwa [List.append_nil] at hopen
  · rintro ⟨hsound, hopen⟩
    -- Tags that are all closed make a content, and no other content has the same events.
    obtain ⟨s, hs⟩ := exists_readEvents_eq text
    rw [hs] at hopen
    obtain ⟨c, hc⟩ := (completes_readEvents hopen).exists_content
    rw [← hs] at hc
    have hdocument : IsDocument text c := by
      rw [IsDocument, ← hc, ← hsound]
    refine ⟨c, hdocument, ?_⟩
    intro c' hc'
    apply Content.events_injective
    exact congrArg Document.events (hc'.symm.trans hdocument)

/-! ## Places in documents -/

/-- A document with a place for a content. -/
inductive Context where
  | hole
  | text (written : List Char) (rest : Context)
  | empty (name : List Char) (attributes : List Attribute) (rest : Context)
  /-- The place comes after an element. -/
  | after (name : List Char) (attributes : List Attribute) (content : Content) (rest : Context)
  /-- The place is in an element. -/
  | inside (name : List Char) (attributes : List Attribute) (content : Context) (rest : Content)

namespace Context

/-- The document with a content in its place. -/
def fill (c : Content) : Context → Content
  | hole => c
  | text written rest => .text written (rest.fill c)
  | empty name attributes rest => .empty name attributes (rest.fill c)
  | after name attributes content rest => .element name attributes content (rest.fill c)
  | inside name attributes content rest => .element name attributes (content.fill c) rest

/-- What comes before the place. -/
def before : Context → List Event
  | hole => []
  | text written rest => .text written :: rest.before
  | empty name attributes rest => .empty name attributes :: rest.before
  | after name attributes content rest =>
    .opened name attributes :: (content.events ++ .closed name :: rest.before)
  | inside name attributes content _ => .opened name attributes :: content.before

/-- What comes after the place. -/
def behind : Context → List Event
  | hole => []
  | text _ rest => rest.behind
  | empty _ _ rest => rest.behind
  | after _ _ _ rest => rest.behind
  | inside name _ content rest => content.behind ++ .closed name :: rest.events

/-- **What comes before a place and after it does not depend on what is in it.** -/
theorem events_fill (k : Context) (c : Content) :
    (k.fill c).events = k.before ++ (c.events ++ k.behind) := by
  induction k with
  | hole => simp [fill, before, behind]
  | text written rest ih => simp [fill, before, behind, ih]
  | empty name attributes rest ih => simp [fill, before, behind, ih]
  | after name attributes content rest ih => simp [fill, before, behind, ih]
  | inside name attributes content rest ih => simp [fill, before, behind, ih]

end Context

end MediaShelves.Xml
