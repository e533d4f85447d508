import MediaShelves.Proofs.Playlist.Separation
import MediaShelves.Proofs.Sidecar.Fields

/-!
# Elements without content

An element without content is written as one tag or as two.  For a playlist this is the same.  A
sidecar is not read that way: it passes over single tags, so that a root that is one is no root, and
a field goes on after one where it would end after two.

Main statement: which documents mean the same either way (`empty_elements_interchange`).
-/

namespace MediaShelves

open Xml

/-! ## One tag or two -/

/-- The content with two tags for each element. -/
def Xml.Content.spread : Content → Content
  | .nil => .nil
  | .text written rest => .text written rest.spread
  | .empty name attributes rest => .element name attributes .nil rest.spread
  | .element name attributes content rest => .element name attributes content.spread rest.spread

/-- A playlist does not tell one tag from two. -/
theorem Playlist.Asx.foldl_step_spread (c : Content) (st : State) :
    c.spread.events.foldl State.step st = c.events.foldl State.step st := by
  induction c generalizing st with
  | nil => rfl
  | text written rest ih => exact ih _
  | empty name attributes rest ih => exact ih _
  | element name attributes content rest ihcontent ih =>
    simp only [Content.spread, Content.events_element, List.foldl_cons, List.foldl_append,
      ihcontent, ih]

/-! ## Fields of sidecars -/

namespace Sidecar

/-- All elements right below pass a test of their names and contents. -/
def AllElements (p : String → Content → Prop) : Content → Prop
  | .nil => True
  | .text _ rest => AllElements p rest
  | .empty _ _ rest => AllElements p rest
  | .element name _ content rest => p (lowerName name) content ∧ AllElements p rest

/-- No text tells anything, up to the first element with a content. -/
def Silent : Content → Prop
  | .nil => True
  | .text written rest => spoken written = [] ∧ Silent rest
  | .empty _ _ rest => Silent rest
  | .element _ _ content rest => content = .nil → Silent rest

/-- Texts come before elements, up to the first element with a content. -/
def TextsFirst : Content → Prop
  | .nil => True
  | .text _ rest => TextsFirst rest
  | .empty _ _ rest => Silent rest
  | .element _ _ content rest => content = .nil → Silent rest

/-- The texts of names come before all elements. -/
def NamesFirst (c : Content) : Prop :=
  AllElements (fun word content => word = "name" → TextsFirst content) c

/-- The texts of a field, or those of the names of an actor, come before all elements. -/
def FieldFirst (word : String) (content : Content) : Prop :=
  if word = "actor" then NamesFirst content
  else (sidecarFields.lookup word).isSome → TextsFirst content

/-- The texts of all fields and names come before all elements. -/
def Settled (c : Content) : Prop :=
  AllElements FieldFirst c

theorem spread_eq_nil_iff {c : Content} : c.spread = .nil ↔ c = .nil := by
  cases c <;> simp [Content.spread]

theorem silent_spread (c : Content) : Silent c.spread ↔ Silent c := by
  induction c with
  | nil => rfl
  | text written rest ih => exact and_congr_right fun _ => ih
  | empty name attributes rest ih => exact (forall_prop_of_true rfl).trans ih
  | element name attributes content rest ihcontent ih => exact imp_congr spread_eq_nil_iff ih

theorem textsFirst_spread (c : Content) : TextsFirst c.spread ↔ TextsFirst c := by
  induction c with
  | nil => rfl
  | text written rest ih => exact ih
  | empty name attributes rest ih => exact (forall_prop_of_true rfl).trans (silent_spread rest)
  | element name attributes content rest ihcontent ih =>
    exact imp_congr spread_eq_nil_iff (silent_spread rest)

/-- A test that does not tell one tag from two, and that elements without content pass. -/
theorem allElements_spread {p : String → Content → Prop} (hnil : ∀ word, p word .nil)
    (hspread : ∀ word c, p word c.spread ↔ p word c) (c : Content) :
    AllElements p c.spread ↔ AllElements p c := by
  induction c with
  | nil => rfl
  | text written rest ih => exact ih
  | empty name attributes rest ih => exact (and_iff_right (hnil _)).trans ih
  | element name attributes content rest ihcontent ih => exact and_congr (hspread _ content) ih

theorem namesFirst_spread (c : Content) : NamesFirst c.spread ↔ NamesFirst c := by
  apply allElements_spread
  · intro word _
    trivial
  · intro word content
    rw [textsFirst_spread]

theorem settled_spread (c : Content) : Settled c.spread ↔ Settled c := by
  apply allElements_spread
  · intro word
    unfold FieldFirst
    split
    · trivial
    · exact fun _ => trivial
  · intro word content
    rw [FieldFirst, FieldFirst, namesFirst_spread, textsFirst_spread]

theorem Silent.heard {c : Content} (h : Silent c) : heard c = [] := by
  induction c with
  | nil => rfl
  | text written rest ih => rw [Sidecar.heard, h.1, ih h.2, List.append_nil]
  | empty name attributes rest ih => exact ih h
  | element name attributes content rest ihcontent ih =>
    -- Nothing is heard after two tags, so it does not matter what comes there.
    rfl

theorem TextsFirst.heard_spread {c : Content} (h : TextsFirst c) : heard c.spread = heard c := by
  induction c with
  | nil => rfl
  | text written rest ih => rw [Content.spread, heard, heard, ih h]
  | empty name attributes rest ih =>
    -- With two tags the element ends the field; with one there is nothing more to hear.
    exact (Silent.heard h).symm
  | element name attributes content rest ihcontent ih => rfl

theorem NamesFirst.named_spread {c : Content} (h : NamesFirst c) : named c.spread = named c := by
  induction c with
  | nil => rfl
  | text written rest ih => exact ih h
  | empty name attributes rest ih => simpa [Content.spread, named, heard] using ih h
  | element name attributes content rest ihcontent ih =>
    rw [Content.spread, named, named, ih h.2]
    -- A name counts by its texts, and these come before the elements in it.
    by_cases hname : lowerName name = "name"
    · rw [if_pos hname, if_pos hname, (h.1 hname).heard_spread]
    · rw [if_neg hname, if_neg hname]

theorem FieldFirst.toldBy_spread {word : String} {content : Content}
    (h : FieldFirst word content) : toldBy word content.spread = toldBy word content := by
  unfold FieldFirst at h
  unfold toldBy
  -- An actor is told by the names inside, any other field by its texts.
  by_cases hword : word = "actor"
  · rw [if_pos hword] at h
    rw [if_pos hword, if_pos hword, h.named_spread]
  · rw [if_neg hword] at h
    rw [if_neg hword, if_neg hword]
    cases hfield : sidecarFields.lookup word with
    | none => rfl
    | some key =>
      have htexts : TextsFirst content := h (by rw [hfield, Option.isSome_some])
      rw [htexts.heard_spread]

/-- Where texts come before elements, one tag tells what two tags tell. -/
theorem Settled.told_spread {c : Content} (h : Settled c) : told c.spread = told c := by
  induction c with
  | nil => rfl
  | text written rest ih => exact ih h
  | empty name attributes rest ih =>
    -- An empty element tells nothing, and neither does a pair of tags without contents.
    have hnothing : toldBy (lowerName name) .nil = [] := by
      simp [toldBy, named, heard]
    rw [Content.spread, told, told, hnothing, List.nil_append, ih h]
  | element name attributes content rest ihcontent ih =>
    obtain ⟨hfirst, hrest⟩ := h
    rw [Content.spread, told, told, hfirst.toldBy_spread, ih hrest]

theorem ofText_of_single {text : String} {name : List Char} {attributes : List Attribute}
    (h : IsDocument text (.empty name attributes .nil)) : ofText text = .error .noRoot := by
  unfold IsDocument at h
  rw [ofText, h]
  rfl

end Sidecar

/-! ## Documents -/

/--
**Where one tag is as good as two.**  Two documents that differ only in the tags of elements without
content are the same playlist.  They are the same sidecar if their roots have two tags, and no text
of a field comes after an element without content in it; a root that is a single tag is no root.
-/
theorem empty_elements_interchange {text text' : String} {c c' : Content} (h : IsDocument text c)
    (h' : IsDocument text' c') (hspread : c'.spread = c.spread) :
    Playlist.Asx.entries? text' = Playlist.Asx.entries? text ∧
      (∀ name attributes content content', c = .element name attributes content .nil →
        c' = .element name attributes content' .nil → Sidecar.Settled content →
        Sidecar.ofText text' = Sidecar.ofText text) ∧
      ∀ name attributes, c = .empty name attributes .nil →
        Sidecar.ofText text = .error .noRoot := by
  refine ⟨?_, ?_, ?_⟩
  · rw [Playlist.Asx.entries?_of_isDocument h, Playlist.Asx.entries?_of_isDocument h',
      ← Playlist.Asx.foldl_step_spread c, ← Playlist.Asx.foldl_step_spread c', hspread]
  · rintro name attributes content content' rfl rfl hsettled
    injection hspread with _ _ hcontent _
    -- Both documents are compared with the one that has two tags everywhere.
    have hsettled' : Sidecar.Settled content' := by
      rwa [← Sidecar.settled_spread, hcontent, Sidecar.settled_spread]
    have htold : Sidecar.told content' = Sidecar.told content := by
      rw [← hsettled'.told_spread, hcontent, hsettled.told_spread]
    exact Sidecar.ofText_eq_of_told h h' htold
  · rintro name attributes rfl
    exact Sidecar.ofText_of_single h

/-- A break after the title of a show may be either. -/
theorem empty_elements_interchange_break :
    Sidecar.ofText "<tvshow><title>A<br></br></title></tvshow>" =
      Sidecar.ofText "<tvshow><title>A<br/></title></tvshow>" := by
  have hdocument : IsDocument "<tvshow><title>A<br/></title></tvshow>"
      (.element "tvshow".toList [] (.element "title".toList [] (.text "A".toList
        (.empty "br".toList [] .nil)) .nil) .nil) := by
    decide +kernel
  have hdocument' : IsDocument "<tvshow><title>A<br></br></title></tvshow>"
      (.element "tvshow".toList [] (.element "title".toList [] (.text "A".toList
        (.element "br".toList [] .nil .nil)) .nil) .nil) := by
    decide +kernel
  obtain ⟨-, hsidecar, -⟩ := empty_elements_interchange hdocument hdocument' rfl
  apply hsidecar _ _ _ _ rfl rfl
  have hname : Sidecar.lowerName "title".toList ≠ "actor" := by
    decide
  -- The break is within a title, where the text before it is heard in both documents.
  refine ⟨?_, trivial⟩
  rw [Sidecar.FieldFirst, if_neg hname]
  exact fun _ => trivial

/-- A root that is a single tag is none, and a break cuts a title off only if it has two tags. -/
theorem empty_elements_differ :
    (∃ c c', IsDocument "<movie/>" c ∧ IsDocument "<movie></movie>" c' ∧ c'.spread = c.spread) ∧
      Sidecar.ofText "<movie/>" = .error .noRoot ∧
      Sidecar.ofText "<movie></movie>" = .ok ⟨.movie, none, Metadata.empty⟩ ∧
      (∃ c c', IsDocument "<movie><title>A<br/>B</title></movie>" c ∧
        IsDocument "<movie><title>A<br></br>B</title></movie>" c' ∧ c'.spread = c.spread) ∧
      (Sidecar.ofText "<movie><title>A<br/>B</title></movie>").map Sidecar.title =
        .ok (some "B") ∧
      (Sidecar.ofText "<movie><title>A<br></br>B</title></movie>").map Sidecar.title =
        .ok (some "A") := by
  let film (inner : Content → Content) : Content :=
    .element "movie".toList [] (.element "title".toList [] (.text "A".toList
      (inner (.text "B".toList .nil))) .nil) .nil
  refine ⟨?_, by decide +kernel, by decide +kernel, ?_, by decide +kernel, by decide +kernel⟩
  · exact ⟨.empty "movie".toList [] .nil, .element "movie".toList [] .nil .nil,
      by decide +kernel, by decide +kernel, rfl⟩
  · exact ⟨film (.empty "br".toList []), film (.element "br".toList [] .nil),
      by decide +kernel, by decide +kernel, rfl⟩

end MediaShelves
