import MediaShelves.Proofs.StandardPlans

/-!
# Values and placeholders

What is read under a key of metadata that came about by changes.  The last changes of a key settle its
values, and of these the first one is read, if it is not empty.  So an empty value that comes first hides
all the values after it, and then a placeholder stands although there is something to be told.

Main statement: `placeholders_stand_unless_told`, with `hidden_artist_is_unknown` for a value that is
hidden.
-/

namespace MediaShelves

open Catalog

/-! ## Changes of metadata -/

/-- A change of metadata. -/
inductive MetadataEdit where
  | set (key value : String)
  | add (key value : String)
  | erase (key : String)
  | overlay (other : Metadata)
deriving DecidableEq, Repr

/-- The metadata after a change. -/
def Metadata.edit (m : Metadata) : MetadataEdit → Metadata
  | .set key value => m.set key value
  | .add key value => m.add key value
  | .erase key => m.erase key
  | .overlay other => m.overlay other

/-- The metadata that changes make out of none. -/
def Metadata.ofEdits (edits : List MetadataEdit) : Metadata :=
  edits.foldl edit empty

namespace MetadataEdit

/-- What a change makes of the values under a key. -/
def change (key : String) (values : List String) : MetadataEdit → List String
  | .set k value => if key = k then [value] else values
  | .add k value => if key = k then values ++ [value] else values
  | .erase k => if key = k then [] else values
  | .overlay other => (other.table.find? key).getD values

/-- The values that changes leave under a key. -/
def valuesOf (edits : List MetadataEdit) (key : String) : List String :=
  edits.foldl (change key) []

end MetadataEdit

namespace Metadata

theorem all_edit (m : Metadata) (e : MetadataEdit) (key : String) :
    (m.edit e).all key = e.change key (m.all key) := by
  -- An edit changes its own key only, and an overlay those of the other metadata.
  cases e with
  | set k value =>
    simp only [edit, set, all, Keyed.find?_insert, MetadataEdit.change]
    split <;> rfl
  | add k value =>
    simp only [edit, add, all, Keyed.find?_insert, MetadataEdit.change]
    split
    · rename_i hkey
      rw [hkey]
      rfl
    · rfl
  | erase k =>
    simp only [edit, erase, all, Keyed.find?_erase, MetadataEdit.change]
    split <;> rfl
  | overlay other =>
    simp only [edit, overlay, all, Keyed.find?_overlay, MetadataEdit.change]
    cases other.table.find? key <;> rfl

theorem all_foldl_edit (edits : List MetadataEdit) (m : Metadata) (key : String) :
    (edits.foldl edit m).all key = edits.foldl (MetadataEdit.change key) (m.all key) := by
  induction edits generalizing m with
  | nil => rfl
  | cons e edits ih => rw [List.foldl_cons, ih, all_edit, List.foldl_cons]

/-- Each key has the values that the changes leave it, whatever they do to other keys. -/
theorem all_ofEdits (edits : List MetadataEdit) (key : String) :
    (ofEdits edits).all key = MetadataEdit.valuesOf edits key :=
  all_foldl_edit edits empty key

end Metadata

/-! ## The value that is read -/

/-- The first value that is not empty. -/
def firstFilled? (values : List String) : Option String :=
  values.find? (· ≠ "")

/-- An empty value comes first, and another one is behind it. -/
def Hidden (values : List String) : Prop :=
  values.head? = some "" ∧ ∃ value ∈ values, value ≠ ""

instance (values : List String) : Decidable (Hidden values) :=
  inferInstanceAs (Decidable (_ ∧ _))

theorem firstFilled?_eq_none_iff {values : List String} :
    firstFilled? values = none ↔ ∀ value ∈ values, value = "" := by
  simp [firstFilled?]

/-- What is told by some values: the first one that is not empty, unless it is hidden. -/
def told? (values : List String) : Option String :=
  if Hidden values then none else firstFilled? values

theorem filter_head?_eq_told? (values : List String) :
    values.head?.filter (· ≠ "") = told? values := by
  rw [told?]
  cases values with
  | nil => rfl
  | cons value rest =>
    by_cases hvalue : value = ""
    · subst hvalue
      split
      · rfl
      · -- Behind an empty value that hides nothing there are only empty ones.
        rename_i hhidden
        have hrest : ∀ value ∈ "" :: rest, value = "" := by
          simpa [Hidden] using hhidden
        rw [firstFilled?_eq_none_iff.2 hrest]
        rfl
    · have hhidden : ¬ Hidden (value :: rest) := by
        simp [Hidden, hvalue]
      rw [if_neg hhidden]
      simp [firstFilled?, hvalue]

/-- Nothing is told if all values are empty, or if an empty one hides the others. -/
theorem told?_eq_none_iff {values : List String} :
    told? values = none ↔ (∀ value ∈ values, value = "") ∨ Hidden values := by
  rw [told?, ← firstFilled?_eq_none_iff]
  split <;> simp_all

theorem Metadata.filled?_ofEdits (edits : List MetadataEdit) (key : String) :
    (ofEdits edits).filled? key = told? (MetadataEdit.valuesOf edits key) := by
  rw [filled?, first?, all_ofEdits, filter_head?_eq_told?]

/-! ## Audio items -/

/-- The songs of an artist, under the titles of the built-in boxes. -/
theorem artistSongs_builtin {conf : Configuration} (hconf : conf.boxes = BoxTable.builtin)
    (o : Origin) (x : MediaItem) :
    AudioLeaf conf o x ["Audio", "Artists", x.told MetaKey.artist "Unknown", "All Songs"] := by
  -- The boxes of the shipped configuration are looked up, nothing else is needed of it.
  have henabled : conf.boxes.isEnabled BoxKey.audioArtists ∧
      conf.boxes.isEnabled BoxKey.audioSongs := by
    simp only [hconf, BoxTable.isEnabled, BoxTable.find?_builtin]
    decide
  have htitles : conf.boxes.title BoxKey.audioRoot = "Audio" ∧
      conf.boxes.title BoxKey.audioArtists = "Artists" ∧
      conf.boxes.title BoxKey.audioSongs = "All Songs" := by
    simp only [hconf, BoxTable.title, BoxTable.find?_builtin]
    decide
  have hleaf := AudioLeaf.artistSongs (o := o) (x := x) henabled.1 henabled.2
  rw [htitles.1, htitles.2.1, htitles.2.2] at hleaf
  exact hleaf

/--
**A placeholder stands only where nothing is told.**  Whatever changes the metadata of an item came about
by, a key tells the first of its values that is not empty, unless an empty one hides it; nothing is told if
all values are empty or hidden, and only then.  An audio item is put under the artist, the album, the
composer and the year that are told so, and under a placeholder for each that is not told; likewise the
title in its metadata gives way to its own.  If a box is missing, the item is put nowhere.
-/
theorem placeholders_stand_unless_told (edits : List MetadataEdit) {x : MediaItem}
    (hx : x.metadata = Metadata.ofEdits edits) (conf : Configuration) (o : Origin)
    (before : List Request) :
    (∀ key, x.metadata.all key = MetadataEdit.valuesOf edits key ∧
      x.metadata.filled? key = told? (MetadataEdit.valuesOf edits key) ∧
      (x.metadata.filled? key = none ↔ (∀ value ∈ MetadataEdit.valuesOf edits key, value = "") ∨
        Hidden (MetadataEdit.valuesOf edits key))) ∧
    (∀ key placeholder,
      x.told key placeholder = (told? (MetadataEdit.valuesOf edits key)).getD placeholder) ∧
    x.toldYear =
      ((told? (MetadataEdit.valuesOf edits MetaKey.date)).map leadingYear).getD "Unknown" ∧
    x.knownTitle = (told? (MetadataEdit.valuesOf edits MetaKey.title)).getD x.title ∧
    Builder.audio.Reaches conf o x (run before empty) (AudioLeaf conf o x) := by
  -- Everything below is said of one value: the one that the edits leave first.
  have hfilled (key : String) :
      x.metadata.filled? key = told? (MetadataEdit.valuesOf edits key) := by
    rw [hx, Metadata.filled?_ofEdits]
  refine ⟨fun key => ⟨?_, hfilled key, ?_⟩, ?_, ?_, ?_, ?_⟩
  · rw [hx, Metadata.all_ofEdits]
  · rw [hfilled, told?_eq_none_iff]
  · intro key placeholder
    rw [MediaItem.told_eq, hfilled]
  · rw [MediaItem.toldYear_eq, hfilled]
  · rw [MediaItem.knownTitle, hfilled]
  · apply Builder.reaches (consistent_empty.run before) rfl
    exact Configuration.exists_audioPlan

/-- A song of an artist to whom an empty name was added is found under the artist. -/
theorem placeholders_stand_unless_told_song :
    ∃ (conf : Configuration) (x : MediaItem) (ids : List NodeId) (c' : Catalog) (f : StoredFolder),
      conf.boxes = BoxTable.builtin ∧
      x.metadata = Metadata.ofEdits [.add MetaKey.artist "Queen", .add MetaKey.artist ""] ∧
      Builder.audio.shelve conf (Origin.ofRoot "/music") x (run [] empty) = (.ok ids, c') ∧
      c'.findFolder? ["Audio", "Artists", "Queen", "All Songs"] = some f ∧
      (c'.placed? x.reference f.id).isSome := by
  obtain ⟨conf, hconf⟩ := Configuration.exists_ofBoxes BoxTable.builtin
  have hboxes : ∀ key ∈ Plan.audioKeys, (conf.boxes.find? key).isSome :=
    hconf ▸ BoxTable.complete_builtin.1 .audio
  let edits : List MetadataEdit := [.add MetaKey.artist "Queen", .add MetaKey.artist ""]
  let x : MediaItem :=
    { MediaItem.ofLocation "/music/a.mp3" "audio/mpeg" with metadata := Metadata.ofEdits edits }
  obtain ⟨-, htold, -, -, hreaches⟩ :=
    placeholders_stand_unless_told edits (x := x) rfl conf (Origin.ofRoot "/music") []
  -- The empty value comes later, so that the first one is told.
  have hartist : x.told MetaKey.artist "Unknown" = "Queen" := by
    rw [htold]
    decide
  obtain ⟨ids, c', hshelve, hreceives⟩ := hreaches.received hboxes
  obtain ⟨f, hf, hthere⟩ := hreceives.there _ (artistSongs_builtin hconf _ x)
  rw [hartist] at hf
  exact ⟨conf, x, ids, c', f, hconf, rfl, hshelve, hf, hthere⟩

/-- A song whose artist stands behind an empty name is found under the placeholder for artists. -/
theorem hidden_artist_is_unknown :
    ∃ (conf : Configuration) (x : MediaItem) (ids : List NodeId) (c' : Catalog) (f : StoredFolder),
      conf.boxes = BoxTable.builtin ∧
      x.metadata = Metadata.ofEdits [.add MetaKey.artist "", .add MetaKey.artist "Queen"] ∧
      firstFilled? (x.metadata.all MetaKey.artist) = some "Queen" ∧
      x.metadata.filled? MetaKey.artist = none ∧
      Builder.audio.shelve conf (Origin.ofRoot "/music") x empty = (.ok ids, c') ∧
      c'.findFolder? ["Audio", "Artists", "Unknown", "All Songs"] = some f ∧
      (c'.placed? x.reference f.id).isSome := by
  obtain ⟨conf, hconf⟩ := Configuration.exists_ofBoxes BoxTable.builtin
  have hboxes : ∀ key ∈ Plan.audioKeys, (conf.boxes.find? key).isSome :=
    hconf ▸ BoxTable.complete_builtin.1 .audio
  let edits : List MetadataEdit := [.add MetaKey.artist "", .add MetaKey.artist "Queen"]
  let x : MediaItem :=
    { MediaItem.ofLocation "/music/a.mp3" "audio/mpeg" with metadata := Metadata.ofEdits edits }
  -- The empty value comes first, and it alone is asked for.
  have hall : x.metadata.all MetaKey.artist = ["", "Queen"] := by
    decide +kernel
  have hnone : x.metadata.filled? MetaKey.artist = none := by
    rw [Metadata.filled?, Metadata.first?, hall]
    rfl
  have hreaches : Builder.audio.Reaches conf (Origin.ofRoot "/music") x empty
      (AudioLeaf conf (Origin.ofRoot "/music") x) :=
    Builder.reaches consistent_empty rfl Configuration.exists_audioPlan
  obtain ⟨ids, c', hshelve, hreceives⟩ := hreaches.received hboxes
  obtain ⟨f, hf, hthere⟩ := hreceives.there _ (artistSongs_builtin hconf _ x)
  rw [MediaItem.told_eq, hnone] at hf
  refine ⟨conf, x, ids, c', f, hconf, rfl, ?_, hnone, hshelve, hf, hthere⟩
  rw [hall]
  decide

end MediaShelves
