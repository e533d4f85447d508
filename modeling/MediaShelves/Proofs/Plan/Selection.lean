import MediaShelves.Catalog
import MediaShelves.Proofs.Plan.Builders

/-!
# Missing boxes

A builder selects its boxes before it makes a plan, and nothing is placed before there is a plan.  So
shelving fails exactly if a box of a fixed list is missing, and then nothing has been placed.

Main statement: the shelves are as before if a box is missing, and nothing fails if none is
(`shelving_needs_boxes`).
-/

namespace MediaShelves

/-! ## Selections -/

/-- The first key of a list that has no box. -/
def BoxTable.missing? (t : BoxTable) (keys : List String) : Option String :=
  keys.find? fun key => (t.find? key).isNone

section Selections

variable {t : BoxTable} {keys : List String}

/-- A key that is said to be missing is one that was asked for and is not there. -/
theorem BoxTable.of_missing? {key : String} (h : t.missing? keys = some key) :
    key ∈ keys ∧ t.find? key = none := by
  rw [missing?] at h
  have hmem : key ∈ keys := List.mem_of_find?_eq_some h
  have hnone := List.find?_some h
  exact ⟨hmem, Option.isNone_iff_eq_none.1 hnone⟩

/-- Nothing is missing if every key that was asked for is there. -/
theorem BoxTable.missing?_eq_none_iff :
    t.missing? keys = none ↔ ∀ key ∈ keys, (t.find? key).isSome := by
  rw [missing?, List.find?_eq_none]
  refine forall₂_congr fun key _ => ?_
  cases t.find? key <;> simp

/-- A selection fails with the first key that is missing; otherwise there is one. -/
theorem BoxTable.select_cases (t : BoxTable) (keys : List String) :
    (∃ key, t.missing? keys = some key ∧ t.select keys = .error (.missingBox key)) ∨
      t.missing? keys = none ∧ ∃ s, t.select keys = .ok s := by
  cases hmissing : t.missing? keys with
  | none => exact .inr ⟨rfl, exists_select (missing?_eq_none_iff.1 hmissing)⟩
  | some key =>
    refine .inl ⟨key, rfl, ?_⟩
    -- A selection searches for the same key, but keeps a proof of what it found.
    unfold BoxTable.select
    split
    · rename_i other hother
      rw [missing?, hother] at hmissing
      cases hmissing
      rfl
    · rename_i hnone
      rw [missing?, hnone] at hmissing
      cases hmissing

theorem BoxSelection.exists_folder? (s : BoxSelection keys) {key : String} (hkey : key ∈ keys) :
    ∃ f, s.folder? key = .ok f := by
  obtain ⟨b, hb⟩ := Option.isSome_iff_exists.1 (s.defined key hkey)
  exact ⟨b.folder, by rw [folder?, find?, if_pos hkey, hb]⟩

theorem BoxSelection.exists_trail? (s : BoxSelection keys) {template : List String}
    (htemplate : template ⊆ keys) : ∃ trail, s.trail? template = .ok trail := by
  -- The trail of a template is made key by key, and each of its keys is selected.
  induction template with
  | nil => exact ⟨[], rfl⟩
  | cons key template ih =>
    obtain ⟨hkey, hrest⟩ := List.cons_subset.1 htemplate
    obtain ⟨f, hf⟩ := s.exists_folder? hkey
    obtain ⟨trail, htrail⟩ := ih hrest
    refine ⟨f :: trail, ?_⟩
    rw [trail?] at htrail
    rw [trail?, List.mapM_cons, hf, htrail]
    rfl

theorem BoxTable.bind_select_cases {α : Type} (t : BoxTable) (f : BoxSelection keys → α) :
    (∃ key, t.missing? keys = some key ∧
        (t.select keys >>= fun s => pure (f s)) = .error (.missingBox key)) ∨
      t.missing? keys = none ∧ ∃ a, (t.select keys >>= fun s => pure (f s)) = .ok a := by
  obtain ⟨key, hkey, herror⟩ | ⟨hnone, s, hs⟩ := t.select_cases keys
  · exact .inl ⟨key, hkey, by rw [herror]; rfl⟩
  · exact .inr ⟨hnone, f s, by rw [hs]; rfl⟩

end Selections

/-! ## Builders -/

namespace Builder

/-- The boxes that a builder selects. -/
def keys : Builder → List String
  | .audio => Plan.audioKeys
  | .structuredAudio => Plan.structuredKeys
  | .image => Plan.imageKeys
  | .detailedImage => Plan.detailedImageKeys
  | .video => Plan.videoKeys
  | .detailedVideo => Plan.detailedVideoKeys
  | .online => Plan.onlineKeys
  | .directories => []

/-- Whether a builder leaves an item out before it looks at its boxes. -/
def declines (b : Builder) (c : Configuration) (x : MediaItem) : Bool :=
  b = .detailedImage && c.isRawImage x.mimetype

theorem plan_cases {b : Builder} {c : Configuration} (o : Origin) {x : MediaItem}
    (hx : b.declines c x = false) :
    (∃ key, c.boxes.missing? b.keys = some key ∧ b.plan c o x = .error (.missingBox key)) ∨
      c.boxes.missing? b.keys = none ∧ ∃ plan, b.plan c o x = .ok plan := by
  -- All builders but the one for directories select their boxes and then make a plan of them.
  cases b with
  | audio => exact c.boxes.bind_select_cases _
  | structuredAudio => exact c.boxes.bind_select_cases _
  | image => exact c.boxes.bind_select_cases _
  | video => exact c.boxes.bind_select_cases _
  | detailedVideo => exact c.boxes.bind_select_cases _
  | online => exact c.boxes.bind_select_cases _
  | directories => exact .inr ⟨rfl, _, rfl⟩
  | detailedImage =>
    -- Only this one may leave an item out, and then it would not look at its boxes.
    have hraw : c.isRawImage x.mimetype = false := by
      simpa [declines] using hx
    simp only [plan, Configuration.detailedImagePlan, hraw]
    exact c.boxes.bind_select_cases _

end Builder

/-! ## Shelving -/

/--
Shelving `r` from the shelves `s` on needs some boxes of a table: it fails exactly if one of them is
missing, with the name of a missing one, and leaves the shelves as they were.  If none is missing,
whatever folders and trails are made of these boxes are there.
-/
structure NeedsBoxes {σ : Type} (keys : List String) (t : BoxTable) (s : σ)
    (r : Except ConfigError (List NodeId) × σ) : Prop where
  isError_iff : (∃ e, r.1 = .error e) ↔ ∃ key ∈ keys, t.find? key = none
  of_error : ∀ e, r.1 = .error e → (∃ key ∈ keys, t.find? key = none ∧ e = .missingBox key) ∧ r.2 = s
  selected : (∀ key ∈ keys, t.find? key ≠ none) →
    ∃ boxes : BoxSelection keys, t.select keys = .ok boxes ∧
      ∀ template ⊆ keys, ∃ trail, boxes.trail? template = .ok trail

section

variable {σ : Type} {keys : List String} {t : BoxTable} {s : σ}

theorem exists_boxes_selected (h : ∀ key ∈ keys, t.find? key ≠ none) :
    ∃ boxes : BoxSelection keys, t.select keys = .ok boxes ∧
      ∀ template ⊆ keys, ∃ trail, boxes.trail? template = .ok trail := by
  obtain ⟨boxes, hboxes⟩ := BoxTable.exists_select fun key hkey =>
    Option.isSome_iff_ne_none.2 (h key hkey)
  exact ⟨boxes, hboxes, fun template htemplate => boxes.exists_trail? htemplate⟩

theorem needsBoxes_of_cases {r : Except ConfigError (List NodeId) × σ}
    (h : (∃ key, t.missing? keys = some key ∧ r = (.error (.missingBox key), s)) ∨
      t.missing? keys = none ∧ ∃ ids, r.1 = .ok ids) : NeedsBoxes keys t s r := by
  obtain ⟨key, hkey, rfl⟩ | ⟨hnone, ids, hids⟩ := h
  · -- The first key that is missing is the error.
    obtain ⟨hmem, hfind⟩ := BoxTable.of_missing? hkey
    refine ⟨⟨fun _ => ⟨key, hmem, hfind⟩, fun _ => ⟨_, rfl⟩⟩, ?_, exists_boxes_selected⟩
    intro e he
    cases he
    exact ⟨⟨key, hmem, hfind, rfl⟩, rfl⟩
  · have hno (e : ConfigError) : r.1 ≠ .error e := by
      rw [hids]
      intro he
      cases he
    refine ⟨⟨fun ⟨e, he⟩ => absurd he (hno e), ?_⟩, fun e he => absurd he (hno e),
      exists_boxes_selected⟩
    -- Without an error no key can be missing.
    rintro ⟨key, hkey, hfind⟩
    have hsome := BoxTable.missing?_eq_none_iff.1 hnone key hkey
    rw [hfind] at hsome
    cases hsome

variable [Shelves σ]

/-- A builder that does not decline an item needs its boxes and nothing else. -/
theorem Builder.needsBoxes_shelve {b : Builder} {c : Configuration} (o : Origin) {x : MediaItem}
    (hx : b.declines c x = false) (s : σ) : NeedsBoxes b.keys c.boxes s (b.shelve c o x s) := by
  apply needsBoxes_of_cases
  obtain ⟨key, hkey, hplan⟩ | ⟨hnone, plan, hplan⟩ := b.plan_cases o hx
  · exact .inl ⟨key, hkey, by rw [Builder.shelve, hplan]; rfl⟩
  · exact .inr ⟨hnone, _, by rw [Builder.shelve, hplan]; rfl⟩

/-- Where a box is missing there is an error, and nothing has happened. -/
theorem Builder.shelve_of_missing {b : Builder} {c : Configuration} (o : Origin) {x : MediaItem}
    (hx : b.declines c x = false) (hmissing : ∃ key ∈ b.keys, c.boxes.find? key = none) (s : σ) :
    ∃ e, b.shelve c o x s = (.error e, s) := by
  have hneeds := b.needsBoxes_shelve o hx s
  obtain ⟨e, he⟩ := hneeds.isError_iff.2 hmissing
  exact ⟨e, Prod.ext he (hneeds.of_error e he).2⟩

/-- So does a playlist of a known format. -/
theorem Playlist.needsBoxes_shelve {c : Configuration} {x : MediaItem} {f : Format}
    (hformat : Format.ofMimetype? x.mimetype = some f) (content : String) (s : σ) :
    NeedsBoxes boxKeys c.boxes s (shelve c x content s) := by
  apply needsBoxes_of_cases
  obtain ⟨key, hkey, hselect⟩ | ⟨hnone, boxes, hselect⟩ := c.boxes.select_cases boxKeys
  · exact .inl ⟨key, hkey, by simp only [shelve, hformat, hselect]⟩
  · refine .inr ⟨hnone, ?_⟩
    simp only [shelve, hformat, hselect]
    exact ⟨_, rfl⟩

theorem Playlist.shelve_of_entries?_eq_none {c : Configuration} {x : MediaItem} {f : Format}
    (hformat : Format.ofMimetype? x.mimetype = some f) {content : String}
    (hcontent : f.entries? content = none) {boxes : BoxSelection boxKeys}
    (hboxes : c.boxes.select boxKeys = .ok boxes) (s : σ) :
    shelve c x content s = (.ok [], s) := by
  simp only [shelve, hformat, hboxes, hcontent]
  rfl

end

/--
**Shelving fails exactly if a box is missing, and then nothing has happened.**  On any shelves, each
builder that does not leave the item out needs the boxes of its list and no other, and so does the
shelving of a playlist.  If its boxes are there, a playlist that is no sound document has no entries.
-/
theorem shelving_needs_boxes {σ : Type} [Shelves σ] (c : Configuration) (o : Origin) (x : MediaItem)
    (s : σ) :
    (∀ b : Builder, b.declines c x = false → NeedsBoxes b.keys c.boxes s (b.shelve c o x s)) ∧
      (∀ (f : Playlist.Format) (content : String),
        Playlist.Format.ofMimetype? x.mimetype = some f →
          NeedsBoxes Playlist.boxKeys c.boxes s (Playlist.shelve c x content s)) ∧
      ∀ content : String, Playlist.Format.ofMimetype? x.mimetype = some .asx →
        Playlist.Asx.entries? content = none →
        (∀ key ∈ Playlist.boxKeys, c.boxes.find? key ≠ none) →
          Playlist.shelve c x content s = (.ok [], s) := by
  refine ⟨fun b hx => b.needsBoxes_shelve o hx s,
    fun f content hformat => Playlist.needsBoxes_shelve hformat content s, ?_⟩
  intro content hformat hcontent hkeys
  obtain ⟨boxes, hboxes, -⟩ := exists_boxes_selected hkeys
  exact Playlist.shelve_of_entries?_eq_none hformat hcontent hboxes s

/-- Without the box of albums no audio item is shelved, but an unsound playlist is. -/
theorem shelving_needs_boxes_without_albums :
    ∃ (conf : Configuration) (x : MediaItem) (e : ConfigError),
      conf.boxes = BoxTable.builtin.erase BoxKey.audioAlbums ∧
      x = MediaItem.ofLocation "/music/a.asx" "video/x-ms-asf" ∧
      Builder.audio.shelve conf (Origin.ofRoot "/music") x Catalog.empty =
        (.error e, Catalog.empty) ∧
      NeedsBoxes Playlist.boxKeys conf.boxes Catalog.empty
        (Playlist.shelve conf x "</b>" Catalog.empty) ∧
      Playlist.shelve conf x "</b>" Catalog.empty = (.ok [], Catalog.empty) := by
  obtain ⟨conf, hconf⟩ :=
    Configuration.exists_ofBoxes (BoxTable.builtin.erase BoxKey.audioAlbums)
  have halbums : ∃ key ∈ Plan.audioKeys, (conf.boxes.find? key).isNone := by
    rw [hconf]
    decide +kernel
  have hplaylist : ∀ key ∈ Playlist.boxKeys, (conf.boxes.find? key).isSome := by
    rw [hconf]
    decide +kernel
  have hformat : Playlist.Format.ofMimetype? "video/x-ms-asf" = some .asx := by
    decide +kernel
  have hcontent : Playlist.Asx.entries? "</b>" = none := by
    decide +kernel
  let x := MediaItem.ofLocation "/music/a.asx" "video/x-ms-asf"
  obtain ⟨hbuilder, hplaylists, hunsound⟩ :=
    shelving_needs_boxes conf (Origin.ofRoot "/music") x Catalog.empty
  obtain ⟨key, hkey, hfind⟩ := halbums
  -- The audio builder needs the box that was erased, and playlists do not.
  have haudio := hbuilder .audio rfl
  obtain ⟨e, he⟩ := haudio.isError_iff.2 ⟨key, hkey, Option.isNone_iff_eq_none.1 hfind⟩
  have hsame := (haudio.of_error e he).2
  exact ⟨conf, x, e, hconf, rfl, Prod.ext he hsame, hplaylists .asx "</b>" hformat,
    hunsound "</b>" hformat hcontent fun key hkey =>
      Option.isSome_iff_ne_none.1 (hplaylist key hkey)⟩

end MediaShelves
