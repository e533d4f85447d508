import MediaShelves.Proofs.Plan.Leaves
import MediaShelves.Proofs.Playlist.Numbering

/-!
# Pinned folders

Only a box can pin a folder to an id.  All other folders that plans ask for, those of facets and of
directories, leave their ids to the catalog.

Main statements: `Configuration.pinnedBy_plan` and `Playlist.pinnedBy_plan`.
-/

namespace MediaShelves

/-- A folder was made from a box, perhaps under another title. -/
def Folder.MadeFrom (f : Folder) (b : Box) : Prop :=
  f = { b.folder with title := f.title, owner := f.owner }

/-- A folder that is pinned to an id was made from a box of a table. -/
def Folder.PinnedBy (f : Folder) (t : BoxTable) : Prop :=
  f.pinned ≠ none → ∃ key b, t.find? key = some b ∧ f.MadeFrom b

/-- A folder that is made from a box has its pin. -/
theorem Folder.MadeFrom.pinned_eq {f : Folder} {b : Box} (h : f.MadeFrom b) :
    f.pinned = b.pinned := by
  rw [h]
  rfl

/-! ## Folders -/

section

variable {t : BoxTable} {f : Folder}

/-- A folder without a pin is no concern of the boxes. -/
theorem Folder.pinnedBy_of_eq_none (h : f.pinned = none) : f.PinnedBy t :=
  fun hpinned => absurd h hpinned

@[simp] theorem Folder.pinnedBy_plain (title upnpClass : String) :
    (Folder.plain title upnpClass).PinnedBy t :=
  pinnedBy_of_eq_none rfl

@[simp] theorem Folder.pinnedBy_facet (title upnpClass : String) (facts : List (String × String)) :
    (Folder.facet title upnpClass facts).PinnedBy t :=
  pinnedBy_of_eq_none rfl

@[simp] theorem Folder.pinnedBy_borrowing_facet (title upnpClass : String)
    (facts : List (String × String)) (o : Origin) (x : MediaItem) :
    ((Folder.facet title upnpClass facts).borrowing o x).PinnedBy t :=
  pinnedBy_of_eq_none rfl

/-- Whatever becomes of its title and its owner, a folder has the pin of the same box. -/
theorem Folder.PinnedBy.retitled (h : f.PinnedBy t) (title : String) (owner : Option NodeId) :
    Folder.PinnedBy { f with title := title, owner := owner } t := by
  intro hpinned
  obtain ⟨key, b, hb, hf⟩ := h hpinned
  refine ⟨key, b, hb, ?_⟩
  rw [MadeFrom] at hf ⊢
  rw [hf]

/-- The folder of a box that is found in a table has its pin from there. -/
theorem Box.pinnedBy_folder {b : Box} {key : String} (h : t.find? key = some b) :
    b.folder.PinnedBy t :=
  fun _ => ⟨key, b, h, rfl⟩

@[simp] theorem BoxSelection.pinnedBy_box {keys : List String} (s : BoxSelection keys)
    (key : String) (hkey : key ∈ keys) : (s.box key hkey).folder.PinnedBy s.table :=
  Box.pinnedBy_folder (s.find?_eq key hkey)

@[simp] theorem BoxSelection.pinnedBy_folder {keys : List String} (s : BoxSelection keys)
    (key : String) (hkey : key ∈ keys) : (s.folder key hkey).PinnedBy s.table :=
  s.pinnedBy_box key hkey

end

/-! ## Trails -/

/-- All pinned folders of a trail were made from boxes of a table. -/
def Trail.PinnedBy (trail : Trail) (t : BoxTable) : Prop :=
  ∀ f ∈ trail, f.PinnedBy t

section

variable {t : BoxTable} {trail rest : Trail}

@[simp] theorem Trail.pinnedBy_nil : Trail.PinnedBy [] t := by
  simp [PinnedBy]

@[simp] theorem Trail.pinnedBy_cons {f : Folder} :
    Trail.PinnedBy (f :: trail) t ↔ f.PinnedBy t ∧ trail.PinnedBy t :=
  List.forall_mem_cons

@[simp] theorem Trail.pinnedBy_append :
    Trail.PinnedBy (trail ++ rest) t ↔ trail.PinnedBy t ∧ rest.PinnedBy t :=
  List.forall_mem_append

@[simp] theorem Trail.pinnedBy_map {α : Type} {f : α → Folder} {as : List α} :
    Trail.PinnedBy (as.map f) t ↔ ∀ a ∈ as, (f a).PinnedBy t :=
  List.forall_mem_map

/-- Naming an owner for the last folder changes no pin. -/
theorem Trail.PinnedBy.withLeafOwner (h : trail.PinnedBy t) (owner : Option NodeId) :
    (trail.withLeafOwner owner).PinnedBy t := by
  induction trail with
  | nil => exact h
  | cons f trail ih =>
    rw [pinnedBy_cons] at h
    cases trail with
    | nil => simpa [Trail.withLeafOwner] using h.1.retitled f.title owner
    | cons g trail => exact pinnedBy_cons.2 ⟨h.1, ih h.2⟩

@[simp] theorem Trail.pinnedBy_throughDirectories (h : trail.PinnedBy t) (title upnpClass : String)
    (o : Origin) (x : MediaItem) (parentCount : UInt64) (directories : List String) :
    (trail.throughDirectories (Folder.plain title upnpClass) o x parentCount directories).PinnedBy
      t := by
  refine PinnedBy.withLeafOwner (pinnedBy_append.2 ⟨h, ?_⟩) _
  intro f hf
  rw [directoryFolders_eq] at hf
  obtain ⟨depth, hdepth, rfl⟩ := List.mem_mapIdx.1 hf
  exact Folder.pinnedBy_of_eq_none rfl

end

/-! ## Plans -/

/-- All pinned folders of a plan were made from boxes of a table. -/
def Plan.PinnedBy (plan : Plan) (t : BoxTable) : Prop :=
  ∀ p ∈ plan, p.trail.PinnedBy t

section

variable {t : BoxTable} {plan rest : Plan}

@[simp] theorem Plan.pinnedBy_nil : Plan.PinnedBy [] t := by
  simp [PinnedBy]

@[simp] theorem Plan.pinnedBy_cons {p : Placement} :
    Plan.PinnedBy (p :: plan) t ↔ p.trail.PinnedBy t ∧ plan.PinnedBy t :=
  List.forall_mem_cons

@[simp] theorem Plan.pinnedBy_append :
    Plan.PinnedBy (plan ++ rest) t ↔ plan.PinnedBy t ∧ rest.PinnedBy t :=
  List.forall_mem_append

@[simp] theorem Plan.pinnedBy_map {α : Type} {f : α → Placement} {as : List α} :
    Plan.PinnedBy (as.map f) t ↔ ∀ a ∈ as, (f a).trail.PinnedBy t :=
  List.forall_mem_map

@[simp] theorem Plan.pinnedBy_when {condition : Bool} :
    (Plan.when condition plan).PinnedBy t ↔ (condition → plan.PinnedBy t) :=
  Plan.forall_mem_when

end

section

variable (c : Configuration) (o : Origin) (x : MediaItem)

/-- The pins of the standard audio plan are those of its boxes. -/
theorem pinnedBy_audio (s : BoxSelection Plan.audioKeys) :
    (Plan.audio c s o x).PinnedBy s.table := by
  simp [Plan.audio, Plan.artistFolder, Plan.albumFolder, Plan.genreFolder, Plan.composerFolder,
    Plan.yearFolder, Plan.periodFolder]

/-- The pins of the structured audio plan are those of its boxes; buckets have none. -/
theorem pinnedBy_structured (s : BoxSelection Plan.structuredKeys) :
    (Plan.structured c s x).PinnedBy s.table := by
  simp [Plan.structured, Plan.bucketFolder, Plan.initialFolder, Plan.everything,
    Plan.everythingAtAll, Plan.plainFolder]

/-- The pins of the standard plans of images and videos are those of their boxes. -/
theorem pinnedBy_visual {k : VisualKeys} {t : BoxTable} {b : Plan.VisualBoxes}
    (hb : k.Select t b) (f : VisualFacets) : (Plan.visual c b o x f).PinnedBy t := by
  simp [Plan.visual, Box.pinnedBy_folder hb.root, Box.pinnedBy_folder hb.all,
    Box.pinnedBy_folder hb.years, Box.pinnedBy_folder hb.dates, Box.pinnedBy_folder hb.directories]

/-- A topic and a headline take the folder of a box under another title, with the pin of the box. -/
theorem pinnedBy_topics {t : BoxTable} {b : Plan.TopicBoxes} {mediaRoot : Folder}
    (hmedia : mediaRoot.PinnedBy t) (hroot : b.root.folder.PinnedBy t)
    (htopic : b.topic.folder.PinnedBy t) (hextra : b.extra.folder.PinnedBy t)
    (topic headline : Option String) (month : String) :
    (b.trail mediaRoot topic headline month).PinnedBy t := by
  simp [Plan.TopicBoxes.trail, hmedia, hroot, htopic.retitled, hextra.retitled, Folder.titled]

/-- The pins of the detailed image plan are those of its boxes. -/
theorem pinnedBy_detailedImage (s : BoxSelection Plan.detailedImageKeys) :
    (Plan.detailedImage c s o x).PinnedBy s.table := by
  simp [Plan.detailedImage, pinnedBy_topics]

/-- The pins of the detailed video plan are those of its boxes. -/
theorem pinnedBy_detailedVideo (s : BoxSelection Plan.detailedVideoKeys) :
    (Plan.detailedVideo c s o x).PinnedBy s.table := by
  simp [Plan.detailedVideo, pinnedBy_topics]

/-- The pins of the online plan are those of its boxes. -/
theorem pinnedBy_online (s : BoxSelection Plan.onlineKeys) :
    (Plan.online s x).PinnedBy s.table := by
  simp [Plan.online, Plan.listedGenreFolder, Plan.monthFolder]

/-- Directory folders have no pins, so that any table will do. -/
theorem pinnedBy_directories (t : BoxTable) : (c.directoryPlan o x).PinnedBy t := by
  simp [Configuration.directoryPlan]

end

/-- Builders pin folders to the ids of their boxes only. -/
theorem Builder.pinnedBy_plan {b : Builder} {c : Configuration} {o : Origin} {x : MediaItem}
    {plan : Plan} (hplan : b.plan c o x = .ok plan) : plan.PinnedBy c.boxes := by
  apply Builder.plan_induction (motive := (·.PinnedBy c.boxes)) Plan.pinnedBy_nil
  · exact fun s hs => hs ▸ pinnedBy_audio c o x s
  · exact fun s hs => hs ▸ pinnedBy_structured c x s
  · exact fun s f hs => hs ▸ pinnedBy_visual c o x (select_imageBoxes s) f
  · exact fun s f hs => hs ▸ pinnedBy_visual c o x (select_videoBoxes s) f
  · exact fun s hs => hs ▸ pinnedBy_detailedImage c o x s
  · exact fun s hs => hs ▸ pinnedBy_detailedVideo c o x s
  · exact fun s hs => hs ▸ pinnedBy_online x s
  · exact pinnedBy_directories c o x c.boxes
  · exact hplan

/-- What an item is shelved by pins folders to the ids of boxes only. -/
theorem Configuration.pinnedBy_plan {c : Configuration} {o : Origin} {x : MediaItem} {plan : Plan}
    (hplan : c.plan o x = .ok plan) : plan.PinnedBy c.boxes := by
  rw [c.plan_eq] at hplan
  cases hbuilder : c.builder? x with
  | none =>
    rw [hbuilder] at hplan
    cases hplan
    exact Plan.pinnedBy_nil
  | some b =>
    rw [hbuilder] at hplan
    exact Builder.pinnedBy_plan hplan

/-! ## Playlists -/

namespace Playlist

/-- The pins on the trails of a playlist are those of the boxes of playlists. -/
theorem pinnedBy_trails (s : BoxSelection boxKeys) (x : MediaItem) {t : Trail}
    (ht : t ∈ trails s x) : t.PinnedBy s.table := by
  simp only [trails, List.mem_append] at ht
  rcases ht with ht | ht
  · split at ht <;> simp_all [folder]
  · split at ht <;> simp_all [folder]

/-- The placements of entries have no pins but those on the trails they are made for. -/
theorem pinnedBy_numbered {t : BoxTable} {trails : List Trail} (h : ∀ u ∈ trails, u.PinnedBy t)
    (known? : String → Option MediaItem) (playlist : MediaItem) (f : Format) (next : Nat)
    (entries : List Entry) :
    (numbered known? playlist f trails next entries).PinnedBy t := by
  induction entries generalizing next with
  | nil => exact Plan.pinnedBy_nil
  | cons e entries ih =>
    rw [numbered]
    cases entryItem? known? playlist f e with
    | none => exact ih next
    | some x => exact Plan.pinnedBy_append.2 ⟨Plan.pinnedBy_map.2 h, ih _⟩

/-- What a playlist is shelved by pins folders to the ids of boxes only. -/
theorem pinnedBy_plan {known? : String → Option MediaItem} {c : Configuration} {x : MediaItem}
    {content : String} {plan : Plan} (hplan : Playlist.plan known? c x content = .ok plan) :
    plan.PinnedBy c.boxes := by
  unfold Playlist.plan at hplan
  -- A playlist of an unknown format has no plan; any other asks for its boxes first.
  split at hplan
  · cases hplan
    exact Plan.pinnedBy_nil
  · split at hplan
    · cases hplan
    · rename_i s hs
      cases hplan
      rw [← BoxTable.table_of_select hs]
      exact pinnedBy_numbered (fun t ht => pinnedBy_trails s x ht) _ x _ _ _

end Playlist

end MediaShelves
