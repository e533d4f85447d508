import MediaShelves.Playlist.Shelving
import MediaShelves.Proofs.Plan.Leaves

/-!
# The folders of a playlist

The entries of a playlist lie in one folder for each of its two axes: one among all playlists, and one
below the directory that holds the playlist.  Each is there if its box is enabled, the second one only
if there is a directory (`PlaylistLeaf`).

Main statements: the trails of a playlist end there and nowhere else (`mem_titles_trails_iff`), each in
a folder of its own (`nodup_titles_trails`).
-/

namespace MediaShelves

open MediaShelves.Text

/-! ## Names without an extension -/

namespace FilePath

/--
What a name is without its extension: the text in front of the last dot, if that has two characters or
more, and otherwise the whole name.
-/
inductive Stem : List Char → List Char → Prop
  | cut {name extension : List Char} (hextension : '.' ∉ extension) (hname : 1 < name.length) :
      Stem (name ++ '.' :: extension) name
  | whole {title : List Char}
      (hshort : ∀ name extension, title = name ++ '.' :: extension → '.' ∉ extension →
        name.length ≤ 1) : Stem title title

/-- **The extension is what follows the last dot**, unless too little stands in front of that. -/
theorem stem_iff {title name : List Char} : Stem title name ↔ stem title = name := by
  unfold stem
  constructor
  · intro h
    cases h with
    | cut hextension hname =>
      rw [cutLast?_eq_some_iff.2 ⟨rfl, hextension⟩]
      exact if_pos hname
    | whole hshort =>
      split
      · rename_i before extension hcut
        obtain ⟨htitle, hextension⟩ := cutLast?_eq_some_iff.1 hcut
        exact if_neg (Nat.not_lt.2 (hshort before extension htitle hextension))
      · rfl
  · rintro rfl
    split
    · rename_i before extension hcut
      obtain ⟨rfl, hextension⟩ := cutLast?_eq_some_iff.1 hcut
      split
      · rename_i hname
        exact .cut hextension hname
      · -- A title has one last dot only, so that no other name is longer.
        rename_i hshort
        refine .whole fun name other htitle hother => ?_
        rw [cutLast?_eq_some_iff.2 ⟨htitle, hother⟩] at hcut
        cases hcut
        exact Nat.not_lt.1 hshort
    · rename_i hcut
      refine .whole fun name extension htitle _ => ?_
      exact absurd (by simp [htitle]) (cutLast?_eq_none_iff.1 hcut)

end FilePath

/-! ## Leaves -/

namespace Playlist

/--
The titles of the folders that hold the entries of a playlist.  The last one is the title of the
playlist without an extension, and the directory is the one in front of its name.
-/
inductive PlaylistLeaf (conf : Configuration) (x : MediaItem) : List String → Prop
  | all {title : List Char} (hall : conf.boxes.isEnabled BoxKey.playlistAll)
      (htitle : FilePath.Stem x.title.toList title) :
      PlaylistLeaf conf x
        [conf.boxes.title BoxKey.playlistRoot, conf.boxes.title BoxKey.playlistAll,
          String.ofList title]
  | directory {above : List (List Char)} {directory name title : List Char}
      (hdirectories : conf.boxes.isEnabled BoxKey.playlistDirectories)
      (hparts : Parts ['/'] x.location.toList (above ++ [directory, name])) (hne : directory ≠ [])
      (htitle : FilePath.Stem x.title.toList title) :
      PlaylistLeaf conf x
        [conf.boxes.title BoxKey.playlistRoot, conf.boxes.title BoxKey.playlistDirectories,
          String.ofList directory, String.ofList title]

/-- A playlist is shelved below folders. -/
theorem ne_nil_of_mem_trails {s : BoxSelection boxKeys} {x : MediaItem} {t : Trail}
    (ht : t ∈ trails s x) : t ≠ [] := by
  rintro rfl
  simp only [trails, List.mem_append] at ht
  rcases ht with ht | ht
  · split at ht <;> simp at ht
  · split at ht <;> simp at ht

section

variable {conf : Configuration} {x : MediaItem} {boxes : BoxSelection boxKeys}
  (hboxes : boxes.table = conf.boxes)

include hboxes

/-- The titles of the trails, written out axis by axis. -/
theorem titles_trails :
    (trails boxes x).map Trail.titles =
      (if conf.boxes.isEnabled BoxKey.playlistAll then
        [[conf.boxes.title BoxKey.playlistRoot, conf.boxes.title BoxKey.playlistAll, titleOf x]]
      else []) ++
      if conf.boxes.isEnabled BoxKey.playlistDirectories &&
          String.ofList (FilePath.lastDirectory x.location.toList) != "" then
        [[conf.boxes.title BoxKey.playlistRoot, conf.boxes.title BoxKey.playlistDirectories,
          String.ofList (FilePath.lastDirectory x.location.toList), titleOf x]]
      else [] := by
  have hfolder (title : String) : (folder title).title = title := rfl
  simp only [trails, BoxSelection.enabled_eq_isEnabled, hboxes, List.map_append]
  -- Each axis has its trail or none.
  congr 1
  · split <;> simp only [List.map_cons, List.map_nil, Trail.titles_cons, Trail.titles_nil,
      BoxSelection.title_folder, hboxes, hfolder]
  · split <;> simp only [List.map_cons, List.map_nil, Trail.titles_cons, Trail.titles_nil,
      BoxSelection.title_folder, hboxes, hfolder]

/-- **The trails of a playlist end at its leaves**, and nowhere else. -/
theorem mem_titles_trails_iff {ts : List String} :
    ts ∈ (trails boxes x).map Trail.titles ↔ PlaylistLeaf conf x ts := by
  have htitle : FilePath.Stem x.title.toList (FilePath.stem x.title.toList) :=
    FilePath.stem_iff.2 rfl
  rw [titles_trails hboxes, List.mem_append]
  -- Each of the two folders has its own gate, and there is no third one.
  constructor
  · rintro (hts | hts)
    · split at hts
      · rename_i hall
        obtain rfl := List.mem_singleton.1 hts
        exact .all hall htitle
      · cases hts
    · split at hts
      · rename_i hgate
        rw [Bool.and_eq_true, bne_iff_ne, ne_eq, String.ofList_eq_empty_iff] at hgate
        obtain rfl := List.mem_singleton.1 hts
        -- A directory that has a name stands in front of that of the file.
        obtain ⟨above, name, hparts⟩ | ⟨hnil, -⟩ := FilePath.lastDirectory_cases x.location.toList
        · exact .directory hgate.1 hparts hgate.2 htitle
        · exact absurd hnil hgate.2
      · cases hts
  · intro hts
    cases hts with
    | all hall htitle => simp [hall, titleOf, FilePath.stem_iff.1 htitle]
    | directory hdirectories hparts hne htitle =>
      simp [hdirectories, FilePath.lastDirectory_of_parts hparts, hne, titleOf,
        FilePath.stem_iff.1 htitle]

/-- The folder of one axis is less deep than that of the other, so that they differ. -/
theorem nodup_titles_trails : ((trails boxes x).map Trail.titles).Nodup := by
  rw [titles_trails hboxes]
  split <;> split <;> simp

end

end Playlist

end MediaShelves
