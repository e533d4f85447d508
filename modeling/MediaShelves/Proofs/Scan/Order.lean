import Mathlib.Data.List.Basic
import MediaShelves.Scan

/-!
# The order of a scan

What a scan by names finds is told by the set of files: one item for each file whose kind is known,
media before playlists, each group by location.  Only a sidecar can depend on the order in which the
files come, where several stand beside the same file: then the last one counts.

Main statement: `scan_readName_eq_of_perm`.
-/

namespace MediaShelves.Scan

/-! ## What a file is known as -/

/-- The item of a file by its name, if its kind is known. -/
def itemByName? (f : FoundFile) : Option MediaItem :=
  (mimetype? f.path).map (MediaItem.ofLocation f.path)

/-- The sidecars that stand beside the file at a location. -/
def sidecarsBeside (files : List FoundFile) (location : String) : List FoundFile :=
  (files.filter fun f => FilePath.isSidecar f.path.toList).filter fun f =>
    stemPath f.path = stemPath location

/-- The sidecar that counts for the file at a location. -/
def sidecarOf? (files : List FoundFile) (location : String) : Option String :=
  (sidecarsBeside files location).getLast?.map (·.path)

/-- The sidecar of a file is found under its path without the extension. -/
theorem find?_sidecars (files : List FoundFile) (location : String) :
    (sidecars files).find? (stemPath location) = sidecarOf? files location := by
  rw [sidecars, Keyed.find?_ofList, List.filter_map, List.getLast?_map, Option.map_map]
  rfl

/-- Nothing else is done with sidecars. -/
theorem mimetype?_of_isSidecar {path : String} (h : FilePath.isSidecar path.toList = true) :
    mimetype? path = none := by
  rw [FilePath.isSidecar, Option.any_eq_true] at h
  obtain ⟨extension, hextension, hnfo⟩ := h
  have hlower : lowerExtension? path = some (String.ofList ['n', 'f', 'o']) := by
    rw [lowerExtension?, hextension, Option.map_some, eq_of_beq hnfo]
  rw [mimetype?, hlower]
  decide

theorem scanFile?_readName (files : List FoundFile) (f : FoundFile) :
    scanFile? readName (sidecars files) f =
      (itemByName? f).map fun x => ⟨x, sidecarOf? files x.location⟩ := by
  rw [scanFile?]
  -- A sidecar has no mimetype, so it is no item in either reading.
  split
  · rename_i hsidecar
    rw [itemByName?, mimetype?_of_isSidecar hsidecar]
    rfl
  · rw [itemByName?, Option.map_map]
    refine congrFun (congrArg _ (funext fun mimetype => ?_)) _
    rw [find?_sidecars]
    rfl

/-! ## Readers -/

/-- The items that a reader makes lie where their files lie, and stand for themselves. -/
def ItemReader.InPlace (read : ItemReader) : Prop :=
  ∀ f mimetype x, read f mimetype = some x → x.location = f.path ∧ x.refersTo = none

theorem inPlace_readName : ItemReader.InPlace readName := by
  intro f mimetype x hx
  cases hx
  exact ⟨rfl, rfl⟩

/-- Tags add metadata and nothing else. -/
theorem inPlace_readTags : ItemReader.InPlace readTags := by
  intro f mimetype x hx
  unfold readTags at hx
  split at hx
  · obtain ⟨comments, -, rfl⟩ := Option.map_eq_some_iff.1 hx
    exact ⟨rfl, rfl⟩
  · cases hx
    exact ⟨rfl, rfl⟩

section

variable {read : ItemReader} (hread : read.InPlace)

include hread

/-- A file that cannot be read lies in its place all the same. -/
theorem ItemReader.InPlace.of_scanFile? {sidecars : Keyed String} {f : FoundFile} {s : ScannedFile}
    (hs : scanFile? read sidecars f = some s) :
    s.item.location = f.path ∧ s.item.refersTo = none := by
  unfold scanFile? at hs
  split at hs
  · cases hs
  · obtain ⟨mimetype, -, rfl⟩ := Option.map_eq_some_iff.1 hs
    cases hx : read f mimetype with
    | none => exact ⟨rfl, rfl⟩
    | some x => exact hread f mimetype x hx

/-- What is scanned lies in different places, if the files have different paths. -/
theorem ItemReader.InPlace.nodup_locations {files : List FoundFile}
    (h : (files.map (·.path)).Nodup) : ((scan read files).map (·.item.location)).Nodup := by
  have hperm := (List.mergeSort_perm (files.filterMap (scanFile? read (sidecars files)))
    importedBefore).map (·.item.location)
  rw [scan, hperm.nodup_iff, List.Nodup, List.pairwise_map, List.pairwise_filterMap]
  refine (List.pairwise_map.1 h).imp ?_
  intro f g hne s hs t ht
  rwa [(hread.of_scanFile? hs).1, (hread.of_scanFile? ht).1]

/-- What is scanned is one of the files, and stands for itself. -/
theorem ItemReader.InPlace.exists_of_mem_scan {files : List FoundFile} {s : ScannedFile}
    (hs : s ∈ scan read files) :
    ∃ f ∈ files, s.item.location = f.path ∧ s.item.refersTo = none := by
  obtain ⟨f, hf, hscanned⟩ := List.mem_filterMap.1 (List.mem_mergeSort.1 hs)
  exact ⟨f, hf, hread.of_scanFile? hscanned⟩

end

/-! ## The order of items -/

/-- Whether an item comes strictly before another: media first, then by location. -/
def Precedes (x y : MediaItem) : Prop :=
  (isPlaylist x = false ∧ isPlaylist y = true) ∨
    (isPlaylist x = isPlaylist y ∧ x.location < y.location)

/-- Playlists come last, and apart from that the locations decide. -/
theorem importedBefore_iff {a b : ScannedFile} :
    importedBefore a b = true ↔ (isPlaylist a.item = false ∧ isPlaylist b.item = true) ∨
      (isPlaylist a.item = isPlaylist b.item ∧ a.item.location ≤ b.item.location) := by
  have hlocation : (!decide (b.item.location < a.item.location)) = true ↔
      a.item.location ≤ b.item.location := by
    rw [Bool.not_eq_true', decide_eq_false_iff_not]
    exact String.not_lt
  rw [importedBefore]
  cases isPlaylist a.item <;> cases isPlaylist b.item <;> simp only [hlocation] <;> simp

theorem importedBefore_total (a b : ScannedFile) :
    (importedBefore a b || importedBefore b a) = true := by
  rw [Bool.or_eq_true, importedBefore_iff, importedBefore_iff]
  have hle := String.le_total a.item.location b.item.location
  cases isPlaylist a.item <;> cases isPlaylist b.item <;> simp [hle]

theorem importedBefore_trans (a b c : ScannedFile) (hab : importedBefore a b = true)
    (hbc : importedBefore b c = true) : importedBefore a c = true := by
  rw [importedBefore_iff] at hab hbc ⊢
  rcases hab with ⟨ha, hb⟩ | ⟨hab, hle⟩
  · rcases hbc with ⟨hb', -⟩ | ⟨hbc, -⟩
    · simp [hb] at hb'
    · exact .inl ⟨ha, hbc ▸ hb⟩
  · rcases hbc with ⟨hb, hc⟩ | ⟨hbc, hle'⟩
    · exact .inl ⟨hab ▸ hb, hc⟩
    · exact .inr ⟨hab.trans hbc, String.le_trans hle hle'⟩

/-- Of two items one precedes the other at most. -/
theorem Precedes.asymm {x y : MediaItem} (hxy : Precedes x y) : ¬ Precedes y x := by
  rintro (⟨hy, hx⟩ | ⟨heq, hlt⟩)
  · rcases hxy with ⟨-, hy'⟩ | ⟨heq, -⟩
    · simp [hy] at hy'
    · simp [heq, hy] at hx
  · rcases hxy with ⟨hx, hy⟩ | ⟨-, hlt'⟩
    · simp [heq, hx] at hy
    · exact String.lt_asymm hlt hlt'

/-! ## What is scanned -/

theorem pairwise_importedBefore_scan (read : ItemReader) (files : List FoundFile) :
    (scan read files).Pairwise fun a b => importedBefore a b = true :=
  List.pairwise_mergeSort importedBefore_trans importedBefore_total _

/-- What is scanned by names: an item for each file whose kind is known, with its sidecar. -/
theorem scan_readName_perm (files : List FoundFile) :
    (scan readName files).Perm
      ((files.filterMap itemByName?).map fun x => ⟨x, sidecarOf? files x.location⟩) := by
  rw [List.map_filterMap, scan]
  simp only [scanFile?_readName]
  exact List.mergeSort_perm _ importedBefore

theorem items_scan_readName_perm (files : List FoundFile) :
    ((scan readName files).map (·.item)).Perm (files.filterMap itemByName?) := by
  have h := (scan_readName_perm files).map (·.item)
  rwa [List.map_map, List.map_id''] at h
  intro x
  rfl

theorem sidecar_of_mem_scan_readName {files : List FoundFile} {s : ScannedFile}
    (hs : s ∈ scan readName files) : s.sidecar = sidecarOf? files s.item.location := by
  obtain ⟨x, -, rfl⟩ := List.mem_map.1 ((scan_readName_perm files).mem_iff.1 hs)
  rfl

/-- The items of a scan by names tell all of it. -/
theorem scan_readName_eq_map (files : List FoundFile) :
    scan readName files =
      ((scan readName files).map (·.item)).map fun x => ⟨x, sidecarOf? files x.location⟩ := by
  rw [List.map_map]
  conv_lhs => rw [← List.map_id (scan readName files)]
  apply List.map_congr_left
  intro s hs
  show s = ⟨s.item, sidecarOf? files s.item.location⟩
  rw [← sidecar_of_mem_scan_readName hs]

/-- What is scanned by names lies in different places, if the files have different paths. -/
theorem nodup_locations_scan {files : List FoundFile} (h : (files.map (·.path)).Nodup) :
    ((scan readName files).map (·.item.location)).Nodup :=
  inPlace_readName.nodup_locations h

/-- The items of a scan by names are strictly in order, if the files have different paths. -/
theorem pairwise_precedes_scan {files : List FoundFile} (h : (files.map (·.path)).Nodup) :
    ((scan readName files).map (·.item)).Pairwise Precedes := by
  rw [List.pairwise_map]
  refine (List.pairwise_and_iff.2 ⟨pairwise_importedBefore_scan readName files,
    List.pairwise_map.1 (nodup_locations_scan h)⟩).imp ?_
  rintro a b ⟨hbefore, hne⟩
  rcases importedBefore_iff.1 hbefore with hkind | ⟨hkind, hle⟩
  · exact .inl hkind
  · refine .inr ⟨hkind, ?_⟩
    exact String.not_le.1 fun hge => hne (String.le_antisymm hle hge)

/-! ## Two orders -/

theorem items_scan_readName_eq_of_perm {files files' : List FoundFile} (hperm : files.Perm files')
    (hpaths : (files.map (·.path)).Nodup) :
    (scan readName files).map (·.item) = (scan readName files').map (·.item) := by
  have hpaths' : (files'.map (·.path)).Nodup := (hperm.map _).nodup_iff.1 hpaths
  have hitems : ((scan readName files).map (·.item)).Perm ((scan readName files').map (·.item)) :=
    calc ((scan readName files).map (·.item)).Perm (files.filterMap itemByName?) :=
          items_scan_readName_perm files
      _ |>.Perm (files'.filterMap itemByName?) := hperm.filterMap itemByName?
      _ |>.Perm ((scan readName files').map (·.item)) := (items_scan_readName_perm files').symm
  -- Both are strictly in order, and there is one way only to order them so.
  exact hitems.eq_of_pairwise (fun _ _ _ _ hxy hyx => absurd hyx hxy.asymm)
    (pairwise_precedes_scan hpaths) (pairwise_precedes_scan hpaths')

/-- Where one sidecar at most stands beside a file, the order does not matter. -/
theorem sidecarOf?_eq_of_perm {files files' : List FoundFile} (hperm : files.Perm files')
    {location : String} (hone : (sidecarsBeside files location).length ≤ 1) :
    sidecarOf? files location = sidecarOf? files' location := by
  have hbeside : (sidecarsBeside files location).Perm (sidecarsBeside files' location) :=
    (hperm.filter _).filter _
  rw [sidecarOf?, sidecarOf?]
  match h : sidecarsBeside files location with
  | [] => rw [h] at hbeside; rw [← hbeside.nil_eq]
  | [f] => rw [h] at hbeside; rw [List.perm_singleton.1 hbeside.symm]
  | f :: g :: rest => simp [h] at hone

/--
The order of the files does not matter for the items of a scan by names: there is one for each file
whose kind is known, media before playlists and each group by location.  Beside each of them is the
last sidecar that stands there; where there is one at most, the whole scan is the same.
-/
theorem scan_readName_eq_of_perm {files files' : List FoundFile} (hperm : files.Perm files')
    (hpaths : (files.map (·.path)).Nodup) :
    ((scan readName files).map (·.item)).Perm (files.filterMap itemByName?) ∧
    ((scan readName files).map (·.item)).Pairwise Precedes ∧
    (scan readName files).map (·.item) = (scan readName files').map (·.item) ∧
    (∀ s ∈ scan readName files,
      s.sidecar = ((sidecarsBeside files s.item.location).getLast?).map (·.path)) ∧
    ((∀ s ∈ scan readName files, (sidecarsBeside files s.item.location).length ≤ 1) →
      scan readName files = scan readName files') := by
  refine ⟨items_scan_readName_perm files, pairwise_precedes_scan hpaths,
    items_scan_readName_eq_of_perm hperm hpaths, fun s hs => sidecar_of_mem_scan_readName hs, ?_⟩
  intro hone
  rw [scan_readName_eq_map files, scan_readName_eq_map files',
    ← items_scan_readName_eq_of_perm hperm hpaths]
  refine List.map_congr_left fun x hx => ?_
  obtain ⟨s, hs, rfl⟩ := List.mem_map.1 hx
  rw [sidecarOf?_eq_of_perm hperm (hone s hs)]

/-- A playlist and a film with its sidecar are scanned alike in two orders. -/
theorem scan_readName_eq_of_perm_film :
    ∃ playlist sidecar film : FoundFile,
      playlist.path = "media/a.m3u" ∧ sidecar.path = "media/z.NFO" ∧ film.path = "media/z.mkv" ∧
      scan readName [playlist, sidecar, film] = scan readName [sidecar, playlist, film] ∧
      ⟨MediaItem.ofLocation film.path "video/x-matroska", some sidecar.path⟩ ∈
        scan readName [playlist, sidecar, film] := by
  let playlist : FoundFile := ⟨"media/a.m3u", .empty⟩
  let sidecar : FoundFile := ⟨"media/z.NFO", .empty⟩
  let film : FoundFile := ⟨"media/z.mkv", .empty⟩
  have hperm : [playlist, sidecar, film].Perm [sidecar, playlist, film] :=
    List.Perm.swap sidecar playlist [film]
  obtain ⟨hitems, -, -, hbeside, hall⟩ := scan_readName_eq_of_perm hperm (by decide +kernel)
  -- The film is found with either order, and the sidecar has its name.
  have hfilm : MediaItem.ofLocation film.path "video/x-matroska" ∈
      (scan readName [playlist, sidecar, film]).map (·.item) :=
    hitems.mem_iff.2 (by decide +kernel)
  obtain ⟨s, hs, hitem⟩ := List.mem_map.1 hfilm
  have hsidecar : s.sidecar = some sidecar.path := by
    rw [hbeside s hs, hitem]
    decide +kernel
  refine ⟨playlist, sidecar, film, rfl, rfl, rfl, hall fun s _ => ?_, ?_⟩
  · -- There is one sidecar in all.
    exact Nat.le_trans (List.length_filter_le _ _) (by decide +kernel)
  · rwa [← hitem, ← hsidecar]

/-- Two sidecars beside one film: which of them counts is told by the order of the files. -/
theorem order_of_sidecars_shows :
    ¬ ∀ files files' : List FoundFile, files.Perm files' → (files.map (·.path)).Nodup →
      scan readName files = scan readName files' := by
  let film : FoundFile := ⟨"media/a.mkv", .empty⟩
  let upper : FoundFile := ⟨"media/a.NFO", .empty⟩
  let lower : FoundFile := ⟨"media/a.nfo", .empty⟩
  intro h
  have hsame : scan readName [film, upper, lower] = scan readName [film, lower, upper] := by
    apply h
    · exact (List.Perm.swap lower upper []).cons film
    · decide +kernel
  have hfilm : MediaItem.ofLocation "media/a.mkv" "video/x-matroska" ∈
      (scan readName [film, upper, lower]).map (·.item) :=
    (items_scan_readName_perm _).mem_iff.2 (by decide +kernel)
  obtain ⟨s, hs, hitem⟩ := List.mem_map.1 hfilm
  -- Each order tells another sidecar of the film.
  have hlast := sidecar_of_mem_scan_readName hs
  have hfirst := sidecar_of_mem_scan_readName (hsame ▸ hs)
  rw [hlast, hitem] at hfirst
  exact absurd hfirst (by decide +kernel)

end MediaShelves.Scan
