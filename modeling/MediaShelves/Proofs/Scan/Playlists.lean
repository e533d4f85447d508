import MediaShelves.Proofs.Catalog.Copies
import MediaShelves.Proofs.Playlist.Folders
import MediaShelves.Proofs.Scan.Order
import MediaShelves.Proofs.Scan.Registration

/-!
# Playlists in a scan

Playlists come last in a scan.  So all media that it finds are known when a playlist is shelved, and
an entry that points to one of them is placed, whatever the files are called and wherever they lie.

Main statement: `playlists_see_scanned_media`.
-/

namespace MediaShelves

namespace Playlist

variable {conf : Configuration} {x : MediaItem}

/-! ## Entries that are found -/

/-- Whether an entry of a playlist points to an address, or to one of some files. -/
def isFound (known : List String) (directory : String) (e : Entry) : Bool :=
  match Target.ofLocation e.location directory with
  | .address _ => true
  | .file path => path ∈ known

theorem isSome_entryItem? {known? : String → Option MediaItem} {known : List String}
    (hknown : ∀ l, (known? l).isSome ↔ l ∈ known) (f : Format) (e : Entry) :
    (entryItem? known? x f e).isSome = isFound known (directoryOf x.location) e := by
  rw [entryItem?, isFound]
  cases Target.ofLocation e.location (directoryOf x.location) with
  | address url => rfl
  | file path =>
    rw [Option.isSome_map, Bool.eq_iff_iff, decide_eq_true_iff]
    exact hknown path

/-- An entry that points to a file that is known becomes a reference to it. -/
theorem entryItem?_of_file? {c : Catalog} {l : String} {s : StoredItem} (hs : c.file? l = some s)
    {e : Entry} (he : Target.ofLocation e.location (directoryOf x.location) = .file l)
    (f : Format) :
    entryItem? (Shelves.canonical? c) x f e = some (s.item.titled s.item.knownTitle) := by
  have hcanonical : Shelves.canonical? c l = some s.item := congrArg (Option.map _) hs
  rw [entryItem?, he]
  exact congrArg (Option.map fun x => x.titled x.knownTitle) hcanonical

/-- A playlist that is shelved has each of its entries that is known in all of its folders. -/
theorem fulfils_entry {c c' : Catalog} (h : c.Consistent) {f : Format}
    (hformat : Format.ofMimetype? x.mimetype = some f) {content : String} {ids : List NodeId}
    (hok : Playlist.shelve conf x content c = (.ok ids, c')) {before after : List Entry} {e : Entry}
    (hentries : (f.entries? content).getD [] = before ++ e :: after) {y : MediaItem}
    (hy : entryItem? (Shelves.canonical? c) x f e = some y) {ts : List String}
    (hts : PlaylistLeaf conf x ts) :
    ∃ t : Trail, t ≠ [] ∧ t.titles = ts ∧
      c'.Fulfils ⟨{ y with playlistOrder := some (e.order.getD (1 + before.countP fun d =>
        (entryItem? (Shelves.canonical? c) x f d).isSome)) }, t, some UpnpClass.playlist⟩ := by
  rw [h.shelve_eq, Playlist.plan, hformat] at hok
  simp only at hok
  split at hok
  · cases hok
  · rename_i boxes hboxes
    cases hok
    have htrails := (mem_titles_trails_iff (BoxTable.table_of_select hboxes)).2 hts
    obtain ⟨t, ht, rfl⟩ := List.mem_map.1 htrails
    refine ⟨t, ne_nil_of_mem_trails ht, rfl, h.fulfils_plan _ _ ?_⟩
    rw [hentries]
    exact mem_numbered ht hy before after 1

end Playlist

/-! ## Scans -/

namespace Catalog.IsFileOf

variable {r : StoredItem} {x : MediaItem} (h : IsFileOf r x)

include h

/-- A file that is a playlist is shelved as one. -/
theorem importItem_eq_shelve {f : Playlist.Format}
    (hformat : Playlist.Format.ofMimetype? x.mimetype = some f) {read : String → Option String}
    {content : String} (hcontent : read x.location = some content) (conf : Configuration)
    (o : Origin) (c : Catalog) :
    conf.importItem read o r.item c = Playlist.shelve conf r.item content c := by
  rw [Configuration.importItem, h.mimetype, hformat, h.location, hcontent]
  rfl

/-- What is placed for a file that refers to no other one refers to the file. -/
theorem refersTo_placed (hx : x.refersTo = none) (title : String) :
    (r.item.titled title).refersTo = some r.id := by
  rw [refersTo_titled, h.refersTo, hx, h.id]
  rfl

end Catalog.IsFileOf

namespace Scan

open Catalog Playlist

/-- Media come before playlists. -/
theorem mem_before_of_not_playlist {files : List FoundFile}
    (hpaths : (files.map (·.path)).Nodup) {before after : List ScannedFile} {p m : ScannedFile}
    (hscan : scan readName files = before ++ p :: after) (hp : isPlaylist p.item = true)
    (hm : m ∈ scan readName files) (hmedia : isPlaylist m.item = false) : m ∈ before := by
  have hprecedes := pairwise_precedes_scan hpaths
  rw [hscan] at hm hprecedes
  rw [List.mem_append, List.mem_cons] at hm
  rcases hm with hm | rfl | hm
  · exact hm
  · rw [hp] at hmedia
    cases hmedia
  · -- What comes after a playlist is a playlist.
    rw [List.map_append, List.map_cons, List.pairwise_append] at hprecedes
    have hafter := List.rel_of_pairwise_cons hprecedes.2.1 (List.mem_map_of_mem hm)
    rcases hafter with ⟨hkind, -⟩ | ⟨hkind, -⟩
    · rw [hp] at hkind
      cases hkind
    · rw [hp, hmedia] at hkind
      cases hkind

/-- What is scanned by names stands for itself. -/
theorem refersTo_of_mem_scan {files : List FoundFile} {s : ScannedFile}
    (hs : s ∈ scan readName files) : s.item.refersTo = none := by
  obtain ⟨f, -, -, hrefers⟩ := inPlace_readName.exists_of_mem_scan hs
  exact hrefers

/--
**Playlists see the media that are scanned.**  A scan by names of files with different paths, in
whatever order they come, is imported into an empty catalog.  Then each entry of a playlist that
points to one of the media lies in every folder of that playlist, once at its position: the one that
the playlist gives it, or else the next one after those of the entries before it that are found.
-/
theorem playlists_see_scanned_media {files : List FoundFile}
    (hpaths : (files.map (·.path)).Nodup) {j : Job} {c : Catalog} {sum : Summary}
    (hok : j.importFiles (scan readName files) Catalog.empty = .ok (c, sum))
    {before after : List ScannedFile} {p : ScannedFile}
    (hscan : scan readName files = before ++ p :: after) {f : Format}
    (hformat : Format.ofMimetype? p.item.mimetype = some f) {content : String}
    (hcontent : j.text? p.item.location = some content) :
    ∃ r, c.file? p.item.location = some r ∧
      ∀ (entries : List Entry) (e : Entry) (rest : List Entry),
        (f.entries? content).getD [] = entries ++ e :: rest →
        ∀ m ∈ scan readName files, isPlaylist m.item = false →
          Target.ofLocation e.location (directoryOf p.item.location) = .file m.item.location →
          ∃ s, c.file? m.item.location = some s ∧ ∀ ts, PlaylistLeaf j.configuration r.item ts →
            ∃ g, c.findFolder? ts = some g ∧
              (c.copiesIn g.id s.id (some (e.order.getD (1 + entries.countP
                (isFound (locations (before ++ [p])) (directoryOf p.item.location)))))).length =
                  1 := by
  have hnodup : (locations (scan readName files)).Nodup := nodup_locations_scan hpaths
  have hscanned := hok
  rw [hscan] at hnodup hscanned
  obtain ⟨d, r, ids, d', hd, hr, hfile, himport, hd', hgrows, hc, hsame⟩ :=
    Job.exists_shelving hnodup hscanned
  rw [hfile.importItem_eq_shelve hformat hcontent] at himport
  refine ⟨r, ?_, ?_⟩
  · rw [hsame _ (location_mem_locations (by simp))]
    exact hr
  intro entries e rest hentries m hm hmedia htarget
  -- All media are known by then.
  have hplaylist : isPlaylist p.item = true := Option.isSome_iff_exists.2 ⟨f, hformat⟩
  have hbefore : m ∈ before ++ [p] :=
    List.mem_append_left _ (mem_before_of_not_playlist hpaths hscan hplaylist hm hmedia)
  obtain ⟨s, hs, hself⟩ := hd.file m hbefore
  refine ⟨s, ?_, ?_⟩
  · rw [hsame _ (location_mem_locations hbefore)]
    exact hs
  intro ts hts
  rw [← hfile.mimetype] at hformat
  rw [← hfile.location] at htarget
  obtain ⟨t, ht, rfl, hfulfils⟩ := fulfils_entry hd.consistent hformat himport hentries
    (entryItem?_of_file? hs htarget f) hts
  have hrefers : (s.item.titled s.item.knownTitle).refersTo = some s.id :=
    hself.refersTo_placed (refersTo_of_mem_scan hm) _
  -- What was placed then is still there in the end.
  obtain ⟨g, hg, hcopies⟩ :=
    hc.exists_copy_of_fulfils ht hrefers (hfulfils.mono hd' hc hgrows)
  refine ⟨g, hg, ?_⟩
  have hknown (l : String) :
      (Shelves.canonical? d l).isSome ↔ l ∈ locations (before ++ [p]) := by
    rw [← hd.isSome_iff]
    exact Bool.eq_iff_iff.1 Option.isSome_map
  simp only [isSome_entryItem? hknown, hfile.location] at hcopies
  exact hcopies

/-- A playlist lists an address and a song whose name sorts after its own. -/
theorem playlists_see_scanned_media_song :
    ∃ (j : Job) (c : Catalog) (sum : Summary) (r s : StoredItem) (g : StoredFolder),
      j.importFiles (scan readName [⟨"media/a.m3u", .empty⟩, ⟨"media/z.mp3", .empty⟩])
        Catalog.empty = .ok (c, sum) ∧
      j.text? "media/a.m3u" = some "http://a/1\nz.mp3" ∧
      c.file? "media/a.m3u" = some r ∧ c.file? "media/z.mp3" = some s ∧
      c.findFolder? ["Playlists", "All Playlists", titleOf r.item] = some g ∧
      (c.copiesIn g.id s.id (some 2)).length = 1 := by
  obtain ⟨conf, hconf⟩ := Configuration.exists_ofBoxes BoxTable.builtin
  have hboxes : conf.boxes.Complete := hconf ▸ BoxTable.complete_builtin
  let files : List FoundFile := [⟨"media/a.m3u", .empty⟩, ⟨"media/z.mp3", .empty⟩]
  let j : Job := ⟨conf, Origin.ofRoot "media", fun l =>
    if l = "media/a.m3u" then some "http://a/1\nz.mp3" else none⟩
  obtain ⟨c, sum, hok⟩ := Job.exists_importFiles_ok (j := j) hboxes (scan readName files) empty
  -- Both files are among those that are scanned.
  have hscanned {f : FoundFile} (hf : f ∈ files) {x : MediaItem} (hx : itemByName? f = some x) :
      ∃ s ∈ scan readName files, s.item = x :=
    List.mem_map.1 ((items_scan_readName_perm files).mem_iff.2 (List.mem_filterMap.2 ⟨f, hf, hx⟩))
  obtain ⟨p, hp, hpitem⟩ := hscanned (f := ⟨"media/a.m3u", .empty⟩) (List.mem_cons_self ..)
    (x := MediaItem.ofLocation "media/a.m3u" "audio/x-mpegurl") (by decide +kernel)
  obtain ⟨m, hm, hmitem⟩ := hscanned (f := ⟨"media/z.mp3", .empty⟩)
    (List.mem_cons_of_mem _ (List.mem_cons_self ..))
    (x := MediaItem.ofLocation "media/z.mp3" "audio/mpeg") (by decide +kernel)
  obtain ⟨before, after, hscan⟩ := List.append_of_mem hp
  have hpaths : (files.map (·.path)).Nodup := by
    decide +kernel
  have hcontent : j.text? p.item.location = some "http://a/1\nz.mp3" := by
    rw [hpitem]
    rfl
  obtain ⟨r, hr, hentry⟩ := playlists_see_scanned_media hpaths hok hscan (f := .m3u)
    (by rw [hpitem]; decide +kernel) hcontent
  have hentries : (Format.m3u.entries? "http://a/1\nz.mp3").getD [] =
      [Entry.ofLocation "http://a/1"] ++ Entry.ofLocation "z.mp3" :: [] := by
    decide +kernel
  obtain ⟨s, hs, hplaced⟩ := hentry _ _ _ hentries m hm (by rw [hmitem]; decide +kernel)
    (by rw [hpitem, hmitem]; decide +kernel)
  have hall : conf.boxes.isEnabled BoxKey.playlistAll = true := by
    rw [hconf]
    decide +kernel
  obtain ⟨g, hg, hcopies⟩ := hplaced _ (.all hall (FilePath.stem_iff.2 rfl))
  have htitles : conf.boxes.title BoxKey.playlistRoot = "Playlists" ∧
      conf.boxes.title BoxKey.playlistAll = "All Playlists" := by
    rw [hconf]
    decide +kernel
  rw [htitles.1, htitles.2] at hg
  rw [hpitem] at hr hcopies
  rw [hmitem] at hs
  -- The address before it took the first number.
  have hfound : isFound (locations (before ++ [p])) (directoryOf "media/a.m3u")
      (Entry.ofLocation "http://a/1") = true := by
    have haddress : Target.ofLocation "http://a/1" (directoryOf "media/a.m3u") =
        .address "http://a/1" := by
      decide +kernel
    rw [isFound, Entry.ofLocation, haddress]
  have hlocation :
      (MediaItem.ofLocation "media/a.m3u" "audio/x-mpegurl").location = "media/a.m3u" := rfl
  have horder : (Entry.ofLocation "z.mp3").order = none := rfl
  rw [hlocation, List.countP_singleton, hfound, if_pos rfl, horder, Option.getD_none] at hcopies
  exact ⟨j, c, sum, r, s, g, hok, rfl, hr, hs, hg, hcopies⟩

end Scan

end MediaShelves
