import MediaShelves.Proofs.Playlist.Entries
import MediaShelves.Proofs.Playlist.Numbering
import MediaShelves.Proofs.Playlist.Places
import MediaShelves.Shelves.Refusing

/-!
# Positions in the folders of a playlist

The entries of a playlist are placed on shelves that refuse some items.  The labels in its folders
tell all that happens (`Catalog.Received`): each folder gets what it accepts of the items that find a
place, and nothing else changes.

Main statement: the items of a playlist end up in position
(`Catalog.playlist_entries_in_position`).
-/

namespace MediaShelves

namespace Catalog

open Playlist

/-! ## On shelves that refuse items -/

/-- A catalog in front of which some items are refused. -/
abbrev refusing (c : Catalog) (refuses : MediaItem → Bool) : Refusing Catalog :=
  ⟨c, refuses⟩

section

variable (c : Catalog) (refuses : MediaItem → Bool)

theorem openTrail_refusing (t : Trail) :
    Shelves.openTrail t (c.refusing refuses) =
      ((Catalog.openTrail t c).1, (Catalog.openTrail t c).2.refusing refuses) := rfl

variable {refuses} {x : MediaItem}

theorem place_refused (hx : refuses x = true) (folder : NodeId) (hint : Option String) :
    Shelves.place x folder hint (c.refusing refuses) = (none, c.refusing refuses) :=
  if_pos hx

theorem place_accepted (hx : refuses x = false) (folder : NodeId) (hint : Option String) :
    Shelves.place x folder hint (c.refusing refuses) =
      ((Shelves.place x folder hint c).1, (Shelves.place x folder hint c).2.refusing refuses) :=
  if_neg (Bool.eq_false_iff.1 hx)

end

/-- Some folders of a catalog received items: what they accepted of these, and nothing else. -/
structure Received (refuses : MediaItem → Bool) (folders : List (List String))
    (xs : List MediaItem) (c c' : Catalog) : Prop where
  consistent : c'.Consistent
  items : ∀ i r, c.item? i = some r → c'.item? i = some r
  files : c'.fileIndex = c.fileIndex
  labelsAt : c'.labelsAt = xs.foldl (holding refuses folders) c.labelsAt

section

variable {refuses : MediaItem → Bool} {folders : List (List String)} {c c' : Catalog}

/-- What folders received in two goes they have received. -/
theorem Received.trans {xs ys : List MediaItem} {c'' : Catalog}
    (h : Received refuses folders xs c c') (h' : Received refuses folders ys c' c'') :
    Received refuses folders (xs ++ ys) c c'' where
  consistent := h'.consistent
  items i r hr := h'.items i r (h.items i r hr)
  files := h'.files.trans h.files
  labelsAt := by
    rw [h'.labelsAt, h.labelsAt, List.foldl_append]

/-- Files that are known stay known, and no other ones become so. -/
theorem Received.canonical? {xs : List MediaItem} (h : Received refuses folders xs c c')
    (hc : c.Consistent) : Shelves.canonical? c' = Shelves.canonical? c := by
  funext location
  exact congrArg (Option.map _) (hc.file?_of_items h.items h.files location)

variable (h : c.Consistent)

include h

/-- An item that is refused is looked for in its folder, which is there from then on. -/
theorem Consistent.placeBelow_refused {x : MediaItem} (hx : refuses x = true) {t : Trail}
    (ht : t ≠ []) :
    placeBelow x t (c.refusing refuses) =
      ((none, (c.labelsAt t.titles).any (·.clashes x.label)),
        (Catalog.openTrail t c).2.refusing refuses) := by
  obtain ⟨i, hfst, hi⟩ := h.exists_openTrail ht
  have hplaced : (Shelves.placed? ((Catalog.openTrail t c).2.refusing refuses) x i).isSome =
      (c.labelsAt t.titles).any (·.clashes x.label) := by
    rw [← h.labelsAt_openTrail t, labelsAt, Catalog.nodeAt?, if_neg (mt Trail.titles_eq_nil.1 ht)]
    rw [Trail.path] at hi
    rw [hi]
    exact isSome_placed? (Catalog.openTrail t c).2 x i
  simp only [placeBelow, openTrail_refusing, hfst, place_refused _ hx, hplaced]

/-- An item that is accepted is placed as on the catalog itself. -/
theorem Consistent.placeBelow_accepted {x : MediaItem} (hx : refuses x = false) {t : Trail}
    (ht : t ≠ []) :
    placeBelow x t (c.refusing refuses) =
      ((((⟨x, t, some UpnpClass.playlist⟩ : Placement).carryOut c).1, true),
        ((⟨x, t, some UpnpClass.playlist⟩ : Placement).carryOut c).2.refusing refuses) := by
  obtain ⟨i, hfst, -⟩ := h.exists_openTrail ht
  have hopen : Shelves.openTrail t c = (some i, (Catalog.openTrail t c).2) := Prod.ext hfst rfl
  -- On the catalog itself the item is there afterwards, whether it is new or not.
  have hcatalog := h.placeBelow_eq x ht
  simp only [placeBelow, Placement.carryOut, openTrail_refusing, hopen, hfst,
    place_accepted _ hx] at hcatalog ⊢
  generalize Shelves.place x i (some UpnpClass.playlist) (Catalog.openTrail t c).2 = r at hcatalog ⊢
  obtain ⟨added, c'⟩ := r
  cases added with
  | some added => rfl
  | none =>
    simp only [Prod.mk.injEq] at hcatalog
    exact Prod.ext (Prod.ext rfl hcatalog.1.2) rfl

/-- An item that is placed in one folder lands as it says, and nothing else is received. -/
theorem Consistent.placeBelow_refusing (refuses : MediaItem → Bool) (x : MediaItem) {t : Trail}
    (ht : t ≠ []) :
    ∃ c', (placeBelow x t (c.refusing refuses)).2 = c'.refusing refuses ∧
      (placeBelow x t (c.refusing refuses)).1.2 = lands refuses [t.titles] c.labelsAt x ∧
      Received refuses [t.titles] [x] c c' := by
  -- A refused item leaves the folders of the trail behind, an accepted one its placement.
  cases hx : refuses x with
  | true =>
    rw [h.placeBelow_refused hx ht]
    refine ⟨(Catalog.openTrail t c).2, rfl, ?_, h.openTrail t, ?_, fileIndex_openTrail t c, ?_⟩
    · simp [lands, hx]
    · intro i r hr
      exact (item?_openTrail t c i).trans hr
    · rw [List.foldl_cons, List.foldl_nil, holding_of_refused hx]
      funext ts
      exact h.labelsAt_openTrail t ts
  | false =>
    obtain ⟨hitems, hfiles⟩ := h.placement_items ⟨x, t, some UpnpClass.playlist⟩
    rw [h.placeBelow_accepted hx ht]
    refine ⟨_, rfl, ?_, h.placement _, hitems, hfiles, ?_⟩
    · rw [lands_of_accepted hx]
      rfl
    · rw [List.foldl_cons, List.foldl_nil]
      funext ts
      rw [h.labelsAt_placement, holding]
      simp [ht, hx, eq_comm]

end

/-- An item that is placed in all folders lands if one of them has it, and each has received it. -/
theorem Consistent.placeBelowAll_refusing {c : Catalog} (h : c.Consistent)
    (refuses : MediaItem → Bool) (x : MediaItem) {trails : List Trail}
    (htrails : ∀ t ∈ trails, t ≠ []) :
    ∃ c', (placeBelowAll x trails (c.refusing refuses)).2 = c'.refusing refuses ∧
      (placeBelowAll x trails (c.refusing refuses)).1.2 =
        lands refuses (trails.map Trail.titles) c.labelsAt x ∧
      Received refuses (trails.map Trail.titles) [x] c c' := by
  induction trails generalizing c with
  | nil =>
    refine ⟨c, rfl, rfl, h, fun i r hr => hr, rfl, ?_⟩
    funext ts
    simp [holding]
  | cons t trails ih =>
    obtain ⟨ht, htrails⟩ := List.forall_mem_cons.1 htrails
    obtain ⟨d, hd, hhere, hfirst⟩ := h.placeBelow_refusing refuses x ht
    obtain ⟨c', hc', hthere, hrest⟩ := ih hfirst.consistent htrails
    -- The other folders come after the first one has received the item.
    have hlabels : d.labelsAt = holding refuses [t.titles] c.labelsAt x := hfirst.labelsAt
    rw [placeBelowAll]
    simp only [hd, hhere]
    refine ⟨c', hc', ?_, hrest.consistent, ?_, hrest.files.trans hfirst.files, ?_⟩
    · rw [hthere, hlabels]
      exact (lands_cons t.titles c.labelsAt x).symm
    · intro i r hr
      exact hrest.items i r (hfirst.items i r hr)
    · rw [hrest.labelsAt, hlabels]
      exact (holding_cons t.titles c.labelsAt x).symm

/-- **Placing entries** puts the items of those that find a place into the folders. -/
theorem Consistent.placeEntries_refusing {c : Catalog} (h : c.Consistent)
    (refuses : MediaItem → Bool) (playlist : MediaItem) (f : Format) {trails : List Trail}
    (htrails : ∀ t ∈ trails, t ≠ []) (next : Nat) (entries : List Entry) :
    ∃ c', (placeEntries playlist f trails next entries (c.refusing refuses)).2 =
        c'.refusing refuses ∧
      Received refuses (trails.map Trail.titles)
        (placed refuses (trails.map Trail.titles) (entryItem? (Shelves.canonical? c) playlist f)
          c.labelsAt next entries) c c' := by
  -- What the folders hold and which number is next are carried along the entries.
  induction entries generalizing c next with
  | nil => exact ⟨c, rfl, h, fun i r hr => hr, rfl, rfl⟩
  | cons e entries ih =>
    have hknown : Shelves.canonical? (c.refusing refuses) = Shelves.canonical? c := rfl
    rw [placeEntries, placed, hknown]
    cases hx : entryItem? (Shelves.canonical? c) playlist f e with
    | none => exact ih h next
    | some x =>
      dsimp only
      obtain ⟨d, hd, hlands, hfirst⟩ := h.placeBelowAll_refusing refuses
        { x with playlistOrder := some (e.order.getD next) } htrails
      simp only [hd, hlands]
      have hlabels := hfirst.labelsAt
      rw [List.foldl_cons, List.foldl_nil] at hlabels
      split
      · -- The item found a place, and its number is taken.
        obtain ⟨c', hc', hrest⟩ := ih hfirst.consistent (next + 1)
        rw [hfirst.canonical? h, hlabels] at hrest
        exact ⟨c', hc', hfirst.trans hrest⟩
      · -- It did not, so the folders hold what they held.
        rename_i hnot
        obtain ⟨c', hc', hrest⟩ := ih hfirst.consistent next
        rw [holding_of_not_lands (Bool.eq_false_iff.2 hnot)] at hlabels
        rw [hfirst.canonical? h, hlabels] at hrest
        have hnothing : Received refuses (trails.map Trail.titles) [] c d :=
          ⟨hfirst.consistent, hfirst.items, hfirst.files, hlabels⟩
        exact ⟨c', hc', hnothing.trans hrest⟩

/-! ## Positions -/

/-- Whether an item lies at some titles at its position. -/
def Holds (c : Catalog) (ts : List String) (y : MediaItem) : Prop :=
  ∃ i, c.nodeAt? ts = some i ∧ ∃ r ∈ c.itemsIn i,
    r.item.identity = y.identity ∧ r.item.playlistOrder = y.playlistOrder

/-- Whether an item lies in a folder is told by the labels there. -/
theorem holds_iff {c : Catalog} {ts : List String} {y : MediaItem} :
    c.Holds ts y ↔ (c.labelsAt ts).any (·.clashes y.label) = true := by
  unfold Holds labelsAt
  cases c.nodeAt? ts with
  | none => simp
  | some i =>
    simp only [Option.some.injEq, exists_eq_left', Option.map_some, Option.getD_some, labelsIn,
      List.any_map, List.any_eq_true]
    exact exists_congr fun r => and_congr_right fun _ => decide_eq_true_iff.symm

/--
Items of a playlist in position.  Whatever was accepted lies in all folders, whatever found a place in
one of them, and what lay there before does so still.  In their order the folders got the items that
were accepted, each at most once at its position, and no item came anywhere else.
-/
structure InPosition (refuses : MediaItem → Bool) (folders : List (List String))
    (found : List MediaItem) (c c' : Catalog) : Prop where
  accepted : ∀ y ∈ found, refuses y = false → ∀ ts ∈ folders, c'.Holds ts y
  placed : ∀ y ∈ found, ∃ ts ∈ folders, c'.Holds ts y
  stays : ∀ ts y, c.Holds ts y → c'.Holds ts y
  labelsAt : ∀ ts, c'.labelsAt ts =
    if ts ∈ folders then
      ((found.filter fun y => !refuses y).map MediaItem.label).foldl Label.addTo (c.labelsAt ts)
    else c.labelsAt ts
  items : ∀ i r, c.item? i = some r → c'.item? i = some r
  canonical? : Shelves.canonical? c' = Shelves.canonical? c

/-- **What the folders received lies in position.** -/
theorem Received.inPosition {refuses : MediaItem → Bool} {folders : List (List String)}
    {c c' : Catalog} {resolved? : Entry → Option MediaItem} {next : Nat} {entries : List Entry}
    (h : Received refuses folders
      (Playlist.placed refuses folders resolved? c.labelsAt next entries) c c')
    (hc : c.Consistent) :
    InPosition refuses folders
      (Playlist.placed refuses folders resolved? c.labelsAt next entries) c c' where
  -- All four are about which labels are held, and these are told by the fold.
  accepted y hy haccepted ts hts := by
    rw [holds_iff, h.labelsAt]
    exact (any_of_mem_placed hy).2 haccepted ts hts
  placed y hy := by
    obtain ⟨ts, hts, hany⟩ := (any_of_mem_placed hy).1
    refine ⟨ts, hts, ?_⟩
    rw [holds_iff, h.labelsAt]
    exact hany
  stays ts y hy := by
    rw [holds_iff] at hy ⊢
    rw [h.labelsAt]
    exact any_foldl_holding _ hy
  labelsAt ts := by
    rw [h.labelsAt, foldl_holding]
  items := h.items
  canonical? := h.canonical? hc

/--
Items of a playlist that gives no positions.  They are numbered from 1 on, one that was refused was
there before, and each folder got exactly what it accepts and did not hold yet.
-/
structure InOrder (refuses : MediaItem → Bool) (folders : List (List String))
    (found : List MediaItem) (c c' : Catalog) : Prop where
  numbers : found.map (·.playlistOrder) = (List.range' 1 found.length).map some
  refused : ∀ y ∈ found, refuses y = true → ∃ ts ∈ folders, c.Holds ts y
  added : ∀ ts ∈ folders, c'.labelsAt ts = c.labelsAt ts ++
    ((found.filter fun y => !refuses y).map MediaItem.label).filter fun l =>
      !(c.labelsAt ts).any (·.clashes l)

/-- Items in position are in order where they are numbered one by one. -/
theorem InPosition.inOrder {refuses : MediaItem → Bool} {folders : List (List String)}
    {found : List MediaItem} {c c' : Catalog} (h : InPosition refuses folders found c c')
    (hnumbers : found.map (·.playlistOrder) = (List.range' 1 found.length).map some) :
    InOrder refuses folders found c c' := by
  have hnodup := nodup_playlistOrder hnumbers
  have hadded (ts : List String) (hts : ts ∈ folders) :
      c'.labelsAt ts = c.labelsAt ts ++
        ((found.filter fun y => !refuses y).map MediaItem.label).filter fun l =>
          !(c.labelsAt ts).any (·.clashes l) := by
    rw [h.labelsAt, if_pos hts]
    -- The numbers differ, so that no item is in the way of another one.
    apply Label.foldl_addTo_of_pairwise
    exact (pairwise_labels hnodup).sublist (List.filter_sublist.map _)
  refine ⟨hnumbers, ?_, hadded⟩
  intro y hy hrefused
  obtain ⟨ts, hts, hholds⟩ := h.placed y hy
  refine ⟨ts, hts, ?_⟩
  rw [holds_iff] at hholds ⊢
  rw [hadded ts hts, List.any_append, Bool.or_eq_true] at hholds
  rcases hholds with hbefore | hnew
  · exact hbefore
  · -- What was added with the number of `y` would be `y` itself, which was refused.
    obtain ⟨l, hl, hclash⟩ := List.any_eq_true.1 hnew
    obtain ⟨z, hz, rfl⟩ := List.mem_map.1 (List.mem_filter.1 hl).1
    obtain ⟨hz, haccepted⟩ := List.mem_filter.1 hz
    have horder : z.playlistOrder = y.playlistOrder := (of_decide_eq_true hclash).2
    have hsame : z = y := List.inj_on_of_nodup_map hnodup hz hy horder
    rw [hsame, hrefused] at haccepted
    cases haccepted

/--
**The entries of a playlist get their positions.**  On shelves in any state that refuse any items, a
playlist is shelved if its boxes are there.  Its folders are those of its axes, and of its entries those
are found that resolve and that one of the folders accepts or holds at its position already.  The items
of these end up in position.  Where the format gives no positions these are 1, 2, 3 and so on.
Otherwise each item has the number of the field that its location stands in.
-/
theorem playlist_entries_in_position (before : List Request) (refuses : MediaItem → Bool)
    (conf : Configuration) (x : MediaItem) (content : String) {f : Format}
    (hformat : Format.ofMimetype? x.mimetype = some f)
    (hboxes : ∀ key ∈ boxKeys, (conf.boxes.find? key).isSome) :
    let c := run before empty
    let entries := (f.entries? content).getD []
    ∃ (folders : List (List String)) (resolved? : Entry → Option MediaItem),
      (folders.Nodup ∧ ∀ ts, ts ∈ folders ↔ PlaylistLeaf conf x ts) ∧
      (∀ e y, resolved? e = some y ↔ Resolves (Shelves.canonical? c) x f e y) ∧
      ∃ found, found = Playlist.placed refuses folders resolved? c.labelsAt 1 entries ∧
        ∃ ids c', Playlist.shelve conf x content (c.refusing refuses) =
            (.ok ids, c'.refusing refuses) ∧
          InPosition refuses folders found c c' ∧
          (f ≠ .pls → InOrder refuses folders found c c') ∧
          (f = .pls → ∀ y ∈ found, ∃ e ∈ entries, ∃ z, Resolves (Shelves.canonical? c) x f e z ∧
            ∃ lines line field, TextLines content lines ∧ line ∈ lines ∧ Pls.Spells line field ∧
              field.name = .file ∧ e.location = String.ofList field.value ∧
              y = { z with playlistOrder := some field.index }) := by
  intro c entries
  have hc : c.Consistent := consistent_empty.run before
  have hselect : conf.boxes.select boxKeys = .ok ⟨conf.boxes, hboxes⟩ := BoxTable.select_eq hboxes
  have hne : ∀ t ∈ trails ⟨conf.boxes, hboxes⟩ x, t ≠ [] := fun t ht => ne_nil_of_mem_trails ht
  obtain ⟨c', hc', hreceived⟩ := hc.placeEntries_refusing refuses x f hne 1 entries
  have hposition := hreceived.inPosition hc
  -- What the shelves have received says all: the rest is where each entry comes from.
  refine ⟨(trails ⟨conf.boxes, hboxes⟩ x).map Trail.titles,
    entryItem? (Shelves.canonical? c) x f, ⟨nodup_titles_trails rfl, fun ts =>
      mem_titles_trails_iff rfl⟩, fun e y => entryItem?_eq_some_iff, _, rfl,
    (placeEntries x f (trails ⟨conf.boxes, hboxes⟩ x) 1 entries (c.refusing refuses)).1, c', ?_,
    hposition, ?_, ?_⟩
  · simp only [Playlist.shelve, hformat, hselect]
    exact Prod.ext rfl hc'
  · intro hf
    exact hposition.inOrder (map_playlistOrder_placed (f.order_entries hf content))
  · rintro rfl y hy
    obtain ⟨e, he, z, number, hz, rfl⟩ := exists_entry_of_mem_placed hy
    obtain ⟨lines, hlines⟩ := exists_textLines content
    obtain ⟨line, hline, field, hspells, hname, horder, hlocation⟩ := Pls.exists_field hlines he
    refine ⟨e, he, z, entryItem?_eq_some_iff.1 hz, lines, line, field, hlines, hline, hspells, hname,
      hlocation, ?_⟩
    rw [horder]
    rfl

/--
Of five entries the second is refused and the third is not known: they take no number, and the address
that comes again is placed again.
-/
theorem playlist_entries_in_position_refused :
    ∃ (conf : Configuration) (ids : List NodeId) (c' : Catalog),
      Playlist.shelve conf (MediaItem.ofLocation "/music/mix.m3u" "audio/x-mpegurl")
          "http://a/1\nhttp://a/2\nmissing.mp3\nb.mp3\nhttp://a/1"
          ((run [.register (MediaItem.ofLocation "/music/b.mp3" "audio/mpeg")] empty).refusing
            fun y => y.location == "http://a/2") =
        (.ok ids, c'.refusing fun y => y.location == "http://a/2") ∧
      ∀ ts ∈ [["Playlists", "All Playlists", "mix"], ["Playlists", "Directories", "music", "mix"]],
        c'.labelsAt ts =
          [⟨.address "http://a/1", some 1, "http://a/1"⟩, ⟨.canonical 1, some 2, "b.mp3"⟩,
            ⟨.address "http://a/1", some 3, "http://a/1"⟩] := by
  obtain ⟨conf, hconf⟩ := Configuration.exists_ofBoxes BoxTable.builtin
  have hboxes : ∀ key ∈ boxKeys, (conf.boxes.find? key).isSome := by
    rw [hconf]
    decide +kernel
  obtain ⟨folders, resolved?, ⟨-, hfolders⟩, hresolved, found, hfound, ids, c', hshelve, hposition, -⟩ :=
    playlist_entries_in_position [.register (MediaItem.ofLocation "/music/b.mp3" "audio/mpeg")]
      (fun y => y.location == "http://a/2") conf
      (MediaItem.ofLocation "/music/mix.m3u" "audio/x-mpegurl")
      "http://a/1\nhttp://a/2\nmissing.mp3\nb.mp3\nhttp://a/1"
      (show Format.ofMimetype? "audio/x-mpegurl" = some .m3u by decide +kernel) hboxes
  refine ⟨conf, ids, c', hshelve, ?_⟩
  -- Two folders receive the entries, one on each axis, and nothing lies in them before.
  have hleaves (ts : List String) : ts ∈ folders ↔
      ts ∈ [["Playlists", "All Playlists", "mix"],
        ["Playlists", "Directories", "music", "mix"]] := by
    have htrails : (trails ⟨BoxTable.builtin, by decide +kernel⟩
        (MediaItem.ofLocation "/music/mix.m3u" "audio/x-mpegurl")).map Trail.titles =
        [["Playlists", "All Playlists", "mix"], ["Playlists", "Directories", "music", "mix"]] := by
      decide +kernel
    rw [hfolders, ← htrails]
    exact (mem_titles_trails_iff hconf.symm).symm
  have hbefore : (run [.register (MediaItem.ofLocation "/music/b.mp3" "audio/mpeg")] empty).labelsAt =
      fun _ => [] := by
    funext ts
    exact (consistent_empty.labelsAt_register _ ts).trans (labelsAt_empty ts)
  have hfunction : resolved? = entryItem?
      (Shelves.canonical? (run [.register (MediaItem.ofLocation "/music/b.mp3" "audio/mpeg")] empty))
      (MediaItem.ofLocation "/music/mix.m3u" "audio/x-mpegurl") .m3u := by
    funext e
    exact Option.ext fun y => (hresolved e y).trans entryItem?_eq_some_iff.symm
  rw [placed_congr hleaves, hbefore, hfunction] at hfound
  intro ts hts
  rw [hposition.labelsAt, if_pos ((hleaves ts).2 hts), hfound, hbefore]
  beta_reduce
  decide +kernel

end Catalog

end MediaShelves
