import MediaShelves.Proofs.Scan.Registration

/-!
# What sidecars change

A sidecar is read and laid over a copy of an item, and the catalog lays the copy over the item.  For
the item as the catalog has it this comes to laying the sidecar over it once: its title, its class
and its metadata may change, and nothing else in the catalog.

Main statement: `sidecar_revises_one_item`.
-/

namespace MediaShelves

/-! ## Laying over -/

theorem Keyed.overlay_self {α : Type} (t : Keyed α) : t.overlay t = t := by
  apply Keyed.ext_find?
  intro key
  rw [Keyed.find?_overlay, Option.or_self]

/-- What is laid over a table may be laid over it again. -/
theorem Metadata.overlay_overlay (m n : Metadata) : m.overlay (m.overlay n) = m.overlay n := by
  apply Metadata.ext
  apply Keyed.ext_find?
  intro key
  simp only [overlay, Keyed.find?_overlay, Option.or_assoc, Option.or_self]

theorem Metadata.overlay_overlay_right (m n : Metadata) :
    (m.overlay n).overlay n = m.overlay n := by
  apply Metadata.ext
  apply Keyed.ext_find?
  intro key
  rw [overlay, overlay, Keyed.find?_overlay, Keyed.find?_overlay, ← Option.or_assoc, Option.or_self]

/-- The keys of what is laid over have its values, and all other keys keep theirs. -/
theorem Metadata.find?_overlay (m n : Metadata) (key : String) :
    (m.overlay n).table.find? key =
      if n.contains key then n.table.find? key else m.table.find? key := by
  rw [overlay, Keyed.find?_overlay, contains, Keyed.contains]
  cases n.table.find? key <;> rfl

namespace Sidecar

/-- Telling the same again changes nothing. -/
theorem apply_apply (d : Sidecar) (x : MediaItem) : d.apply (d.apply x) = d.apply x := by
  simp only [apply, Metadata.overlay_overlay_right]
  congr 1
  · cases d.title <;> rfl
  · split <;> rfl

/-- The catalog lays over an item what was made of the item. -/
theorem reviseItem_apply (d : Sidecar) (x : MediaItem) :
    Catalog.reviseItem x (d.apply x) = d.apply x := by
  simp only [Catalog.reviseItem, apply, Metadata.overlay_overlay, Keyed.overlay_self]

end Sidecar

/-! ## Items know their ids -/

namespace Catalog

/-- Each item of the catalog carries its own id. -/
def KnowsIds (c : Catalog) : Prop :=
  ∀ i r, c.item? i = some r → r.item.id = some i

theorem knowsIds_empty : empty.KnowsIds := by
  intro i r hr
  rw [item?_empty] at hr
  cases hr

section

variable {c : Catalog} (h : c.KnowsIds)

include h

theorem KnowsIds.addFile (x : MediaItem) : (c.addFile x).2.KnowsIds := by
  intro i r hr
  rw [item?_addFile] at hr
  split at hr
  · cases hr
    rfl
  · exact h i r hr

theorem KnowsIds.addItem (parent : NodeId) (x : MediaItem) : (c.addItem parent x).2.KnowsIds := by
  intro i r hr
  rw [item?_addItem] at hr
  split at hr
  · cases hr
    rfl
  · exact h i r hr

theorem KnowsIds.changeItem (id : NodeId) {change : MediaItem → MediaItem}
    (hchange : ∀ x, (change x).id = x.id) : (c.changeItem id change).KnowsIds := by
  intro i r hr
  rw [item?_changeItem] at hr
  split at hr
  · obtain ⟨s, hs, rfl⟩ := Option.map_eq_some_iff.1 hr
    exact (hchange s.item).trans (h i s hs)
  · exact h i r hr

/-- No request takes an item its id. -/
theorem KnowsIds.apply (q : Request) : (q.apply c).KnowsIds := by
  cases q with
  | register x =>
    simp only [Request.apply, Catalog.register]
    split
    · exact h
    · exact h.addFile x
  | openTrail t =>
    -- Trails make folders and leave the items alone.
    intro i r hr
    exact h i r ((item?_openTrail t c i).symm.trans hr)
  | place x folder hint =>
    simp only [Request.apply, Catalog.place]
    split
    · have hhint : (c.changeFolder folder (hintFolder hint)).KnowsIds := h
      split
      · exact hhint
      · exact hhint.addItem folder x
    · exact h
  | revise x =>
    simp only [Request.apply, Catalog.revise]
    split
    · exact h
    · split
      · exact h
      · exact h.changeItem _ fun _ => rfl

theorem KnowsIds.run (qs : List Request) : (run qs c).KnowsIds := by
  induction qs generalizing c with
  | nil => exact h
  | cons q qs ih => exact ih (h.apply q)

end

/-! ## Items that are revised -/

/-- From `c` to `d` the item with an id became another one; nothing else changed. -/
structure Replaces (c d : Catalog) (i : NodeId) (y : MediaItem) : Prop where
  item : ∀ j, d.item? j = if j = i then (c.item? j).map fun r => { r with item := y } else c.item? j
  folderTable : d.folderTable = c.folderTable
  pathIndex : d.pathIndex = c.pathIndex
  fileIndex : d.fileIndex = c.fileIndex
  childTable : d.childTable = c.childTable
  nextId : d.nextId = c.nextId

section

variable {c d e : Catalog} {i : NodeId} {r : StoredItem} {y : MediaItem}

theorem replaces_changeItem {change : MediaItem → MediaItem} (hr : c.item? i = some r)
    (hchange : change r.item = y) : c.Replaces (c.changeItem i change) i y where
  item j := by
    rw [item?_changeItem]
    split
    · rename_i hji
      rw [hji, hr, Option.map_some, Option.map_some, hchange]
    · rfl
  folderTable := rfl
  pathIndex := rfl
  fileIndex := rfl
  childTable := rfl
  nextId := rfl

/-- An item that becomes what it is leaves the catalog as it is. -/
theorem replaces_self (hr : c.item? i = some r) : c.Replaces c i r.item where
  item j := by
    split
    · rename_i hji
      rw [hji, hr, Option.map_some]
    · rfl
  folderTable := rfl
  pathIndex := rfl
  fileIndex := rfl
  childTable := rfl
  nextId := rfl

/-- There is one catalog only that has the other item instead. -/
theorem Replaces.unique (hd : c.Replaces d i y) (he : c.Replaces e i y) : d = e := by
  have hitems : d.itemTable = e.itemTable := by
    apply Std.ExtTreeMap.ext_getElem?
    intro j
    exact (hd.item j).trans (he.item j).symm
  exact Catalog.ext (hd.folderTable.trans he.folderTable.symm) hitems
    (hd.pathIndex.trans he.pathIndex.symm) (hd.fileIndex.trans he.fileIndex.symm)
    (hd.childTable.trans he.childTable.symm) (hd.nextId.trans he.nextId.symm)

theorem Replaces.item?_eq (h : c.Replaces d i y) (hr : c.item? i = some r) :
    d.item? i = some { r with item := y } := by
  rw [h.item, if_pos rfl, hr, Option.map_some]

end

section

variable {c : Catalog} (h : c.Consistent)

include h

/-- What a catalog gives for a location is one of its items, and knows which one. -/
theorem Consistent.exists_canonical (hids : c.KnowsIds) {l : String} {x : MediaItem}
    (hx : Shelves.canonical? c l = some x) :
    ∃ i, c.item? i = some ⟨i, none, x⟩ ∧ x.id = some i ∧ c.fileIndex[l]? = some i := by
  obtain ⟨r, hr, rfl⟩ := Option.map_eq_some_iff.1 hx
  obtain ⟨i, hi, hitem⟩ := Option.bind_eq_some_iff.1 hr
  -- The index by location leads to the items without a parent only.
  obtain ⟨s, hs, hparent, hlocation⟩ := h.fileIndex_iff.1 hi
  obtain rfl : s = r := Option.some.inj (hs.symm.trans hitem)
  obtain ⟨id, parent, y⟩ := s
  obtain rfl : id = i := h.item_id hs
  obtain rfl : parent = none := hparent
  exact ⟨id, hs, hids id _ hs, hi⟩

end

/-- A request to revise an item that the catalog does not have is refused. -/
theorem revise_unknown {c : Catalog} {x : MediaItem} (hid : ∀ i ∈ x.id, c.item? i = none)
    (hindex : c.fileIndex[x.location]? = none) : Catalog.revise x c = (none, c) := by
  refine revise_of_none fun i hi => ?_
  rw [hindex, Option.or_none] at hi
  exact hid i hi

end Catalog

namespace Sidecar

open Catalog

/-- A sidecar of an item of the catalog is laid over this item. -/
theorem revise_known {c : Catalog} {i : NodeId} {parent : Option NodeId} {x : MediaItem}
    (hitem : c.item? i = some ⟨i, parent, x⟩) (hid : x.id = some i) {content : String} {d : Sidecar}
    (hd : ofText content = .ok d) :
    ∃ c', revise content x c = ([i], c') ∧ c.Replaces c' i (d.apply x) := by
  have happly : (d.apply x).id = some i := hid
  -- The item brings its id along, and the item with this id is the one revised.
  have hrevise : Catalog.revise (d.apply x) c =
      (some i, c.changeItem i fun old => reviseItem old (d.apply x)) :=
    revise_of_some (by rw [happly, Option.some_or]) (by simp [hitem])
  have hreplaces : c.Replaces (c.changeItem i fun old => reviseItem old (d.apply x)) i
      (d.apply x) :=
    replaces_changeItem hitem (reviseItem_apply d x)
  refine ⟨_, ?_, hreplaces⟩
  simp only [revise, hd]
  exact congrArg (fun r => (r.1.toList, r.2)) hrevise

/--
**A sidecar changes one item and nothing else.**  One that cannot be read, or that is about an item
the catalog does not have, changes nothing at all.  Otherwise the item gets the title that is told,
if there is one, the class of movies, if it is told to be one, and the metadata that is told, beside
what it had under other keys.  The same sidecar once more changes nothing.
-/
theorem sidecar_revises_one_item (rs : List Request) (content : String) (x : MediaItem) :
    (∀ e, ofText content = .error e → revise content x (run rs empty) = ([], run rs empty)) ∧
      ((∀ i ∈ x.id, (run rs empty).item? i = none) →
        Shelves.canonical? (run rs empty) x.location = none →
        revise content x (run rs empty) = ([], run rs empty)) ∧
      ∀ d, ofText content = .ok d → Shelves.canonical? (run rs empty) x.location = some x →
        ∃ i y c, revise content x (run rs empty) = ([i], c) ∧ x.id = some i ∧
          (run rs empty).item? i = some ⟨i, none, x⟩ ∧ (run rs empty).Replaces c i y ∧
          y = { x with
            title := d.title.getD x.title
            upnpClass := if d.subject = .movie then UpnpClass.movie else x.upnpClass
            metadata := y.metadata } ∧
          (∀ key, y.metadata.table.find? key =
            if d.metadata.contains key then d.metadata.table.find? key
            else x.metadata.table.find? key) ∧
          Shelves.canonical? c x.location = some y ∧ revise content y c = ([i], c) := by
  have hconsistent := consistent_empty.run rs
  have hids := knowsIds_empty.run rs
  generalize run rs empty = c at hconsistent hids ⊢
  refine ⟨?_, ?_, ?_⟩
  · intro e he
    simp only [revise, he]
  · intro hid hlocation
    -- The item is found neither by its id nor by its location.
    have hindex : c.fileIndex[x.location]? = none :=
      hconsistent.file?_eq_none_iff.1 (Option.map_eq_none_iff.1 hlocation)
    unfold revise
    split
    · rename_i d _
      have hrevise : Catalog.revise (d.apply x) c = (none, c) := revise_unknown hid hindex
      exact congrArg (fun r => (r.1.toList, r.2)) hrevise
    · rfl
  · intro d hd hx
    obtain ⟨i, hitem, hid, hindex⟩ := hconsistent.exists_canonical hids hx
    obtain ⟨c', hrevise, hreplaces⟩ := revise_known hitem hid hd
    have hitem' := hreplaces.item?_eq hitem
    refine ⟨i, d.apply x, c', hrevise, hid, hitem, hreplaces, rfl, ?_, ?_, ?_⟩
    · exact Metadata.find?_overlay x.metadata d.metadata
    · have hfile : c'.file? x.location = some ⟨i, none, d.apply x⟩ := by
        rw [file?, hreplaces.fileIndex, hindex, Option.bind_some, hitem']
      exact congrArg (Option.map _) hfile
    · -- The second time the item becomes what it is already.
      obtain ⟨c'', hrevise', hreplaces'⟩ := revise_known hitem' hid hd
      rw [apply_apply] at hreplaces'
      rw [hrevise', hreplaces'.unique (replaces_self hitem')]

/-- A film that is registered gets the title and the class that its sidecar tells. -/
theorem sidecar_revises_one_item_film :
    ∃ x y c,
      Shelves.canonical? (run [.register (MediaItem.ofLocation "/a.mkv" "video/x-matroska")] empty)
        "/a.mkv" = some x ∧
      revise "<movie><title>A</title></movie>" x
        (run [.register (MediaItem.ofLocation "/a.mkv" "video/x-matroska")] empty) = ([1], c) ∧
      Shelves.canonical? c "/a.mkv" = some y ∧ y.title = "A" ∧ y.upnpClass = UpnpClass.movie := by
  let rs : List Request := [.register (MediaItem.ofLocation "/a.mkv" "video/x-matroska")]
  let x : MediaItem := { MediaItem.ofLocation "/a.mkv" "video/x-matroska" with id := some 1 }
  have hd : ofText "<movie><title>A</title></movie>" =
      .ok ⟨.movie, some "A", Metadata.empty.set MetaKey.title "A"⟩ := by
    decide +kernel
  -- The film is the first node of the catalog.
  have hx : Shelves.canonical? (run rs empty) x.location = some x := by
    decide +kernel
  obtain ⟨-, -, hknown⟩ := sidecar_revises_one_item rs "<movie><title>A</title></movie>" x
  obtain ⟨i, y, c, hrevise, hid, -, -, hy, -, hcanonical, -⟩ := hknown _ hd hx
  obtain rfl : 1 = i := Option.some.inj hid
  refine ⟨x, y, c, hx, hrevise, hcanonical, ?_, ?_⟩
  · rw [hy]
    rfl
  · rw [hy]
    rfl

end Sidecar

end MediaShelves
