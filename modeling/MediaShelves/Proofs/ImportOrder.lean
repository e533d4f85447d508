import MediaShelves.Proofs.Catalog.Outline
import MediaShelves.Proofs.Plan.Builders

/-!
# The order of imports

Items that are registered and imported one after another shelve the same whatever their order.  What
an outline tells of each item is settled by the item alone: the titles that its plan leads to, and
one line at each of them.

Main statement: `outline_eq_of_perm`.
-/

namespace MediaShelves

open Catalog

/-! ## Imports one after another -/

namespace Configuration

/-- Registers an item and imports it. -/
def importNew (conf : Configuration) (read : String → Option String) (o : Origin) (c : Catalog)
    (x : MediaItem) : Catalog :=
  (conf.importItem read o (c.register x).1 (c.register x).2).2

/-- Registers and imports items, one after another. -/
def importAll (conf : Configuration) (read : String → Option String) (o : Origin)
    (xs : List MediaItem) (c : Catalog) : Catalog :=
  xs.foldl (conf.importNew read o) c

/-- What an outline shows of the placements of an item; there are none if there is no plan. -/
def sketches (conf : Configuration) (o : Origin) (x : MediaItem) :
    List (List String × Option Nat × String) :=
  (sketches? (conf.plan o x)).toOption.getD []

/-- Whether the plan of an item makes a folder at some titles. -/
def reaches (conf : Configuration) (o : Origin) (x : MediaItem) (ts : List String) : Bool :=
  (conf.sketches o x).any fun s => ts.isPrefixOf s.1

/-- The line of an item at some titles: that of the first placement there. -/
def lineAt (conf : Configuration) (o : Origin) (ts : List String) (x : MediaItem) :
    List (Option Nat × String) :=
  (((conf.sketches o x).filter fun s => s.1 ≠ [] ∧ s.1 = ts).map (·.2)).take 1

@[simp] theorem sketches_withId (conf : Configuration) (o : Origin) (x : MediaItem)
    (id : Option NodeId) : conf.sketches o (x.withId id) = conf.sketches o x := by
  rw [sketches, conf.sketch_plan, sketches]

theorem sketches_eq {conf : Configuration} {o : Origin} {x : MediaItem} {plan : Plan}
    (hplan : conf.plan o x = .ok plan) : conf.sketches o x = plan.sketches := by
  rw [sketches, hplan]
  rfl

end Configuration

/-! ## A plan on a catalog that does not know its item -/

/-- The labels that a plan has for some titles. -/
def Plan.labelsFor (plan : Plan) (ts : List String) : List Label :=
  (plan.filter fun p => p.trail ≠ [] ∧ p.trail.titles = ts).map (·.item.label)

theorem Plan.OfItem.identity_of_mem {plan : Plan} {x : MediaItem} {j : NodeId}
    (hplan : plan.OfItem x) (hj : x.refersTo.or x.id = some j) {ts : List String} {l : Label}
    (hl : l ∈ plan.labelsFor ts) :
    l.identity = .canonical j ∧ l.playlistOrder = x.playlistOrder := by
  obtain ⟨p, hp, rfl⟩ := List.mem_map.1 hl
  obtain ⟨hrefers, horder⟩ := hplan p (List.mem_of_mem_filter hp)
  exact ⟨identity_eq_canonical_iff.2 (hrefers.trans hj), horder⟩

/-- The lines that a plan has for some titles are told by its sketches. -/
theorem Plan.map_line_labelsFor (plan : Plan) (ts : List String) :
    (plan.labelsFor ts).map Label.line =
      (plan.sketches.filter fun s => s.1 ≠ [] ∧ s.1 = ts).map (·.2) := by
  have htrail (p : Placement) : decide (p.trail ≠ [] ∧ p.trail.titles = ts) =
      decide (p.sketch.1 ≠ [] ∧ p.sketch.1 = ts) := by
    simp [Placement.sketch, Trail.titles_eq_nil]
  rw [labelsFor, sketches, List.filter_map, List.map_map, List.map_map]
  simp only [htrail]
  rfl

/-- A plan adds its item once at each of its places, if nothing there stands for the same item. -/
theorem Catalog.Consistent.labelsAt_plan_new {c : Catalog} (h : c.Consistent) {plan : Plan}
    {x : MediaItem} {j : NodeId} (hplan : plan.OfItem x) (hj : x.refersTo.or x.id = some j)
    {ts : List String} (hnew : ∀ l ∈ c.labelsAt ts, l.identity ≠ .canonical j) :
    (plan.carryOut c).2.labelsAt ts = c.labelsAt ts ++ (plan.labelsFor ts).take 1 := by
  rw [h.labelsAt_plan]
  -- All labels of the plan stand for one item, which was not there before.
  apply Label.foldl_addTo
  · intro l hl m hm
    have hm := hplan.identity_of_mem hj hm
    simp [Label.clashes, hm, hnew l hl]
  · intro l hl m hm
    have hl := hplan.identity_of_mem hj hl
    have hm := hplan.identity_of_mem hj hm
    simp [Label.clashes, hl, hm]

/-! ## What is imported -/

/-- The state after some items were registered and imported. -/
structure Imported (conf : Configuration) (o : Origin) (xs : List MediaItem) (c : Catalog) :
    Prop where
  consistent : c.Consistent
  files : ∀ {l i}, c.fileIndex[l]? = some i → l ∈ xs.map (·.location)
  /-- Every item in a folder stands for one that is known. -/
  known : ∀ {ts l}, l ∈ c.labelsAt ts → ∃ j r, l.identity = .canonical j ∧ c.item? j = some r
  nodes : ∀ ts, (c.nodeAt? ts).isSome = (ts.isEmpty || xs.any (conf.reaches o · ts))
  lines : ∀ ts, (c.labelsAt ts).map Label.line = xs.flatMap (conf.lineAt o ts)

theorem imported_empty (conf : Configuration) (o : Origin) : Imported conf o [] empty where
  consistent := consistent_empty
  files hi := by simp at hi
  known hl := by simp at hl
  nodes ts := by
    cases ts <;> simp [nodeAt?]
  lines ts := by simp

/-- Importing a new item registers it under a fresh id and carries out a plan for it. -/
theorem exists_plan_importNew (conf : Configuration) (read : String → Option String) (o : Origin)
    {c : Catalog} {x : MediaItem} (hnew : c.fileIndex[x.location]? = none)
    (hmimetype : Playlist.Format.ofMimetype? x.mimetype = none) :
    ∃ plan : Plan, conf.importNew read o c x = (plan.carryOut (c.addFile x).2).2 ∧
      plan.OfItem (x.withId (some (c.freshId none))) ∧ plan.sketches = conf.sketches o x := by
  have hregister : c.register x = (x.withId (some (c.freshId none)), (c.addFile x).2) := by
    simp only [register, hnew]
    rfl
  have himport : conf.importNew read o c x =
      (carryOutPlan (conf.plan o (x.withId (some (c.freshId none)))) (c.addFile x).2).2 := by
    rw [Configuration.importNew, hregister, Configuration.importItem, if_neg]
    have hsame : (x.withId (some (c.freshId none))).mimetype = x.mimetype := rfl
    rw [hsame, hmimetype]
    exact Bool.false_ne_true
  -- The plan is that of the item under its new id, but it looks the same.
  rw [himport, ← conf.sketches_withId o x (some (c.freshId none))]
  cases hplan : conf.plan o (x.withId (some (c.freshId none))) with
  | error e =>
    refine ⟨[], rfl, Plan.ofItem_nil, ?_⟩
    rw [Configuration.sketches, hplan]
    rfl
  | ok plan =>
    exact ⟨plan, rfl, Configuration.ofItem_plan hplan, (Configuration.sketches_eq hplan).symm⟩

theorem Imported.importNew {conf : Configuration} {o : Origin} {xs : List MediaItem} {c : Catalog}
    (h : Imported conf o xs c) (read : String → Option String) {x : MediaItem}
    (hlocation : x.location ∉ xs.map (·.location)) (hrefers : x.refersTo = none)
    (hmimetype : Playlist.Format.ofMimetype? x.mimetype = none) :
    Imported conf o (xs ++ [x]) (conf.importNew read o c x) := by
  have hfile : c.fileIndex[x.location]? = none := by
    rw [Option.eq_none_iff_forall_ne_some]
    exact fun i hi => hlocation (h.files hi)
  -- The item is registered, and then a plan is carried out that places this item only.
  obtain ⟨plan, himport, hplan, hsketches⟩ := exists_plan_importNew conf read o hfile hmimetype
  have hc : (c.addFile x).2.Consistent := h.consistent.addFile hfile
  have hj : (x.withId (some (c.freshId none))).refersTo.or
      (x.withId (some (c.freshId none))).id = some (c.freshId none) := by
    simp [MediaItem.withId, hrefers]
  have hlabels (ts : List String) : (c.addFile x).2.labelsAt ts = c.labelsAt ts := by
    have hsame := h.consistent.labelsAt_register x ts
    simp only [register, hfile] at hsame
    exact hsame
  -- Items stand for known ones, and the id of the new one is fresh.
  have hnew (ts : List String) : ∀ l ∈ (c.addFile x).2.labelsAt ts,
      l.identity ≠ .canonical (c.freshId none) := by
    intro l hl hident
    rw [hlabels] at hl
    obtain ⟨j, r, hj, hr⟩ := h.known hl
    rw [hident, Identity.canonical.injEq] at hj
    exact h.consistent.ne_freshId_of_item none hr hj.symm
  have hafter (ts : List String) : (plan.carryOut (c.addFile x).2).2.labelsAt ts =
      c.labelsAt ts ++ (plan.labelsFor ts).take 1 := by
    rw [hc.labelsAt_plan_new hplan hj (hnew ts), hlabels]
  -- A plan leaves the items that there are and the index of files alone.
  obtain ⟨hitems, hfiles⟩ := hc.plan_items plan
  rw [himport]
  constructor
  · exact hc.plan plan
  · intro l i hi
    rw [hfiles, fileIndex_addFile] at hi
    split at hi
    · rename_i hl
      simp [hl]
    · rw [List.map_append]
      exact List.mem_append_left _ (h.files hi)
  · intro ts l hl
    rw [hafter, List.mem_append] at hl
    rcases hl with hl | hl
    · -- An old label stands for an item that was known before.
      obtain ⟨j, r, hj, hr⟩ := h.known hl
      obtain ⟨y, hy, -⟩ := (h.consistent.grows_addFile x).item hr
      exact ⟨j, _, hj, hitems j _ hy⟩
    · -- A new label stands for the item itself.
      have hident := (hplan.identity_of_mem hj (List.mem_of_mem_take hl)).1
      obtain ⟨r, hr⟩ : ∃ r, (c.addFile x).2.item? (c.freshId none) = some r :=
        ⟨_, by rw [item?_addFile, if_pos rfl]⟩
      exact ⟨c.freshId none, r, hident, hitems (c.freshId none) r hr⟩
  · intro ts
    have hsame : (c.addFile x).2.nodeAt? ts = c.nodeAt? ts := rfl
    have hany : (plan.any fun p => ts.isPrefixOf p.trail.titles) = conf.reaches o x ts := by
      rw [Configuration.reaches, ← hsketches, Plan.sketches, List.any_map]
      rfl
    rw [hc.isSome_nodeAt?_plan, hsame, h.nodes, hany, List.any_append]
    simp [Bool.or_assoc]
  · intro ts
    have hline : ((plan.labelsFor ts).take 1).map Label.line = conf.lineAt o ts x := by
      rw [List.map_take, Plan.map_line_labelsFor, hsketches, Configuration.lineAt]
    rw [hafter, List.map_append, h.lines, hline, List.flatMap_append, List.flatMap_singleton]

/-- Items that are no playlists and have different locations are imported as they are. -/
theorem imported_importAll (conf : Configuration) (read : String → Option String) (o : Origin)
    {xs : List MediaItem} (hlocations : (xs.map (·.location)).Nodup)
    (hrefers : ∀ x ∈ xs, x.refersTo = none)
    (hmimetypes : ∀ x ∈ xs, Playlist.Format.ofMimetype? x.mimetype = none) :
    Imported conf o xs (conf.importAll read o xs empty) := by
  -- The last item is the new one.
  induction xs using List.reverseRecOn with
  | nil => exact imported_empty conf o
  | append_singleton xs x ih =>
    rw [List.map_append, List.nodup_append] at hlocations
    obtain ⟨hxs, -, hdisjoint⟩ := hlocations
    have hbefore : Imported conf o xs (conf.importAll read o xs empty) :=
      ih hxs (fun y hy => hrefers y (List.mem_append_left [x] hy))
        (fun y hy => hmimetypes y (List.mem_append_left [x] hy))
    have hlast : x ∈ xs ++ [x] := List.mem_append_right xs (List.mem_singleton_self x)
    rw [Configuration.importAll, List.foldl_append]
    refine hbefore.importNew read ?_ (hrefers x hlast) (hmimetypes x hlast)
    intro hx
    exact hdisjoint x.location hx x.location (by simp) rfl

/--
**The order of imports does not show.**  Items with different locations that stand for themselves and
are no playlists are registered and imported one after another, in two orders: the outlines are the
same, whatever ids the configuration pins.
-/
theorem outline_eq_of_perm (conf : Configuration) (read : String → Option String) (o : Origin)
    {xs ys : List MediaItem} (hperm : xs.Perm ys) (hlocations : (xs.map (·.location)).Nodup)
    (hrefers : ∀ x ∈ xs, x.refersTo = none)
    (hmimetypes : ∀ x ∈ xs, Playlist.Format.ofMimetype? x.mimetype = none) :
    (conf.importAll read o xs empty).outline = (conf.importAll read o ys empty).outline := by
  have hxs := imported_importAll conf read o hlocations hrefers hmimetypes
  have hys := imported_importAll conf read o ((hperm.map (·.location)).nodup_iff.1 hlocations)
    (fun y hy => hrefers y (hperm.mem_iff.2 hy)) (fun y hy => hmimetypes y (hperm.mem_iff.2 hy))
  -- Which titles and lines there are does not depend on the order of the items.
  apply hys.consistent.outline_eq hxs.consistent
  · intro ts
    rw [hxs.nodes, hys.nodes, hperm.any_eq]
  · intro ts
    rw [hxs.lines, hys.lines]
    exact hperm.flatMap_right (conf.lineAt o ts)

/-- Two songs in both orders. -/
theorem outline_eq_of_perm_songs :
    ∃ (conf : Configuration) (x y : MediaItem), conf.boxes = BoxTable.builtin ∧
      x = MediaItem.ofLocation "/music/a.mp3" "audio/mpeg" ∧
      y = MediaItem.ofLocation "/music/b.mp3" "audio/mpeg" ∧
      (conf.importAll (fun _ => none) (Origin.ofRoot "/music") [x, y] empty).outline =
        (conf.importAll (fun _ => none) (Origin.ofRoot "/music") [y, x] empty).outline := by
  obtain ⟨conf, hconf⟩ := Configuration.exists_ofBoxes BoxTable.builtin
  have hformat : Playlist.Format.ofMimetype? "audio/mpeg" = none := by
    decide +kernel
  let x := MediaItem.ofLocation "/music/a.mp3" "audio/mpeg"
  let y := MediaItem.ofLocation "/music/b.mp3" "audio/mpeg"
  refine ⟨conf, x, y, hconf, rfl, rfl, ?_⟩
  -- Neither song is a playlist, and their locations differ.
  apply outline_eq_of_perm conf (fun _ => none) (Origin.ofRoot "/music")
  · exact List.Perm.swap y x []
  · decide +kernel
  · intro z hz
    rcases List.mem_pair.1 hz with rfl | rfl
    · rfl
    · rfl
  · intro z hz
    rcases List.mem_pair.1 hz with rfl | rfl
    · exact hformat
    · exact hformat

end MediaShelves
