import MediaShelves.Proofs.Catalog.Lagging

/-!
# Ancestry

Whoever follows the parents of a folder up to the root reads off a list of titles, whatever the
titles are.  Paths encode such lists one to one, so looking up titles finds the folder whose
ancestry spells them, and a trail leads to its own titles.

Main statement: titles address folders exactly (`titles_address_folders`).
-/

namespace MediaShelves.Catalog

/-! ## What ancestors spell -/

/-- The titles from the root down to a node, as the parents of the node tell them. -/
inductive Spells (c : Catalog) : NodeId → List String → Prop
  | root : Spells c rootId []
  | child {i : NodeId} {r : StoredFolder} {ts : List String} : c.folder? i = some r →
      Spells c r.parent ts → Spells c i (ts ++ [r.folder.title])

section

variable {c : Catalog} (h : c.Consistent)

include h

/-- A node is at the titles that its ancestors spell. -/
theorem Consistent.nodeAt?_of_spells {i : NodeId} {ts : List String} (hi : c.Spells i ts) :
    c.nodeAt? ts = some i := by
  induction hi with
  | root => exact nodeAt?_nil c
  | @child i r ts hr _ ih =>
    obtain ⟨rfl, -⟩ := h.folder_id hr
    exact h.nodeAt?_child ih hr

/-- The ancestors of a node spell the titles that it is at. -/
theorem Consistent.spells_of_nodeAt? {i : NodeId} {ts : List String}
    (hi : c.nodeAt? ts = some i) : c.Spells i ts := by
  -- The last title is that of the node itself, the others are those of its parent.
  induction ts using List.reverseRecOn generalizing i with
  | nil =>
    rw [nodeAt?_nil] at hi
    cases hi
    exact .root
  | append_singleton ts t ih =>
    obtain ⟨r, hr, rfl, hparent⟩ := h.exists_parent_nodeAt? hi
    exact .child hr (ih hparent)

/-- A path leads to a node just when the node spells its titles. -/
theorem Consistent.nodeAt?_eq_some_iff {i : NodeId} {ts : List String} :
    c.nodeAt? ts = some i ↔ c.Spells i ts :=
  ⟨h.spells_of_nodeAt?, h.nodeAt?_of_spells⟩

/-- The ancestors of a folder spell one list of titles. -/
theorem Consistent.existsUnique_spells {i : NodeId} {r : StoredFolder} (hr : c.folder? i = some r) :
    ∃! ts, c.Spells i ts := by
  obtain ⟨ts, hts, -, hindex⟩ := h.exists_pathIndex hr
  have hnode : c.nodeAt? ts = some i := by
    rw [nodeAt?, if_neg hts]
    exact hindex
  refine ⟨ts, h.spells_of_nodeAt? hnode, ?_⟩
  intro us hus
  exact h.nodeAt?_inj (h.nodeAt?_of_spells hus) hnode

/-! ## Looking up titles -/

/-- What is looked up is the folder at some titles; without titles there is none. -/
theorem Consistent.findFolder?_eq_some_iff {ts : List String} {r : StoredFolder} :
    c.findFolder? ts = some r ↔ ts ≠ [] ∧ c.folder? r.id = some r ∧ c.Spells r.id ts := by
  rw [← h.nodeAt?_eq_some_iff, findFolder?, folderAt?, Option.bind_eq_some_iff]
  constructor
  · rintro ⟨i, hi, hr⟩
    -- The root is a node at the empty path, but no folder.
    have hts : ts ≠ [] := by
      rintro rfl
      rw [h.pathIndex_nil] at hi
      cases hi
    obtain ⟨rfl, -⟩ := h.folder_id hr
    rw [nodeAt?, if_neg hts]
    exact ⟨hts, hr, hi⟩
  · rintro ⟨hts, hr, hnode⟩
    rw [nodeAt?, if_neg hts] at hnode
    exact ⟨r.id, hnode, hr⟩

/-- A trail leads to the folder at its titles, which lies at its path. -/
theorem Consistent.findFolder?_openTrail {t : Trail} (ht : t ≠ []) :
    ∃ r, (Catalog.openTrail t c).1 = some r.id ∧
      (Catalog.openTrail t c).2.findFolder? t.titles = some r ∧ r.path = t.path := by
  have hc := h.openTrail t
  obtain ⟨i, hfst, hi⟩ := h.exists_openTrail ht
  obtain ⟨r, hr, hpath⟩ := hc.pathIndex_iff.1 hi
  obtain ⟨rfl, -⟩ := hc.folder_id hr
  refine ⟨r, hfst, ?_, hpath⟩
  rw [Trail.path] at hi
  rw [findFolder?, folderAt?, hi]
  exact hr

end

/--
**Titles address folders exactly.**  In every state that requests can lead to, and whatever the
titles are: looking up titles finds the folder whose ancestors spell them, if there are titles at all;
the ancestors of a folder spell one list of titles, and one node at most is behind a list; and a trail
leads to nothing if it is empty, and else to the folder that is then found by its titles and lies at
its path.
-/
theorem titles_address_folders (rs : List Request) (ts : List String) (t : Trail) :
    (∀ r, (run rs empty).findFolder? ts = some r ↔
      ts ≠ [] ∧ (run rs empty).folder? r.id = some r ∧ (run rs empty).Spells r.id ts) ∧
      (∀ i r, (run rs empty).folder? i = some r → ∃! us, (run rs empty).Spells i us) ∧
      (∀ i j, (run rs empty).Spells i ts → (run rs empty).Spells j ts → i = j) ∧
      ((Catalog.openTrail t (run rs empty)).1 = none ↔ t = []) ∧
      (t = [] ∨ ∃ r, (Catalog.openTrail t (run rs empty)).1 = some r.id ∧
        (Catalog.openTrail t (run rs empty)).2.findFolder? t.titles = some r ∧
        r.path = t.path) := by
  have h := consistent_empty.run rs
  refine ⟨fun r => h.findFolder?_eq_some_iff, fun i r hr => h.existsUnique_spells hr, ?_, ?_, ?_⟩
  · intro i j hi hj
    have hnode := h.nodeAt?_of_spells hi
    rw [h.nodeAt?_of_spells hj] at hnode
    exact (Option.some.inj hnode).symm
  · -- A trail that is not empty gives the folder where it ends.
    constructor
    · intro hnone
      by_contra ht
      obtain ⟨r, hsome, -⟩ := h.findFolder?_openTrail ht
      rw [hnone] at hsome
      cases hsome
    · rintro rfl
      rfl
  · by_cases ht : t = []
    · exact .inl ht
    · exact .inr (h.findFolder?_openTrail ht)

/-- Folders whose titles look like parts of paths: a slash, an escape and nothing at all. -/
def slashRequests : List Request :=
  [.openTrail [Folder.plain "a/b" UpnpClass.container],
    .openTrail [Folder.plain "a" UpnpClass.container, Folder.plain "b" UpnpClass.container],
    .openTrail [Folder.plain "" UpnpClass.container, Folder.plain "\\" UpnpClass.container]]

theorem titles_address_folders_slashes :
    ∃ r s, (run slashRequests empty).findFolder? ["a/b"] = some r ∧
      (run slashRequests empty).Spells r.id ["a/b"] ∧
      (run slashRequests empty).findFolder? ["a", "b"] = some s ∧
      (run slashRequests empty).Spells s.id ["a", "b"] ∧ r.id ≠ s.id := by
  -- A title with a slash in it and two titles spell the same characters, but two folders.
  have hfound : ((run slashRequests empty).findFolder? ["a/b"]).map (·.id) = some 1 ∧
      ((run slashRequests empty).findFolder? ["a", "b"]).map (·.id) = some 3 := by
    decide +kernel
  obtain ⟨r, hr, hone⟩ := Option.map_eq_some_iff.1 hfound.1
  obtain ⟨s, hs, hthree⟩ := Option.map_eq_some_iff.1 hfound.2
  have hslash := ((titles_address_folders slashRequests ["a/b"] []).1 r).1 hr
  have hnested := ((titles_address_folders slashRequests ["a", "b"] []).1 s).1 hs
  refine ⟨r, s, hr, hslash.2.2, hs, hnested.2.2, ?_⟩
  rw [hone, hthree]
  decide

end MediaShelves.Catalog
