import MediaShelves.Proofs.Catalog.Ancestry
import MediaShelves.Proofs.Catalog.Labels

/-!
# Trails

A trail makes the folders that are missing and adds to those that are there.  So opening it again does
nothing, the folders of a catalog lie at the beginnings of all trails that were opened, and those that
are there keep their ids.

Main statement: `trails_share_prefixes`.
-/

namespace MediaShelves.Catalog

/-! ## The same trail again -/

section

variable {c : Catalog} (h : c.Consistent)

include h

/-- What is said at some titles when a trail is opened again was said when it was opened. -/
theorem Consistent.content?_openTrail_again (t : Trail) (us : List String) :
    (Catalog.openTrail t (Catalog.openTrail t c).2).2.content? us =
      (Catalog.openTrail t c).2.content? us := by
  rw [(h.openTrail t).content?_openTrail, h.content?_openTrail]
  apply Contribution.develop_develop
  · -- What is found is found apart from its id.
    intro f hf
    obtain ⟨r, -, rfl⟩ := Option.map_eq_some_iff.1 hf
    rfl
  · intro cls
    cases t.folderAt? [] us <;> simp

/-- Opening a trail again gives the same folder and changes nothing. -/
theorem Consistent.openTrail_again (t : Trail) :
    Catalog.openTrail t (Catalog.openTrail t c).2 = Catalog.openTrail t c := by
  by_cases ht : t = []
  · subst ht
    rfl
  · have hc := h.openTrail t
    obtain ⟨i, hfst, hi⟩ := h.exists_openTrail ht
    obtain ⟨-, hagain, hnodes⟩ := hc.openTrail_of_pathIndex hi
    -- No node is added, and the folders say what they said.
    have hsame := hnodes.eq_of_content? hc (hc.openTrail t) (h.content?_openTrail_again t)
    exact Prod.ext (hagain.trans hfst.symm) hsame

/-! ## Which folders there are -/

/-- A trail makes folders at all titles that its own begin with. -/
theorem Consistent.isSome_nodeAt?_openTrail (t : Trail) (ts : List String) :
    ((Catalog.openTrail t c).2.nodeAt? ts).isSome =
      ((c.nodeAt? ts).isSome || ts.isPrefixOf t.titles) := by
  by_cases hts : ts = []
  · simp [hts]
  · have hempty : ts.isEmpty = false := by
      simpa using hts
    -- The root is there anyway; at any other titles a folder is there if it has contents.
    have hfolder := t.isSome_folderAt? [] ts
    rw [List.nil_append, hempty, Bool.not_false, Bool.true_and] at hfolder
    rw [← (h.openTrail t).isSome_content? hts, ← h.isSome_content? hts, h.content?_openTrail,
      isSome_develop, ← hfolder]
    cases t.folderAt? [] ts <;> simp [Contribution.isHint]

/-- Only a trail makes folders. -/
theorem Consistent.isSome_nodeAt?_apply (r : Request) (ts : List String) :
    ((r.apply c).nodeAt? ts).isSome ↔
      (c.nodeAt? ts).isSome ∨ ∃ t, r = .openTrail t ∧ ts <+: t.titles := by
  -- Only opening a trail makes folders; the other requests leave the index of paths alone.
  cases r with
  | openTrail t => simp [Request.apply, h.isSome_nodeAt?_openTrail]
  | place x folder hint => simp [Request.apply]
  | register x =>
    have hsame : (c.register x).2.nodeAt? ts = c.nodeAt? ts := by
      obtain ⟨id, -, heq⟩ | ⟨-, heq⟩ := c.register_cases x
      · rw [heq]
      · rw [heq]
        rfl
    simp [Request.apply, hsame]
  | revise x =>
    have hsame : (Catalog.revise x c).2.nodeAt? ts = c.nodeAt? ts := by
      obtain ⟨-, heq⟩ | ⟨id, -, -, heq⟩ := revise_cases x c
      · rw [heq]
      · rw [heq]
        rfl
    simp [Request.apply, hsame]

end

/-- After some requests there are the folders that were there, and those of all trails. -/
theorem Consistent.isSome_nodeAt?_run {c : Catalog} (h : c.Consistent) (rs : List Request)
    (ts : List String) :
    ((Catalog.run rs c).nodeAt? ts).isSome ↔
      (c.nodeAt? ts).isSome ∨ ∃ t, Request.openTrail t ∈ rs ∧ ts <+: t.titles := by
  induction rs generalizing c with
  | nil => simp
  | cons r rs ih =>
    rw [run_cons, ih (h.apply r), h.isSome_nodeAt?_apply]
    -- The trails of the run are the first one, if the first request is one, and those of the rest.
    constructor
    · rintro ((hold | ⟨t, rfl, hprefix⟩) | ⟨t, hmem, hprefix⟩)
      · exact .inl hold
      · exact .inr ⟨t, List.mem_cons_self .., hprefix⟩
      · exact .inr ⟨t, List.mem_cons_of_mem r hmem, hprefix⟩
    · rintro (hold | ⟨t, hmem, hprefix⟩)
      · exact .inl (.inl hold)
      · rcases List.mem_cons.1 hmem with rfl | hmem
        · exact .inl (.inr ⟨t, rfl, hprefix⟩)
        · exact .inr ⟨t, hmem, hprefix⟩

/-- A node is a folder unless it is the root, whose titles are empty. -/
theorem Consistent.isSome_nodeAt?_iff {c : Catalog} (h : c.Consistent) {ts : List String}
    (hts : ts ≠ []) :
    (c.nodeAt? ts).isSome ↔ ∃ i r, c.folder? i = some r ∧ c.Spells i ts := by
  rw [Option.isSome_iff_exists]
  constructor
  · rintro ⟨i, hi⟩
    obtain ⟨r, hr, -⟩ := h.pathIndex_iff.1 (by rwa [nodeAt?, if_neg hts] at hi)
    exact ⟨i, r, hr, h.spells_of_nodeAt? hi⟩
  · rintro ⟨i, r, -, hi⟩
    exact ⟨i, h.nodeAt?_of_spells hi⟩

/-- No folder is at no titles. -/
theorem Consistent.ne_nil_of_spells {c : Catalog} (h : c.Consistent) {i : NodeId}
    {r : StoredFolder} (hr : c.folder? i = some r) {ts : List String} (hi : c.Spells i ts) :
    ts ≠ [] := by
  rintro rfl
  have hroot := h.nodeAt?_of_spells hi
  rw [nodeAt?_nil] at hroot
  exact (h.folder_bounds hr).1 (Option.some.inj hroot).symm

/-! ## Which folders stay -/

/-- What is found by its titles goes on being found there, under the same id. -/
theorem Grows.findFolder? {c c' : Catalog} (hgrows : c.Grows c') (h : c.Consistent)
    (h' : c'.Consistent) {ts : List String} {r : StoredFolder} (hr : c.findFolder? ts = some r) :
    ∃ f, c'.findFolder? ts = some { r with folder := f } := by
  obtain ⟨hts, hfolder, hspells⟩ := h.findFolder?_eq_some_iff.1 hr
  obtain ⟨f, hf, -⟩ := hgrows.folder hfolder
  have hnode := hgrows.nodeAt? h h' (h.nodeAt?_of_spells hspells)
  exact ⟨f, h'.findFolder?_eq_some_iff.2 ⟨hts, hf, h'.spells_of_nodeAt? hnode⟩⟩

/--
**Trails share their beginnings.**  In every state that requests can lead to, opening a trail a
second time gives the same folder and leaves the whole catalog as it is; the titles of the folders are
the beginnings of the trails that were opened, whatever else was asked for in between and in whatever
order; and a folder keeps its id, its parent and its path, whatever is asked for later.
-/
theorem trails_share_prefixes (rs : List Request) :
    (∀ t, Catalog.openTrail t (Catalog.openTrail t (run rs empty)).2 =
      Catalog.openTrail t (run rs empty)) ∧
      (∀ ts, (∃ i r, (run rs empty).folder? i = some r ∧ (run rs empty).Spells i ts) ↔
        ts ≠ [] ∧ ∃ t, Request.openTrail t ∈ rs ∧ ts <+: t.titles) ∧
      ∀ (later : List Request) (ts : List String) (r : StoredFolder),
        (run rs empty).findFolder? ts = some r →
          ∃ f, (run later (run rs empty)).findFolder? ts = some { r with folder := f } := by
  have h := consistent_empty.run rs
  refine ⟨h.openTrail_again, ?_, ?_⟩
  · intro ts
    -- At first there is the root only, so all folders are from trails.
    have hnone (hts : ts ≠ []) : (empty.nodeAt? ts).isSome = false := by
      simp [nodeAt?, hts]
    constructor
    · rintro ⟨i, r, hr, hi⟩
      have hts := h.ne_nil_of_spells hr hi
      have hsome := (h.isSome_nodeAt?_iff hts).2 ⟨i, r, hr, hi⟩
      rw [consistent_empty.isSome_nodeAt?_run, hnone hts] at hsome
      exact ⟨hts, hsome.resolve_left Bool.false_ne_true⟩
    · rintro ⟨hts, htrail⟩
      rw [← h.isSome_nodeAt?_iff hts, consistent_empty.isSome_nodeAt?_run]
      exact .inr htrail
  · intro later ts r hr
    exact (h.grows_run later).findFolder? h (h.run later) hr

end MediaShelves.Catalog
