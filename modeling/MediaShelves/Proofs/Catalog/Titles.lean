import Mathlib.Data.List.Induction
import MediaShelves.Proofs.Catalog.Growth

/-!
# Titles

Every folder lies at a list of titles, those of the folders down to it, and at no other one.  A list
of titles leads to at most one node, and keeps leading there.
-/

namespace MediaShelves.Catalog

/-! ## Where a folder lies -/

/-- A folder lies at a list of titles, the last of which is its own. -/
theorem Consistent.exists_titles {c : Catalog} (h : c.Consistent) {i : NodeId} {r : StoredFolder}
    (hr : c.folder? i = some r) :
    ∃ ts, c.pathOf? r.parent = some (ContainerPath.ofTitles ts) ∧
      r.path = ContainerPath.ofTitles (ts ++ [r.folder.title]) := by
  -- The parent may have any id, but its path is shorter.
  induction hlen : r.path.length using Nat.strongRecOn generalizing i r with
  | ind n ih =>
    obtain ⟨p, hp, hpath⟩ := h.folder_path hr
    by_cases hroot : r.parent = rootId
    · have hp' : c.pathOf? r.parent = some (ContainerPath.ofTitles []) := by
        simp [pathOf?, hroot]
      rw [hp] at hp'
      refine ⟨[], by rw [hp, hp'], ?_⟩
      rw [hpath, Option.some.inj hp', ContainerPath.child_ofTitles]
    · rw [pathOf?, if_neg hroot, Option.map_eq_some_iff] at hp
      -- The parent is a folder itself, and its titles are known by the induction.
      obtain ⟨s, hs, rfl⟩ := hp
      have hlt : s.path.length < n := by
        rw [← hlen, hpath]
        exact ContainerPath.length_lt_length_child s.path r.folder.title
      obtain ⟨ts, -, hspath⟩ := ih _ hlt hs rfl
      refine ⟨ts ++ [s.folder.title], ?_, ?_⟩
      · simp [pathOf?, hroot, hs, hspath]
      · rw [hpath, hspath, ContainerPath.child_ofTitles]

section

variable {c : Catalog} (h : c.Consistent)

include h

/-- A folder is found by the path of its titles. -/
theorem Consistent.exists_pathIndex {i : NodeId} {r : StoredFolder} (hr : c.folder? i = some r) :
    ∃ ts, ts ≠ [] ∧ r.path = ContainerPath.ofTitles ts ∧
      c.pathIndex[ContainerPath.ofTitles ts]? = some i := by
  obtain ⟨ts, -, hpath⟩ := h.exists_titles hr
  refine ⟨ts ++ [r.folder.title], by simp, hpath, ?_⟩
  rw [← hpath]
  exact h.pathIndex_of_folder hr

/-- A folder lies at one list of titles. -/
theorem Consistent.titles_unique {ts us : List String} {i : NodeId}
    (hts : c.pathIndex[ContainerPath.ofTitles ts]? = some i)
    (hus : c.pathIndex[ContainerPath.ofTitles us]? = some i) : ts = us := by
  have hpath := (h.pathOf?_of_pathIndex hts).symm.trans (h.pathOf?_of_pathIndex hus)
  exact ContainerPath.ofTitles_inj.1 (Option.some.inj hpath)

end

/-! ## What is at some titles -/

/-- The node at some titles; at no titles at all it is the root. -/
def nodeAt? (c : Catalog) (ts : List String) : Option NodeId :=
  if ts = [] then some rootId else c.pathIndex[ContainerPath.ofTitles ts]?

@[simp] theorem nodeAt?_nil (c : Catalog) : c.nodeAt? [] = some rootId :=
  if_pos rfl

/-- The node at some titles stays there. -/
theorem Grows.nodeAt? {c c' : Catalog} (hgrows : c.Grows c') (h : c.Consistent)
    (h' : c'.Consistent) {ts : List String} {i : NodeId} (hi : c.nodeAt? ts = some i) :
    c'.nodeAt? ts = some i := by
  unfold Catalog.nodeAt? at hi ⊢
  by_cases hts : ts = []
  · rw [if_pos hts] at hi ⊢
    exact hi
  · rw [if_neg hts] at hi ⊢
    exact hgrows.pathIndex h h' hi

section

variable {c : Catalog} (h : c.Consistent)

include h

/-- What is at some titles has their path. -/
theorem Consistent.pathOf?_of_nodeAt? {ts : List String} {i : NodeId}
    (hts : c.nodeAt? ts = some i) : c.pathOf? i = some (ContainerPath.ofTitles ts) := by
  unfold Catalog.nodeAt? at hts
  by_cases hnil : ts = []
  · rw [if_pos hnil] at hts
    simp [← Option.some.inj hts, pathOf?, hnil]
  · rw [if_neg hnil] at hts
    exact h.pathOf?_of_pathIndex hts

/-- A node is at one list of titles. -/
theorem Consistent.nodeAt?_inj {ts us : List String} {i : NodeId} (hts : c.nodeAt? ts = some i)
    (hus : c.nodeAt? us = some i) : ts = us := by
  have hpath := (h.pathOf?_of_nodeAt? hts).symm.trans (h.pathOf?_of_nodeAt? hus)
  exact ContainerPath.ofTitles_inj.1 (Option.some.inj hpath)

/-- A node that has a path is at some titles. -/
theorem Consistent.exists_nodeAt? {i : NodeId} {p : String} (hi : c.pathOf? i = some p) :
    ∃ ts, c.nodeAt? ts = some i := by
  by_cases hroot : i = rootId
  · exact ⟨[], by rw [nodeAt?, if_pos rfl, hroot]⟩
  · rw [pathOf?, if_neg hroot, Option.map_eq_some_iff] at hi
    obtain ⟨r, hr, -⟩ := hi
    obtain ⟨ts, hts, -, hindex⟩ := h.exists_pathIndex hr
    refine ⟨ts, ?_⟩
    rw [nodeAt?, if_neg hts]
    exact hindex

/-- A folder is at the titles of its parent and its own. -/
theorem Consistent.nodeAt?_child {ts : List String} {r : StoredFolder}
    (hts : c.nodeAt? ts = some r.parent) (hr : c.folder? r.id = some r) :
    c.nodeAt? (ts ++ [r.folder.title]) = some r.id := by
  obtain ⟨us, hparent, hpath⟩ := h.exists_titles hr
  have hus : us = ts := by
    rw [h.pathOf?_of_nodeAt? hts] at hparent
    exact (ContainerPath.ofTitles_inj.1 (Option.some.inj hparent)).symm
  rw [nodeAt?, if_neg (by simp), ← hus, ← hpath]
  exact h.pathIndex_of_folder hr

/-- What is at some titles is a folder below what is at the titles above it. -/
theorem Consistent.exists_parent_nodeAt? {ts : List String} {t : String} {j : NodeId}
    (hj : c.nodeAt? (ts ++ [t]) = some j) :
    ∃ r, c.folder? j = some r ∧ r.folder.title = t ∧ c.nodeAt? ts = some r.parent := by
  rw [nodeAt?, if_neg (by simp)] at hj
  obtain ⟨r, hr, hpath⟩ := h.pathIndex_iff.1 hj
  obtain ⟨us, hparent, hpath'⟩ := h.exists_titles hr
  obtain ⟨vs, hvs⟩ := h.exists_nodeAt? hparent
  -- The path spells the titles, so the last one is the folder's own.
  have htitles : us ++ [r.folder.title] = ts ++ [t] :=
    ContainerPath.ofTitles_inj.1 (hpath'.symm.trans hpath)
  obtain ⟨rfl, htitle⟩ := List.append_inj' htitles rfl
  rw [h.pathOf?_of_nodeAt? hvs] at hparent
  obtain rfl := ContainerPath.ofTitles_inj.1 (Option.some.inj hparent)
  exact ⟨r, hr, List.singleton_inj.1 htitle, hvs⟩

/-- Above a node there are nodes. -/
theorem Consistent.isSome_nodeAt?_of_append {ts us : List String}
    (hus : (c.nodeAt? (ts ++ us)).isSome) : (c.nodeAt? ts).isSome := by
  induction us using List.reverseRecOn with
  | nil => simpa using hus
  | append_singleton us u ih =>
    obtain ⟨j, hj⟩ := Option.isSome_iff_exists.1 hus
    rw [← List.append_assoc] at hj
    obtain ⟨r, -, -, hparent⟩ := h.exists_parent_nodeAt? hj
    exact ih (by rw [hparent]; rfl)

end

end MediaShelves.Catalog
