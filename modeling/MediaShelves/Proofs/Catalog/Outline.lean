import Mathlib.Data.List.Nodup
import MediaShelves.Catalog.Outline
import MediaShelves.Proofs.Catalog.Labels

/-!
# What an outline tells

An outline tells at which titles there are folders and which items lie there, by position and title;
ids, and the order in which things came, do not show.

Main statement: two catalogs with the same titles and the same lines at each of them have the same
outline (`Consistent.outline_eq`).
-/

namespace MediaShelves

/-- What an outline shows of an item. -/
def Label.line (l : Label) : Option Nat × String :=
  (l.playlistOrder, l.title)

namespace Catalog

/-! ## The order of lines -/

/-- Whether a line comes before another or with it. -/
def lineBefore (a b : Option Nat × String) : Bool :=
  orderBefore a.1 b.1 || (a.1 == b.1 && !(b.2 < a.2))

/-- Lines go by position and, among equal positions, by title. -/
theorem lineBefore_iff (a b : Option Nat × String) :
    lineBefore a b ↔ orderBefore a.1 b.1 ∨ a.1 = b.1 ∧ a.2 ≤ b.2 := by
  simp only [lineBefore, Bool.or_eq_true, Bool.and_eq_true, beq_iff_eq, Bool.not_eq_true',
    decide_eq_false_iff_not, String.not_lt]

theorem orderBefore_irrefl (m : Option Nat) : orderBefore m m = false := by
  cases m with
  | none => rfl
  | some m => simp [orderBefore]

theorem orderBefore_trans {l m n : Option Nat} (hlm : orderBefore l m) (hmn : orderBefore m n) :
    orderBefore l n := by
  -- An item without a position comes before all that have one.
  cases l with
  | none =>
    cases n with
    | none => cases m <;> simp [orderBefore] at hlm hmn
    | some n => rfl
  | some l =>
    cases m with
    | none => simp [orderBefore] at hlm
    | some m =>
      cases n with
      | none => simp [orderBefore] at hmn
      | some n =>
        simp only [orderBefore, decide_eq_true_eq] at hlm hmn ⊢
        exact Nat.lt_trans hlm hmn

/-- Of two positions one comes first, or they are the same. -/
theorem orderBefore_total (m n : Option Nat) : orderBefore m n ∨ m = n ∨ orderBefore n m := by
  -- No position comes first, so the two are compared only if both are there.
  cases m with
  | none =>
    cases n with
    | none => exact .inr (.inl rfl)
    | some n => exact .inl rfl
  | some m =>
    cases n with
    | none => exact .inr (.inr rfl)
    | some n =>
      simp only [orderBefore, decide_eq_true_eq, Option.some.injEq]
      omega

theorem lineBefore_trans (a b c : Option Nat × String) (hab : lineBefore a b)
    (hbc : lineBefore b c) : lineBefore a c := by
  rw [lineBefore_iff] at hab hbc ⊢
  rcases hab with hab | ⟨hab, htitle⟩
  · rcases hbc with hbc | ⟨hbc, -⟩
    · exact .inl (orderBefore_trans hab hbc)
    · exact .inl (hbc ▸ hab)
  · rcases hbc with hbc | ⟨hbc, htitle'⟩
    · exact .inl (hab ▸ hbc)
    · exact .inr ⟨hab.trans hbc, String.le_trans htitle htitle'⟩

theorem lineBefore_total (a b : Option Nat × String) : lineBefore a b || lineBefore b a := by
  rw [Bool.or_eq_true, lineBefore_iff, lineBefore_iff]
  rcases orderBefore_total a.1 b.1 with hab | hab | hab
  · exact .inl (.inl hab)
  · rcases String.le_total a.2 b.2 with htitle | htitle
    · exact .inl (.inr ⟨hab, htitle⟩)
    · exact .inr (.inr ⟨hab.symm, htitle⟩)
  · exact .inr (.inl hab)

theorem lineBefore_antisymm {a b : Option Nat × String} (hab : lineBefore a b)
    (hba : lineBefore b a) : a = b := by
  rw [lineBefore_iff] at hab hba
  -- Lines that come before each other have the same position, so the titles decide.
  rcases hab with hab | ⟨hab, htitle⟩
  · rcases hba with hba | ⟨hba, -⟩
    · have hself := orderBefore_trans hab hba
      rw [orderBefore_irrefl] at hself
      cases hself
    · rw [hba, orderBefore_irrefl] at hab
      cases hab
  · rcases hba with hba | ⟨-, htitle'⟩
    · rw [hab, orderBefore_irrefl] at hba
      cases hba
    · exact Prod.ext hab (String.le_antisymm htitle htitle')

/-- Lines are listed alike in whatever order they came. -/
theorem mergeSort_lines_eq {xs ys : List (Option Nat × String)} (h : xs.Perm ys) :
    xs.mergeSort lineBefore = ys.mergeSort lineBefore := by
  have hperm : (xs.mergeSort lineBefore).Perm (ys.mergeSort lineBefore) :=
    (List.mergeSort_perm xs lineBefore).trans (h.trans (List.mergeSort_perm ys lineBefore).symm)
  apply hperm.eq_of_pairwise
  · intro a b _ _ hab hba
    exact lineBefore_antisymm hab hba
  · exact List.pairwise_mergeSort lineBefore_trans lineBefore_total xs
  · exact List.pairwise_mergeSort lineBefore_trans lineBefore_total ys

/-! ## Titles and lines -/

/-- The titles of the folders at some titles, as they are listed. -/
def subtitles (c : Catalog) (ts : List String) : List String :=
  ((c.nodeAt? ts).map fun i => (c.foldersIn i).map (·.folder.title)).getD []

/-- The titles of the items at some titles, as they are listed. -/
def listedAt (c : Catalog) (ts : List String) : List String :=
  (((c.labelsAt ts).map Label.line).mergeSort lineBefore).map (·.2)

/-- An outline that knows no ids, only which titles there are. -/
def outlineAt (subtitles listed : List String → List String) :
    (budget : Nat) → (depth : Nat) → List String → List OutlineLine
  | 0, _, _ => []
  | budget + 1, depth, ts =>
    (subtitles ts).flatMap (fun title =>
      ⟨depth, title, true⟩ :: outlineAt subtitles listed budget (depth + 1) (ts ++ [title])) ++
    (listed ts).map fun title => ⟨depth, title, false⟩

/-- The titles in a listing depend on the labels alone. -/
theorem listedItems_titles (c : Catalog) (i : NodeId) :
    (c.listedItems i).map (·.item.title) =
      (((c.labelsIn i).map Label.line).mergeSort lineBefore).map (·.2) := by
  -- Items are listed by their lines, so the lines may be taken first and sorted then.
  have hsort : (c.listedItems i).map (·.item.label.line) =
      ((c.itemsIn i).map (·.item.label.line)).mergeSort lineBefore :=
    List.map_mergeSort fun a _ b _ => rfl
  rw [labelsIn, List.map_map]
  refine Eq.trans ?_ (congrArg (List.map Prod.snd) hsort)
  rw [List.map_map]
  rfl

section

variable {c : Catalog} (h : c.Consistent)

include h

theorem Consistent.mem_foldersIn {r : StoredFolder} {i : NodeId} :
    r ∈ c.foldersIn i ↔ c.folder? r.id = some r ∧ r.parent = i := by
  rw [foldersIn, List.mem_mergeSort, List.mem_filterMap]
  -- A child that is a folder has this parent, and a folder is a child of its parent.
  constructor
  · rintro ⟨j, hj, hr⟩
    have hparent := h.mem_childrenOf.1 hj
    rw [parent?, hr] at hparent
    refine ⟨?_, Option.some.inj hparent⟩
    rw [(h.folder_id hr).1]
    exact hr
  · rintro ⟨hr, rfl⟩
    refine ⟨r.id, h.mem_childrenOf.2 ?_, hr⟩
    rw [parent?, hr]

/-- An outline is told by titles alone. -/
theorem Consistent.outlineBelow_eq {ts : List String} {i : NodeId} (hi : c.nodeAt? ts = some i)
    (budget depth : Nat) :
    c.outlineBelow budget depth i = outlineAt c.subtitles c.listedAt budget depth ts := by
  induction budget generalizing ts i depth with
  | zero => rfl
  | succ budget ih =>
    -- Titles and labels tell all that the outline shows of a folder.
    have hfolders : c.subtitles ts = (c.foldersIn i).map (·.folder.title) := by
      rw [subtitles, hi]
      rfl
    have hitems : c.listedAt ts = (c.listedItems i).map (·.item.title) := by
      rw [listedItems_titles, listedAt, labelsAt, hi]
      rfl
    rw [outlineBelow, outlineAt, hfolders, hitems, List.flatMap_map, List.map_map]
    congr 1
    apply List.flatMap_congr
    intro r hr
    obtain ⟨hfolder, rfl⟩ := h.mem_foldersIn.1 hr
    rw [ih (h.nodeAt?_child hi hfolder)]

/-- The titles below some titles are those that lead on from there to a folder. -/
theorem Consistent.mem_subtitles {ts : List String} {t : String} :
    t ∈ c.subtitles ts ↔ (c.nodeAt? (ts ++ [t])).isSome := by
  constructor
  · intro ht
    cases hi : c.nodeAt? ts with
    | none => simp [subtitles, hi] at ht
    | some i =>
      simp only [subtitles, hi, Option.map_some, Option.getD_some, List.mem_map] at ht
      obtain ⟨r, hr, rfl⟩ := ht
      obtain ⟨hfolder, rfl⟩ := h.mem_foldersIn.1 hr
      rw [h.nodeAt?_child hi hfolder]
      rfl
  · intro ht
    obtain ⟨j, hj⟩ := Option.isSome_iff_exists.1 ht
    -- What lies at the longer path has its parent at the shorter one.
    obtain ⟨r, hr, rfl, hparent⟩ := h.exists_parent_nodeAt? hj
    rw [← (h.folder_id hr).1] at hr
    simp only [subtitles, hparent, Option.map_some, Option.getD_some, List.mem_map]
    exact ⟨r, h.mem_foldersIn.2 ⟨hr, rfl⟩, rfl⟩

omit h in
/-- They are listed in their order. -/
theorem sorted_subtitles (c : Catalog) (ts : List String) :
    (c.subtitles ts).Pairwise (· ≤ ·) := by
  cases hi : c.nodeAt? ts with
  | none => simp [subtitles, hi]
  | some i =>
    simp only [subtitles, hi, Option.map_some, Option.getD_some, List.pairwise_map, foldersIn]
    -- The order is written as "not after", which is what has to be total and transitive.
    refine (List.pairwise_mergeSort ?_ ?_ _).imp ?_
    · intro a b c hab hbc
      simp only [Bool.not_eq_true', decide_eq_false_iff_not, String.not_lt] at hab hbc ⊢
      exact String.le_trans hab hbc
    · intro a b
      simp only [Bool.or_eq_true, Bool.not_eq_true', decide_eq_false_iff_not, String.not_lt]
      exact String.le_total a.folder.title b.folder.title
    · intro a b hab
      simp only [Bool.not_eq_true', decide_eq_false_iff_not, String.not_lt] at hab
      exact hab

/-- No title is listed twice, since no two folders of one parent share it. -/
theorem Consistent.nodup_subtitles (ts : List String) : (c.subtitles ts).Nodup := by
  cases hi : c.nodeAt? ts with
  | none => simp [subtitles, hi]
  | some i =>
    simp only [subtitles, hi, Option.map_some, Option.getD_some]
    apply List.Nodup.map_on
    · intro r hr s hs htitle
      obtain ⟨hr, hri⟩ := h.mem_foldersIn.1 hr
      obtain ⟨hs, hsi⟩ := h.mem_foldersIn.1 hs
      -- Folders of one title below one node are one folder.
      have hid : r.id = s.id := h.title_unique hr hs (hri.trans hsi.symm) htitle
      rw [hid, hs] at hr
      exact (Option.some.inj hr).symm
    · rw [foldersIn, (List.mergeSort_perm _ _).nodup_iff]
      apply (h.nodup_childrenOf i).filterMap
      intro j k r hj hk
      exact (h.folder_id hj).1.symm.trans (h.folder_id hk).1

end

/-! ## How deep folders lie -/

/-- No entry of a table is twice in its list. -/
theorem nodup_toList {β : Type} (t : Std.ExtTreeMap NodeId β) : t.toList.Nodup := by
  apply Std.ExtTreeMap.distinct_keys_toList.imp
  intro a b hne heq
  apply hne
  rw [heq]
  exact Std.ReflCmp.compare_self

/-- The paths of all folders. -/
def paths (c : Catalog) : List String :=
  c.folderTable.toList.map (·.2.path)

/-- The paths listed are those of the title paths that lead to a folder. -/
theorem Consistent.mem_paths {c : Catalog} (h : c.Consistent) {p : String} :
    p ∈ c.paths ↔ ∃ ts, ts ≠ [] ∧ (c.nodeAt? ts).isSome ∧ p = ContainerPath.ofTitles ts := by
  -- Each folder lies at some titles, and these are not empty, as the root is no folder.
  rw [paths, List.mem_map]
  constructor
  · rintro ⟨⟨i, r⟩, hr, rfl⟩
    have hr : c.folder? i = some r := Std.ExtTreeMap.mem_toList_iff_getElem?_eq_some.1 hr
    obtain ⟨ts, hts, hpath, hindex⟩ := h.exists_pathIndex hr
    refine ⟨ts, hts, ?_, hpath⟩
    rw [nodeAt?, if_neg hts, hindex]
    rfl
  · rintro ⟨ts, hts, hsome, rfl⟩
    rw [nodeAt?, if_neg hts] at hsome
    obtain ⟨i, hi⟩ := Option.isSome_iff_exists.1 hsome
    obtain ⟨r, hr, hpath⟩ := h.pathIndex_iff.1 hi
    exact ⟨(i, r), Std.ExtTreeMap.mem_toList_iff_getElem?_eq_some.2 hr, hpath⟩

/-- No path is listed twice. -/
theorem Consistent.nodup_paths {c : Catalog} (h : c.Consistent) : c.paths.Nodup := by
  refine List.Nodup.map_on ?_ ?_
  · rintro ⟨i, r⟩ hr ⟨j, s⟩ hs hpath
    have hr : c.folder? i = some r := Std.ExtTreeMap.mem_toList_iff_getElem?_eq_some.1 hr
    have hs : c.folder? j = some s := Std.ExtTreeMap.mem_toList_iff_getElem?_eq_some.1 hs
    -- The index leads a path to one id only.
    have hi := h.pathIndex_of_folder hr
    have hpath : r.path = s.path := hpath
    rw [hpath, h.pathIndex_of_folder hs] at hi
    obtain rfl := Option.some.inj hi
    rw [hr] at hs
    rw [Option.some.inj hs]
  · exact nodup_toList c.folderTable

section

variable {c : Catalog} (h : c.Consistent)

include h

/-- No folder lies deeper than there are folders: those above it are all different. -/
theorem Consistent.length_le_folderCount {ts : List String} (hts : (c.nodeAt? ts).isSome) :
    ts.length ≤ c.folderCount := by
  -- Titles that are cut off at different places have different paths.
  have hnodup : ((List.range ts.length).map fun n =>
      ContainerPath.ofTitles (ts.take (n + 1))).Nodup := by
    apply List.Nodup.map_on _ List.nodup_range
    intro m hm n hn heq
    have hlength := congrArg List.length (ContainerPath.ofTitles_inj.1 heq)
    rw [List.mem_range] at hm hn
    rw [List.length_take, List.length_take] at hlength
    omega
  -- Each of these paths is that of a folder.
  have hsubset : ((List.range ts.length).map fun n =>
      ContainerPath.ofTitles (ts.take (n + 1))) ⊆ c.paths := by
    intro p hp
    obtain ⟨n, hn, rfl⟩ := List.mem_map.1 hp
    rw [List.mem_range] at hn
    refine h.mem_paths.2 ⟨ts.take (n + 1), ?_, ?_, rfl⟩
    · intro hnil
      have hlength := congrArg List.length hnil
      rw [List.length_take, List.length_nil] at hlength
      omega
    · rw [← List.take_append_drop (n + 1) ts] at hts
      exact h.isSome_nodeAt?_of_append hts
  have hle := hnodup.length_le_of_subset hsubset
  rw [List.length_map, List.length_range, paths, List.length_map,
    Std.ExtTreeMap.length_toList] at hle
  exact hle

/-- Of two budgets that are deep enough each gives the same lines. -/
theorem Consistent.outlineBelow_budget {budget budget' : Nat} {ts : List String} {i : NodeId}
    (hi : c.nodeAt? ts = some i) (hdeep : c.folderCount < ts.length + budget)
    (hdeep' : c.folderCount < ts.length + budget') (depth : Nat) :
    c.outlineBelow budget depth i = c.outlineBelow budget' depth i := by
  have hlength := h.length_le_folderCount (by rw [hi]; rfl)
  induction budget generalizing budget' ts i depth with
  | zero => omega
  | succ budget ih =>
    cases budget' with
    | zero => omega
    | succ budget' =>
      rw [outlineBelow, outlineBelow]
      congr 1
      apply List.flatMap_congr
      intro r hr
      obtain ⟨hfolder, rfl⟩ := h.mem_foldersIn.1 hr
      -- One level down the titles are longer by one, which makes up for the budget.
      have hchild := h.nodeAt?_child hi hfolder
      have hchildLength := h.length_le_folderCount (by rw [hchild]; rfl)
      rw [List.length_append, List.length_singleton] at hchildLength
      rw [ih hchild _ _ (depth + 1) _]
      · rw [List.length_append, List.length_singleton]
        omega
      · rw [List.length_append, List.length_singleton]
        omega
      · rw [List.length_append, List.length_singleton]
        exact hchildLength

/-- The lines of a catalog are all there: a greater budget finds no more. -/
theorem Consistent.outlineLines_eq {budget : Nat} (hbudget : c.folderCount < budget) :
    c.outlineBelow budget 0 rootId = c.outlineLines :=
  h.outlineBelow_budget (nodeAt?_nil c) (by simpa using hbudget) (by simp) 0

end

/-! ## Two catalogs -/

section

variable {c c' : Catalog} (h : c.Consistent) (h' : c'.Consistent)
  (hnodes : ∀ ts, (c'.nodeAt? ts).isSome = (c.nodeAt? ts).isSome)

include h h' hnodes

/-- Catalogs with the same folders list the same titles below every path. -/
theorem Consistent.subtitles_eq : c'.subtitles = c.subtitles := by
  funext ts
  have hperm : (c'.subtitles ts).Perm (c.subtitles ts) := by
    refine (List.perm_ext_iff_of_nodup (h'.nodup_subtitles ts) (h.nodup_subtitles ts)).2 ?_
    intro t
    rw [h'.mem_subtitles, h.mem_subtitles, hnodes]
  -- Both are sorted, and titles of one node differ.
  exact hperm.eq_of_pairwise (fun a b _ _ hab hba => String.le_antisymm hab hba)
    (sorted_subtitles c' ts) (sorted_subtitles c ts)

end

section

variable {c c' : Catalog} (h : c.Consistent) (h' : c'.Consistent)
  (hnodes : ∀ ts, (c'.nodeAt? ts).isSome = (c.nodeAt? ts).isSome)

include h h' hnodes

/-- They count as many folders. -/
theorem Consistent.folderCount_eq : c'.folderCount = c.folderCount := by
  -- There are as many folders as paths, and the paths are the same up to their order.
  have hperm : c'.paths.Perm c.paths := by
    apply (List.perm_ext_iff_of_nodup h'.nodup_paths h.nodup_paths).2
    intro p
    rw [h'.mem_paths, h.mem_paths]
    simp only [hnodes]
  have hlength := hperm.length_eq
  rw [paths, paths, List.length_map, List.length_map, Std.ExtTreeMap.length_toList,
    Std.ExtTreeMap.length_toList] at hlength
  exact hlength

/-- **An outline tells titles and lines only.** -/
theorem Consistent.outline_eq
    (hlines : ∀ ts, ((c'.labelsAt ts).map Label.line).Perm ((c.labelsAt ts).map Label.line)) :
    c'.outline = c.outline := by
  have hlisted : c'.listedAt = c.listedAt := by
    funext ts
    rw [listedAt, mergeSort_lines_eq (hlines ts), listedAt]
  rw [outline, outline, outlineLines, outlineLines, h'.outlineBelow_eq (nodeAt?_nil c'),
    h.outlineBelow_eq (nodeAt?_nil c), h.subtitles_eq h' hnodes, hlisted,
    h.folderCount_eq h' hnodes]

end

end Catalog

end MediaShelves
