import Std.Data.ExtTreeMap
import MediaShelves.Proofs.Catalog.Plans

/-!
# What a plan adds

A plan gives ids.  They are those of new items, in the order in which the items were made: each is at
least the next id of the catalog before and less than that of the catalog after, so the ids of one
placement come before those of the next (`Extended.trans`).

Main statement: what a plan adds is what it says, and all else stays (`Consistent.adds_plan`).
-/

namespace MediaShelves.Catalog

/-! ## How many items are placed -/

/-- The items of a table in the order of their ids. -/
theorem values_eq_map_toList {β : Type} (t : Std.ExtTreeMap NodeId β) :
    t.values = t.toList.map (·.2) := by
  obtain ⟨⟨m⟩⟩ := t
  -- Both lists are read off the same tree.
  induction m using Quotient.ind with
  | _ m =>
    have hvalues : m.values = m.inner.toListModel.map (·.2) :=
      Std.DTreeMap.Internal.Impl.values_eq_map_snd
    have htoList : Std.DTreeMap.Const.toList m = m.inner.toListModel.map fun e => (e.1, e.2) :=
      Std.DTreeMap.Internal.Impl.Const.toList_eq_toListModel_map
    show m.values = (Std.DTreeMap.Const.toList m).map (·.2)
    rw [hvalues, htoList, List.map_map]
    rfl

/-- Whether an id is that of an item that is placed. -/
def IsPlaced (c : Catalog) (i : NodeId) : Prop :=
  ∃ r, c.item? i = some r ∧ r.parent.isSome

/-- The ids of the items that are placed, in their order. -/
def placedIds (c : Catalog) : List NodeId :=
  (c.itemTable.toList.filter fun e => e.2.parent.isSome).map (·.1)

/-- The ids of placed items are the ids of items that are placed. -/
theorem mem_placedIds {c : Catalog} {i : NodeId} : i ∈ c.placedIds ↔ c.IsPlaced i := by
  simp only [placedIds, IsPlaced, item?, List.mem_map, List.mem_filter, Prod.exists,
    exists_and_right, exists_eq_right, Std.ExtTreeMap.mem_toList_iff_getElem?_eq_some]

theorem nodup_placedIds (c : Catalog) : c.placedIds.Nodup := by
  have hkeys : c.itemTable.toList.Pairwise fun a b => a.1 ≠ b.1 := by
    refine Std.ExtTreeMap.distinct_keys_toList.imp ?_
    intro a b hab heq
    exact hab (Std.LawfulEqCmp.compare_eq_iff_eq.2 heq)
  exact List.pairwise_map.2 (hkeys.filter _)

/-- There are as many of these ids as the catalog counts items. -/
theorem length_placedIds (c : Catalog) : c.placedIds.length = c.itemCount := by
  rw [placedIds, List.length_map, itemCount, items, values_eq_map_toList, List.countP_map,
    List.countP_eq_length_filter]
  rfl

/-- Items that are new among those that are placed are counted. -/
theorem itemCount_of_isPlaced {c c' : Catalog} {ids : List NodeId} (hids : ids.Nodup)
    (hnew : ∀ i ∈ ids, ¬ c.IsPlaced i)
    (hplaced : ∀ i, c'.IsPlaced i ↔ c.IsPlaced i ∨ i ∈ ids) :
    c'.itemCount = c.itemCount + ids.length := by
  have hnodup : (c.placedIds ++ ids).Nodup := by
    refine List.nodup_append.2 ⟨c.nodup_placedIds, hids, ?_⟩
    rintro i hi j hj rfl
    exact hnew i hj (mem_placedIds.1 hi)
  have hperm : c'.placedIds.Perm (c.placedIds ++ ids) := by
    refine (List.perm_ext_iff_of_nodup c'.nodup_placedIds hnodup).2 fun i => ?_
    rw [mem_placedIds, hplaced, List.mem_append, mem_placedIds]
  rw [← length_placedIds, ← length_placedIds, hperm.length_eq, List.length_append]

/-! ## Additions -/

/--
From `c` to `c'` items with the ids `ids` were added, and otherwise at most folders.  The bounds say
that the ids were given out in between.
-/
structure Extended (c : Catalog) (ids : List NodeId) (c' : Catalog) : Prop where
  nextId_le : c.nextId ≤ c'.nextId
  increasing : ids.Pairwise (· < ·)
  bounds : ∀ i ∈ ids, c.nextId ≤ i ∧ i < c'.nextId
  placed : ∀ i ∈ ids, ∃ r p f, c'.item? i = some r ∧ r.parent = some p ∧ c'.folder? p = some f
  item?_eq : ∀ i ∉ ids, c'.item? i = c.item? i
  fileIndex_eq : c'.fileIndex = c.fileIndex
  grows : c.Grows c'

/-- Nothing is added by doing nothing. -/
theorem Extended.refl (c : Catalog) : c.Extended [] c where
  nextId_le := Nat.le_refl _
  increasing := .nil
  bounds := by simp
  placed := by simp
  item?_eq := fun _ _ => rfl
  fileIndex_eq := rfl
  grows := Grows.refl c

/-- What two additions add is listed in turn; that the ids increase is read off their bounds. -/
theorem Extended.trans {a b c : Catalog} {ids more : List NodeId} (hab : a.Extended ids b)
    (hbc : b.Extended more c) : a.Extended (ids ++ more) c where
  nextId_le := Nat.le_trans hab.nextId_le hbc.nextId_le
  increasing := by
    refine List.pairwise_append.2 ⟨hab.increasing, hbc.increasing, ?_⟩
    intro i hi j hj
    exact Nat.lt_of_lt_of_le (hab.bounds i hi).2 (hbc.bounds j hj).1
  bounds i hi := by
    rcases List.mem_append.1 hi with hi | hi
    · exact ⟨(hab.bounds i hi).1, Nat.lt_of_lt_of_le (hab.bounds i hi).2 hbc.nextId_le⟩
    · exact ⟨Nat.le_trans hab.nextId_le (hbc.bounds i hi).1, (hbc.bounds i hi).2⟩
  placed i hi := by
    rcases List.mem_append.1 hi with hi | hi
    · obtain ⟨r, p, f, hr, hp, hf⟩ := hab.placed i hi
      -- What came later has other ids, and the folder stays.
      have hlater : i ∉ more := fun hmore =>
        absurd (hab.bounds i hi).2 (Nat.not_lt.2 (hbc.bounds i hmore).1)
      obtain ⟨g, hg, -⟩ := hbc.grows.folder hf
      exact ⟨r, p, _, (hbc.item?_eq i hlater).trans hr, hp, hg⟩
    · exact hbc.placed i hi
  item?_eq i hi := by
    rw [List.mem_append, not_or] at hi
    exact (hbc.item?_eq i hi.2).trans (hab.item?_eq i hi.1)
  fileIndex_eq := hbc.fileIndex_eq.trans hab.fileIndex_eq
  grows := hab.grows.trans hbc.grows

/-! ## Requests -/

/-- Going down a trail takes no id back. -/
theorem nextId_le_openBelow (t : Trail) (parent : NodeId) (path : String) (c : Catalog) :
    c.nextId ≤ (openBelow parent path t c).2.nextId := by
  induction t generalizing parent path c with
  | nil => exact Nat.le_refl _
  | cons f t ih =>
    have hfirst : c.nextId ≤
        (openChild parent (ContainerPath.child path f.title) f c).2.nextId := by
      -- A folder that is made takes an id, one that is there takes none.
      obtain ⟨id, -, heq⟩ | ⟨-, heq⟩ := openChild_cases parent (ContainerPath.child path f.title) f c
      · rw [heq]
        exact Nat.le_refl _
      · rw [heq]
        exact Nat.le_max_left ..
    exact Nat.le_trans hfirst (ih _ _ _)

/-- A folder that is told more is no item. -/
theorem extended_changeFolder (c : Catalog) (id : NodeId) {change : Folder → Folder}
    (htitle : ∀ f, (change f).title = f.title) : c.Extended [] (c.changeFolder id change) where
  nextId_le := Nat.le_refl _
  increasing := .nil
  bounds := by simp
  placed := by simp
  item?_eq _ _ := rfl
  fileIndex_eq := rfl
  grows := grows_changeFolder c id htitle

section

variable {c : Catalog} (h : c.Consistent)

include h

/-- A trail adds no item. -/
theorem Consistent.extended_openTrail (t : Trail) : c.Extended [] (Catalog.openTrail t c).2 where
  nextId_le := nextId_le_openBelow t rootId "" c
  increasing := .nil
  bounds := by simp
  placed := by simp
  item?_eq i _ := item?_openTrail t c i
  fileIndex_eq := fileIndex_openTrail t c
  grows := h.grows_openTrail t

/-- An item that is new in its folder gets the next id. -/
theorem Consistent.extended_addItem {p : NodeId} {f : StoredFolder} (hf : c.folder? p = some f)
    (x : MediaItem) : c.Extended [c.freshId none] (c.addItem p x).2 where
  -- There is one id, which the catalog gave next, so there is nothing to compare it with.
  nextId_le := Nat.le_max_left ..
  increasing := List.pairwise_singleton ..
  bounds i hi := by
    obtain rfl := List.mem_singleton.1 hi
    exact ⟨Nat.le_max_left .., lt_next_self ..⟩
  placed i hi := by
    obtain rfl := List.mem_singleton.1 hi
    exact ⟨_, p, f, by rw [item?_addItem, if_pos rfl], rfl, hf⟩
  item?_eq i hi := by
    rw [item?_addItem, if_neg (by simpa using hi)]
  fileIndex_eq := rfl
  grows := h.grows_addItem p x

/-- An item that is placed in a folder is the only one that is new, if it is new. -/
theorem Consistent.extended_place {p : NodeId} {f : StoredFolder} (hf : c.folder? p = some f)
    (x : MediaItem) (hint : Option String) :
    c.Extended (Catalog.place x p hint c).1.toList (Catalog.place x p hint c).2 := by
  have hchange : c.Extended [] (c.changeFolder p (hintFolder hint)) :=
    extended_changeFolder c p (title_hintFolder hint)
  -- The hint comes first, and the folder is there after it as well.
  obtain ⟨g, hg⟩ := exists_folder?_changeFolder p (hintFolder hint) hf
  obtain ⟨habsent, -⟩ | ⟨-, -, heq⟩ | ⟨-, -, heq⟩ := place_cases x p hint c
  · exact absurd (.inr (by simp [hf])) habsent
  · rw [heq]
    exact hchange
  · rw [heq]
    exact hchange.trans ((h.hint p hint).extended_addItem hg x)

/-! ## Plans -/

/-- A placement adds the one item whose id it gives, or none. -/
theorem Consistent.extended_placement (p : Placement) :
    c.Extended (p.carryOut c).1.toList (p.carryOut c).2 := by
  obtain ⟨-, hp⟩ | ⟨-, i, hi, hp⟩ := h.placement_cases p
  · rw [hp]
    exact Extended.refl c
  · obtain ⟨f, hf, -⟩ := (h.openTrail p.trail).pathIndex_iff.1 hi
    rw [hp]
    exact (h.extended_openTrail p.trail).trans
      ((h.openTrail p.trail).extended_place hf p.item p.hint)

end

/-- A plan adds the items whose ids it gives. -/
theorem Consistent.extended_plan {c : Catalog} (h : c.Consistent) (plan : Plan) :
    c.Extended (plan.carryOut c).1 (plan.carryOut c).2 := by
  induction plan generalizing c with
  | nil => exact Extended.refl c
  | cons p plan ih =>
    rw [Plan.carryOut_cons]
    exact (h.extended_placement p).trans (ih (h.placement p))

/-! ## What is said about it -/

/--
From `c` to `c'` exactly the items with the ids `ids` were added.  They come in the order of their
ids, none of which was in use, and lie in folders; every other id stands for the item that it stood
for, if any, and so does every location; and folders stay where they are.
-/
structure Adds (c : Catalog) (ids : List NodeId) (c' : Catalog) : Prop where
  increasing : ids.Pairwise (· < ·)
  unused : ∀ i ∈ ids, c.item? i = none ∧ c.folder? i = none
  placed : ∀ i ∈ ids, ∃ r p f, c'.item? i = some r ∧ r.parent = some p ∧ c'.folder? p = some f
  item?_eq : ∀ i ∉ ids, c'.item? i = c.item? i
  itemCount_eq : c'.itemCount = c.itemCount + ids.length
  fileIndex_eq : c'.fileIndex = c.fileIndex
  folder : ∀ i r, c.folder? i = some r → ∃ f, c'.folder? i = some { r with folder := f }
  pathIndex : ∀ (p : String) (i : NodeId), c.pathIndex[p]? = some i → c'.pathIndex[p]? = some i

section

variable {c c' : Catalog} {ids : List NodeId}

/-- What was given out is new, since all that is old lies below the next id. -/
theorem Extended.unused (hadd : c.Extended ids c') (h : c.Consistent) :
    ∀ i ∈ ids, c.item? i = none ∧ c.folder? i = none := by
  intro i hi
  -- Every id in use lies below the next one, and these do not.
  have hnext : ¬ i < c.nextId := Nat.not_lt.2 (hadd.bounds i hi).1
  constructor
  · rw [Option.eq_none_iff_forall_ne_some]
    intro r hr
    exact hnext (h.item_bounds hr).2
  · rw [Option.eq_none_iff_forall_ne_some]
    intro r hr
    exact hnext (h.folder_bounds hr).2

theorem Extended.adds (hadd : c.Extended ids c') (h : c.Consistent) (h' : c'.Consistent) :
    c.Adds ids c' where
  increasing := hadd.increasing
  unused := hadd.unused h
  placed := hadd.placed
  item?_eq := hadd.item?_eq
  itemCount_eq := by
    -- The new items are not among the old ones, and all others lie where they lay.
    apply itemCount_of_isPlaced (hadd.increasing.imp Nat.ne_of_lt)
    · rintro i hi ⟨r, hr, -⟩
      rw [(hadd.unused h i hi).1] at hr
      cases hr
    · intro i
      by_cases hi : i ∈ ids
      · obtain ⟨r, p, -, hr, hp, -⟩ := hadd.placed i hi
        exact iff_of_true ⟨r, hr, by rw [hp]; rfl⟩ (.inr hi)
      · rw [IsPlaced, IsPlaced, hadd.item?_eq i hi]
        exact (or_iff_left hi).symm
  fileIndex_eq := hadd.fileIndex_eq
  folder i r hr := by
    obtain ⟨f, hf, -⟩ := hadd.grows.folder hr
    exact ⟨f, hf⟩
  pathIndex p i hi := hadd.grows.pathIndex h h' hi

theorem Consistent.adds_plan (h : c.Consistent) (plan : Plan) :
    c.Adds (plan.carryOut c).1 (plan.carryOut c).2 :=
  (h.extended_plan plan).adds h (h.plan plan)

end

/-! ## What adds no item to a folder -/

/-- Where the same items are placed, as many are placed. -/
theorem itemCount_eq_of_isPlaced {c c' : Catalog} (hplaced : ∀ i, c'.IsPlaced i ↔ c.IsPlaced i) :
    c'.itemCount = c.itemCount := by
  apply itemCount_of_isPlaced .nil (by simp)
  intro i
  rw [hplaced, List.mem_nil_iff, or_false]

/-- A file that is registered lies in no folder. -/
theorem Consistent.itemCount_register {c : Catalog} (h : c.Consistent) (x : MediaItem) :
    (c.register x).2.itemCount = c.itemCount := by
  obtain ⟨id, -, heq⟩ | ⟨-, heq⟩ := c.register_cases x
  · rw [heq]
  · rw [heq]
    apply itemCount_eq_of_isPlaced
    intro i
    by_cases hi : i = c.freshId none
    · -- A canonical item has no parent, and before it there was none with this id.
      simp [IsPlaced, hi, h.item?_freshId]
    · simp [IsPlaced, hi]

/-- An item that is revised stays where it is. -/
theorem itemCount_revise (c : Catalog) (x : MediaItem) :
    (Catalog.revise x c).2.itemCount = c.itemCount := by
  obtain ⟨-, heq⟩ | ⟨id, -, -, heq⟩ := revise_cases x c
  · rw [heq]
  · rw [heq]
    apply itemCount_eq_of_isPlaced
    intro i
    -- A changed item has the parent that it had, so it is placed if it was.
    constructor
    · rintro ⟨r, hr, hparent⟩
      obtain ⟨y, hy, -⟩ := of_item?_changeItem hr
      exact ⟨_, hy, hparent⟩
    · rintro ⟨r, hr, hparent⟩
      obtain ⟨y, hy, -⟩ := exists_item?_changeItem id (fun old => reviseItem old x) hr
      exact ⟨_, hy, hparent⟩

theorem itemCount_empty : empty.itemCount = 0 := by
  rw [← length_placedIds, List.length_eq_zero_iff, List.eq_nil_iff_forall_not_mem]
  intro i hi
  obtain ⟨r, hr, -⟩ := mem_placedIds.1 hi
  rw [item?_empty] at hr
  cases hr

end MediaShelves.Catalog
