import Mathlib.Data.List.Nodup
import MediaShelves.Proofs.Catalog.Labels
import MediaShelves.Proofs.Catalog.Repetition
import MediaShelves.Proofs.Plan.Builders

/-!
# Copies of an item

The items in a folder that stand for one item, at one position.  There is never more than one of
them, and a plan leaves one at the end of each of its trails and none anywhere else.

Main statements: `Consistent.receives_plan`, for any item, and `Consistent.fills_plan`, for an item with
an id, whose copies can be counted.
-/

namespace MediaShelves

namespace Catalog

/-- The items in a folder that refer to the item with an id, at a position. -/
def copiesIn (c : Catalog) (folder j : NodeId) (position : Option Nat) : List StoredItem :=
  (c.itemsIn folder).filter fun r => r.item.refersTo = some j ∧ r.item.playlistOrder = position

/-- The folder that is found by titles is the one that the path of these titles leads to. -/
theorem findFolder?_of_pathIndex {c : Catalog} {ts : List String} {i : NodeId} {f : StoredFolder}
    (hi : c.pathIndex[ContainerPath.ofTitles ts]? = some i) (hf : c.folder? i = some f) :
    c.findFolder? ts = some f := by
  rw [findFolder?, folderAt?, hi, Option.bind_some, hf]

section

variable {c : Catalog} (h : c.Consistent)

include h

/-- No folder has two copies of an item at one position. -/
theorem Consistent.length_copiesIn_le (folder j : NodeId) (position : Option Nat) :
    (c.copiesIn folder j position).length ≤ 1 := by
  have hnodup : (c.copiesIn folder j position).Nodup := (h.nodup_itemsIn folder).filter _
  have hsame : ∀ r ∈ c.copiesIn folder j position, ∀ s ∈ c.copiesIn folder j position, r = s := by
    intro r hr s hs
    obtain ⟨hr, hr'⟩ := List.mem_filter.1 hr
    obtain ⟨hs, hs'⟩ := List.mem_filter.1 hs
    obtain ⟨hrefers, horder⟩ := of_decide_eq_true hr'
    obtain ⟨hrefers', horder'⟩ := of_decide_eq_true hs'
    obtain ⟨i, hi, hparent⟩ := h.mem_itemsIn.1 hr
    obtain ⟨k, hk, hparent'⟩ := h.mem_itemsIn.1 hs
    -- Both stand for the same item at the same position of the same folder.
    have hik : i = k := by
      apply h.item_unique hi hk (by simp [hparent]) (hparent.trans hparent'.symm)
      · rw [identity_eq_canonical_iff.2 hrefers, identity_eq_canonical_iff.2 hrefers']
      · exact horder.trans horder'.symm
    rw [hik, hk] at hi
    exact (Option.some.inj hi).symm
  match hcopies : c.copiesIn folder j position with
  | [] => simp
  | [r] => simp
  | r :: s :: rest =>
    rw [hcopies] at hnodup hsame
    have hrs : r = s := hsame r (by simp) s (by simp)
    simp [hrs] at hnodup

/-- Where something is in the way of an item that refers to another one, it is its only copy. -/
theorem Consistent.length_copiesIn {x : MediaItem} {folder j : NodeId}
    (hrefers : x.refersTo = some j) (hplaced : (c.placed? x folder).isSome) :
    (c.copiesIn folder j x.playlistOrder).length = 1 := by
  rw [placed?, Option.isSome_map, List.isSome_find?, List.any_eq_true] at hplaced
  obtain ⟨r, hr, hsame⟩ := hplaced
  obtain ⟨hident, horder⟩ := of_decide_eq_true hsame
  rw [identity_eq_canonical_iff.2 hrefers, identity_eq_canonical_iff] at hident
  have hmem : r ∈ c.copiesIn folder j x.playlistOrder :=
    List.mem_filter.2 ⟨hr, decide_eq_true ⟨hident, horder⟩⟩
  exact Nat.le_antisymm (h.length_copiesIn_le folder j x.playlistOrder)
    (List.length_pos_of_mem hmem)

/-- Where nothing is left to do for a placement, the folder at the end of its trail has its item. -/
theorem Consistent.exists_copy_of_fulfils {p : Placement} {j : NodeId} (ht : p.trail ≠ [])
    (hrefers : p.item.refersTo = some j) (hp : c.Fulfils p) :
    ∃ f, c.findFolder? p.trail.titles = some f ∧
      (c.copiesIn f.id j p.item.playlistOrder).length = 1 := by
  obtain ⟨i, hi, hplaced⟩ := hp.resolve_left ht
  obtain ⟨f, hf, -⟩ := h.pathIndex_iff.1 hi
  refine ⟨f, findFolder?_of_pathIndex hi hf, ?_⟩
  rw [(h.folder_id hf).1]
  exact h.length_copiesIn hrefers hplaced

end

end Catalog

/-! ## What a plan stands for -/

/-- All placements are of what one item stands for, as it is placed. -/
def Plan.StandsFor (plan : Plan) (x : MediaItem) : Prop :=
  ∀ p ∈ plan, p.item.identity = x.reference.identity

section

variable {x : MediaItem} {plan rest : Plan}

@[simp] theorem Plan.standsFor_nil : Plan.StandsFor [] x := by
  simp [StandsFor]

@[simp] theorem Plan.standsFor_cons {p : Placement} :
    Plan.StandsFor (p :: plan) x ↔ p.item.identity = x.reference.identity ∧ plan.StandsFor x :=
  List.forall_mem_cons

@[simp] theorem Plan.standsFor_append :
    Plan.StandsFor (plan ++ rest) x ↔ plan.StandsFor x ∧ rest.StandsFor x :=
  List.forall_mem_append

@[simp] theorem Plan.standsFor_map {α : Type} {f : α → Placement} {as : List α} :
    Plan.StandsFor (as.map f) x ↔ ∀ a ∈ as, (f a).item.identity = x.reference.identity :=
  List.forall_mem_map

@[simp] theorem Plan.standsFor_when {condition : Bool} :
    (Plan.when condition plan).StandsFor x ↔ (condition → plan.StandsFor x) :=
  Plan.forall_mem_when

end

@[simp] theorem identity_titled (x : MediaItem) (title : String) :
    (x.titled title).identity = x.reference.identity := rfl

@[simp] theorem identity_annotate (x : MediaItem) (f : AudioFacets) :
    (f.annotate x).reference.identity = x.reference.identity := by
  simp [MediaItem.identity, AudioFacets.annotate, MediaItem.reference, Option.or_assoc]

/-- A plan places nothing but what its item stands for. -/
theorem Builder.standsFor_plan {b : Builder} {c : Configuration} {o : Origin} {x : MediaItem}
    {plan : Plan} (hplan : b.plan c o x = .ok plan) : plan.StandsFor x := by
  apply Builder.plan_induction (c := c) (o := o) (x := x) (motive := (·.StandsFor x)) Plan.standsFor_nil
  · -- Each builder places the reference of the item, under one title or another.
    intro s _
    simp [Plan.audio]
  · intro s _
    simp [Plan.structured]
  · intro s f _
    simp [Plan.visual]
  · intro s f _
    simp [Plan.visual]
  · intro s _
    simp [Plan.detailedImage]
  · intro s _
    simp [Plan.detailedVideo]
  · intro s _
    simp [Plan.online, MediaItem.identity]
  · simp [Configuration.directoryPlan]
  · exact hplan

namespace Catalog

/-! ## What a plan reaches -/

/-- What is in the way of an item depends on what the item stands for and on its position only. -/
theorem placed?_congr {x y : MediaItem} (hidentity : x.identity = y.identity)
    (horder : x.playlistOrder = y.playlistOrder) (c : Catalog) (folder : NodeId) :
    c.placed? x folder = c.placed? y folder := by
  rw [placed?, placed?, hidentity, horder]

/-- A folder that no trail of a plan leads to gets no item. -/
theorem Consistent.itemsIn_plan_elsewhere {c : Catalog} (h : c.Consistent) {plan : Plan}
    {leaf : List String → Prop} (hleaf : ∀ ts, leaf ts ↔ ∃ p ∈ plan, p.trail.titles = ts)
    {i : NodeId}
    (hi : ∀ ts f, leaf ts → (plan.carryOut c).2.findFolder? ts = some f → f.id ≠ i) :
    (plan.carryOut c).2.itemsIn i = c.itemsIn i := by
  apply h.itemsIn_plan
  intro p hp hindex
  obtain ⟨f, hf, -⟩ := (h.plan plan).pathIndex_iff.1 hindex
  exact hi p.trail.titles f ((hleaf _).2 ⟨p, hp, rfl⟩) (findFolder?_of_pathIndex hindex hf)
    ((h.plan plan).folder_id hf).1

/--
From `c` to `c'` the item `x` came to the folders at some titles: each of them has an item that stands for
what `x` stands for as it is placed, at its position, and no other folder has got any item.
-/
structure Receives (c c' : Catalog) (x : MediaItem) (leaf : List String → Prop) : Prop where
  there : ∀ ts, leaf ts → ∃ f, c'.findFolder? ts = some f ∧ (c'.placed? x.reference f.id).isSome
  elsewhere : ∀ i, (∀ ts f, leaf ts → c'.findFolder? ts = some f → f.id ≠ i) →
    c'.itemsIn i = c.itemsIn i

/-- The folders that the trails of a plan lead to receive its item, and no other ones. -/
theorem Consistent.receives_plan {c : Catalog} (h : c.Consistent) {plan : Plan} {x : MediaItem}
    (hitem : plan.OfItem x) (hstands : plan.StandsFor x) (ht : plan.Trailed)
    {leaf : List String → Prop} (hleaf : ∀ ts, leaf ts ↔ ∃ p ∈ plan, p.trail.titles = ts) :
    c.Receives (plan.carryOut c).2 x leaf where
  there ts hts := by
    obtain ⟨p, hp, rfl⟩ := (hleaf ts).1 hts
    obtain ⟨i, hi, hplaced⟩ := (h.fulfils_plan plan p hp).resolve_left (ht p hp)
    obtain ⟨f, hf, -⟩ := (h.plan plan).pathIndex_iff.1 hi
    refine ⟨f, findFolder?_of_pathIndex hi hf, ?_⟩
    rw [((h.plan plan).folder_id hf).1, ← placed?_congr (hstands p hp) (hitem p hp).2]
    exact hplaced
  elsewhere _ hi := h.itemsIn_plan_elsewhere hleaf hi

/-! ## What a plan fills -/

/--
From `c` to `c'` an item with the id `j` came to the folders at some titles: each of them has exactly
one copy of it at its position, and no other folder has got any item.
-/
structure Fills (c c' : Catalog) (x : MediaItem) (j : NodeId) (leaf : List String → Prop) :
    Prop where
  once : ∀ ts, leaf ts → ∃ f, c'.findFolder? ts = some f ∧
    (c'.copiesIn f.id j x.playlistOrder).length = 1
  elsewhere : ∀ i, (∀ ts f, leaf ts → c'.findFolder? ts = some f → f.id ≠ i) →
    c'.itemsIn i = c.itemsIn i

/-- A plan of an item fills the folders that its trails lead to, and these only. -/
theorem Consistent.fills_plan {c : Catalog} (h : c.Consistent) {plan : Plan} {x : MediaItem}
    {j : NodeId} (hitem : plan.OfItem x) (ht : plan.Trailed) (hj : x.refersTo.or x.id = some j)
    {leaf : List String → Prop} (hleaf : ∀ ts, leaf ts ↔ ∃ p ∈ plan, p.trail.titles = ts) :
    c.Fills (plan.carryOut c).2 x j leaf where
  once ts hts := by
    obtain ⟨p, hp, rfl⟩ := (hleaf ts).1 hts
    obtain ⟨hrefers, horder⟩ := hitem p hp
    rw [← horder]
    exact (h.plan plan).exists_copy_of_fulfils (ht p hp) (hrefers.trans hj)
      (h.fulfils_plan plan p hp)
  elsewhere _ hi := h.itemsIn_plan_elsewhere hleaf hi

end Catalog

end MediaShelves
