import MediaShelves.Proofs.Catalog.Copies
import MediaShelves.Proofs.Sidecar.Revision
import MediaShelves.Proofs.Steps

/-!
# Classes of copies

A copy is placed with the class that its item has by then.  Items that are there keep their classes
when more of them come, so every item that refers to another one has the class of that one.

Main statement: imports keep this (`CopiesAgree.importItem`).
-/

namespace MediaShelves

/-! ## What builders place -/

@[simp] theorem upnpClass_reference (x : MediaItem) : x.reference.upnpClass = x.upnpClass := rfl

@[simp] theorem upnpClass_titled (x : MediaItem) (title : String) :
    (x.titled title).upnpClass = x.upnpClass := rfl

@[simp] theorem upnpClass_annotate (x : MediaItem) (f : AudioFacets) :
    (f.annotate x).upnpClass = x.upnpClass := rfl

/-- Whatever a builder places has the class of the item that it was made for. -/
theorem Builder.upnpClass_of_mem_plan {b : Builder} {c : Configuration} {o : Origin} {x : MediaItem}
    {plan : Plan} (hplan : b.plan c o x = .ok plan) :
    ∀ p ∈ plan, p.item.upnpClass = x.upnpClass := by
  -- Plans are put together from parts, and in each part stands the item under some title.
  apply Builder.plan_induction (c := c) (o := o) (x := x)
    (motive := fun plan => ∀ p ∈ plan, p.item.upnpClass = x.upnpClass)
  · intro p hp
    cases hp
  · intro s _
    simp only [Plan.audio, List.forall_mem_append, List.forall_mem_map, Plan.forall_mem_when]
    simp
  · intro s _
    simp only [Plan.structured, List.forall_mem_append, Plan.forall_mem_when]
    simp
  · intro s f _
    simp only [Plan.visual, List.forall_mem_append, Plan.forall_mem_when]
    simp
  · intro s f _
    simp only [Plan.visual, List.forall_mem_append, Plan.forall_mem_when]
    simp
  · intro s _
    simp only [Plan.detailedImage, List.forall_mem_append, List.forall_mem_map,
      Plan.forall_mem_when]
    simp
  · intro s _
    simp only [Plan.detailedVideo, List.forall_mem_append, Plan.forall_mem_when]
    simp
  · intro s _
    simp only [Plan.online, List.forall_mem_append, List.forall_mem_map, Plan.forall_mem_when]
    simp
  · simp only [Configuration.directoryPlan, Plan.forall_mem_when]
    simp
  · exact hplan

namespace Catalog

/-! ## Agreement -/

/-- If an item refers to another one, this is in the catalog and has the same class. -/
def Agrees (c : Catalog) (x : MediaItem) : Prop :=
  ∀ i, x.refersTo = some i → ∃ r, c.item? i = some r ∧ r.item.upnpClass = x.upnpClass

/-- Only the reference and the class of an item count. -/
theorem Agrees.congr {c : Catalog} {x y : MediaItem} (hx : c.Agrees x)
    (hrefers : y.refersTo = x.refersTo) (hclass : y.upnpClass = x.upnpClass) : c.Agrees y := by
  intro i hi
  rw [hclass]
  exact hx i (hrefers ▸ hi)

/-- An item that is there for good agrees for good. -/
theorem Agrees.mono {c d : Catalog} {x : MediaItem} (hx : c.Agrees x)
    (hitems : ∀ i r, c.item? i = some r → d.item? i = some r) : d.Agrees x := by
  intro i hi
  obtain ⟨r, hr, hclass⟩ := hx i hi
  exact ⟨r, hitems i r hr, hclass⟩

/-- An item that stands for no other has no class to agree with. -/
theorem agrees_of_refersTo_eq_none {c : Catalog} {x : MediaItem} (hx : x.refersTo = none) :
    c.Agrees x := by
  intro i hi
  rw [hx] at hi
  cases hi

/-- All items know their ids, and each that refers to another one has the class of that one. -/
structure CopiesAgree (c : Catalog) : Prop where
  consistent : c.Consistent
  knowsIds : c.KnowsIds
  agrees : ∀ i r, c.item? i = some r → c.Agrees r.item

/-- An empty catalog has no copies. -/
theorem copiesAgree_empty : empty.CopiesAgree where
  consistent := consistent_empty
  knowsIds := knowsIds_empty
  agrees i r hr := by
    rw [item?_empty] at hr
    cases hr

section

variable {c : Catalog} (h : c.CopiesAgree)

include h

/-- An item of the catalog agrees as it is placed: it refers to itself, or on to another one. -/
theorem CopiesAgree.agrees_reference {i : NodeId} {r : StoredItem} (hr : c.item? i = some r) :
    c.Agrees r.item.reference := by
  intro k hk
  rw [refersTo_reference] at hk
  -- An item that refers to none refers to itself as it is placed.
  cases hrefers : r.item.refersTo with
  | none =>
    rw [hrefers, Option.none_or, h.knowsIds i r hr, Option.some.injEq] at hk
    rw [← hk]
    exact ⟨r, hr, rfl⟩
  | some j =>
    rw [hrefers, Option.some_or, ← hrefers] at hk
    exact h.agrees i r hr k hk

/-! ## Plans -/

/-- Trails make folders and leave the items alone. -/
theorem CopiesAgree.openTrail (t : Trail) : (Catalog.openTrail t c).2.CopiesAgree where
  consistent := h.consistent.openTrail t
  knowsIds := h.knowsIds.apply (.openTrail t)
  agrees := by
    intro i r hr
    rw [item?_openTrail] at hr
    refine (h.agrees i r hr).mono ?_
    intro k s hs
    exact (item?_openTrail t c k).trans hs

/-- Placing an item whose class agrees leaves all copies agreeing. -/
theorem CopiesAgree.place {x : MediaItem} (hx : c.Agrees x) (folder : NodeId)
    (hint : Option String) : (Catalog.place x folder hint c).2.CopiesAgree where
  consistent := h.consistent.place x folder hint
  knowsIds := h.knowsIds.apply (.place x folder hint)
  agrees := by
    intro i r hr
    -- What agreed before agrees still, so only the item that comes is left.
    suffices c.Agrees r.item from this.mono (h.consistent.place_items x folder hint).1
    obtain ⟨-, heq⟩ | ⟨-, -, heq⟩ | ⟨-, -, heq⟩ := place_cases x folder hint c
    · rw [heq] at hr
      exact h.agrees i r hr
    · rw [heq] at hr
      exact h.agrees i r hr
    · rw [heq, item?_addItem] at hr
      split at hr
      · cases hr
        exact hx.congr rfl rfl
      · exact h.agrees i r hr

/-- So does a placement of it. -/
theorem CopiesAgree.placement {p : Placement} (hp : c.Agrees p.item) :
    (p.carryOut c).2.CopiesAgree := by
  obtain ⟨-, heq⟩ | ⟨-, folder, -, heq⟩ := h.consistent.placement_cases p
  · rw [heq]
    exact h
  · rw [heq]
    have hopen := h.openTrail p.trail
    refine hopen.place (hp.mono ?_) folder p.hint
    intro i r hr
    exact (item?_openTrail p.trail c i).trans hr

/-- **A plan whose items agree keeps all copies in agreement.** -/
theorem CopiesAgree.plan {plan : Plan} (hplan : ∀ p ∈ plan, c.Agrees p.item) :
    (plan.carryOut c).2.CopiesAgree := by
  induction plan generalizing c with
  | nil => exact h
  | cons p plan ih =>
    apply ih (h.placement (hplan p (List.mem_cons_self ..)))
    -- The first placement leaves the items alone that the others refer to.
    intro q hq
    exact (hplan q (List.mem_cons_of_mem p hq)).mono (h.consistent.placement_items p).1

/-! ## Imports -/

/-- An entry of a playlist is an address, which refers to nothing, or a file that is known. -/
theorem CopiesAgree.agrees_entryItem {playlist : MediaItem} {f : Playlist.Format}
    {e : Playlist.Entry} {x : MediaItem}
    (hx : Playlist.entryItem? (Shelves.canonical? c) playlist f e = some x) : c.Agrees x := by
  unfold Playlist.entryItem? at hx
  split at hx
  · cases hx
    exact agrees_of_refersTo_eq_none rfl
  · obtain ⟨y, hy, rfl⟩ := Option.map_eq_some_iff.1 hx
    obtain ⟨i, hitem, -, -⟩ := h.consistent.exists_canonical h.knowsIds hy
    exact (h.agrees_reference hitem).congr rfl rfl

/-- The entries of a playlist have the classes of the items they stand for. -/
theorem CopiesAgree.agrees_numbered {playlist : MediaItem} {f : Playlist.Format}
    {trails : List Trail} {next : Nat} {entries : List Playlist.Entry} :
    ∀ p ∈ Playlist.numbered (Shelves.canonical? c) playlist f trails next entries,
      c.Agrees p.item := by
  induction entries generalizing next with
  | nil =>
    intro p hp
    cases hp
  | cons e entries ih =>
    rw [Playlist.numbered]
    split
    · exact ih
    · rename_i x hx
      intro p hp
      -- Each trail gets the item of the entry, and only its position is new.
      rcases List.mem_append.1 hp with hp | hp
      · obtain ⟨t, -, rfl⟩ := List.mem_map.1 hp
        exact (h.agrees_entryItem hx).congr rfl rfl
      · exact ih p hp

/-- What is imported agrees, be it one item or the entries of a playlist. -/
theorem CopiesAgree.agrees_importPlan {conf : Configuration} {read : String → Option String}
    {o : Origin} {i : NodeId} {r : StoredItem} (hr : c.item? i = some r) {plan : Plan}
    (hplan : conf.importPlan read o r.item c = .ok plan) : ∀ p ∈ plan, c.Agrees p.item := by
  unfold Configuration.importPlan at hplan
  -- A playlist places copies of its entries, any other item a copy of itself.
  split at hplan
  · split at hplan
    · unfold Playlist.plan at hplan
      split at hplan
      · cases hplan
        simp
      · split at hplan
        · cases hplan
        · cases hplan
          exact h.agrees_numbered
    · cases hplan
      simp
  · intro p hp
    refine (h.agrees_reference hr).congr (Configuration.ofItem_plan hplan p hp).1 ?_
    rw [conf.plan_eq] at hplan
    split at hplan
    · exact Builder.upnpClass_of_mem_plan hplan p hp
    · cases hplan
      cases hp

/-- **Importing an item of the catalog keeps all copies in agreement.** -/
theorem CopiesAgree.importItem {conf : Configuration} {read : String → Option String} {o : Origin}
    {i : NodeId} {r : StoredItem} (hr : c.item? i = some r) {ids : List NodeId} {c' : Catalog}
    (hok : conf.importItem read o r.item c = (.ok ids, c')) : c'.CopiesAgree := by
  obtain ⟨plan, hplan, hcarry⟩ := h.consistent.exists_importPlan_ok hok
  have hcopies := h.plan (h.agrees_importPlan hr hplan)
  rwa [hcarry] at hcopies

end

/-! ## One more file -/

/-- From `c` to `d` one more canonical item came; all others are what they were. -/
structure Enters (c d : Catalog) (r : StoredItem) : Prop where
  new : c.item? r.id = none
  item : ∀ i, d.item? i = if i = r.id then some r else c.item? i
  file : d.file? r.item.location = some r

/-- A file that becomes known is one canonical item more. -/
theorem Consistent.enters_addFile {c : Catalog} (h : c.Consistent) (x : MediaItem) :
    c.Enters (c.addFile x).2
      ⟨c.freshId none, none, { x with id := some (c.freshId none) }⟩ where
  new := h.item?_freshId none
  item i := by
    rw [item?_addFile]
    split
    · rename_i hi
      rw [hi]
    · rfl
  file := (h.file?_addFile x x.location).trans (if_pos rfl)

/-- An item that came may become another one in the same place. -/
theorem Enters.replaces {c d e : Catalog} {r : StoredItem} {y : MediaItem} (h : c.Enters d r)
    (hd : d.Consistent) (hreplaces : d.Replaces e r.id y) (hy : y.location = r.item.location) :
    c.Enters e { r with item := y } where
  new := h.new
  item i := by
    rw [hreplaces.item, h.item]
    split <;> rfl
  file := by
    obtain ⟨i, hi, hr⟩ := Option.bind_eq_some_iff.1 h.file
    obtain rfl : r.id = i := hd.item_id hr
    rw [file?, hreplaces.fileIndex, hy, hi, Option.bind_some, hreplaces.item?_eq hr]

/-- A canonical item that comes, and refers to nothing, keeps all copies in agreement. -/
theorem CopiesAgree.enters {c d : Catalog} {r : StoredItem} (h : c.CopiesAgree) (hd : d.Consistent)
    (henters : c.Enters d r) (hr : r.item.id = some r.id) (hrefers : r.item.refersTo = none) :
    d.CopiesAgree where
  consistent := hd
  knowsIds := by
    intro i s hs
    rw [henters.item] at hs
    split at hs
    · rename_i hi
      cases hs
      rw [hi]
      exact hr
    · exact h.knowsIds i s hs
  agrees := by
    intro i s hs
    rw [henters.item] at hs
    split at hs
    · cases hs
      exact agrees_of_refersTo_eq_none hrefers
    · refine (h.agrees i s hs).mono ?_
      -- Nothing referred to the new item, whose id was not in use.
      intro k t ht
      have hne : k ≠ r.id := by
        rintro rfl
        rw [henters.new] at ht
        cases ht
      rw [henters.item, if_neg hne]
      exact ht

end Catalog

end MediaShelves
