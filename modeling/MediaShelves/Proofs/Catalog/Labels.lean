import Mathlib.Data.List.Nodup
import MediaShelves.Proofs.Catalog.Plans

/-!
# What lies at some titles

The items at some titles, in the order in which they came there, as far as they matter to whoever
looks at the shelves: what an item is the same by, its position and its title.  Trails and new files
leave them alone, and a plan adds what is not there yet (`Consistent.labelsAt_plan`).
-/

namespace MediaShelves

/-- An item stands for another one if it refers to it. -/
theorem identity_eq_canonical_iff {x : MediaItem} {j : NodeId} :
    x.identity = .canonical j ↔ x.refersTo = some j := by
  unfold MediaItem.identity
  split
  · rename_i hrefers
    rw [hrefers, Identity.canonical.injEq, Option.some.injEq]
  · rename_i hrefers _
    simp [hrefers]
  · rename_i hrefers _
    simp [hrefers]

/-- An item as it matters to a folder. -/
structure Label where
  identity : Identity
  playlistOrder : Option Nat
  title : String
deriving DecidableEq, Repr

/-- The label of an item. -/
def MediaItem.label (x : MediaItem) : Label :=
  ⟨x.identity, x.playlistOrder, x.title⟩

namespace Label

/-- Whether one of two items would be in the way of the other. -/
def clashes (a b : Label) : Bool :=
  a.identity = b.identity ∧ a.playlistOrder = b.playlistOrder

/-- Adds a label, unless another one is in the way. -/
def addTo (ls : List Label) (l : Label) : List Label :=
  if ls.any (·.clashes l) then ls else ls ++ [l]

theorem clashes_self (l : Label) : l.clashes l = true := by
  simp [clashes]

/-- Two labels that clash with the same label clash with each other. -/
theorem clashes_trans {a b c : Label} (hab : a.clashes b = true) (hbc : b.clashes c = true) :
    a.clashes c = true := by
  simp only [clashes, Bool.decide_and, Bool.and_eq_true, decide_eq_true_eq] at hab hbc ⊢
  exact ⟨hab.1.trans hbc.1, hab.2.trans hbc.2⟩

/-- What is in the way of a label once another one was added: that one or what was before. -/
theorem any_addTo (ls : List Label) (l m : Label) :
    (addTo ls l).any (·.clashes m) = (ls.any (·.clashes m) || l.clashes m) := by
  unfold addTo
  split
  · rename_i hany
    rw [Bool.eq_iff_iff, Bool.or_eq_true]
    refine ⟨.inl, ?_⟩
    rintro (hm | hm)
    · exact hm
    · -- Whatever is in the way of `l` is in the way of `m` as well.
      obtain ⟨n, hn, hclash⟩ := List.any_eq_true.1 hany
      exact List.any_eq_true.2 ⟨n, hn, clashes_trans hclash hm⟩
  · simp

/-- A label that was added is in its own way. -/
theorem addTo_addTo (ls : List Label) (l : Label) : addTo (addTo ls l) l = addTo ls l := by
  have hany : (addTo ls l).any (·.clashes l) = true := by
    rw [any_addTo, clashes_self, Bool.or_true]
  rw [addTo, if_pos hany]

/-- Labels that are not in each other's way are all added, but for those that others were in the way of. -/
theorem foldl_addTo_of_pairwise {ls : List Label} (h : ls.Pairwise fun a b => a.clashes b = false)
    (held : List Label) :
    ls.foldl addTo held = held ++ ls.filter fun l => !held.any (·.clashes l) := by
  induction ls generalizing held with
  | nil => simp
  | cons l ls ih =>
    obtain ⟨hl, hls⟩ := List.pairwise_cons.1 h
    rw [List.foldl_cons, ih hls]
    -- The first label is in no other's way, so the others are kept or not as before.
    have hfilter : (ls.filter fun m => !(addTo held l).any (·.clashes m)) =
        ls.filter fun m => !held.any (·.clashes m) := by
      apply List.filter_congr
      intro m hm
      rw [any_addTo, hl m hm, Bool.or_false]
    rw [hfilter, List.filter_cons]
    unfold addTo
    split <;> simp [*]

/-- Of labels that are in each other's way the first one is added, if nothing else is in its way. -/
theorem foldl_addTo {ls new : List Label} (hold : ∀ l ∈ ls, ∀ m ∈ new, l.clashes m = false)
    (hnew : ∀ l ∈ new, ∀ m ∈ new, l.clashes m = true) :
    new.foldl addTo ls = ls ++ new.take 1 := by
  cases new with
  | nil => simp
  | cons first new =>
    -- Nothing is in the way of the first one.
    have hfree : ls.any (·.clashes first) = false := by
      rw [List.any_eq_false]
      intro l hl
      simp [hold l hl first (List.mem_cons_self ..)]
    -- The first one is in the way of all others.
    have hrest : new.foldl addTo (ls ++ [first]) = ls ++ [first] := by
      have hclash (m : Label) (hm : m ∈ new) : first.clashes m = true :=
        hnew first (List.mem_cons_self ..) m (List.mem_cons_of_mem first hm)
      clear hold hnew hfree
      induction new with
      | nil => rfl
      | cons m new ih =>
        have hm : addTo (ls ++ [first]) m = ls ++ [first] := by
          simp [addTo, hclash m (List.mem_cons_self ..)]
        rw [List.foldl_cons, hm]
        exact ih fun n hn => hclash n (List.mem_cons_of_mem m hn)
    rw [List.foldl_cons, addTo, hfree]
    simpa using hrest

end Label

namespace Catalog

/-! ## The items of a node -/

/-- The labels of the items right below a node. -/
def labelsIn (c : Catalog) (id : NodeId) : List Label :=
  (c.itemsIn id).map (·.item.label)

/-- The labels of the items at some titles. -/
def labelsAt (c : Catalog) (ts : List String) : List Label :=
  ((c.nodeAt? ts).map c.labelsIn).getD []

@[simp] theorem labelsAt_empty (ts : List String) : empty.labelsAt ts = [] := by
  unfold labelsAt nodeAt?
  split
  · simp [labelsIn, itemsIn]
  · simp

section

variable {c : Catalog} (h : c.Consistent)

include h

/-- A fresh id is not among the children of any node. -/
theorem Consistent.ne_freshId_of_child {wanted : Option NodeId} {i p : NodeId}
    (hi : i ∈ c.childrenOf p) : i ≠ c.freshId wanted := by
  rintro rfl
  have hparent := h.mem_childrenOf.1 hi
  rw [h.parent?_freshId] at hparent
  cases hparent

/-- There is nothing below what is no node. -/
theorem Consistent.itemsIn_eq_nil {i : NodeId} (hi : c.pathOf? i = none) : c.itemsIn i = [] := by
  rw [List.eq_nil_iff_forall_not_mem]
  intro r hr
  obtain ⟨j, hj, hparent⟩ := h.mem_itemsIn.1 hr
  have hsome := h.item_parent hj hparent
  rw [hi] at hsome
  cases hsome

/-- No item is twice among those of a folder. -/
theorem Consistent.nodup_itemsIn (folder : NodeId) : (c.itemsIn folder).Nodup := by
  apply (h.nodup_childrenOf folder).filterMap
  intro i k r hi hk
  exact (h.item_id hi).symm.trans (h.item_id hk)

/-- A new folder adds no item. -/
theorem Consistent.itemsIn_addFolder (parent : NodeId) (path : String) (f : Folder) (i : NodeId) :
    (c.addFolder parent path f).2.itemsIn i = c.itemsIn i := by
  unfold itemsIn
  rw [childrenOf_addFolder]
  split
  · -- The new child is no item.
    rw [List.filterMap_append]
    have hnone : [c.freshId f.pinned].filterMap c.item? = [] := by
      simp [h.item?_freshId]
    exact (congrArg (_ ++ ·) hnone).trans (List.append_nil _)
  · rfl

/-- A file that becomes known is in no folder. -/
theorem Consistent.itemsIn_addFile (x : MediaItem) (i : NodeId) :
    (c.addFile x).2.itemsIn i = c.itemsIn i := by
  apply List.filterMap_congr
  intro j hj
  have hne : j ≠ c.freshId none := h.ne_freshId_of_child hj
  rw [item?_addFile, if_neg hne]

/-- A new item comes after those of its folder. -/
theorem Consistent.itemsIn_addItem (parent : NodeId) (x : MediaItem) (i : NodeId) :
    (c.addItem parent x).2.itemsIn i =
      if i = parent then
        c.itemsIn i ++ [⟨c.freshId none, some parent, { x with id := some (c.freshId none) }⟩]
      else c.itemsIn i := by
  -- What was in the folder had other ids than the new one.
  have hold : (c.childrenOf i).filterMap (c.addItem parent x).2.item? = c.itemsIn i := by
    apply List.filterMap_congr
    intro j hj
    have hne : j ≠ c.freshId none := h.ne_freshId_of_child hj
    rw [item?_addItem, if_neg hne]
  rw [itemsIn, childrenOf_addItem]
  split
  · rw [List.filterMap_append, hold]
    simp
  · exact hold

/-- So does its label. -/
theorem Consistent.labelsIn_addItem (parent : NodeId) (x : MediaItem) (i : NodeId) :
    (c.addItem parent x).2.labelsIn i =
      if i = parent then c.labelsIn i ++ [x.label] else c.labelsIn i := by
  rw [labelsIn, h.itemsIn_addItem]
  split
  · exact List.map_append
  · rfl

/-- Opening a folder adds no item. -/
theorem Consistent.itemsIn_openChild (parent : NodeId) (path : String) (f : Folder) (i : NodeId) :
    (Catalog.openChild parent path f c).2.itemsIn i = c.itemsIn i := by
  obtain ⟨id, -, heq⟩ | ⟨-, heq⟩ := openChild_cases parent path f c
  · rw [heq]
    rfl
  · rw [heq]
    exact h.itemsIn_addFolder parent path f i

end

/-! ## Requests -/

/-- Trails leave the items of every node alone. -/
theorem Consistent.itemsIn_openBelow {t : Trail} {c : Catalog} (h : c.Consistent)
    {parent : NodeId} {ts : List String}
    (hp : c.pathOf? parent = some (ContainerPath.ofTitles ts)) (i : NodeId) :
    (Catalog.openBelow parent (ContainerPath.ofTitles ts) t c).2.itemsIn i = c.itemsIn i := by
  induction t generalizing c parent ts with
  | nil => rfl
  | cons f t ih =>
    obtain ⟨hc, hpath⟩ := h.openChild hp f
    rw [ContainerPath.child_ofTitles] at hc hpath
    simp only [Catalog.openBelow, ContainerPath.child_ofTitles]
    rw [ih hc hpath, h.itemsIn_openChild]

section

variable {c : Catalog} (h : c.Consistent)

include h

/-- What holds the same items under the same ids holds the same items at the same titles. -/
theorem Consistent.labelsAt_of_labelsIn {c' : Catalog} (h' : c'.Consistent) (hgrows : c.Grows c')
    (hlabels : ∀ i, c'.labelsIn i = c.labelsIn i) (ts : List String) :
    c'.labelsAt ts = c.labelsAt ts := by
  unfold labelsAt
  cases hi : c.nodeAt? ts with
  | some i => rw [hgrows.nodeAt? h h' hi, Option.map_some, Option.map_some, hlabels]
  | none =>
    cases hj : c'.nodeAt? ts with
    | none => rfl
    | some j =>
      -- A folder that came to these titles is new, and nothing lies in it.
      have hpath : c.pathOf? j = none := by
        rw [Option.eq_none_iff_forall_ne_some]
        intro p hp
        obtain ⟨us, hus⟩ := h.exists_nodeAt? hp
        have hsame := h'.nodeAt?_inj (hgrows.nodeAt? h h' hus) hj
        rw [hsame, hi] at hus
        cases hus
      have hempty : c.labelsIn j = [] := by
        rw [labelsIn, h.itemsIn_eq_nil hpath, List.map_nil]
      rw [Option.map_some, hlabels, hempty]
      rfl

theorem Consistent.itemsIn_openTrail (t : Trail) (i : NodeId) :
    (Catalog.openTrail t c).2.itemsIn i = c.itemsIn i :=
  h.itemsIn_openBelow (pathOf?_root c) i

/-- Opening a trail leaves the labels at all titles as they are, for a new folder has none. -/
theorem Consistent.labelsAt_openTrail (t : Trail) (ts : List String) :
    (Catalog.openTrail t c).2.labelsAt ts = c.labelsAt ts := by
  apply h.labelsAt_of_labelsIn (h.openTrail t) (h.grows_openTrail t)
  intro i
  exact congrArg (List.map _) (h.itemsIn_openTrail t i)

/-- Registering a file leaves the labels at every path as they are. -/
theorem Consistent.labelsAt_register (x : MediaItem) (ts : List String) :
    (c.register x).2.labelsAt ts = c.labelsAt ts := by
  apply h.labelsAt_of_labelsIn (h.register x) (h.grows_register x)
  intro i
  obtain ⟨id, -, heq⟩ | ⟨-, heq⟩ := c.register_cases x
  · rw [heq]
  · rw [heq]
    exact congrArg (List.map _) (h.itemsIn_addFile x i)

end

@[simp] theorem nodeAt?_place (c : Catalog) (x : MediaItem) (folder : NodeId)
    (hint : Option String) (ts : List String) :
    (Catalog.place x folder hint c).2.nodeAt? ts = c.nodeAt? ts := by
  obtain ⟨-, heq⟩ | ⟨-, -, heq⟩ | ⟨-, -, heq⟩ := place_cases x folder hint c
  · rw [heq]
  · rw [heq]
    rfl
  · rw [heq]
    rfl

/-- What is in the way of an item is told by the labels. -/
theorem isSome_placed? (c : Catalog) (x : MediaItem) (folder : NodeId) :
    (c.placed? x folder).isSome = (c.labelsIn folder).any (·.clashes x.label) := by
  rw [Catalog.placed?, Option.isSome_map, List.isSome_find?, labelsIn, List.any_map]
  rfl

section

variable {c : Catalog} (h : c.Consistent)

include h

/-- Placing an item adds its label to those of its folder, unless one of them is in the way. -/
theorem Consistent.labelsIn_place {x : MediaItem} {folder : NodeId} {hint : Option String}
    (hfolder : (c.folder? folder).isSome) (i : NodeId) :
    (Catalog.place x folder hint c).2.labelsIn i =
      if i = folder then Label.addTo (c.labelsIn i) x.label else c.labelsIn i := by
  have hany := isSome_placed? c x folder
  -- A hint says nothing about items.
  have hlabels (j : NodeId) :
      (c.changeFolder folder (hintFolder hint)).labelsIn j = c.labelsIn j := rfl
  obtain ⟨habsent, -⟩ | ⟨-, hsome, heq⟩ | ⟨-, hnone, heq⟩ := place_cases x folder hint c
  · exact absurd (.inr hfolder) habsent
  · rw [hsome] at hany
    rw [heq]
    by_cases hi : i = folder
    · subst hi
      simp [hlabels, Label.addTo, ← hany]
    · simp [hlabels, hi]
  · rw [hnone, Option.isSome_none] at hany
    rw [heq]
    simp only [(h.hint folder hint).labelsIn_addItem, hlabels]
    by_cases hi : i = folder
    · subst hi
      simp [Label.addTo, ← hany]
    · simp [hi]

/-- Nothing comes to any other folder than the one that an item is put into. -/
theorem Consistent.itemsIn_place {x : MediaItem} {folder : NodeId} {hint : Option String}
    {i : NodeId} (hi : i ≠ folder) : (Catalog.place x folder hint c).2.itemsIn i = c.itemsIn i := by
  obtain ⟨-, heq⟩ | ⟨-, -, heq⟩ | ⟨-, -, heq⟩ := place_cases x folder hint c
  · rw [heq]
  · rw [heq]
    rfl
  · rw [heq]
    exact ((h.hint folder hint).itemsIn_addItem folder x i).trans (if_neg hi)

/-! ## Plans -/

/-- A placement adds nothing to a folder that its trail does not lead to. -/
theorem Consistent.itemsIn_placement (p : Placement) {i : NodeId}
    (hi : (p.carryOut c).2.pathIndex[p.trail.path]? ≠ some i) :
    (p.carryOut c).2.itemsIn i = c.itemsIn i := by
  obtain ⟨-, hp⟩ | ⟨-, folder, hfolder, hp⟩ := h.placement_cases p
  · rw [hp]
  · have hc := h.openTrail p.trail
    rw [hp] at hi ⊢
    have hne : i ≠ folder := by
      rintro rfl
      exact hi ((hc.grows_place p.item i p.hint).pathIndex hc (hc.place p.item i p.hint) hfolder)
    rw [hc.itemsIn_place hne, h.itemsIn_openTrail]

/-- A placement adds the label of its item at the end of its trail, and nowhere else. -/
theorem Consistent.labelsAt_placement (p : Placement) (ts : List String) :
    (p.carryOut c).2.labelsAt ts =
      if p.trail ≠ [] ∧ p.trail.titles = ts then Label.addTo (c.labelsAt ts) p.item.label
      else c.labelsAt ts := by
  obtain ⟨ht, hp⟩ | ⟨ht, i, hi, hp⟩ := h.placement_cases p
  · simp [hp, ht]
  · -- The item goes to the node at the titles of the trail.
    have hc := h.openTrail p.trail
    have hnode : (Catalog.openTrail p.trail c).2.nodeAt? p.trail.titles = some i := by
      rw [Catalog.nodeAt?, if_neg (mt Trail.titles_eq_nil.1 ht)]
      exact hi
    obtain ⟨r, hr, -⟩ := hc.pathIndex_iff.1 hi
    have hplace (j : NodeId) :
        (Catalog.place p.item i p.hint (Catalog.openTrail p.trail c).2).2.labelsIn j =
          if j = i then Label.addTo ((Catalog.openTrail p.trail c).2.labelsIn j) p.item.label
          else (Catalog.openTrail p.trail c).2.labelsIn j :=
      hc.labelsIn_place (by simp [hr]) j
    rw [hp, ← h.labelsAt_openTrail p.trail, labelsAt, labelsAt, nodeAt?_place]
    by_cases hts : p.trail.titles = ts
    · subst hts
      simp [hnode, hplace, ht]
    · cases hj : (Catalog.openTrail p.trail c).2.nodeAt? ts with
      | none => simp [hts]
      | some j =>
        -- One node does not lie at two lists of titles.
        have hne : j ≠ i := by
          rintro rfl
          exact hts (hc.nodeAt?_inj hnode hj)
        simp [hplace, hts, hne]

end

/-- A plan adds nothing to a folder that none of its trails leads to. -/
theorem Consistent.itemsIn_plan {c : Catalog} (h : c.Consistent) {plan : Plan} {i : NodeId}
    (hi : ∀ p ∈ plan, (plan.carryOut c).2.pathIndex[p.trail.path]? ≠ some i) :
    (plan.carryOut c).2.itemsIn i = c.itemsIn i := by
  induction plan generalizing c with
  | nil => rfl
  | cons p plan ih =>
    obtain ⟨hp, hplan⟩ := List.forall_mem_cons.1 hi
    have hc := h.placement p
    rw [Plan.carryOut_cons] at hp hplan ⊢
    rw [ih hc hplan]
    -- Where the trail of the first placement leads to, it leads to for ever.
    refine h.itemsIn_placement p fun hfirst => hp ?_
    exact (hc.grows_plan plan).pathIndex hc (hc.plan plan) hfirst

/-- A plan adds the labels of its items, unless others are in their way. -/
theorem Consistent.labelsAt_plan {c : Catalog} (h : c.Consistent) (plan : Plan)
    (ts : List String) :
    (plan.carryOut c).2.labelsAt ts =
      ((plan.filter fun p => p.trail ≠ [] ∧ p.trail.titles = ts).map (·.item.label)).foldl
        Label.addTo (c.labelsAt ts) := by
  induction plan generalizing c with
  | nil => rfl
  | cons p plan ih =>
    rw [Plan.carryOut_cons, ih (h.placement p), h.labelsAt_placement, List.filter_cons]
    by_cases hp : p.trail ≠ [] ∧ p.trail.titles = ts
    · rw [if_pos hp, if_pos (decide_eq_true hp)]
      rfl
    · rw [if_neg hp, if_neg fun htrue => hp (of_decide_eq_true htrue)]

/-! ## Which titles there are -/

/-- What is told about a folder makes one if it describes anything. -/
theorem isSome_develop (g : Option Folder) (es : List Contribution) :
    (Contribution.develop g es).isSome = (g.isSome || es.any fun e => !e.isHint) := by
  induction es generalizing g with
  | nil => simp [Contribution.develop]
  | cons e es ih =>
    have hstep : Contribution.develop g (e :: es) =
        Contribution.develop (Contribution.absorb g e) es := rfl
    rw [hstep, ih]
    -- A description makes a folder where there is none; a hint does not.
    cases e with
    | folder f => cases g <;> simp [Contribution.absorb, Contribution.isHint]
    | hint cls => cases g <;> simp [Contribution.absorb, Contribution.isHint]

/-- A plan describes the folders at all titles that those of a trail begin with. -/
theorem any_contributions (plan : Plan) (ts : List String) :
    (plan.contributions ts).any (fun e => !e.isHint) =
      plan.any fun p => !ts.isEmpty && ts.isPrefixOf p.trail.titles := by
  -- A placement describes the folders at the beginnings of its trail.
  have hplacement (p : Placement) : (p.contributions ts).any (fun e => !e.isHint) =
      (!ts.isEmpty && ts.isPrefixOf p.trail.titles) := by
    have hsome := p.trail.isSome_folderAt? [] ts
    rw [List.nil_append] at hsome
    rw [← hsome, Placement.contributions]
    cases p.trail.folderAt? [] ts with
    | none => rfl
    | some f => simp [Contribution.isHint]
  rw [Plan.contributions, List.any_flatMap]
  simp only [hplacement]

section

variable {c : Catalog} (h : c.Consistent)

include h

theorem Consistent.isSome_content? {ts : List String} (hts : ts ≠ []) :
    (c.content? ts).isSome = (c.nodeAt? ts).isSome := by
  rw [nodeAt?, if_neg hts]
  cases hi : c.pathIndex[ContainerPath.ofTitles ts]? with
  | none => simp [content?, findFolder?, folderAt?, hi]
  | some i =>
    obtain ⟨r, hr, -⟩ := h.pathIndex_iff.1 hi
    rw [content?_of_pathIndex hi hr]
    rfl

/-- A plan makes folders at all titles that those of a trail begin with. -/
theorem Consistent.isSome_nodeAt?_plan (plan : Plan) (ts : List String) :
    ((plan.carryOut c).2.nodeAt? ts).isSome =
      ((c.nodeAt? ts).isSome || plan.any fun p => ts.isPrefixOf p.trail.titles) := by
  by_cases hts : ts = []
  · simp [Catalog.nodeAt?, hts]
  · have hempty : ts.isEmpty = false := by
      simpa using hts
    rw [← (h.plan plan).isSome_content? hts, ← h.isSome_content? hts, h.content?_plan,
      isSome_develop, any_contributions]
    simp only [hempty, Bool.not_false, Bool.true_and]

end

end Catalog

end MediaShelves
