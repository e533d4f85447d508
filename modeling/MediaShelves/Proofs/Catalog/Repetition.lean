import MediaShelves.Proofs.Catalog.Plans

/-!
# Repetition

A plan that was carried out has nothing left to do.  Every item lies where it was put, so the plan
adds nothing again; and telling a folder once more what it was told already changes it on the way,
but not in the end.

Main statements: a plan that is repeated at once leaves the catalog as it is
(`Consistent.repeat_plan`), and one that is repeated later adds no node (`Consistent.repeat_plan_later`).
-/

namespace MediaShelves

/-! ## Telling a folder the same again -/

theorem Contribution.pinned_develop (g : Folder) (es : List Contribution) {g' : Folder}
    (h : develop (some g) es = some g') : g'.pinned = g.pinned := by
  induction es generalizing g with
  | nil =>
    cases h
    rfl
  | cons e es ih =>
    cases e with
    | folder f => exact (ih _ h).trans (Catalog.pinned_mergeFolder g f)
    | hint cls => exact (ih _ h).trans (Catalog.pinned_hintFolder (some cls) g)

/-- The first that passes is the first that passes with it in front of the others. -/
theorem find?_getD_again {α : Type} {p : α → Bool} {x y z : α} {xs : List α}
    (hy : ((x :: xs).find? p).getD z = y) : ((y :: xs).find? p).getD y = y := by
  -- What was found satisfies the condition, so nothing was found if this does not.
  cases hp : p y with
  | true => simp [hp]
  | false =>
    cases hfirst : (x :: xs).find? p with
    | some first =>
      rw [hfirst, Option.getD_some] at hy
      rw [← hy, List.find?_some hfirst] at hp
      cases hp
    | none =>
      have hnone : (y :: xs).find? p = none := by
        rw [List.find?_eq_none] at hfirst ⊢
        intro w hw
        rcases List.mem_cons.1 hw with rfl | hw
        · simp [hp]
        · exact hfirst w (List.mem_cons_of_mem x hw)
      rw [hnone, Option.getD_none]

/-- The loan of the first folder that has resources, looked up among the loans. -/
theorem loan_find?_getD (fs : List Folder) (d : Folder) :
    ((fs.find? fun f => !f.resources.isEmpty).getD d).loan =
      ((fs.map Folder.loan).find? fun l => !l.1.isEmpty).getD d.loan := by
  rw [List.find?_map, Option.getD_map]
  rfl

/-- What accumulated in a folder does not accumulate in it again. -/
theorem Accumulates.again {g g' d : Folder} {es : List Contribution} (h : Accumulates g d es)
    (h' : Accumulates g' g es) (hpinned : g'.pinned = g.pinned) : g' = g := by
  have hmetadata : g'.metadata = g.metadata := by
    apply Metadata.ext
    apply Keyed.ext_find?
    intro key
    -- The last description that carries the key gave it its values the first time already.
    rw [h'.metadata, h.metadata]
    simp only [List.reverse_cons, List.findSome?_append, List.findSome?_singleton]
    rw [h.metadata]
    simp only [List.reverse_cons, List.findSome?_append, List.findSome?_singleton]
    cases (Contribution.descriptions es).reverse.findSome? fun f => f.metadata.table.find? key <;> rfl
  have hsearchable : g'.searchable = g.searchable := by
    rw [h'.searchable, List.any_cons, h.searchable, List.any_cons, Bool.or_assoc, Bool.or_self]
  have hclass : g'.upnpClass = g.upnpClass := by
    -- A class that is specific stays, and for one that is not the same one is found first.
    have hsame := find?_getD_again h.upnpClass.symm
    rw [h'.upnpClass]
    by_cases hcls : g.upnpClass = UpnpClass.container
    · rw [hcls] at hsame ⊢
      exact hsame
    · simp [hcls]
  have hloan : g'.loan = g.loan := by
    have hfirst := h.loan.symm
    rw [loan_find?_getD, List.map_cons] at hfirst
    rw [h'.loan, loan_find?_getD, List.map_cons]
    exact find?_getD_again hfirst
  refine Folder.ext hpinned (h'.title) hclass hsearchable h'.shortcut h'.sortKey hmetadata ?_ ?_ ?_
  · exact congrArg Prod.fst hloan
  · exact congrArg (fun l => l.2.1) hloan
  · exact congrArg (fun l => l.2.2) hloan

/-- A description adds nothing to the folder that it just made. -/
theorem mergeFolder_unpinned (d : Folder) : Catalog.mergeFolder d.unpinned d = d.unpinned := by
  -- Metadata over themselves are what they were.
  have hmetadata : d.metadata.overlay d.metadata = d.metadata := by
    apply Metadata.ext
    apply Keyed.ext_find?
    intro key
    rw [Metadata.overlay, Keyed.find?_overlay, Option.or_self]
  refine Folder.ext rfl rfl ?_ (Bool.or_self d.searchable) rfl rfl hmetadata ?_ ?_ ?_
  · exact ite_self d.upnpClass
  · exact ite_self d.resources
  · exact ite_self d.auxiliary
  · exact ite_self d.owner

/-- A folder is what it is apart from its id, and its id. -/
theorem Folder.eq_of_unpinned {f g : Folder} (h : f.unpinned = g.unpinned)
    (hpinned : f.pinned = g.pinned) : f = g := by
  obtain ⟨_, _, _, _, _, _, _, _, _, _⟩ := f
  obtain ⟨_, _, _, _, _, _, _, _, _, _⟩ := g
  cases h
  cases hpinned
  rfl

/-- Developing a folder once more by the same contributions does not change it. -/
theorem develop_again {g d : Folder} {es : List Contribution} (hg : g.unpinned = g)
    (haccum : Accumulates g d es) : Contribution.develop (some g) es = some g := by
  obtain ⟨g', hg', haccum'⟩ := exists_develop_some g es
  rw [hg] at hg'
  rw [hg', haccum.again haccum' (Contribution.pinned_develop g es hg')]

/-- Developing once more by the same contributions changes nothing, if the first one describes. -/
theorem Contribution.develop_develop (g : Option Folder) {es : List Contribution}
    (hg : ∀ f, g = some f → f.unpinned = f) (hfirst : ∀ cls, es.head? ≠ some (.hint cls)) :
    develop (develop g es) es = develop g es := by
  -- A folder that is there already, or the one that the first description makes.
  have hsome (f : Folder) : develop (develop (some f.unpinned) es) es = develop (some f.unpinned) es := by
    obtain ⟨f', hf', haccum⟩ := exists_develop_some f es
    rw [hf']
    refine develop_again ?_ haccum
    exact Folder.ext (pinned_develop f.unpinned es hf').symm rfl rfl rfl rfl rfl rfl rfl rfl rfl
  cases g with
  | some f =>
    rw [← hg f rfl]
    exact hsome f
  | none =>
    cases es with
    | nil => rfl
    | cons e es =>
      cases e with
      | hint cls => exact absurd rfl (hfirst cls)
      | folder d =>
        have hmade : develop none (.folder d :: es) = develop (some d.unpinned) (.folder d :: es) := by
          simp [develop, absorb, mergeFolder_unpinned]
        rw [hmade]
        exact hsome d

/-- What a placement tells begins with a description, and so does what a plan tells. -/
theorem Plan.head?_contributions (plan : Plan) (ts : List String) (cls : String) :
    (plan.contributions ts).head? ≠ some (.hint cls) := by
  induction plan with
  | nil => simp [Plan.contributions]
  | cons p plan ih =>
    rw [Plan.contributions, List.flatMap_cons, Placement.contributions]
    cases p.trail.folderAt? [] ts with
    | none => exact ih
    | some f => simp

/-! ## Nodes stay as they are -/

namespace Catalog

/-- Two catalogs with the same nodes; only what the folders say may differ. -/
structure SameNodes (c c' : Catalog) : Prop where
  items : c'.itemTable = c.itemTable
  paths : c'.pathIndex = c.pathIndex
  files : c'.fileIndex = c.fileIndex
  children : c'.childTable = c.childTable
  nextId : c'.nextId = c.nextId
  folders : ∀ i, (c'.folder? i).isSome = (c.folder? i).isSome

theorem SameNodes.refl (c : Catalog) : c.SameNodes c :=
  ⟨rfl, rfl, rfl, rfl, rfl, fun _ => rfl⟩

theorem SameNodes.trans {a b c : Catalog} (hab : a.SameNodes b) (hbc : b.SameNodes c) :
    a.SameNodes c where
  items := hbc.items.trans hab.items
  paths := hbc.paths.trans hab.paths
  files := hbc.files.trans hab.files
  children := hbc.children.trans hab.children
  nextId := hbc.nextId.trans hab.nextId
  folders i := (hbc.folders i).trans (hab.folders i)

theorem sameNodes_changeFolder (c : Catalog) (id : NodeId) (change : Folder → Folder) :
    c.SameNodes (c.changeFolder id change) where
  items := rfl
  paths := rfl
  files := rfl
  children := rfl
  nextId := rfl
  folders i := by
    rw [folder?_changeFolder]
    split <;> simp

theorem SameNodes.item? {c c' : Catalog} (h : c.SameNodes c') (i : NodeId) :
    c'.item? i = c.item? i := by
  rw [Catalog.item?, h.items, Catalog.item?]

theorem SameNodes.childrenOf {c c' : Catalog} (h : c.SameNodes c') (i : NodeId) :
    c'.childrenOf i = c.childrenOf i := by
  rw [Catalog.childrenOf, h.children, Catalog.childrenOf]

/-- What lies in the way of an item is told by the nodes. -/
theorem SameNodes.placed? {c c' : Catalog} (h : c.SameNodes c') (x : MediaItem)
    (folder : NodeId) : c'.placed? x folder = c.placed? x folder := by
  have hitem : c'.item? = c.item? := funext h.item?
  simp only [Catalog.placed?, itemsIn, h.childrenOf, hitem]

/-- A folder is at the same place in two catalogs with the same nodes. -/
theorem SameNodes.folder_place {c c' : Catalog} (h : c.SameNodes c') (hc : c.Consistent)
    (hc' : c'.Consistent) {i : NodeId} {r s : StoredFolder} (hr : c.folder? i = some r)
    (hs : c'.folder? i = some s) : s = { r with folder := s.folder } := by
  have hid : s.id = r.id := by
    rw [(hc.folder_id hr).1, (hc'.folder_id hs).1]
  -- Its path and its parent are told by the index of paths and by the children.
  have hpath : s.path = r.path := by
    have hindex := hc.pathIndex_of_folder hr
    rw [← h.paths, hc'.pathIndex_iff] at hindex
    obtain ⟨s', hs', hpath⟩ := hindex
    rw [hs] at hs'
    cases hs'
    exact hpath
  have hparent : s.parent = r.parent := by
    have hmem : i ∈ c.childrenOf r.parent := hc.mem_childrenOf.2 (by simp [parent?, hr])
    rw [← h.childrenOf] at hmem
    have hparent : c'.parent? i = some r.parent := hc'.mem_childrenOf.1 hmem
    simpa [parent?, hs] using hparent
  cases s
  cases hid
  cases hpath
  cases hparent
  rfl

/-- Two catalogs with the same nodes have folders at the same places. -/
theorem SameNodes.folder_cases {c c' : Catalog} (h : c.SameNodes c') (hc : c.Consistent)
    (hc' : c'.Consistent) (i : NodeId) :
    c.folder? i = none ∧ c'.folder? i = none ∨
      ∃ r f, c.folder? i = some r ∧ c'.folder? i = some { r with folder := f } := by
  -- The two catalogs have folders at the same ids, in the same places.
  have hsome := h.folders i
  cases hr : c.folder? i with
  | none =>
    rw [hr] at hsome
    exact .inl ⟨rfl, by simpa using hsome⟩
  | some r =>
    rw [hr, Option.isSome_some, Option.isSome_iff_exists] at hsome
    obtain ⟨s, hs⟩ := hsome
    refine .inr ⟨r, s.folder, rfl, ?_⟩
    rw [hs]
    exact congrArg some (h.folder_place hc hc' hr hs)

/-- Catalogs with the same nodes are the same if the folders are. -/
theorem SameNodes.eq_of_folder? {c c' : Catalog} (h : c.SameNodes c')
    (hfolders : ∀ i, c'.folder? i = c.folder? i) : c' = c := by
  refine Catalog.ext ?_ h.items h.paths h.files h.children h.nextId
  exact Std.ExtTreeMap.ext_getElem? fun i => hfolders i

/-- Two catalogs with the same nodes whose folders say the same are equal. -/
theorem SameNodes.eq_of_content? {c c' : Catalog} (h : c.SameNodes c') (hc : c.Consistent)
    (hc' : c'.Consistent) (hcontent : ∀ ts, c'.content? ts = c.content? ts) : c' = c := by
  apply h.eq_of_folder?
  intro i
  obtain ⟨hr, hs⟩ | ⟨r, f, hr, hs⟩ := h.folder_cases hc hc' i
  · rw [hr, hs]
  · -- Both say what is found at the titles of the folder, and they have the same id.
    obtain ⟨ts, -, -, hindex⟩ := hc.exists_pathIndex hr
    have hindex' : c'.pathIndex[ContainerPath.ofTitles ts]? = some i := by
      rw [h.paths]
      exact hindex
    have hunpinned := hcontent ts
    rw [content?_of_pathIndex hindex hr, content?_of_pathIndex hindex' hs,
      Option.some.injEq] at hunpinned
    have hpinned : f.pinned = r.folder.pinned := by
      rw [(hc.folder_id hr).2]
      exact (hc'.folder_id hs).2
    have hsame : f = r.folder := Folder.eq_of_unpinned hunpinned hpinned
    rw [hr, hs, hsame]

/-! ## Nothing left to do -/

/-- Nothing is left to do for a placement: its item lies at the end of its trail. -/
def Fulfils (c : Catalog) (p : Placement) : Prop :=
  p.trail = [] ∨ ∃ i, c.pathIndex[p.trail.path]? = some i ∧ (c.placed? p.item i).isSome

/-- What is fulfilled stays fulfilled. -/
theorem Fulfils.mono {c c' : Catalog} {p : Placement} (hp : c.Fulfils p) (hc : c.Consistent)
    (hc' : c'.Consistent) (hgrows : c.Grows c') : c'.Fulfils p := by
  rcases hp with ht | ⟨i, hi, hplaced⟩
  · exact .inl ht
  · exact .inr ⟨i, hgrows.pathIndex hc hc' hi, hgrows.placed? hc hc' hplaced⟩

/-- An item that was just added lies in the way of its copies. -/
theorem placed?_addItem {c : Catalog} {folder : NodeId} {x : MediaItem}
    (h : (c.addItem folder x).2.Consistent) : ((c.addItem folder x).2.placed? x folder).isSome := by
  have hitem : (c.addItem folder x).2.item? (c.freshId none) =
      some ⟨c.freshId none, some folder, { x with id := some (c.freshId none) }⟩ := by
    rw [item?_addItem, if_pos rfl]
  apply Option.isSome_iff_ne_none.2
  intro hnone
  exact h.placed?_eq_none_iff.1 hnone _ _ hitem rfl rfl rfl

section

variable {c : Catalog} (h : c.Consistent)

include h

/-- An item that was placed lies in the way of its copies. -/
theorem Consistent.placed?_place {x : MediaItem} {folder : NodeId} {hint : Option String}
    (hfolder : (c.folder? folder).isSome) :
    ((Catalog.place x folder hint c).2.placed? x folder).isSome := by
  have hc := h.place x folder hint
  obtain ⟨habsent, -⟩ | ⟨-, hsome, heq⟩ | ⟨-, -, heq⟩ := place_cases x folder hint c
  · exact absurd (.inr hfolder) habsent
  · rw [heq]
    exact hsome
  · rw [heq] at hc ⊢
    exact placed?_addItem hc

/-- A placement fulfils itself. -/
theorem Consistent.fulfils_placement (p : Placement) : (p.carryOut c).2.Fulfils p := by
  obtain ⟨ht, -⟩ | ⟨-, i, hi, hp⟩ := h.placement_cases p
  · exact .inl ht
  · have hc := h.openTrail p.trail
    obtain ⟨r, hr, -⟩ := hc.pathIndex_iff.1 hi
    rw [hp]
    refine .inr ⟨i, ?_, hc.placed?_place (by simp [hr])⟩
    exact (hc.grows_place p.item i p.hint).pathIndex hc (hc.place p.item i p.hint) hi

end

/-- Going down a trail whose folders exist adds no node. -/
theorem Consistent.sameNodes_openBelow {t : Trail} {c : Catalog} (h : c.Consistent)
    {parent : NodeId} {ts : List String}
    (hp : c.pathOf? parent = some (ContainerPath.ofTitles ts))
    (hend : t ≠ [] → (c.pathIndex[ContainerPath.ofTitles (ts ++ t.titles)]?).isSome) :
    c.SameNodes (Catalog.openBelow parent (ContainerPath.ofTitles ts) t c).2 := by
  induction t generalizing c parent ts with
  | nil => exact SameNodes.refl c
  | cons f t ih =>
    obtain ⟨hc, hpath⟩ := h.openChild hp f
    rw [ContainerPath.child_ofTitles] at hc hpath
    have hend' : (c.pathIndex[ContainerPath.ofTitles (ts ++ [f.title] ++ Trail.titles t)]?).isSome := by
      simpa [Trail.titles] using hend (List.cons_ne_nil f t)
    have hfirst : c.SameNodes
        (Catalog.openChild parent (ContainerPath.ofTitles (ts ++ [f.title])) f c).2 := by
      -- With the last folder of the trail those above it exist as well.
      have hdeepest : (c.nodeAt? (ts ++ [f.title] ++ Trail.titles t)).isSome := by
        rw [nodeAt?, if_neg (by simp)]
        exact hend'
      have hsome := h.isSome_nodeAt?_of_append hdeepest
      rw [nodeAt?, if_neg (by simp)] at hsome
      obtain ⟨id, hid⟩ := Option.isSome_iff_exists.1 hsome
      rw [openChild_of_some parent f hid]
      exact sameNodes_changeFolder c id fun old => mergeFolder old f
    simp only [Catalog.openBelow, ContainerPath.child_ofTitles]
    apply hfirst.trans
    apply ih hc hpath
    intro _
    rw [hfirst.paths]
    exact hend'

section

variable {c : Catalog} (h : c.Consistent)

include h

/-- A placement for which nothing is left to do adds no node. -/
theorem Consistent.fulfilled_placement {p : Placement} (hp : c.Fulfils p) :
    (p.carryOut c).1 = none ∧ c.SameNodes (p.carryOut c).2 := by
  obtain ⟨-, hcarry⟩ | ⟨ht, i, hi, hcarry⟩ := h.placement_cases p
  · rw [hcarry]
    exact ⟨rfl, SameNodes.refl c⟩
  · obtain ⟨j, hj, hplaced⟩ := hp.resolve_left ht
    have hopen : c.SameNodes (Catalog.openTrail p.trail c).2 := by
      apply h.sameNodes_openBelow (pathOf?_root c)
      intro _
      rw [Trail.path] at hj
      simp [hj]
    -- The trail leads to the folder where the item lies already.
    have hij : j = i := by
      rw [hopen.paths, hj] at hi
      exact Option.some.inj hi
    subst hij
    have hhint : c.SameNodes
        ((Catalog.openTrail p.trail c).2.changeFolder j (hintFolder p.hint)) :=
      hopen.trans (sameNodes_changeFolder _ j (hintFolder p.hint))
    obtain ⟨r, hr, -⟩ := (h.openTrail p.trail).pathIndex_iff.1 hi
    obtain ⟨k, hk⟩ := Option.isSome_iff_exists.1 hplaced
    rw [← hopen.placed?] at hk
    rw [hcarry, place_of_some p.hint (.inr (by simp [hr])) hk]
    exact ⟨rfl, hhint⟩

end

/-- After a plan nothing is left to do for its placements. -/
theorem Consistent.fulfils_plan {c : Catalog} (h : c.Consistent) (plan : Plan) :
    ∀ p ∈ plan, (plan.carryOut c).2.Fulfils p := by
  induction plan generalizing c with
  | nil => simp
  | cons q plan ih =>
    have hq := h.placement q
    intro p hp
    rcases List.mem_cons.1 hp with rfl | hp
    · -- The rest of the plan takes nothing away from the first placement.
      exact (h.fulfils_placement p).mono hq (hq.plan plan) (hq.grows_plan plan)
    · exact ih hq p hp

/-- A plan of which nothing is left to do adds no node. -/
theorem Consistent.fulfilled_plan {c : Catalog} (h : c.Consistent) {plan : Plan}
    (hplan : ∀ p ∈ plan, c.Fulfils p) :
    (plan.carryOut c).1 = [] ∧ c.SameNodes (plan.carryOut c).2 := by
  induction plan generalizing c with
  | nil => exact ⟨rfl, SameNodes.refl c⟩
  | cons p plan ih =>
    obtain ⟨hnone, hnodes⟩ := h.fulfilled_placement (hplan p (List.mem_cons_self ..))
    -- What the others ask for is there before, and a placement takes nothing away.
    have hrest (q : Placement) (hq : q ∈ plan) : (p.carryOut c).2.Fulfils q :=
      (hplan q (List.mem_cons_of_mem p hq)).mono h (h.placement p) (h.grows_placement p)
    obtain ⟨hnil, hnodes'⟩ := ih (h.placement p) hrest
    refine ⟨?_, hnodes.trans hnodes'⟩
    rw [Plan.carryOut_cons, hnone, hnil]
    rfl

section

variable {c : Catalog} (h : c.Consistent)

include h

/-- A plan that is repeated later adds no node. -/
theorem Consistent.repeat_plan_later (plan : Plan) (later : List Request) :
    (plan.carryOut (Catalog.run later (plan.carryOut c).2)).1 = [] ∧
      (Catalog.run later (plan.carryOut c).2).SameNodes
        (plan.carryOut (Catalog.run later (plan.carryOut c).2)).2 := by
  have hc := h.plan plan
  apply (hc.run later).fulfilled_plan
  intro p hp
  exact (h.fulfils_plan plan p hp).mono hc (hc.run later) (hc.grows_run later)

/-- A plan that is repeated at once leaves the catalog as it is. -/
theorem Consistent.repeat_plan (plan : Plan) :
    plan.carryOut (plan.carryOut c).2 = ([], (plan.carryOut c).2) := by
  have hc := h.plan plan
  obtain ⟨hnil, hnodes⟩ := h.repeat_plan_later plan []
  refine Prod.ext hnil (hnodes.eq_of_content? hc (hc.plan plan) ?_)
  intro ts
  -- On the way a folder may say something else, but in the end it says the same again.
  rw [run_nil, hc.content?_plan, h.content?_plan]
  apply Contribution.develop_develop
  · intro f hf
    obtain ⟨r, -, rfl⟩ := Option.map_eq_some_iff.1 hf
    rfl
  · exact plan.head?_contributions ts

end

end Catalog

end MediaShelves
