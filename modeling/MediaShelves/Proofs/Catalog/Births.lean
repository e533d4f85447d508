import Mathlib.Data.List.Induction
import MediaShelves.Proofs.Catalog.Growth

/-!
# Births

Files, items and folders take their ids from one counter, and a folder may want an id of its own.
The births of a run are the nodes that it makes, in their order.  Which ids they get is settled by
what the folders among them want and by nothing else: a wanted id if it is free, else the number
after the largest one (`allot`).

Main statements: after a run the nodes of a catalog are its births, with these ids (`made_run`), and
an id that no birth wants is never far from one that is wanted (`Allotted.exists_base`).
-/

namespace MediaShelves.Catalog

/-! ## Ids in turn -/

/-- A node that is made: its id, and what was asked for if it is a folder. -/
structure Birth where
  id : NodeId
  folder : Option Folder
deriving DecidableEq, Repr

/-- The id that a node wants; only folders want one. -/
def Birth.wanted (x : Birth) : Option NodeId :=
  x.folder.bind (·.pinned)

/-- The number after the largest id of some births. -/
def nextAfter (before : List Birth) : NodeId :=
  before.foldl (fun next x => max next (x.id + 1)) 1

/-- The id of a node that is made after others: the one that it wants, if it is free. -/
def allot (before : List Birth) (wanted : Option NodeId) : NodeId :=
  match wanted with
  | some id => if id ≠ rootId ∧ ∀ x ∈ before, x.id ≠ id then id else nextAfter before
  | none => nextAfter before

/-- Each birth got its id in turn. -/
def Allotted (bs : List Birth) : Prop :=
  ∀ before x after, bs = before ++ x :: after → x.id = allot before x.wanted

@[simp] theorem nextAfter_nil : nextAfter [] = 1 := rfl

@[simp] theorem nextAfter_snoc (before : List Birth) (x : Birth) :
    nextAfter (before ++ [x]) = max (nextAfter before) (x.id + 1) := by
  simp [nextAfter, List.foldl_append]

/-- The counter is beyond every id that was given. -/
theorem id_lt_nextAfter {bs : List Birth} {x : Birth} (hx : x ∈ bs) : x.id < nextAfter bs := by
  induction bs using List.reverseRecOn with
  | nil => cases hx
  | append_singleton bs y ih =>
    rw [nextAfter_snoc]
    rcases List.mem_append.1 hx with hx | hx
    · exact lt_next_of_lt (ih hx)
    · rw [List.mem_singleton.1 hx]
      exact lt_next_self ..

/-- The counter never gives the id of the root. -/
theorem nextAfter_pos (bs : List Birth) : 0 < nextAfter bs := by
  induction bs using List.reverseRecOn with
  | nil => exact Nat.one_pos
  | append_singleton bs x ih =>
    rw [nextAfter_snoc]
    exact lt_next_of_lt ih

/-- The number after the largest id is 1, or it comes right after an id. -/
theorem nextAfter_cases (bs : List Birth) :
    nextAfter bs = 1 ∨ ∃ x ∈ bs, nextAfter bs = x.id + 1 := by
  -- The births are taken from the last one, which raises the next id or leaves it.
  induction bs using List.reverseRecOn with
  | nil => exact .inl rfl
  | append_singleton bs x ih =>
    rw [nextAfter_snoc]
    rcases Nat.le_total (nextAfter bs) (x.id + 1) with hle | hle
    · exact .inr ⟨x, by simp, Nat.max_eq_right hle⟩
    · rw [Nat.max_eq_left hle]
      refine ih.imp_right ?_
      rintro ⟨y, hy, hnext⟩
      exact ⟨y, List.mem_append_left _ hy, hnext⟩

/-- An id that is allotted is not in use. -/
theorem allot_ne {before : List Birth} {x : Birth} (hx : x ∈ before) (wanted : Option NodeId) :
    x.id ≠ allot before wanted := by
  have hnext := Nat.ne_of_lt (id_lt_nextAfter hx)
  cases wanted with
  | none => exact hnext
  | some id =>
    rw [allot]
    split
    · rename_i hfree
      exact hfree.2 x hx
    · exact hnext

/-- A wanted id is allotted if and only if it is free. -/
theorem allot_some_eq_iff {before : List Birth} {p : NodeId} (hp : p ≠ rootId) :
    allot before (some p) = p ↔ ∀ x ∈ before, x.id ≠ p := by
  refine ⟨fun hid x hx => hid ▸ allot_ne hx (some p), fun hfree => ?_⟩
  rw [allot, if_pos ⟨hp, hfree⟩]

/-- What is allotted is what is wanted, or the next number. -/
theorem allot_cases (before : List Birth) (wanted : Option NodeId) :
    wanted = some (allot before wanted) ∨ allot before wanted = nextAfter before := by
  cases wanted with
  | none => exact .inr rfl
  | some id =>
    rw [allot]
    split
    · exact .inl rfl
    · exact .inr rfl

namespace Allotted

variable {bs before after : List Birth} {x : Birth} {p : NodeId}

/-- Before the first birth there is nothing to ask. -/
theorem nil : Allotted [] := by
  intro before x after h
  cases before <;> cases h

/-- One more birth is allotted if its id follows from those before. -/
theorem snoc (h : Allotted bs) (hid : x.id = allot bs x.wanted) : Allotted (bs ++ [x]) := by
  intro before y after hbs
  rcases List.eq_nil_or_concat after with rfl | ⟨after, z, rfl⟩
  · -- The last birth is the new one.
    obtain ⟨rfl, hlast⟩ := List.append_inj' hbs rfl
    cases hlast
    exact hid
  · rw [List.concat_eq_append, ← List.cons_append, ← List.append_assoc] at hbs
    obtain ⟨rfl, -⟩ := List.append_inj' hbs rfl
    exact h before y after rfl

/-- The first births of a sequence that is allotted are allotted. -/
theorem of_append (h : Allotted (before ++ after)) : Allotted before := by
  intro earlier x later hbs
  refine h earlier x (later ++ after) ?_
  rw [hbs, List.append_assoc, List.cons_append]

/-! ## Wanted ids -/

/-- An id that is wanted is in use from then on, whoever has got it. -/
theorem exists_id_eq (h : Allotted bs) (hp : p ≠ rootId) (hx : x ∈ bs)
    (hwanted : x.wanted = some p) : ∃ y ∈ bs, y.id = p := by
  obtain ⟨before, after, rfl⟩ := List.append_of_mem hx
  by_cases hfree : ∀ y ∈ before, y.id ≠ p
  · refine ⟨x, hx, ?_⟩
    rw [h before x after rfl, hwanted]
    exact (allot_some_eq_iff hp).2 hfree
  · push Not at hfree
    obtain ⟨y, hy, hid⟩ := hfree
    exact ⟨y, List.mem_append_left _ hy, hid⟩

/-- A birth gets the id that it wants if and only if no earlier one has got it. -/
theorem id_eq_iff (h : Allotted (before ++ x :: after)) (hp : p ≠ rootId)
    (hwanted : x.wanted = some p) : x.id = p ↔ ∀ y ∈ before, y.id ≠ p := by
  rw [h before x after rfl, hwanted]
  exact allot_some_eq_iff hp

/-- Who has an id wants it, or it was the next number, and nobody before has wanted it. -/
theorem wanted_or_next (h : Allotted (before ++ x :: after)) (hx : x.id ≠ rootId) :
    x.wanted = some x.id ∨
      x.id = nextAfter before ∧ ∀ y ∈ before, y.wanted ≠ some x.id := by
  have hid := h before x after rfl
  rcases allot_cases before x.wanted with hwanted | hnext
  · exact .inl (hid ▸ hwanted)
  · refine .inr ⟨hid.trans hnext, ?_⟩
    intro y hy hwanted
    -- The wanted id would be in use already, and what is allotted is not.
    obtain ⟨z, hz, hzid⟩ := h.of_append.exists_id_eq hx hy hwanted
    rw [hid] at hzid
    exact allot_ne hz _ hzid

/-- An id that its node does not want was counted up to, from 0 or from an id that was wanted. -/
theorem exists_base (h : Allotted bs) (hx : x ∈ bs) :
    x.wanted = some x.id ∨ ∃ base, (base = 0 ∨ ∃ y ∈ bs, y.wanted = some base) ∧
      base < x.id ∧ x.id ≤ base + bs.length := by
  induction bs using List.reverseRecOn generalizing x with
  | nil => cases hx
  | append_singleton bs y ih =>
    have hlength : (bs ++ [y]).length = bs.length + 1 := by simp
    have hmore {base : NodeId} (hbase : base = 0 ∨ ∃ z ∈ bs, z.wanted = some base) :
        base = 0 ∨ ∃ z ∈ bs ++ [y], z.wanted = some base := by
      refine hbase.imp_right ?_
      rintro ⟨z, hz, hwanted⟩
      exact ⟨z, List.mem_append_left _ hz, hwanted⟩
    rw [hlength]
    rcases List.mem_append.1 hx with hx | hx
    · refine (ih h.of_append hx).imp_right ?_
      rintro ⟨base, hbase, hlt, hle⟩
      exact ⟨base, hmore hbase, hlt, Nat.le_succ_of_le hle⟩
    · obtain rfl := List.mem_singleton.1 hx
      rcases allot_cases bs x.wanted with hwanted | hnext
      · exact .inl (h bs x [] rfl ▸ hwanted)
      · rw [← h bs x [] rfl] at hnext
        -- The next number is 1, or it comes right after an id, from which one counts on.
        obtain ⟨i, base, hbase, hle, hle', hi⟩ : ∃ i base : Nat,
            (base = 0 ∨ ∃ z ∈ bs, z.wanted = some base) ∧ base ≤ i ∧ i ≤ base + bs.length ∧
              nextAfter bs = i + 1 := by
          rcases nextAfter_cases bs with hone | ⟨z, hz, hz'⟩
          · exact ⟨0, 0, .inl rfl, Nat.le_refl _, Nat.zero_le _, hone⟩
          · rcases ih h.of_append hz with hwanted | ⟨base, hbase, hlt, hle⟩
            · exact ⟨z.id, z.id, .inr ⟨z, hz, hwanted⟩, Nat.le_refl _, Nat.le_add_right .., hz'⟩
            · exact ⟨z.id, base, hbase, Nat.le_of_lt hlt, hle, hz'⟩
        refine .inr ⟨base, hmore hbase, ?_⟩
        rw [hnext, hi]
        exact ⟨Nat.lt_succ_of_le hle, Nat.succ_le_succ hle'⟩

end Allotted

/-! ## The births of a run -/

/-- The folders that are made on the way down a trail. -/
def birthsBelow (parent : NodeId) (path : String) : Trail → Catalog → List Birth
  | [], _ => []
  | f :: rest, c =>
    let path := ContainerPath.child path f.title
    let (id, opened) := openChild parent path f c
    let here := if (c.pathIndex[path]?).isNone then [⟨id, some f⟩] else []
    here ++ birthsBelow id path rest opened

/-- The nodes that a request makes. -/
def Request.births : Request → Catalog → List Birth
  | .register x, c => if (c.fileIndex[x.location]?).isNone then [⟨(c.addFile x).1, none⟩] else []
  | .openTrail t, c => birthsBelow rootId "" t c
  | .place x folder hint, c => (Catalog.place x folder hint c).1.toList.map fun id => ⟨id, none⟩
  | .revise _, _ => []

/-- The nodes that a run makes, in their order. -/
def births : List Request → Catalog → List Birth
  | [], _ => []
  | r :: rs, c => r.births c ++ births rs (r.apply c)

/-- The births of requests in a row are those of the first ones and of the others. -/
theorem births_append (rs qs : List Request) (c : Catalog) :
    births (rs ++ qs) c = births rs c ++ births qs (run rs c) := by
  induction rs generalizing c with
  | nil => rfl
  | cons r rs ih => rw [List.cons_append, births, births, run_cons, ih, List.append_assoc]

/-- No more folders are made than a trail has. -/
theorem length_birthsBelow_le (t : Trail) (parent : NodeId) (path : String) (c : Catalog) :
    (birthsBelow parent path t c).length ≤ t.length := by
  induction t generalizing parent path c with
  | nil => exact Nat.le_refl 0
  | cons f t ih =>
    have hrest := ih (openChild parent (ContainerPath.child path f.title) f c).1
      (ContainerPath.child path f.title) (openChild parent (ContainerPath.child path f.title) f c).2
    -- A folder of the trail is born or it was there already.
    simp only [birthsBelow]
    split
    · simpa [Nat.add_comm 1] using hrest
    · simpa using Nat.le_succ_of_le hrest

/-- The folders that are made are folders of the trail. -/
theorem mem_trail_of_birthsBelow {t : Trail} {parent : NodeId} {path : String} {c : Catalog}
    {x : Birth} (hx : x ∈ birthsBelow parent path t c) : ∃ f ∈ t, x.folder = some f := by
  induction t generalizing parent path c with
  | nil => cases hx
  | cons g t ih =>
    -- The first folder of the trail is born now, or the birth is further down.
    rcases List.mem_append.1 hx with hx | hx
    · refine ⟨g, List.mem_cons_self .., ?_⟩
      split at hx
      · rw [List.mem_singleton.1 hx]
      · cases hx
    · obtain ⟨f, hf, hx⟩ := ih hx
      exact ⟨f, List.mem_cons_of_mem g hf, hx⟩

/-- A folder that is made was asked for by a trail. -/
theorem exists_trail_of_births {rs : List Request} {c : Catalog} {x : Birth} (hx : x ∈ births rs c)
    {f : Folder} (hf : x.folder = some f) : ∃ t, .openTrail t ∈ rs ∧ f ∈ t := by
  induction rs generalizing c with
  | nil => cases hx
  | cons r rs ih =>
    rcases List.mem_append.1 hx with hx | hx
    · -- A folder is only made by a trail, and any other request makes items.
      cases r with
      | openTrail t =>
        obtain ⟨g, hg, hx⟩ := mem_trail_of_birthsBelow hx
        obtain rfl := Option.some.inj (hf.symm.trans hx)
        exact ⟨t, List.mem_cons_self .., hg⟩
      | register y =>
        simp only [Request.births] at hx
        split at hx
        · obtain rfl := List.mem_singleton.1 hx
          cases hf
        · cases hx
      | place y folder hint =>
        obtain ⟨i, -, rfl⟩ := List.mem_map.1 hx
        cases hf
      | revise y => cases hx
    · obtain ⟨t, ht, hft⟩ := ih hx
      exact ⟨t, List.mem_cons_of_mem r ht, hft⟩

/-! ## The nodes of a catalog -/

/-- There is a folder or an item with an id. -/
def HasNode (c : Catalog) (i : NodeId) : Prop :=
  (c.folder? i).isSome ∨ (c.item? i).isSome

section Writes

variable (c : Catalog) (i : NodeId)

@[simp] theorem hasNode_addFolder (parent : NodeId) (path : String) (f : Folder) :
    (c.addFolder parent path f).2.HasNode i ↔ i = c.freshId f.pinned ∨ c.HasNode i := by
  by_cases hi : i = c.freshId f.pinned
  · simp [HasNode, hi]
  · simp [HasNode, hi]

@[simp] theorem hasNode_addItem (parent : NodeId) (x : MediaItem) :
    (c.addItem parent x).2.HasNode i ↔ i = c.freshId none ∨ c.HasNode i := by
  by_cases hi : i = c.freshId none
  · simp [HasNode, hi]
  · simp [HasNode, hi]

@[simp] theorem hasNode_addFile (x : MediaItem) :
    (c.addFile x).2.HasNode i ↔ i = c.freshId none ∨ c.HasNode i := by
  by_cases hi : i = c.freshId none
  · simp [HasNode, hi]
  · simp [HasNode, hi]

@[simp] theorem hasNode_changeFolder (id : NodeId) (change : Folder → Folder) :
    (c.changeFolder id change).HasNode i ↔ c.HasNode i := by
  simp only [HasNode, folder?_changeFolder, item?_changeFolder]
  split <;> simp

@[simp] theorem hasNode_changeItem (id : NodeId) (change : MediaItem → MediaItem) :
    (c.changeItem id change).HasNode i ↔ c.HasNode i := by
  simp only [HasNode, folder?_changeItem, item?_changeItem]
  split <;> simp

end Writes

/-- A birth lives on: its node is a folder of the title that was asked for, or an item. -/
def Birth.LivesIn (x : Birth) (c : Catalog) : Prop :=
  match x.folder with
  | some f => ∃ r, c.folder? x.id = some r ∧ r.folder.title = f.title
  | none => (c.item? x.id).isSome

/-- What was born is a node. -/
theorem Birth.LivesIn.hasNode {x : Birth} {c : Catalog} (h : x.LivesIn c) : c.HasNode x.id := by
  unfold LivesIn at h
  split at h
  · obtain ⟨r, hr, -⟩ := h
    exact .inl (by simp [hr])
  · exact .inr h

/-- What was born lives on as the catalog grows. -/
theorem Birth.LivesIn.grows {x : Birth} {c c' : Catalog} (h : x.LivesIn c) (hgrows : c.Grows c') :
    x.LivesIn c' := by
  unfold LivesIn at h ⊢
  split at h
  · obtain ⟨r, hr, htitle⟩ := h
    obtain ⟨f, hf, htitle'⟩ := hgrows.folder hr
    exact ⟨_, hf, htitle'.trans htitle⟩
  · obtain ⟨r, hr⟩ := Option.isSome_iff_exists.1 h
    obtain ⟨x, hx, -⟩ := hgrows.item hr
    simp [hx]

/-- The nodes of a catalog were made by some births, in turn. -/
structure MadeBy (c : Catalog) (bs : List Birth) : Prop where
  consistent : c.Consistent
  nextId_eq : c.nextId = nextAfter bs
  allotted : Allotted bs
  lives : ∀ x ∈ bs, x.LivesIn c
  complete : ∀ i, c.HasNode i → ∃ x ∈ bs, x.id = i

/-- The empty catalog was made by nothing. -/
theorem madeBy_empty : empty.MadeBy [] where
  consistent := consistent_empty
  nextId_eq := rfl
  allotted := .nil
  lives := by simp
  complete := by simp [HasNode]

namespace MadeBy

variable {c c' : Catalog} {bs : List Birth}

/-- A fresh id is the one that is allotted after the births so far. -/
theorem freshId_eq (h : c.MadeBy bs) (wanted : Option NodeId) :
    c.freshId wanted = allot bs wanted := by
  have hnext : max c.nextId 1 = nextAfter bs := by
    rw [h.nextId_eq]
    exact Nat.max_eq_left (nextAfter_pos bs)
  cases wanted with
  | none => exact hnext
  | some id =>
    -- An id is free in the catalog just if no birth has it.
    have hunused : ¬ c.HasNode id ↔ ∀ x ∈ bs, x.id ≠ id := by
      refine ⟨?_, fun hnone hnode => ?_⟩
      · rintro hnone x hx rfl
        exact hnone (h.lives x hx).hasNode
      · obtain ⟨x, hx, hid⟩ := h.complete id hnode
        exact hnone x hx hid
    have hfree : c.isFree id = true ↔ id ≠ rootId ∧ ∀ x ∈ bs, x.id ≠ id := by
      rw [← hunused, isFree, HasNode]
      simp [and_assoc]
    simp only [freshId, allot, hnext, hfree]

/-- One more node under a fresh id. -/
theorem snoc (h : c.MadeBy bs) (hc' : c'.Consistent) (hgrows : c.Grows c') {x : Birth}
    (hid : x.id = c.freshId x.wanted) (hnext : c'.nextId = max c.nextId (x.id + 1))
    (hlives : x.LivesIn c') (hnew : ∀ i, c'.HasNode i → i = x.id ∨ c.HasNode i) :
    c'.MadeBy (bs ++ [x]) where
  -- The new birth is the last one; all that was born before has only grown.
  consistent := hc'
  nextId_eq := by rw [hnext, h.nextId_eq, nextAfter_snoc]
  allotted := h.allotted.snoc (hid.trans (h.freshId_eq _))
  lives y hy := by
    rcases List.mem_append.1 hy with hy | hy
    · exact (h.lives y hy).grows hgrows
    · rw [List.mem_singleton.1 hy]
      exact hlives
  complete i hi := by
    rcases hnew i hi with rfl | hi
    · exact ⟨x, by simp, rfl⟩
    · obtain ⟨y, hy, hid⟩ := h.complete i hi
      exact ⟨y, List.mem_append_left _ hy, hid⟩

/-- Nothing but changes of what nodes hold. -/
theorem same (h : c.MadeBy bs) (hc' : c'.Consistent) (hgrows : c.Grows c')
    (hnext : c'.nextId = c.nextId) (hnone : ∀ i, c'.HasNode i → c.HasNode i) :
    c'.MadeBy bs where
  consistent := hc'
  nextId_eq := hnext.trans h.nextId_eq
  allotted := h.allotted
  lives x hx := (h.lives x hx).grows hgrows
  complete i hi := h.complete i (hnone i hi)

/-! ## Requests -/

/-- A change that keeps title and pin makes no node. -/
theorem changeFolder (h : c.MadeBy bs) (id : NodeId) {change : Folder → Folder}
    (htitle : ∀ f, (change f).title = f.title) (hpinned : ∀ f, (change f).pinned = f.pinned) :
    (c.changeFolder id change).MadeBy bs := by
  apply h.same (h.consistent.changeFolder id htitle hpinned) (grows_changeFolder c id htitle) rfl
  intro i
  exact (hasNode_changeFolder c i id change).1

/-- Opening a folder makes it if it is missing, and nothing else. -/
theorem openChild (h : c.MadeBy bs) {parent : NodeId} {p : String}
    (hp : c.pathOf? parent = some p) (f : Folder) :
    (Catalog.openChild parent (ContainerPath.child p f.title) f c).2.MadeBy
      (bs ++ if (c.pathIndex[ContainerPath.child p f.title]?).isNone then
        [⟨(Catalog.openChild parent (ContainerPath.child p f.title) f c).1, some f⟩] else []) := by
  obtain ⟨id, hid, heq⟩ | ⟨hnone, heq⟩ :=
    openChild_cases parent (ContainerPath.child p f.title) f c
  · rw [heq, hid]
    simpa using h.changeFolder id (fun g => title_mergeFolder g f) fun g => pinned_mergeFolder g f
  · -- The description is asked for where no folder lies, so that it makes one.
    rw [heq, hnone]
    refine h.snoc (h.consistent.addFolder hp hnone)
      (h.consistent.grows_addFolder parent _ f) rfl rfl ?_ ?_
    · simp [Birth.LivesIn]
    · intro i
      exact (hasNode_addFolder c i parent _ f).1

/-- By induction along the trail, each folder that is missing is made in its turn. -/
theorem openBelow {t : Trail} (h : c.MadeBy bs) {parent : NodeId} {ts : List String}
    (hp : c.pathOf? parent = some (ContainerPath.ofTitles ts)) :
    (Catalog.openBelow parent (ContainerPath.ofTitles ts) t c).2.MadeBy
      (bs ++ birthsBelow parent (ContainerPath.ofTitles ts) t c) := by
  induction t generalizing c bs parent ts with
  | nil => simpa [Catalog.openBelow, birthsBelow] using h
  | cons f t ih =>
    -- The births of the first folder come before those of the rest.
    have hfirst := h.openChild hp f
    have hpath := (h.consistent.openChild hp f).2
    simp only [Catalog.openBelow, birthsBelow]
    rw [ContainerPath.child_ofTitles] at hfirst hpath ⊢
    rw [← List.append_assoc]
    exact ih hfirst hpath

/-- Placing an item makes one node, or none if another item is in its way. -/
theorem place (h : c.MadeBy bs) (x : MediaItem) (folder : NodeId) (hint : Option String) :
    (Catalog.place x folder hint c).2.MadeBy
      (bs ++ (Request.place x folder hint).births c) := by
  have hhint := h.changeFolder folder (title_hintFolder hint) (pinned_hintFolder hint)
  have hc := h.consistent.place x folder hint
  rw [Request.births]
  -- The hint makes no node, and the item makes one if it is new to the folder.
  obtain ⟨-, heq⟩ | ⟨-, -, heq⟩ | ⟨-, -, heq⟩ := place_cases x folder hint c
  · rw [heq]
    simpa using h
  · rw [heq]
    simpa using hhint
  · rw [heq] at hc ⊢
    refine hhint.snoc hc (hhint.consistent.grows_addItem folder x) rfl rfl ?_ ?_
    · simp [Birth.LivesIn]
    · intro i
      exact (hasNode_addItem _ i folder x).1

/-- Registering a file makes one node, or none if its location is known. -/
theorem register (h : c.MadeBy bs) (x : MediaItem) :
    (c.register x).2.MadeBy (bs ++ (Request.register x).births c) := by
  rw [Request.births]
  obtain ⟨id, hid, heq⟩ | ⟨hnone, heq⟩ := c.register_cases x
  · rw [heq, hid]
    simpa using h
  · rw [heq, hnone]
    refine h.snoc (h.consistent.addFile hnone) (h.consistent.grows_addFile x) rfl rfl ?_ ?_
    · simp [Birth.LivesIn]
    · intro i
      exact (hasNode_addFile c i x).1

/-- What is told anew makes no node. -/
theorem revise (h : c.MadeBy bs) (x : MediaItem) : (Catalog.revise x c).2.MadeBy bs := by
  obtain ⟨-, heq⟩ | ⟨id, -, -, heq⟩ := revise_cases x c
  · rw [heq]
    exact h
  · rw [heq]
    have hkeeps := keepsPlace_reviseItem x
    refine h.same (h.consistent.changeItem id hkeeps) (grows_changeItem c id hkeeps) rfl ?_
    intro i
    exact (hasNode_changeItem c i id _).1

/-- **A request makes the nodes that are its births**, in their order. -/
theorem apply (h : c.MadeBy bs) (r : Request) : (r.apply c).MadeBy (bs ++ r.births c) := by
  cases r with
  | register x => exact h.register x
  | openTrail t => exact h.openBelow (pathOf?_root c)
  | place x folder hint => exact h.place x folder hint
  | revise x => simpa [Request.births, Request.apply] using h.revise x

/-- A run makes its births. -/
theorem run (h : c.MadeBy bs) (rs : List Request) :
    (Catalog.run rs c).MadeBy (bs ++ births rs c) := by
  induction rs generalizing c bs with
  | nil => simpa [births] using h
  | cons r rs ih =>
    rw [births, ← List.append_assoc]
    exact ih (h.apply r)

end MadeBy

/-- **The nodes of a catalog are the births of the run that led to it**, with the ids that they were
allotted in turn. -/
theorem madeBy_run (rs : List Request) : (run rs empty).MadeBy (births rs empty) :=
  madeBy_empty.run rs

end MediaShelves.Catalog
