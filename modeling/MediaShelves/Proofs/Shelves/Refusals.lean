import Mathlib.Data.List.Forall2
import MediaShelves.Proofs.Catalog.Additions
import MediaShelves.Proofs.Catalog.Trails
import MediaShelves.Proofs.Plan.Boxes

/-!
# Refusals

Shelves may refuse an item.  Whatever items are refused, a builder asks for the same trails and the
same items one after another, so the folders are the same; and it gives the ids of exactly those
items that were not refused and that nothing was in the way of.

Main statement: `refusals_stay_apart`.
-/

namespace MediaShelves

open Catalog

/-! ## Shelves that refuse items -/

/-- What shelves are asked for: the folders of a trail, or an item in the folder at a path. -/
inductive Asked where
  | trail (t : Trail)
  | item (x : MediaItem) (path : Option String) (hint : Option String)
deriving DecidableEq, Repr

/-- A catalog that may refuse items, and all that it was asked for. -/
structure Watched where
  catalog : Catalog
  /-- Whether an item is refused, by how many came before it. -/
  refuses : Nat → Bool
  /-- How many items have come so far. -/
  count : Nat
  asked : List Asked

instance : Shelves Watched where
  openTrail t s :=
    let (id, catalog) := Shelves.openTrail t s.catalog
    (id, { s with catalog, asked := s.asked ++ [.trail t] })
  place x folder hint s :=
    let s' := { s with
      count := s.count + 1
      asked := s.asked ++ [.item x (s.catalog.pathOf? folder) hint] }
    if s.refuses s.count then (none, s')
    else
      let (id, catalog) := Shelves.place x folder hint s.catalog
      (id, { s' with catalog })
  revise x s :=
    let (id, catalog) := Shelves.revise x s.catalog
    (id, { s with catalog })
  placed? s := Shelves.placed? s.catalog
  canonical? s := Shelves.canonical? s.catalog

/-- A catalog that has not been asked for anything yet. -/
def Watched.start (c : Catalog) (refuses : Nat → Bool) : Watched :=
  ⟨c, refuses, 0, []⟩

/-- What a placement asks for: its trail, and its item at the end of the trail. -/
def Placement.asks (p : Placement) : List Asked :=
  [.trail p.trail, .item p.item (some p.trail.path) p.hint]

/-- What a plan asks for. -/
def Plan.asks (plan : Plan) : List Asked :=
  plan.flatMap Placement.asks

/-! ## What is added -/

/-- The labels at all titles once the label of a placement has come to those that it has a trail to. -/
def Placement.addTo (p : Placement) (held : List String → List Label) (ts : List String) :
    List Label :=
  if p.trail.titles = ts then Label.addTo (held ts) p.item.label else held ts

/--
The placements that add their items, where certain labels are held: those that are not refused and
have nothing in their way.  The first of them is the item with number `n`.
-/
def Plan.newcomers (refuses : Nat → Bool) (held : List String → List Label) (n : Nat) : Plan → Plan
  | [] => []
  | p :: rest =>
    (if refuses n ∨ (held p.trail.titles).any (·.clashes p.item.label) then [] else [p]) ++
      newcomers refuses (if refuses n then held else p.addTo held) (n + 1) rest

/-- The item with an id is that of a placement, and lies at the end of its trail. -/
def Catalog.LiesAt (c : Catalog) (id : NodeId) (p : Placement) : Prop :=
  ∃ folder, c.pathIndex[p.trail.path]? = some folder ∧
    c.item? id = some ⟨id, some folder, { p.item with id := some id }⟩

/-- What lies somewhere stays there when other items are added. -/
theorem Catalog.LiesAt.mono {c c' : Catalog} {id : NodeId} {p : Placement} {ids : List NodeId}
    (h : c.LiesAt id p) (hc : c.Consistent) (hc' : c'.Consistent) (hadds : c.Extended ids c')
    (hid : id ∉ ids) : c'.LiesAt id p := by
  obtain ⟨folder, hfolder, hitem⟩ := h
  exact ⟨folder, hadds.grows.pathIndex hc hc' hfolder, (hadds.item?_eq id hid).trans hitem⟩

/-! ## One placement -/

/-- An item that is put into a folder is added unless something is in its way. -/
theorem Catalog.place_clashes_or_adds {c : Catalog} {folder : NodeId} (x : MediaItem) (hint : Option String)
    (hfolder : (c.folder? folder).isSome) :
    (place x folder hint c).1 = none ∧ (c.labelsIn folder).any (·.clashes x.label) = true ∨
      ∃ id, (place x folder hint c).1 = some id ∧
        (place x folder hint c).2.item? id = some ⟨id, some folder, { x with id := some id }⟩ ∧
        (c.labelsIn folder).any (·.clashes x.label) = false := by
  have hany := isSome_placed? c x folder
  -- Whether a label is in the way is all that a placement asks.
  obtain ⟨habsent, -⟩ | ⟨-, hsome, heq⟩ | ⟨-, hnone, heq⟩ := place_cases x folder hint c
  · exact absurd (.inr hfolder) habsent
  · rw [hsome] at hany
    rw [heq]
    exact .inl ⟨rfl, hany.symm⟩
  · rw [hnone] at hany
    rw [heq]
    refine .inr ⟨c.freshId none, rfl, ?_, hany.symm⟩
    exact (item?_addItem ..).trans (if_pos rfl)

/-- Carries out a placement on a catalog, whose item may be refused. -/
def Placement.carryOutUnless (p : Placement) (refused : Bool) (c : Catalog) :
    Option NodeId × Catalog :=
  if refused then (none, (openTrail p.trail c).2) else p.carryOut c

@[simp] theorem Placement.carryOutUnless_true (p : Placement) (c : Catalog) :
    p.carryOutUnless true c = (none, (openTrail p.trail c).2) := rfl

@[simp] theorem Placement.carryOutUnless_false (p : Placement) (c : Catalog) :
    p.carryOutUnless false c = p.carryOut c := rfl

/-- Watched shelves answer as their catalog does, but for what they refuse. -/
theorem Watched.carryOut_placement {s : Watched} (h : s.catalog.Consistent) {p : Placement}
    (ht : p.trail ≠ []) :
    p.carryOut s = ((p.carryOutUnless (s.refuses s.count) s.catalog).1,
      { s with
        catalog := (p.carryOutUnless (s.refuses s.count) s.catalog).2
        count := s.count + 1
        asked := s.asked ++ p.asks }) := by
  obtain ⟨i, hfst, hi⟩ := h.exists_openTrail ht
  -- The folder at the end of the trail has its path.
  have hpath := (h.openTrail p.trail).pathOf?_of_pathIndex hi
  have hopen : Shelves.openTrail p.trail s.catalog = (some i, (openTrail p.trail s.catalog).2) :=
    Prod.ext hfst rfl
  have hwatched : Shelves.openTrail p.trail s =
      (some i, { s with
        catalog := (openTrail p.trail s.catalog).2
        asked := s.asked ++ [.trail p.trail] }) :=
    Prod.ext hfst rfl
  rw [Placement.carryOut, hwatched]
  show Shelves.place p.item i p.hint _ = _
  cases hrefused : s.refuses s.count with
  | true => simp [Shelves.place, hrefused, Placement.carryOutUnless, Placement.asks, hpath]
  | false =>
    simp [Shelves.place, hrefused, Placement.carryOutUnless, Placement.carryOut, hopen,
      Placement.asks, hpath]

section

variable {c : Catalog} (h : c.Consistent) (p : Placement) (refused : Bool)

include h

theorem Catalog.Consistent.carryOutUnless : (p.carryOutUnless refused c).2.Consistent := by
  cases refused with
  | true => exact h.openTrail p.trail
  | false => exact h.placement p

theorem Catalog.Consistent.extended_carryOutUnless :
    c.Extended (p.carryOutUnless refused c).1.toList (p.carryOutUnless refused c).2 := by
  cases refused with
  | true => exact h.extended_openTrail p.trail
  | false => exact h.extended_placement p

/-- The folders of a placement are made, whether its item is refused or not. -/
theorem Catalog.Consistent.isSome_nodeAt?_carryOutUnless (ts : List String) :
    ((p.carryOutUnless refused c).2.nodeAt? ts).isSome =
      ((c.nodeAt? ts).isSome || ts.isPrefixOf p.trail.titles) := by
  cases refused with
  | true => exact h.isSome_nodeAt?_openTrail p.trail ts
  | false =>
    have hplan := h.isSome_nodeAt?_plan [p] ts
    rwa [List.any_cons, List.any_nil, Bool.or_false] at hplan

variable {p} (ht : p.trail ≠ [])

include ht

theorem Catalog.Consistent.labelsAt_carryOutUnless :
    (p.carryOutUnless refused c).2.labelsAt =
      if refused then c.labelsAt else p.addTo c.labelsAt := by
  funext ts
  cases refused with
  | true => exact h.labelsAt_openTrail p.trail ts
  | false =>
    show (p.carryOut c).2.labelsAt ts = p.addTo c.labelsAt ts
    rw [h.labelsAt_placement, Placement.addTo]
    simp [ht]

/-- A placement adds its item unless it is refused or something is in its way. -/
theorem Catalog.Consistent.carryOutUnless_cases :
    (p.carryOutUnless refused c).1 = none ∧
        (refused ∨ (c.labelsAt p.trail.titles).any (·.clashes p.item.label)) ∨
      ∃ id, (p.carryOutUnless refused c).1 = some id ∧
        (p.carryOutUnless refused c).2.LiesAt id p ∧
        ¬ (refused ∨ (c.labelsAt p.trail.titles).any (·.clashes p.item.label)) := by
  cases refused with
  | true => exact .inl ⟨rfl, .inl rfl⟩
  | false =>
    obtain ⟨hnil, -⟩ | ⟨-, i, hi, hp⟩ := h.placement_cases p
    · exact absurd hnil ht
    have hc := h.openTrail p.trail
    obtain ⟨r, hr, -⟩ := hc.pathIndex_iff.1 hi
    -- What lies in the folder is what lay at the titles of the trail.
    have hlabels : (Catalog.openTrail p.trail c).2.labelsIn i = c.labelsAt p.trail.titles := by
      have hnode : (Catalog.openTrail p.trail c).2.nodeAt? p.trail.titles = some i := by
        rw [nodeAt?, if_neg (mt Trail.titles_eq_nil.1 ht)]
        exact hi
      rw [← h.labelsAt_openTrail p.trail, labelsAt, hnode]
      rfl
    rw [Placement.carryOutUnless_false, hp, ← hlabels]
    obtain ⟨hfst, hany⟩ | ⟨id, hfst, hitem, hany⟩ :=
      place_clashes_or_adds p.item p.hint (show ((Catalog.openTrail p.trail c).2.folder? i).isSome by simp [hr])
    · exact .inl ⟨hfst, .inr hany⟩
    · refine .inr ⟨id, hfst, ⟨i, ?_, hitem⟩, by simp [hany]⟩
      exact (hc.grows_place p.item i p.hint).pathIndex hc (hc.place p.item i p.hint) hi

end

/-! ## Whole plans -/

/-- What is left after a plan was carried out on watched shelves, with the ids that it gave. -/
structure Watched.Carried (s : Watched) (plan : Plan) (ids : List NodeId) (s' : Watched) :
    Prop where
  consistent : s'.catalog.Consistent
  asked_eq : s'.asked = s.asked ++ plan.asks
  extended : s.catalog.Extended ids s'.catalog
  /-- The folders do not depend on what is refused. -/
  nodes : ∀ ts, (s'.catalog.nodeAt? ts).isSome =
    ((s.catalog.nodeAt? ts).isSome || plan.any fun p => ts.isPrefixOf p.trail.titles)
  added : List.Forall₂ s'.catalog.LiesAt ids
    (plan.newcomers s.refuses s.catalog.labelsAt s.count)

theorem Watched.carried {plan : Plan} {s : Watched} (h : s.catalog.Consistent)
    (ht : plan.Trailed) : s.Carried plan (plan.carryOut s).1 (plan.carryOut s).2 := by
  induction plan generalizing s with
  | nil =>
    exact ⟨h, by simp [Plan.carryOut, Plan.asks], Extended.refl _, by simp [Plan.carryOut], .nil⟩
  | cons p plan ih =>
    obtain ⟨hp, hplan⟩ := Plan.trailed_cons.1 ht
    have hc := h.carryOutUnless p (s.refuses s.count)
    have hfirst := h.extended_carryOutUnless p (s.refuses s.count)
    rw [Plan.carryOut_cons, carryOut_placement h hp]
    obtain ⟨hconsistent, hasked, hrest, hnodes, hadded⟩ := ih
      (s := ⟨_, s.refuses, s.count + 1, s.asked ++ p.asks⟩) hc hplan
    constructor
    · exact hconsistent
    · rw [hasked, List.append_assoc]
      rfl
    · exact hfirst.trans hrest
    · intro ts
      rw [hnodes, h.isSome_nodeAt?_carryOutUnless, List.any_cons, Bool.or_assoc]
    · rw [h.labelsAt_carryOutUnless _ hp] at hadded
      rw [Plan.newcomers]
      apply List.rel_append _ hadded
      obtain ⟨hfst, hno⟩ | ⟨id, hfst, hlies, hyes⟩ :=
        h.carryOutUnless_cases (s.refuses s.count) hp
      · rw [hfst, if_pos hno]
        exact .nil
      · rw [hfst, if_neg hyes]
        -- The item keeps its place, since later items have greater ids.
        refine .cons (hlies.mono hc hconsistent hrest fun hlater => ?_) .nil
        have hlt := (hfirst.bounds id (by simp [hfst])).2
        exact absurd (hrest.bounds id hlater).1 (Nat.not_le.2 hlt)

/-- Watched shelves that refuse nothing answer as their catalog does. -/
theorem Watched.carryOut_of_never {plan : Plan} {s : Watched} (h : s.catalog.Consistent)
    (ht : plan.Trailed) (hnever : s.refuses = fun _ => false) :
    ((plan.carryOut s).1, (plan.carryOut s).2.catalog) = plan.carryOut s.catalog := by
  induction plan generalizing s with
  | nil => rfl
  | cons p plan ih =>
    obtain ⟨hp, hplan⟩ := Plan.trailed_cons.1 ht
    rw [Plan.carryOut_cons, Plan.carryOut_cons, carryOut_placement h hp, hnever,
      Placement.carryOutUnless_false]
    -- The count and the log of the watcher have no part in what is stored.
    have hrest := ih (s := ⟨_, fun _ => false, s.count + 1, s.asked ++ p.asks⟩) (h.placement p)
      hplan rfl
    rw [← hrest]

/-- Folders at the same titles are folders at the same paths. -/
theorem Catalog.Consistent.isSome_folderAt?_of_nodes {c c' : Catalog} (h : c.Consistent)
    (h' : c'.Consistent) (hnodes : ∀ ts, (c.nodeAt? ts).isSome = (c'.nodeAt? ts).isSome)
    {path : String} (hpath : (c.folderAt? path).isSome) : (c'.folderAt? path).isSome := by
  obtain ⟨r, hr⟩ := Option.isSome_iff_exists.1 hpath
  obtain ⟨i, hi, -⟩ := Option.bind_eq_some_iff.1 hr
  obtain ⟨f, hf, rfl⟩ := h.pathIndex_iff.1 hi
  obtain ⟨ts, hts, htitles, hindex⟩ := h.exists_pathIndex hf
  -- A path that leads to a folder is spelled by titles, and these are what both catalogs share.
  have hnode : (c'.nodeAt? ts).isSome := by
    rw [← hnodes, nodeAt?, if_neg hts, hindex]
    rfl
  rw [nodeAt?, if_neg hts] at hnode
  obtain ⟨j, hj⟩ := Option.isSome_iff_exists.1 hnode
  obtain ⟨g, hg, -⟩ := h'.pathIndex_iff.1 hj
  rw [folderAt?, htitles, hj, Option.bind_some, hg]
  rfl

/--
**A refusal affects only the item that is refused.**  Whatever items are refused, a builder succeeds
and asks for the same trails and items as if none were, namely for those of its plan; it gives, in
their order, the ids of the items that were neither refused nor there already; and there are folders
at the same paths as if nothing had been refused.
-/
theorem refusals_stay_apart (before : List Request) {conf : Configuration}
    (hboxes : conf.boxes.Complete) (b : Builder) (o : Origin) (x : MediaItem)
    (refuses : Nat → Bool) :
    ∃ (plan : Plan) (ids all : List NodeId) (s t : Watched),
      b.plan conf o x = .ok plan ∧
      b.shelve conf o x (Watched.start (run before empty) refuses) = (.ok ids, s) ∧
      b.shelve conf o x (Watched.start (run before empty) fun _ => false) = (.ok all, t) ∧
      b.shelve conf o x (run before empty) = (.ok all, t.catalog) ∧
      s.asked = plan.asks ∧ t.asked = plan.asks ∧
      (run before empty).Adds ids s.catalog ∧
      List.Forall₂ s.catalog.LiesAt ids
        (plan.newcomers refuses (run before empty).labelsAt 0) ∧
      ∀ path, (s.catalog.folderAt? path).isSome = (t.catalog.folderAt? path).isSome := by
  have h : (run before empty).Consistent := consistent_empty.run before
  obtain ⟨plan, hplan⟩ := b.exists_plan_ok hboxes o x
  have ht : plan.Trailed := Builder.trailed_plan hplan
  let start (refuses : Nat → Bool) := Watched.start (run before empty) refuses
  obtain ⟨hs, hasked, hadded, hnodes, hlies⟩ := Watched.carried (s := start refuses) h ht
  obtain ⟨hs', hasked', -, hnodes', -⟩ := Watched.carried (s := start fun _ => false) h ht
  have hnever := Watched.carryOut_of_never (s := start fun _ => false) h ht rfl
  refine ⟨plan, _, _, _, _, hplan, by rw [Builder.shelve, hplan]; rfl,
    by rw [Builder.shelve, hplan]; rfl, ?_, hasked, hasked', hadded.adds h hs, hlies, ?_⟩
  · rw [Builder.shelve, hplan, carryOutPlan]
    exact congrArg (fun r : List NodeId × Catalog => (Except.ok r.1, r.2)) hnever.symm
  · intro path
    -- Both runs leave folders at the titles that the trails of the plan begin with.
    have hsame (ts : List String) := (hnodes ts).trans (hnodes' ts).symm
    rw [Bool.eq_iff_iff]
    exact ⟨hs.isSome_folderAt?_of_nodes hs' hsame,
      hs'.isSome_folderAt?_of_nodes hs fun ts => (hsame ts).symm⟩

/-- A song whose first item is refused. -/
theorem refusals_stay_apart_song :
    ∃ (conf : Configuration) (x : MediaItem) (plan : Plan) (ids : List NodeId) (s : Watched),
      conf.boxes = BoxTable.builtin ∧ x = MediaItem.ofLocation "/music/a.mp3" "audio/mpeg" ∧
      Builder.audio.plan conf (Origin.ofRoot "/music") x = .ok plan ∧
      Builder.audio.shelve conf (Origin.ofRoot "/music") x
        (Watched.start (run [.register x] empty) fun n => n = 0) = (.ok ids, s) ∧
      s.asked = plan.asks ∧
      List.Forall₂ s.catalog.LiesAt ids
        (plan.newcomers (fun n => n = 0) (run [.register x] empty).labelsAt 0) := by
  obtain ⟨conf, hconf⟩ := Configuration.exists_ofBoxes BoxTable.builtin
  let x := MediaItem.ofLocation "/music/a.mp3" "audio/mpeg"
  have hboxes : conf.boxes.Complete := hconf ▸ BoxTable.complete_builtin
  obtain ⟨plan, ids, -, s, -, hplan, hshelve, -, -, hasked, -, -, hlies, -⟩ :=
    refusals_stay_apart [.register x] hboxes .audio (Origin.ofRoot "/music") x fun n => n = 0
  exact ⟨conf, x, plan, ids, s, hconf, rfl, hplan, hshelve, hasked, hlies⟩

end MediaShelves
