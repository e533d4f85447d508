import Mathlib.Algebra.Ring.Nat
import MediaShelves.Proofs.Steps
import MediaShelves.Proofs.Catalog.Births
import MediaShelves.Proofs.Plan.Boxes

/-!
# Pinned ids

A box can pin its folder to an id.  The catalog gives the folder this id if it is free at that
moment, but it does not keep it free: the counter runs through the pins of boxes that have not been
used yet.  So a pin is lost if and only if the counter comes to it before the box is used.

Main statement: `pins_hold_unless_counted`.
-/

namespace MediaShelves

open Catalog

/-! ## Pins of a table -/

/-- No two boxes of a table are pinned to the same id, and none to that of the root. -/
structure BoxTable.DistinctPins (t : BoxTable) : Prop where
  ne_root : ∀ {key b p}, t.find? key = some b → b.pinned = some p → p ≠ rootId
  key_eq : ∀ {key key' b b' p}, t.find? key = some b → t.find? key' = some b' →
    b.pinned = some p → b'.pinned = some p → key = key'

/-- Among boxes that have no pin, a box that is put in is the only one that is pinned. -/
theorem BoxTable.of_find?_insert {t : BoxTable}
    (ht : ∀ {key b}, t.find? key = some b → b.pinned = none) {b b' : Box} {key : String}
    {p : NodeId} (hb' : (t.insert b).find? key = some b') (hp : b'.pinned = some p) :
    key = b.key ∧ b.pinned = some p := by
  rw [find?_insert] at hb'
  split at hb'
  · rename_i hkey
    cases hb'
    exact ⟨hkey, hp⟩
  · rw [ht hb'] at hp
    cases hp

theorem BoxTable.distinctPins_insert {t : BoxTable}
    (ht : ∀ {key b}, t.find? key = some b → b.pinned = none) {b : Box}
    (hb : b.pinned ≠ some rootId) : (t.insert b).DistinctPins where
  ne_root hb' hp := by
    rintro rfl
    exact hb (of_find?_insert ht hb' hp).2
  key_eq hb' hb'' hp hp' :=
    (of_find?_insert ht hb' hp).1.trans (of_find?_insert ht hb'' hp').1.symm

/-! ## Folders of boxes -/

/-- A node is a folder that was made from a box. -/
def Catalog.Birth.MadeFrom (x : Birth) (b : Box) : Prop :=
  ∃ f, x.folder = some f ∧ f.MadeFrom b

/-- The nodes that steps make in a catalog that begins empty. -/
def Configuration.births (conf : Configuration) (as : List Step) : List Birth :=
  Catalog.births (conf.requests as empty) empty

theorem Configuration.madeBy_steps (conf : Configuration) (as : List Step) :
    (conf.steps as empty).MadeBy (conf.births as) := by
  rw [← consistent_empty.run_requests]
  exact madeBy_run _

section

variable {conf : Configuration} {as : List Step} {x : Birth} {p : NodeId}

/-- A node wants an id if and only if it is made from a box that is pinned to this id. -/
theorem Configuration.wanted_eq_some_iff (hx : x ∈ conf.births as) :
    x.wanted = some p ↔
      ∃ key b, conf.boxes.find? key = some b ∧ b.pinned = some p ∧ x.MadeFrom b := by
  constructor
  · intro hwanted
    obtain ⟨f, hf, hpinned⟩ := Option.bind_eq_some_iff.1 hwanted
    obtain ⟨t, ht, hft⟩ := exists_trail_of_births hx hf
    obtain ⟨key, b, hb, hmade⟩ := pinnedBy_requests ht f hft (by simp [hpinned])
    exact ⟨key, b, hb, hmade.pinned_eq ▸ hpinned, f, hf, hmade⟩
  · rintro ⟨key, b, -, hp, f, hf, hmade⟩
    exact Option.bind_eq_some_iff.2 ⟨f, hf, hmade.pinned_eq.trans hp⟩

/-- With distinct pins a wanted id tells the box. -/
theorem Configuration.wanted_eq_iff_madeFrom (hpins : conf.boxes.DistinctPins) {key : String}
    {b : Box} (hb : conf.boxes.find? key = some b) (hp : b.pinned = some p)
    (hx : x ∈ conf.births as) : x.wanted = some p ↔ x.MadeFrom b := by
  rw [wanted_eq_some_iff hx]
  constructor
  · rintro ⟨key', b', hb', hp', hmade⟩
    obtain rfl := hpins.key_eq hb hb' hp hp'
    obtain rfl := Option.some.inj (hb.symm.trans hb')
    exact hmade
  · exact fun hmade => ⟨key, b, hb, hp, hmade⟩

end

/-! ## Pins that hold -/

/-- The pin of a box holds: only a folder of the box has this id, and once there is a folder of the
box, one has it. -/
structure PinHolds (bs : List Birth) (c : Catalog) (b : Box) (p : NodeId) : Prop where
  own : ∀ x ∈ bs, x.id = p → x.MadeFrom b
  kept : (∃ x ∈ bs, x.MadeFrom b) → ∃ r, c.folder? p = some r

/-- The counter came to the pin of a box before a folder was made from the box. -/
def CountedBefore (bs : List Birth) (b : Box) (p : NodeId) : Prop :=
  ∃ before x after, bs = before ++ x :: after ∧ x.id = p ∧ nextAfter before = p ∧
    ∀ y ∈ before ++ [x], ¬ y.MadeFrom b

section

variable {conf : Configuration} (hpins : conf.boxes.DistinctPins) {key : String} {b : Box}
  {p : NodeId} (hb : conf.boxes.find? key = some b) (hp : b.pinned = some p) (as : List Step)

include hpins hb hp

/-- **A pin holds unless the counter comes to it first.** -/
theorem pinHolds_iff_not_countedBefore :
    PinHolds (conf.births as) (conf.steps as empty) b p ↔ ¬ CountedBefore (conf.births as) b p := by
  have hroot := hpins.ne_root hb hp
  have hmade := conf.madeBy_steps as
  have hwanted {x : Birth} (hx : x ∈ conf.births as) : x.wanted = some p ↔ x.MadeFrom b :=
    Configuration.wanted_eq_iff_madeFrom hpins hb hp hx
  constructor
  · rintro hholds ⟨before, x, after, hbs, hid, -, hnone⟩
    exact hnone x (by simp) (hholds.own x (by simp [hbs]) hid)
  · intro hcounted
    -- Whoever has the id wanted it, or was counted up to it before anyone wanted it.
    have hown : ∀ x ∈ conf.births as, x.id = p → x.MadeFrom b := by
      intro x hx hid
      by_contra hother
      obtain ⟨before, after, hbs⟩ := List.append_of_mem hx
      have hallotted := hmade.allotted
      rw [hbs] at hallotted
      rcases hallotted.wanted_or_next (hid ▸ hroot) with hx' | ⟨hnext, hnone⟩
      · exact hother ((hwanted hx).1 (hid ▸ hx'))
      · refine hcounted ⟨before, x, after, hbs, hid, hnext.symm.trans hid, ?_⟩
        intro y hy
        rcases List.mem_append.1 hy with hy | hy
        · exact fun hfrom => hnone y hy (hid ▸ (hwanted (by simp [hbs, hy])).2 hfrom)
        · rw [List.mem_singleton.1 hy]
          exact hother
    refine ⟨hown, ?_⟩
    rintro ⟨x, hx, hfrom⟩
    -- Once it has been wanted somebody has it, and that is a folder of the box.
    obtain ⟨y, hy, hid⟩ := hmade.allotted.exists_id_eq hroot hx ((hwanted hx).2 hfrom)
    obtain ⟨f, hf, -⟩ := hown y hy hid
    have hlives := hmade.lives y hy
    rw [Birth.LivesIn, hf, hid] at hlives
    obtain ⟨r, hr, -⟩ := hlives
    exact ⟨r, hr⟩

/-- A folder of a box has the id that the box is pinned to if and only if this id was free. -/
theorem id_eq_pin_iff {before after : List Birth} {x : Birth}
    (hbs : conf.births as = before ++ x :: after) (hx : x.MadeFrom b) :
    x.id = p ↔ ∀ y ∈ before, y.id ≠ p := by
  have hmem : x ∈ conf.births as := by simp [hbs]
  have hallotted := (conf.madeBy_steps as).allotted
  rw [hbs] at hallotted
  exact hallotted.id_eq_iff (hpins.ne_root hb hp)
    ((Configuration.wanted_eq_iff_madeFrom hpins hb hp hmem).2 hx)

/-- The counter does not come to a pin that is farther from 0 and from all smaller pins than there
are nodes. -/
theorem pinHolds_of_far
    (hfar : ∀ q, q = 0 ∨ (∃ key b, conf.boxes.find? key = some b ∧ b.pinned = some q) → q < p →
      q + (conf.births as).length < p) :
    PinHolds (conf.births as) (conf.steps as empty) b p := by
  rw [pinHolds_iff_not_countedBefore hpins hb hp]
  rintro ⟨before, x, after, hbs, hid, -, hnone⟩
  have hx : x ∈ conf.births as := by simp [hbs]
  have hother : x.wanted ≠ some p := fun hwanted => hnone x (by simp)
    ((Configuration.wanted_eq_iff_madeFrom hpins hb hp hx).1 hwanted)
  -- An id that nobody wished for was counted up from one that somebody did, or from zero.
  rcases (conf.madeBy_steps as).allotted.exists_base hx with hwanted | ⟨q, hq, hlt, hle⟩
  · exact hother (hid ▸ hwanted)
  · rw [hid] at hlt hle
    refine Nat.not_le.2 (hfar q (hq.imp_right ?_) hlt) hle
    rintro ⟨y, hy, hwanted⟩
    obtain ⟨key', b', hb', hp', -⟩ := (Configuration.wanted_eq_some_iff hy).1 hwanted
    exact ⟨key', b', hb', hp'⟩

end

/-! ## A film -/

/-- A placement makes at most the folders of its trail and one item. -/
theorem Placement.length_births_le (p : Placement) (c : Catalog) :
    (Catalog.births (p.requests c) c).length ≤ p.trail.length + 1 := by
  rw [requests, births, List.length_append]
  refine Nat.add_le_add (length_birthsBelow_le p.trail rootId "" c) ?_
  cases (Catalog.openTrail p.trail c).1 with
  | none => exact Nat.zero_le 1
  | some folder =>
    simp only [Option.toList_some, List.map_cons, List.map_nil, births, Request.births,
      List.append_nil, List.length_map]
    exact Option.length_toList_le

theorem Plan.length_births_le (plan : Plan) (c : Catalog) :
    (Catalog.births (plan.requests c) c).length ≤ (plan.map fun p => p.trail.length + 1).sum := by
  induction plan generalizing c with
  | nil => exact Nat.le_refl 0
  | cons p plan ih =>
    rw [Plan.requests, births_append, List.length_append, p.run_requests]
    exact Nat.add_le_add (p.length_births_le c) (ih _)

/-- A plan makes the first folder of its first trail if there is nothing at the path of it. -/
theorem Plan.exists_birth {p : Placement} {plan : Plan} {c : Catalog} {f : Folder} {t : Trail}
    (ht : p.trail = f :: t) (hfree : c.pathIndex[ContainerPath.child "" f.title]? = none) :
    ∃ x ∈ Catalog.births (Plan.requests (p :: plan) c) c, x.folder = some f := by
  simp [Plan.requests, Placement.requests, births, Request.births, ht, birthsBelow, hfree]

/-- The standard plan of an item that lies in no directory makes few nodes. -/
theorem Plan.sum_visual_le (c : Configuration) (b : VisualBoxes) (o : Origin) (x : MediaItem)
    {f : VisualFacets} (hroot : f.directories = []) :
    ((Plan.visual c b o x f).map fun p => p.trail.length + 1).sum ≤ 12 := by
  have hmonth : f.dates.month.toList.length ≤ 1 := Option.length_toList_le
  simp only [Plan.visual, Plan.when, hroot, List.isEmpty_nil, Bool.not_true, Bool.and_false]
  -- The axes of years and dates are there or not.
  cases b.years.enabled <;> cases b.dates.enabled <;> simp <;> omega

/-- A video right in the root of an import goes below the folder of its medium first, and makes few
nodes in all. -/
theorem Configuration.exists_videoPlan_eq {conf : Configuration} {o : Origin} {x : MediaItem}
    (hboxes : ∀ key ∈ Plan.videoKeys, (conf.boxes.find? key).isSome) {b : Box}
    (hb : conf.boxes.find? BoxKey.videoRoot = some b) (hroot : o.directories x = []) :
    ∃ p rest t, conf.videoPlan o x = .ok (p :: rest) ∧ p.trail = b.folder :: t ∧
      ((p :: rest).map fun p => p.trail.length + 1).sum ≤ 12 := by
  obtain ⟨s, hs⟩ : ∃ s : BoxSelection Plan.videoKeys, s = ⟨conf.boxes, hboxes⟩ := ⟨_, rfl⟩
  have hbox : s.box BoxKey.videoRoot = b := by
    have hfind := s.find?_eq BoxKey.videoRoot (by decide)
    rw [hs] at hfind
    exact hs ▸ Option.some.inj (hfind.symm.trans hb)
  rw [videoPlan, BoxTable.select_eq hboxes, ← hs]
  refine ⟨_, _, _, rfl, congrArg (·.folder :: _) hbox, ?_⟩
  exact Plan.sum_visual_le conf (Plan.videoBoxes s) o x (by simp [videoFacets, directories, hroot])

/-- A box with a title that is pinned to an id. -/
def Box.pinnedTo (key title : String) (p : NodeId) : Box :=
  { Box.plain key title UpnpClass.container with pinned := some p }

/-- A film is registered and imported, with the folder of videos pinned to an id. -/
theorem exists_film {p : NodeId} (hp : p ≠ rootId) :
    ∃ (conf : Configuration) (x : MediaItem) (b : Box) (as : List Step),
      conf.boxes = BoxTable.builtin.insert (Box.pinnedTo BoxKey.videoRoot "Video" p) ∧
      conf.boxes.DistinctPins ∧ conf.boxes.find? BoxKey.videoRoot = some b ∧ b.pinned = some p ∧
      x = MediaItem.ofLocation "/films/a.mkv" "video/x-matroska" ∧
      as = [.register x, .importItem (fun _ => none) (Origin.ofRoot "/films") x] ∧
      (∃ y ∈ conf.births as, y.MadeFrom b) ∧ (conf.births as).length ≤ 13 ∧
      ∃ rest, conf.births as = ⟨1, none⟩ :: rest := by
  obtain ⟨conf, hconf, hvisual, -⟩ := Configuration.exists_standard
    (BoxTable.builtin.insert (Box.pinnedTo BoxKey.videoRoot "Video" p))
  let b := (Box.pinnedTo BoxKey.videoRoot "Video" p).normalized
  let x := MediaItem.ofLocation "/films/a.mkv" "video/x-matroska"
  let o := Origin.ofRoot "/films"
  have hpins : conf.boxes.DistinctPins := by
    rw [hconf]
    refine BoxTable.distinctPins_insert BoxTable.pinned_builtin ?_
    simpa [Box.pinnedTo] using hp
  have hb : conf.boxes.find? BoxKey.videoRoot = some b := by
    rw [hconf]
    exact (BoxTable.find?_insert ..).trans (if_pos rfl)
  have hboxes : conf.boxes.Complete := hconf ▸ BoxTable.complete_builtin.insert _
  obtain ⟨first, rest, t, hplan, htrail, hlength⟩ := Configuration.exists_videoPlan_eq
    (o := o) (x := x) (hboxes.1 .video) hb (by decide +kernel)
  have himport (c : Catalog) : conf.importPlan (fun _ => none) o x c = .ok (first :: rest) := by
    have hformat : (Playlist.Format.ofMimetype? x.mimetype).isSome = false := by
      decide +kernel
    have hmedium : x.medium = .video := by
      decide +kernel
    have hform : x.form ≠ .externalUrl := by
      decide
    simp only [Configuration.importPlan, hformat, Bool.false_eq_true, if_false, Configuration.plan,
      hmedium, hform, hvisual, hplan]
  let c := (empty.register x).2
  have hbirths : conf.births [.register x, .importItem (fun _ => none) o x] =
      ⟨1, none⟩ :: Catalog.births (Plan.requests (first :: rest) c) c := by
    have hfile : (Request.register x).births empty = [⟨1, none⟩] := by
      simp only [Request.births, fileIndex_empty, Option.isNone_none, if_true]
      rfl
    simp only [Configuration.births, Configuration.requests, Configuration.stepRequests, himport,
      List.append_nil, List.cons_append, List.nil_append, Catalog.births, hfile]
    rfl
  -- Nothing but the file is there when the folder of videos is made.
  have hfree : c.pathIndex[ContainerPath.child "" b.folder.title]? = none := by
    simp [c, Catalog.register]
  obtain ⟨y, hy, hfolder⟩ : ∃ y ∈ Catalog.births (Plan.requests (first :: rest) c) c,
      y.folder = some b.folder := Plan.exists_birth htrail hfree
  refine ⟨conf, x, b, _, hconf, hpins, hb, rfl, rfl, rfl, ?_, ?_, _, hbirths⟩
  · exact ⟨y, hbirths ▸ List.mem_cons_of_mem _ hy, b.folder, hfolder, rfl⟩
  · rw [hbirths]
    exact Nat.succ_le_succ (Nat.le_trans (Plan.length_births_le _ c) hlength)

/-! ## The statement -/

/--
**A pinned id is its box's own unless the counter comes to it before the box is used.**  Let the pins
of a configuration be distinct, and not that of the root.  Steps in any order make the nodes of the
catalog in turn, and each gets the id that it wants, if it is free, else the next one.  Then no file,
no item and no other folder has the pin of a box, and once the box is used a folder has it, if and
only if the counter did not come to the pin before; a folder of the box has the pin if and only if
nobody had it; and pins that are far enough from each other hold.  A scan is such steps.
-/
theorem pins_hold_unless_counted (conf : Configuration) (hpins : conf.boxes.DistinctPins)
    {key : String} {b : Box} {p : NodeId} (hb : conf.boxes.find? key = some b)
    (hp : b.pinned = some p) :
    (∀ as : List Step, (conf.steps as empty).MadeBy (conf.births as) ∧
      (PinHolds (conf.births as) (conf.steps as empty) b p ↔
        ¬ CountedBefore (conf.births as) b p) ∧
      (∀ before x after, conf.births as = before ++ x :: after → x.MadeFrom b →
        (x.id = p ↔ ∀ y ∈ before, y.id ≠ p)) ∧
      ((∀ q, q = 0 ∨ (∃ key b, conf.boxes.find? key = some b ∧ b.pinned = some q) → q < p →
          q + (conf.births as).length < p) →
        PinHolds (conf.births as) (conf.steps as empty) b p)) ∧
      ∀ (o : Origin) (text? : String → Option String) (files : List Scan.ScannedFile) (c : Catalog)
        (sum : Scan.Summary), (Scan.Job.mk conf o text?).importFiles files empty = .ok (c, sum) →
          conf.steps ((Scan.Job.mk conf o text?).scanSteps files empty) empty = c :=
  ⟨fun as => ⟨conf.madeBy_steps as, pinHolds_iff_not_countedBefore hpins hb hp as,
    fun _ _ _ hbs hx => id_eq_pin_iff hpins hb hp as hbs hx, pinHolds_of_far hpins hb hp as⟩,
    fun _ _ _ _ _ hok => Scan.Job.steps_scanSteps hok⟩

/-- The folder of videos is pinned to an id that few nodes do not reach, and it gets this id. -/
theorem pins_hold_unless_counted_film :
    ∃ (conf : Configuration) (b : Box) (as : List Step),
      conf.boxes = BoxTable.builtin.insert (Box.pinnedTo BoxKey.videoRoot "Video" 1000) ∧
      conf.boxes.find? BoxKey.videoRoot = some b ∧ (∃ y ∈ conf.births as, y.MadeFrom b) ∧
      PinHolds (conf.births as) (conf.steps as empty) b 1000 ∧
      ∃ r, (conf.steps as empty).folder? 1000 = some r := by
  obtain ⟨conf, x, b, as, hconf, hpins, hb, hp, -, -, hmade, hlength, -⟩ :=
    exists_film (p := 1000) (by decide)
  obtain ⟨-, -, -, hfar⟩ := (pins_hold_unless_counted conf hpins hb hp).1 as
  have hholds := hfar fun q hq hlt => by
    rcases hq with rfl | ⟨key, b', hb', hq⟩
    · rw [Nat.zero_add]
      exact Nat.lt_of_le_of_lt hlength (by decide)
    · -- No other box is pinned.
      rw [hconf] at hb'
      cases (BoxTable.of_find?_insert BoxTable.pinned_builtin hb' hq).2
      exact absurd hlt (Nat.lt_irrefl _)
  exact ⟨conf, b, as, hconf, hb, hmade, hholds, hholds.kept hmade⟩

/-- A film is registered before the folder of videos is made, and it gets the id that this folder is
pinned to; the folder has to take another one. -/
theorem film_has_pin_of_videos :
    ∃ (conf : Configuration) (x : MediaItem) (b : Box) (as : List Step),
      conf.boxes = BoxTable.builtin.insert (Box.pinnedTo BoxKey.videoRoot "Video" 1) ∧
      conf.boxes.DistinctPins ∧ conf.boxes.find? BoxKey.videoRoot = some b ∧ b.pinned = some 1 ∧
      x = MediaItem.ofLocation "/films/a.mkv" "video/x-matroska" ∧
      as = [.register x, .importItem (fun _ => none) (Origin.ofRoot "/films") x] ∧
      (∃ y ∈ conf.births as, y.MadeFrom b) ∧ ((conf.steps as empty).item? 1).isSome ∧
      (conf.steps as empty).folder? 1 = none := by
  obtain ⟨conf, x, b, as, hconf, hpins, hb, hp, hx, has, hmade, -, rest, hbirths⟩ :=
    exists_film (p := 1) (by decide)
  have hsteps := conf.madeBy_steps as
  have hitem := hsteps.lives ⟨1, none⟩ (by simp [hbirths])
  obtain ⟨r, hr⟩ := Option.isSome_iff_exists.1 hitem
  exact ⟨conf, x, b, as, hconf, hpins, hb, hp, hx, has, hmade, hitem,
    hsteps.consistent.folder?_of_item hr⟩

end MediaShelves
