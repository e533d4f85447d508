import MediaShelves.Proofs.Catalog.History
import MediaShelves.Shelves

/-!
# Plans on a catalog

A plan that is carried out on a catalog is a list of requests (`Plan.run_requests`): for each
placement the trail, and then the item in the folder to which the trail led.  So everything that is
known about requests holds for plans, and each folder develops by what the placements tell about it
(`Consistent.content?_plan`).
-/

namespace MediaShelves

/-! ## What a plan tells about a folder -/

/-- What a placement tells about the folder at some titles. -/
def Placement.contributions (p : Placement) (titles : List String) : List Contribution :=
  match p.trail.folderAt? [] titles with
  | none => []
  | some f => .folder f :: if titles = p.trail.titles then (p.hint.map .hint).toList else []

/-- What a plan tells about the folder at some titles. -/
def Plan.contributions (plan : Plan) (titles : List String) : List Contribution :=
  plan.flatMap (·.contributions titles)

theorem Trail.titles_eq_nil {t : Trail} : t.titles = [] ↔ t = [] :=
  List.map_eq_nil_iff

/-- A trail asks for a folder at its own titles. -/
theorem Trail.exists_folderAt?_titles {t : Trail} (ht : t ≠ []) (above : List String) :
    ∃ f, t.folderAt? above (above ++ t.titles) = some f := by
  induction t generalizing above with
  | nil => exact absurd rfl ht
  | cons f t ih =>
    -- The folder asked for is the last one, which nothing follows.
    cases t with
    | nil => exact ⟨f, by simp [Trail.folderAt?, Trail.titles]⟩
    | cons g t =>
      obtain ⟨last, hlast⟩ := ih (List.cons_ne_nil g t) (above ++ [f.title])
      refine ⟨last, ?_⟩
      rw [Trail.folderAt?, if_neg (by simp [Trail.titles])]
      simpa [Trail.titles] using hlast

/-! ## Plans step by step -/

/-- A plan is carried out placement by placement, and the ids are given in this order. -/
theorem Plan.carryOut_cons {σ : Type} [Shelves σ] (p : Placement) (plan : Plan) (s : σ) :
    Plan.carryOut (p :: plan) s =
      ((p.carryOut s).1.toList ++ (Plan.carryOut plan (p.carryOut s).2).1,
        (Plan.carryOut plan (p.carryOut s).2).2) := rfl

/-- Two plans in turn are one plan. -/
theorem Plan.carryOut_append {σ : Type} [Shelves σ] (plan rest : Plan) (s : σ) :
    Plan.carryOut (plan ++ rest) s =
      ((Plan.carryOut plan s).1 ++ (Plan.carryOut rest (Plan.carryOut plan s).2).1,
        (Plan.carryOut rest (Plan.carryOut plan s).2).2) := by
  induction plan generalizing s with
  | nil => rfl
  | cons p plan ih =>
    rw [List.cons_append, Plan.carryOut_cons, Plan.carryOut_cons, ih, List.append_assoc]

/-! ## Plans as requests -/

/-- What a placement asks of a catalog: the trail, and the item in the folder at its end. -/
def Placement.requests (p : Placement) (c : Catalog) : List Catalog.Request :=
  .openTrail p.trail ::
    (Catalog.openTrail p.trail c).1.toList.map fun folder => .place p.item folder p.hint

/-- What a plan asks of a catalog. -/
def Plan.requests : Plan → Catalog → List Catalog.Request
  | [], _ => []
  | p :: plan, c => p.requests c ++ Plan.requests plan (p.carryOut c).2

/-- What a placement does to a catalog is a run of requests. -/
theorem Placement.run_requests (p : Placement) (c : Catalog) :
    Catalog.run (p.requests c) c = (p.carryOut c).2 := by
  have hopen : Shelves.openTrail p.trail c = Catalog.openTrail p.trail c := rfl
  unfold requests Placement.carryOut
  rw [hopen]
  cases htrail : Catalog.openTrail p.trail c with
  | mk folder? opened =>
    -- Without a folder at its end the trail is opened for nothing.
    cases folder? with
    | none => exact congrArg Prod.snd htrail
    | some folder =>
      rw [Catalog.run_cons, Catalog.Request.apply, htrail]
      rfl

/-- Carrying out a plan is running its requests. -/
theorem Plan.run_requests (plan : Plan) (c : Catalog) :
    Catalog.run (plan.requests c) c = (plan.carryOut c).2 := by
  induction plan generalizing c with
  | nil => rfl
  | cons p plan ih => rw [requests, Catalog.run_append, p.run_requests, ih, Plan.carryOut_cons]

namespace Catalog

variable {c : Catalog} (h : c.Consistent)

/-! ## Placements -/

section

include h

/-- A trail that is not empty leads to the folder at its path. -/
theorem Consistent.exists_openTrail {t : Trail} (ht : t ≠ []) :
    ∃ i, (Catalog.openTrail t c).1 = some i ∧
      (Catalog.openTrail t c).2.pathIndex[t.path]? = some i := by
  obtain ⟨hc, hpath⟩ := h.openBelow (t := t) (pathOf?_root c)
  refine ⟨(Catalog.openBelow rootId "" t c).1, ?_, ?_⟩
  · simp [Catalog.openTrail, ht]
  · -- The root has another path.
    have hne : (Catalog.openBelow rootId "" t c).1 ≠ rootId := by
      intro hid
      have hempty : ContainerPath.ofTitles t.titles = ContainerPath.ofTitles [] := by
        simpa [pathOf?, hid] using hpath.symm
      exact ht (Trail.titles_eq_nil.1 (ContainerPath.ofTitles_inj.1 hempty))
    rw [ContainerPath.ofTitles_nil, pathOf?, if_neg hne, Option.map_eq_some_iff] at hpath
    obtain ⟨r, hr, hpath⟩ := hpath
    exact hc.pathIndex_iff.2 ⟨r, hr, hpath⟩

/-- A placement without a trail is lost; any other one puts its item at the end of the trail. -/
theorem Consistent.placement_cases (p : Placement) :
    p.trail = [] ∧ p.carryOut c = (none, c) ∨
      p.trail ≠ [] ∧ ∃ i, (Catalog.openTrail p.trail c).2.pathIndex[p.trail.path]? = some i ∧
        p.carryOut c = Catalog.place p.item i p.hint (Catalog.openTrail p.trail c).2 := by
  by_cases ht : p.trail = []
  · refine .inl ⟨ht, ?_⟩
    rw [Placement.carryOut, ht]
    rfl
  · obtain ⟨i, hfst, hi⟩ := h.exists_openTrail ht
    refine .inr ⟨ht, i, hi, ?_⟩
    have hopen : Shelves.openTrail p.trail c = (some i, (Catalog.openTrail p.trail c).2) :=
      Prod.ext hfst rfl
    rw [Placement.carryOut, hopen]
    rfl

/-- A placement develops each folder by what it tells about it. -/
theorem Consistent.content?_placement (p : Placement) (ts : List String) :
    (p.carryOut c).2.content? ts =
      Contribution.develop (c.content? ts) (p.contributions ts) := by
  obtain ⟨ht, hp⟩ | ⟨ht, i, hi, hp⟩ := h.placement_cases p
  · simp [hp, Placement.contributions, ht, Trail.folderAt?, Contribution.develop]
  · rw [Trail.path] at hi
    rw [hp, (h.openTrail p.trail).content?_place, h.content?_openTrail, Placement.contributions]
    by_cases hts : ts = p.trail.titles
    · -- The hint is for the last folder of the trail, after the description of it.
      subst hts
      obtain ⟨f, hf⟩ := Trail.exists_folderAt?_titles ht []
      rw [List.nil_append] at hf
      rw [if_pos hi, hf]
      simp [Contribution.develop]
    · rw [if_neg fun hother => hts ((h.openTrail p.trail).titles_unique hother hi)]
      cases p.trail.folderAt? [] ts with
      | none => rfl
      | some f => simp [hts]

end

/-! ## Whole plans -/

section

include h

/-- A placement keeps the tables in agreement. -/
theorem Consistent.placement (p : Placement) : (p.carryOut c).2.Consistent := by
  rw [← p.run_requests]
  exact h.run _

/-- So does a plan. -/
theorem Consistent.plan (plan : Plan) : (plan.carryOut c).2.Consistent := by
  rw [← plan.run_requests]
  exact h.run _

/-- A placement takes nothing away. -/
theorem Consistent.grows_placement (p : Placement) : c.Grows (p.carryOut c).2 := by
  rw [← p.run_requests]
  exact h.grows_run _

/-- Nor does a plan. -/
theorem Consistent.grows_plan (plan : Plan) : c.Grows (plan.carryOut c).2 := by
  rw [← plan.run_requests]
  exact h.grows_run _

end

/-- A plan develops each folder by what it tells about it. -/
theorem Consistent.content?_plan {c : Catalog} (h : c.Consistent) (plan : Plan)
    (ts : List String) :
    (plan.carryOut c).2.content? ts =
      Contribution.develop (c.content? ts) (plan.contributions ts) := by
  induction plan generalizing c with
  | nil => rfl
  | cons p plan ih =>
    have hrest := ih (h.placement p)
    rw [h.content?_placement] at hrest
    simpa [Plan.carryOut, Plan.contributions, Contribution.develop] using hrest

/-! ## Items stay as they are -/

/-- Going down a trail touches no item. -/
theorem openBelow_items (t : Trail) (parent : NodeId) (path : String) (c : Catalog) :
    (openBelow parent path t c).2.itemTable = c.itemTable ∧
      (openBelow parent path t c).2.fileIndex = c.fileIndex := by
  induction t generalizing parent path c with
  | nil => exact ⟨rfl, rfl⟩
  | cons f t ih =>
    -- A folder is merged or made, and neither touches the tables of items.
    have hfirst : (openChild parent (ContainerPath.child path f.title) f c).2.itemTable =
          c.itemTable ∧
        (openChild parent (ContainerPath.child path f.title) f c).2.fileIndex = c.fileIndex := by
      obtain ⟨id, -, heq⟩ | ⟨-, heq⟩ := openChild_cases parent (ContainerPath.child path f.title) f c
      · rw [heq]
        exact ⟨rfl, rfl⟩
      · rw [heq]
        exact ⟨rfl, rfl⟩
    obtain ⟨hitems, hfiles⟩ := ih (openChild parent (ContainerPath.child path f.title) f c).1
      (ContainerPath.child path f.title) (openChild parent (ContainerPath.child path f.title) f c).2
    exact ⟨hitems.trans hfirst.1, hfiles.trans hfirst.2⟩

theorem item?_openTrail (t : Trail) (c : Catalog) (i : NodeId) :
    (Catalog.openTrail t c).2.item? i = c.item? i :=
  congrArg (·[i]?) (openBelow_items t rootId "" c).1

theorem fileIndex_openTrail (t : Trail) (c : Catalog) :
    (Catalog.openTrail t c).2.fileIndex = c.fileIndex :=
  (openBelow_items t rootId "" c).2

/-- Placing an item touches no other one. -/
theorem Consistent.place_items (x : MediaItem) (folder : NodeId) (hint : Option String)
    {c : Catalog} (h : c.Consistent) :
    (∀ i r, c.item? i = some r → (Catalog.place x folder hint c).2.item? i = some r) ∧
      (Catalog.place x folder hint c).2.fileIndex = c.fileIndex := by
  obtain ⟨-, heq⟩ | ⟨-, -, heq⟩ | ⟨-, -, heq⟩ := place_cases x folder hint c
  · rw [heq]
    exact ⟨fun i r hr => hr, rfl⟩
  · rw [heq]
    exact ⟨fun i r hr => hr, rfl⟩
  · rw [heq]
    refine ⟨?_, rfl⟩
    intro i r hr
    -- The new item has an id that no item had.
    have hne := (h.hint folder hint).ne_freshId_of_item none (i := i) (r := r) hr
    rw [item?_addItem, if_neg hne]
    exact hr

/-- A placement touches no item that is there already. -/
theorem Consistent.placement_items {c : Catalog} (h : c.Consistent) (p : Placement) :
    (∀ i r, c.item? i = some r → (p.carryOut c).2.item? i = some r) ∧
      (p.carryOut c).2.fileIndex = c.fileIndex := by
  obtain ⟨-, hp⟩ | ⟨-, i, -, hp⟩ := h.placement_cases p
  · rw [hp]
    exact ⟨fun i r hr => hr, rfl⟩
  · obtain ⟨hitems, hfiles⟩ := (h.openTrail p.trail).place_items p.item i p.hint
    rw [hp]
    refine ⟨?_, hfiles.trans (fileIndex_openTrail p.trail c)⟩
    intro j r hr
    exact hitems j r ((item?_openTrail p.trail c j).trans hr)

/-- A plan touches no item that is there already. -/
theorem Consistent.plan_items {c : Catalog} (h : c.Consistent) (plan : Plan) :
    (∀ i r, c.item? i = some r → (plan.carryOut c).2.item? i = some r) ∧
      (plan.carryOut c).2.fileIndex = c.fileIndex := by
  induction plan generalizing c with
  | nil => exact ⟨fun i r hr => hr, rfl⟩
  | cons p plan ih =>
    obtain ⟨hitems, hfiles⟩ := h.placement_items p
    obtain ⟨hitems', hfiles'⟩ := ih (h.placement p)
    exact ⟨fun i r hr => hitems' i r (hitems i r hr), hfiles'.trans hfiles⟩

/-- Canonical items are the same as long as no item and no index of files is touched. -/
theorem Consistent.file?_of_items {c c' : Catalog} (h : c.Consistent)
    (hitems : ∀ i r, c.item? i = some r → c'.item? i = some r)
    (hfiles : c'.fileIndex = c.fileIndex) (location : String) :
    c'.file? location = c.file? location := by
  rw [file?, file?, hfiles]
  cases hid : c.fileIndex[location]? with
  | none => rfl
  | some id =>
    obtain ⟨r, hr, -⟩ := h.fileIndex_iff.1 hid
    rw [Option.bind_some, Option.bind_some, hitems id r hr, hr]

/-- A plan leaves the canonical items as they are. -/
theorem Consistent.file?_plan {c : Catalog} (h : c.Consistent) (plan : Plan) (location : String) :
    (plan.carryOut c).2.file? location = c.file? location := by
  obtain ⟨hitems, hfiles⟩ := h.plan_items plan
  exact h.file?_of_items hitems hfiles location

end Catalog

end MediaShelves
