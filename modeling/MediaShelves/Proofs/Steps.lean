import MediaShelves.Proofs.Plan.Pins
import MediaShelves.Proofs.ReturnedIds

/-!
# Steps

What is done to a catalog under one configuration: files are registered, sidecars revise items, and
items are imported.  All of this comes down to requests, and a scan is nothing else.

Main statements: `Catalog.Consistent.run_requests`, `Scan.Job.steps_scanSteps`.
-/

namespace MediaShelves

open Catalog

/-! ## Pins -/

/-- Imports pin folders to the ids of boxes only. -/
theorem Configuration.pinnedBy_importPlan {conf : Configuration} {read : String → Option String}
    {o : Origin} {x : MediaItem} {c : Catalog} {plan : Plan}
    (hplan : conf.importPlan read o x c = .ok plan) : plan.PinnedBy conf.boxes := by
  unfold importPlan at hplan
  split at hplan
  · split at hplan
    · exact Playlist.pinnedBy_plan hplan
    · cases hplan
      exact Plan.pinnedBy_nil
  · exact pinnedBy_plan hplan

/-! ## Steps -/

/-- What is done to a catalog; `read` gives the contents of playlists at the time of an import. -/
inductive Step where
  | register (x : MediaItem)
  | revise (x : MediaItem)
  | importItem (read : String → Option String) (o : Origin) (x : MediaItem)

namespace Configuration

variable (conf : Configuration)

/-- The catalog after a step. -/
def step : Step → Catalog → Catalog
  | .register x, c => (c.register x).2
  | .revise x, c => (Catalog.revise x c).2
  | .importItem read o x, c => (conf.importItem read o x c).2

/-- The catalog after some steps. -/
def steps (as : List Step) (c : Catalog) : Catalog :=
  as.foldl (fun c a => conf.step a c) c

/-- What a step asks of a catalog. -/
def stepRequests : Step → Catalog → List Request
  | .register x, _ => [.register x]
  | .revise x, _ => [.revise x]
  | .importItem read o x, c =>
    match conf.importPlan read o x c with
    | .ok plan => plan.requests c
    | .error _ => []

/-- What some steps ask of a catalog. -/
def requests : List Step → Catalog → List Request
  | [], _ => []
  | a :: as, c => conf.stepRequests a c ++ requests as (conf.step a c)

end Configuration

/-- A step is a run of requests. -/
theorem Catalog.Consistent.run_stepRequests {c : Catalog} (h : c.Consistent) (conf : Configuration)
    (a : Step) : Catalog.run (conf.stepRequests a c) c = conf.step a c := by
  cases a with
  | register x => rfl
  | revise x => rfl
  | importItem read o x =>
    simp only [Configuration.stepRequests, Configuration.step, h.importItem_eq]
    cases conf.importPlan read o x c with
    | error e => rfl
    | ok plan => exact plan.run_requests c

/-- Steps are runs of requests. -/
theorem Catalog.Consistent.run_requests {c : Catalog} (h : c.Consistent) (conf : Configuration)
    (as : List Step) : Catalog.run (conf.requests as c) c = conf.steps as c := by
  induction as generalizing c with
  | nil => rfl
  | cons a as ih =>
    have hfirst := h.run_stepRequests conf a
    rw [Configuration.requests, run_append, hfirst]
    exact ih (hfirst ▸ h.run _)

/-- The trails of a plan are those of its placements. -/
theorem Plan.exists_mem_of_requests {plan : Plan} {c : Catalog} {t : Trail}
    (ht : .openTrail t ∈ plan.requests c) : ∃ p ∈ plan, p.trail = t := by
  induction plan generalizing c with
  | nil => cases ht
  | cons p plan ih =>
    rcases List.mem_append.1 ht with ht | ht
    · -- A placement opens its own trail and no other.
      refine ⟨p, List.mem_cons_self .., ?_⟩
      rcases List.mem_cons.1 ht with heq | ht
      · cases heq
        rfl
      · obtain ⟨i, -, heq⟩ := List.mem_map.1 ht
        cases heq
    · obtain ⟨q, hq, htrail⟩ := ih ht
      exact ⟨q, List.mem_cons_of_mem p hq, htrail⟩

/-- Steps pin folders to the ids of boxes only. -/
theorem Configuration.pinnedBy_requests {conf : Configuration} {as : List Step} {c : Catalog}
    {t : Trail} (ht : .openTrail t ∈ conf.requests as c) : t.PinnedBy conf.boxes := by
  induction as generalizing c with
  | nil => cases ht
  | cons a as ih =>
    rcases List.mem_append.1 ht with ht | ht
    · -- Only an import opens trails, and these are those of its plan.
      cases a with
      | register x => simp [stepRequests] at ht
      | revise x => simp [stepRequests] at ht
      | importItem read o x =>
        simp only [stepRequests] at ht
        split at ht
        · rename_i plan hplan
          obtain ⟨p, hp, rfl⟩ := Plan.exists_mem_of_requests ht
          exact pinnedBy_importPlan hplan p hp
        · cases ht
    · exact ih ht

/-! ## Scans -/

/-- Steps after steps are steps. -/
theorem Configuration.steps_append (conf : Configuration) (as bs : List Step) (c : Catalog) :
    conf.steps (as ++ bs) c = conf.steps bs (conf.steps as c) :=
  List.foldl_append

/-- What a sidecar with some contents does to an item. -/
def Sidecar.steps (content : String) (x : MediaItem) : List Step :=
  match ofText content with
  | .ok told => [.revise (told.apply x)]
  | .error _ => []

/-- A sidecar revises its item in at most one step. -/
theorem Sidecar.steps_eq (conf : Configuration) (content : String) (x : MediaItem) (c : Catalog) :
    conf.steps (Sidecar.steps content x) c = (Sidecar.revise content x c).2 := by
  unfold Sidecar.steps Sidecar.revise
  cases ofText content <;> rfl

namespace Scan

/-- What a scan does for one file: it is registered, revised by its sidecar and imported. -/
def Job.fileSteps (j : Job) (f : ScannedFile) (c : Catalog) : List Step :=
  let (x, c) := c.register f.item
  let revisions := match f.sidecar.bind j.text? with
    | some content => Sidecar.steps content x
    | none => []
  let c := j.configuration.steps revisions c
  let x := (Shelves.canonical? c f.item.location).getD x
  .register f.item :: revisions ++ [.importItem j.text? j.origin x]

/-- What a scan does for some files. -/
def Job.scanSteps (j : Job) : List ScannedFile → Catalog → List Step
  | [], _ => []
  | f :: files, c =>
    j.fileSteps f c ++ j.scanSteps files (j.configuration.steps (j.fileSteps f c) c)

variable {j : Job} {c c' : Catalog} {sum sum' : Summary}

theorem Job.steps_fileSteps {f : ScannedFile} (hok : j.importFile f c sum = .ok (c', sum')) :
    j.configuration.steps (j.fileSteps f c) c = c' := by
  obtain ⟨ids, -, himport, -⟩ := Job.exists_importItem_of_importFile hok
  unfold Job.enteredItem Job.entered at himport
  rw [Job.fileSteps, Configuration.steps_append]
  -- With a sidecar there is one step more between registering and importing.
  cases hsidecar : f.sidecar.bind j.text? with
  | none =>
    rw [hsidecar] at himport
    exact congrArg Prod.snd himport
  | some content =>
    simp only [hsidecar, ← Sidecar.steps_eq j.configuration] at himport
    exact congrArg Prod.snd himport

/-- **A scan is nothing but steps.** -/
theorem Job.steps_scanSteps {files : List ScannedFile} :
    j.importFiles files c = .ok (c', sum) → j.configuration.steps (j.scanSteps files c) c = c' := by
  -- The summary plays no part in what happens to the catalog, so it may be any.
  have hfold (c : Catalog) (sum₀ : Summary)
      (hok : files.foldlM (fun r f => j.importFile f r.1 r.2) (c, sum₀) = .ok (c', sum)) :
      j.configuration.steps (j.scanSteps files c) c = c' := by
    induction files generalizing c sum₀ with
    | nil =>
      cases hok
      rfl
    | cons f files ih =>
      rw [List.foldlM_cons] at hok
      obtain ⟨⟨c₁, sum₁⟩, hfirst, hrest⟩ := bind_eq_ok hok
      rw [Job.scanSteps, Configuration.steps_append, steps_fileSteps hfirst]
      exact ih c₁ sum₁ hrest
  exact hfold c ⟨0, 0, 0⟩

end Scan

end MediaShelves
