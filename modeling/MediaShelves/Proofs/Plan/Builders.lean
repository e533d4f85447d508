import MediaShelves.Import
import MediaShelves.Proofs.Plan.DirectoryFolders

/-!
# Builders of plans

The eight ways of shelving an item that is no playlist.  All placements of a plan are of the one item
that it was made for (`Builder.ofItem_plan`) and have a trail (`Builder.trailed_plan`), and what they
look like does not depend on the id of that item (`Builder.sketch_plan`).
-/

namespace MediaShelves

/-- A way of making a plan for an item. -/
inductive Builder where
  | audio
  | structuredAudio
  | image
  | detailedImage
  | video
  | detailedVideo
  | online
  | directories
deriving DecidableEq, Repr

namespace Builder

/-- The plan that a builder makes for an item. -/
def plan (b : Builder) (c : Configuration) (o : Origin) (x : MediaItem) : Except ConfigError Plan :=
  match b with
  | .audio => c.audioPlan o x
  | .structuredAudio => c.structuredPlan x
  | .image => c.imagePlan o x
  | .detailedImage => c.detailedImagePlan o x
  | .video => c.videoPlan o x
  | .detailedVideo => c.detailedVideoPlan o x
  | .online => c.onlinePlan x
  | .directories => .ok (c.directoryPlan o x)

/-- Shelves an item after the plan of a builder. -/
def shelve {σ : Type} [Shelves σ] (b : Builder) (c : Configuration) (o : Origin) (x : MediaItem)
    (s : σ) : Except ConfigError (List NodeId) × σ :=
  carryOutPlan (b.plan c o x) s

end Builder

namespace Configuration

/-- The builder that shelves an item, by what it is and by what the options say. -/
def builder? (c : Configuration) (x : MediaItem) : Option Builder :=
  match x.medium with
  | .audio =>
    match c.options.audio with
    | .standard => some .audio
    | .structured => some .structuredAudio
  | .video =>
    if x.form = .externalUrl then some .online
    else
      match c.options.visual with
      | .standard => some .video
      | .detailed => some .detailedVideo
  | .image =>
    match c.options.visual with
    | .standard => some .image
    | .detailed => some .detailedImage
  | .other => none

/-- Where an item goes is settled by a builder, if it goes anywhere. -/
theorem plan_eq (c : Configuration) (o : Origin) (x : MediaItem) :
    c.plan o x =
      match c.builder? x with
      | some b => b.plan c o x
      | none => .ok [] := by
  -- The medium picks the builder, and the options pick among the builders of a medium.
  unfold Configuration.plan Configuration.builder?
  cases x.medium with
  | audio => cases c.options.audio <;> rfl
  | video =>
    by_cases hform : x.form = .externalUrl
    · simp [hform, Builder.plan]
    · cases c.options.visual <;> simp [hform, Builder.plan]
  | image => cases c.options.visual <;> rfl
  | other => rfl

end Configuration

/-! ## Titles along a trail -/

namespace Trail

@[simp] theorem titles_nil : titles [] = [] := rfl

@[simp] theorem titles_cons (f : Folder) (t : Trail) : titles (f :: t) = f.title :: t.titles := rfl

/-- The titles of one trail behind another are those of both. -/
theorem titles_append (t u : Trail) : Trail.titles (t ++ u) = t.titles ++ u.titles :=
  List.map_append

/-- Whose resources the last folder borrows does not show in the titles. -/
theorem titles_withLeafOwner (owner : Option NodeId) (t : Trail) :
    (withLeafOwner owner t).titles = t.titles := by
  induction t with
  | nil => rfl
  | cons f t ih =>
    cases t with
    | nil => rfl
    | cons g t => exact congrArg (f.title :: ·) ih

/-- Directory folders are titled by their directories, whatever they borrow. -/
theorem titles_directoryFolders (template : Folder) (o : Origin) (x : MediaItem)
    (parentCount : UInt64) (directories : List String) :
    Trail.titles (directoryFolders template o x parentCount directories) = directories := by
  rw [directoryFolders_eq, Trail.titles]
  apply List.ext_getElem?
  intro depth
  rw [List.getElem?_map, List.getElem?_mapIdx, Option.map_map]
  exact Option.map_id_apply

@[simp] theorem titles_throughDirectories (t : Trail) (template : Folder) (o : Origin)
    (x : MediaItem) (parentCount : UInt64) (directories : List String) :
    (t.throughDirectories template o x parentCount directories).titles =
      t.titles ++ directories := by
  rw [throughDirectories, titles_withLeafOwner, titles_append, titles_directoryFolders]

end Trail

/-! ## The item of a plan -/

/-- A computation in two parts gives a result only if both parts do. -/
theorem bind_eq_ok {ε α β : Type} {a : Except ε α} {f : α → Except ε β} {b : β}
    (h : a >>= f = .ok b) : ∃ x, a = .ok x ∧ f x = .ok b := by
  cases a with
  | error e => cases h
  | ok x => exact ⟨x, rfl, h⟩

/-- What stands under a condition counts only if the condition holds. -/
theorem Plan.forall_mem_when {condition : Bool} {plan : Plan} {P : Placement → Prop} :
    (∀ p ∈ Plan.when condition plan, P p) ↔ (condition → ∀ p ∈ plan, P p) := by
  cases condition <;> simp [Plan.when]

/-- All placements are of one item: they refer to the same one, and at the same position. -/
def Plan.OfItem (plan : Plan) (x : MediaItem) : Prop :=
  ∀ p ∈ plan, p.item.refersTo = x.refersTo.or x.id ∧ p.item.playlistOrder = x.playlistOrder

section

variable {x : MediaItem} {plan rest : Plan}

@[simp] theorem Plan.ofItem_nil : Plan.OfItem [] x := by
  simp [OfItem]

@[simp] theorem Plan.ofItem_cons {p : Placement} :
    Plan.OfItem (p :: plan) x ↔
      (p.item.refersTo = x.refersTo.or x.id ∧ p.item.playlistOrder = x.playlistOrder) ∧
        plan.OfItem x :=
  List.forall_mem_cons

@[simp] theorem Plan.ofItem_append :
    Plan.OfItem (plan ++ rest) x ↔ plan.OfItem x ∧ rest.OfItem x :=
  List.forall_mem_append

@[simp] theorem Plan.ofItem_map {α : Type} {f : α → Placement} {as : List α} :
    Plan.OfItem (as.map f) x ↔ ∀ a ∈ as,
      (f a).item.refersTo = x.refersTo.or x.id ∧ (f a).item.playlistOrder = x.playlistOrder :=
  List.forall_mem_map

@[simp] theorem Plan.ofItem_when {condition : Bool} :
    (Plan.when condition plan).OfItem x ↔ (condition → plan.OfItem x) :=
  Plan.forall_mem_when

end

section

variable (c : Configuration) (o : Origin) (x : MediaItem)

@[simp] theorem refersTo_reference : x.reference.refersTo = x.refersTo.or x.id := rfl

@[simp] theorem playlistOrder_reference : x.reference.playlistOrder = x.playlistOrder := rfl

@[simp] theorem refersTo_titled (title : String) :
    (x.titled title).refersTo = x.refersTo.or x.id := rfl

@[simp] theorem playlistOrder_titled (title : String) :
    (x.titled title).playlistOrder = x.playlistOrder := rfl

@[simp] theorem refersTo_annotate (f : AudioFacets) :
    (f.annotate x).refersTo.or (f.annotate x).id = x.refersTo.or x.id := by
  simp [AudioFacets.annotate, MediaItem.reference, Option.or_assoc]

@[simp] theorem playlistOrder_annotate (f : AudioFacets) :
    (f.annotate x).playlistOrder = x.playlistOrder := rfl

/-- Whatever an audio item tells, all placements of its plan are of this item. -/
theorem ofItem_audio (s : BoxSelection Plan.audioKeys) : (Plan.audio c s o x).OfItem x := by
  simp [Plan.audio]

/-- The buckets and decades of the structured plan all hold the item itself. -/
theorem ofItem_structured (s : BoxSelection Plan.structuredKeys) :
    (Plan.structured c s x).OfItem x := by
  simp [Plan.structured]

/-- Years, dates and directories of the visual plans all hold the item itself. -/
theorem ofItem_visual (b : Plan.VisualBoxes) (f : VisualFacets) :
    (Plan.visual c b o x f).OfItem x := by
  simp [Plan.visual]

/-- The titles that name a time or a model are titles of the same image. -/
theorem ofItem_detailedImage (s : BoxSelection Plan.detailedImageKeys) :
    (Plan.detailedImage c s o x).OfItem x := by
  simp [Plan.detailedImage]

/-- The titles that name a time are titles of the same video. -/
theorem ofItem_detailedVideo (s : BoxSelection Plan.detailedVideoKeys) :
    (Plan.detailedVideo c s o x).OfItem x := by
  simp [Plan.detailedVideo]

/-- What the online plan places is the online item. -/
theorem ofItem_online (s : BoxSelection Plan.onlineKeys) : (Plan.online s x).OfItem x := by
  simp [Plan.online]

/-- What the plan by directories places is the item. -/
theorem ofItem_directories : (c.directoryPlan o x).OfItem x := by
  simp [Configuration.directoryPlan]

end

/-- What is selected from a table is its own boxes. -/
theorem BoxTable.table_of_select {t : BoxTable} {keys : List String} {s : BoxSelection keys}
    (h : t.select keys = .ok s) : s.table = t := by
  unfold select at h
  split at h <;> cases h
  rfl

/-- What holds of whatever a builder makes of its boxes holds of the plan that it makes. -/
theorem Builder.plan_induction {c : Configuration} {o : Origin} {x : MediaItem}
    {motive : Plan → Prop} (nil : motive [])
    (audio : ∀ s, s.table = c.boxes → motive (Plan.audio c s o x))
    (structured : ∀ s, s.table = c.boxes → motive (Plan.structured c s x))
    (image : ∀ s f, s.table = c.boxes → motive (Plan.visual c (Plan.imageBoxes s) o x f))
    (video : ∀ s f, s.table = c.boxes → motive (Plan.visual c (Plan.videoBoxes s) o x f))
    (detailedImage : ∀ s, s.table = c.boxes → motive (Plan.detailedImage c s o x))
    (detailedVideo : ∀ s, s.table = c.boxes → motive (Plan.detailedVideo c s o x))
    (online : ∀ s, s.table = c.boxes → motive (Plan.online s x))
    (directories : motive (c.directoryPlan o x))
    {b : Builder} {plan : Plan} (hplan : b.plan c o x = .ok plan) : motive plan := by
  have hselected {keys : List String} {make : BoxSelection keys → Plan}
      (hmake : ∀ s, s.table = c.boxes → motive (make s))
      (hok : (c.boxes.select keys >>= fun s => pure (make s) : Except ConfigError Plan) =
        .ok plan) : motive plan := by
    -- A builder that gives a plan has selected its boxes.
    obtain ⟨s, hs, hok⟩ := bind_eq_ok hok
    cases hok
    exact hmake s (BoxTable.table_of_select hs)
  cases b with
  | audio => exact hselected audio hplan
  | structuredAudio => exact hselected structured hplan
  | image => exact hselected (fun s => image s _) hplan
  | detailedImage =>
    simp only [Builder.plan, Configuration.detailedImagePlan] at hplan
    split at hplan
    · cases hplan
      exact nil
    · exact hselected detailedImage hplan
  | video => exact hselected (fun s => video s _) hplan
  | detailedVideo => exact hselected detailedVideo hplan
  | online => exact hselected online hplan
  | directories =>
    cases hplan
    exact directories

/-- A plan is made for one item only. -/
theorem Builder.ofItem_plan {b : Builder} {c : Configuration} {o : Origin} {x : MediaItem}
    {plan : Plan} (hplan : b.plan c o x = .ok plan) : plan.OfItem x := by
  apply Builder.plan_induction (motive := (·.OfItem x)) Plan.ofItem_nil
  · exact fun s _ => ofItem_audio c o x s
  · exact fun s _ => ofItem_structured c x s
  · exact fun s f _ => ofItem_visual c o x _ f
  · exact fun s f _ => ofItem_visual c o x _ f
  · exact fun s _ => ofItem_detailedImage c o x s
  · exact fun s _ => ofItem_detailedVideo c o x s
  · exact fun s _ => ofItem_online x s
  · exact ofItem_directories c o x
  · exact hplan

/-! ## Plans without empty trails -/

/-- All trails lead to a folder. -/
def Plan.Trailed (plan : Plan) : Prop :=
  ∀ p ∈ plan, p.trail ≠ []

section

variable {plan rest : Plan}

@[simp] theorem Plan.trailed_nil : Plan.Trailed [] := by
  simp [Trailed]

@[simp] theorem Plan.trailed_cons {p : Placement} :
    Plan.Trailed (p :: plan) ↔ p.trail ≠ [] ∧ plan.Trailed :=
  List.forall_mem_cons

@[simp] theorem Plan.trailed_append :
    Plan.Trailed (plan ++ rest) ↔ plan.Trailed ∧ rest.Trailed :=
  List.forall_mem_append

@[simp] theorem Plan.trailed_map {α : Type} {f : α → Placement} {as : List α} :
    Plan.Trailed (as.map f) ↔ ∀ a ∈ as, (f a).trail ≠ [] :=
  List.forall_mem_map

@[simp] theorem Plan.trailed_when {condition : Bool} :
    (Plan.when condition plan).Trailed ↔ (condition → plan.Trailed) :=
  Plan.forall_mem_when

@[simp] theorem Trail.throughDirectories_eq_nil {t : Trail} {template : Folder} {o : Origin}
    {x : MediaItem} {parentCount : UInt64} {directories : List String} :
    t.throughDirectories template o x parentCount directories = [] ↔ t = [] ∧ directories = [] := by
  have hnil (u : Trail) : u = [] ↔ u.titles = [] :=
    List.map_eq_nil_iff.symm
  rw [hnil, titles_throughDirectories, List.append_eq_nil_iff, ← hnil]

end

/-- No builder places an item outside of all folders. -/
theorem Builder.trailed_plan {b : Builder} {c : Configuration} {o : Origin} {x : MediaItem}
    {plan : Plan} (hplan : b.plan c o x = .ok plan) : plan.Trailed := by
  apply Builder.plan_induction (motive := Plan.Trailed) Plan.trailed_nil
  · -- Every trail of a builder has the folder of a box in it.
    intro s _
    simp [Plan.audio]
  · intro s _
    simp [Plan.structured]
  · intro s f _
    simp [Plan.visual]
  · intro s f _
    simp [Plan.visual]
  · intro s _
    simp [Plan.detailedImage, Plan.TopicBoxes.trail]
  · intro s _
    simp [Plan.detailedVideo, Plan.TopicBoxes.trail]
  · intro s _
    simp [Plan.online]
  · simp [Configuration.directoryPlan]
  · exact hplan

/-! ## Sketches -/

/-- What an outline shows of a placement: the titles down to the item, its position, its title. -/
def Placement.sketch (p : Placement) : List String × Option Nat × String :=
  (p.trail.titles, p.item.playlistOrder, p.item.title)

/-- The sketches of the placements of a plan. -/
def Plan.sketches (plan : Plan) : List (List String × Option Nat × String) :=
  plan.map Placement.sketch

@[simp] theorem Plan.sketches_nil : Plan.sketches [] = [] := rfl

@[simp] theorem Plan.sketches_cons (p : Placement) (plan : Plan) :
    Plan.sketches (p :: plan) = p.sketch :: plan.sketches := rfl

@[simp] theorem Plan.sketches_map {α : Type} (f : α → Placement) (as : List α) :
    Plan.sketches (as.map f) = as.map fun a => (f a).sketch :=
  List.map_map

@[simp] theorem Plan.sketches_append (plan rest : Plan) :
    Plan.sketches (plan ++ rest) = plan.sketches ++ rest.sketches :=
  List.map_append

@[simp] theorem Plan.sketches_when (condition : Bool) (plan : Plan) :
    (Plan.when condition plan).sketches = if condition then plan.sketches else [] := by
  cases condition <;> rfl

/-- An item under another id. -/
def MediaItem.withId (x : MediaItem) (id : Option NodeId) : MediaItem :=
  { x with id := id }

section

variable (c : Configuration) (o : Origin) (x : MediaItem) (id : Option NodeId)

@[simp] theorem genres_withId : c.genres (x.withId id) = c.genres x := rfl

@[simp] theorem directories_withId : c.directories o (x.withId id) = c.directories o x := rfl

@[simp] theorem ofItem_withId (names : List String) :
    AudioFacets.ofItem (x.withId id) names = AudioFacets.ofItem x names := rfl

@[simp] theorem imageFacets_withId (placeholder : String) :
    c.imageFacets o (x.withId id) placeholder = c.imageFacets o x placeholder := rfl

@[simp] theorem videoFacets_withId (placeholder : String) :
    c.videoFacets o (x.withId id) placeholder = c.videoFacets o x placeholder := rfl

/-- The standard audio plan sketches the same folders and titles, with or without an id. -/
theorem sketches_audio (s : BoxSelection Plan.audioKeys) :
    (Plan.audio c s o (x.withId id)).sketches = (Plan.audio c s o x).sketches := by
  simp only [Plan.audio, genres_withId, directories_withId, ofItem_withId, Plan.sketches_append,
    Plan.sketches_when, Plan.sketches_cons, Plan.sketches_nil, Plan.sketches_map, Placement.sketch,
    Trail.titles_throughDirectories]
  rfl

/-- So does the structured audio plan. -/
theorem sketches_structured (s : BoxSelection Plan.structuredKeys) :
    (Plan.structured c s (x.withId id)).sketches = (Plan.structured c s x).sketches := by
  simp only [Plan.structured, genres_withId, ofItem_withId, Plan.sketches_append,
    Plan.sketches_when, Plan.sketches_cons, Plan.sketches_nil, Placement.sketch]
  rfl

/-- So do the standard plans of images and videos. -/
theorem sketches_visual (b : Plan.VisualBoxes) (f : VisualFacets) :
    (Plan.visual c b o (x.withId id) f).sketches = (Plan.visual c b o x f).sketches := by
  simp only [Plan.visual, Plan.sketches_append, Plan.sketches_when, Plan.sketches_cons,
    Plan.sketches_nil, Placement.sketch, Trail.titles_throughDirectories]
  rfl

/-- So does the detailed image plan, with its topics and models. -/
theorem sketches_detailedImage (s : BoxSelection Plan.detailedImageKeys) :
    (Plan.detailedImage c s o (x.withId id)).sketches = (Plan.detailedImage c s o x).sketches := by
  simp only [Plan.detailedImage, imageFacets_withId, Plan.sketches_append, Plan.sketches_when,
    Plan.sketches_cons, Plan.sketches_nil, Plan.sketches_map, Placement.sketch,
    Trail.titles_throughDirectories]
  rfl

/-- So does the detailed video plan. -/
theorem sketches_detailedVideo (s : BoxSelection Plan.detailedVideoKeys) :
    (Plan.detailedVideo c s o (x.withId id)).sketches = (Plan.detailedVideo c s o x).sketches := by
  simp only [Plan.detailedVideo, videoFacets_withId, Plan.sketches_append, Plan.sketches_when,
    Plan.sketches_cons, Plan.sketches_nil, Placement.sketch, Trail.titles_throughDirectories]
  rfl

/-- So does the plan of online items. -/
theorem sketches_online (s : BoxSelection Plan.onlineKeys) :
    (Plan.online s (x.withId id)).sketches = (Plan.online s x).sketches := by
  simp only [Plan.online, Plan.sketches_append, Plan.sketches_when, Plan.sketches_cons,
    Plan.sketches_nil, Plan.sketches_map, Placement.sketch]
  rfl

/-- So does the plan by directories alone. -/
theorem sketches_directories :
    (c.directoryPlan o (x.withId id)).sketches = (c.directoryPlan o x).sketches := by
  simp only [Configuration.directoryPlan, Plan.sketches_when, Plan.sketches_cons,
    Plan.sketches_nil, Placement.sketch, Trail.titles_throughDirectories]
  rfl

end

/-- The sketches of a plan, where there is a plan. -/
def sketches? (plan : Except ConfigError Plan) :
    Except ConfigError (List (List String × Option Nat × String)) :=
  plan.map Plan.sketches

/-- What a builder makes of an item looks the same whatever the id of the item. -/
theorem Builder.sketch_plan (b : Builder) (c : Configuration) (o : Origin) (x : MediaItem)
    (id : Option NodeId) : sketches? (b.plan c o (x.withId id)) = sketches? (b.plan c o x) := by
  -- Boxes are selected without a look at the item, and then both plans have the same sketches.
  cases b with
  | audio =>
    simp only [Builder.plan, Configuration.audioPlan]
    cases c.boxes.select Plan.audioKeys with
    | error e => rfl
    | ok s => exact congrArg Except.ok (sketches_audio c o x id s)
  | structuredAudio =>
    simp only [Builder.plan, Configuration.structuredPlan]
    cases c.boxes.select Plan.structuredKeys with
    | error e => rfl
    | ok s => exact congrArg Except.ok (sketches_structured c x id s)
  | image =>
    simp only [Builder.plan, Configuration.imagePlan, imageFacets_withId]
    cases c.boxes.select Plan.imageKeys with
    | error e => rfl
    | ok s => exact congrArg Except.ok (sketches_visual c o x id _ _)
  | detailedImage =>
    have hmimetype : (x.withId id).mimetype = x.mimetype := rfl
    simp only [Builder.plan, Configuration.detailedImagePlan, hmimetype]
    split
    · rfl
    · cases c.boxes.select Plan.detailedImageKeys with
      | error e => rfl
      | ok s => exact congrArg Except.ok (sketches_detailedImage c o x id s)
  | video =>
    simp only [Builder.plan, Configuration.videoPlan, videoFacets_withId]
    cases c.boxes.select Plan.videoKeys with
    | error e => rfl
    | ok s => exact congrArg Except.ok (sketches_visual c o x id _ _)
  | detailedVideo =>
    simp only [Builder.plan, Configuration.detailedVideoPlan]
    cases c.boxes.select Plan.detailedVideoKeys with
    | error e => rfl
    | ok s => exact congrArg Except.ok (sketches_detailedVideo c o x id s)
  | online =>
    simp only [Builder.plan, Configuration.onlinePlan]
    cases c.boxes.select Plan.onlineKeys with
    | error e => rfl
    | ok s => exact congrArg Except.ok (sketches_online x id s)
  | directories => exact congrArg Except.ok (sketches_directories c o x id)

/-- What becomes of an item looks the same whatever the id of the item. -/
theorem Configuration.sketch_plan (c : Configuration) (o : Origin) (x : MediaItem)
    (id : Option NodeId) : sketches? (c.plan o (x.withId id)) = sketches? (c.plan o x) := by
  -- The builder is chosen by the options, the mimetype and the form, not by the id.
  have hbuilder : c.builder? (x.withId id) = c.builder? x := rfl
  rw [c.plan_eq, c.plan_eq, hbuilder]
  cases c.builder? x with
  | none => rfl
  | some b => exact b.sketch_plan c o x id

/-- A plan is made for one item only. -/
theorem Configuration.ofItem_plan {c : Configuration} {o : Origin} {x : MediaItem} {plan : Plan}
    (hplan : c.plan o x = .ok plan) : plan.OfItem x := by
  rw [c.plan_eq] at hplan
  cases hbuilder : c.builder? x with
  | none =>
    rw [hbuilder] at hplan
    cases hplan
    exact Plan.ofItem_nil
  | some b =>
    rw [hbuilder] at hplan
    exact Builder.ofItem_plan hplan

end MediaShelves
