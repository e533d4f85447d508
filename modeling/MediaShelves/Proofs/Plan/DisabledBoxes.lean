import MediaShelves.Proofs.Plan.Boxes

/-!
# Disabled boxes

Whether a box is used is asked axis by axis.  Where it is asked, a disabled box might say anything:
no plan depends on its title, its class, its id or on anything else.  Five boxes are never asked about
(`BoxKey.unasked`), and they are used even if they are disabled.

Main statement: apart from these, disabled boxes do not show (`disabled_boxes_do_not_show`).
-/

namespace MediaShelves

/-- The boxes that are used without a question whether they are enabled. -/
def BoxKey.unasked : List String :=
  [BoxKey.trailerRoot, BoxKey.trailerService, BoxKey.trailerAll, BoxKey.playlistRoot,
    BoxKey.topicExtra]

/-- The boxes that make no folder, but whose titles stand for what is unknown. -/
def BoxKey.placeholders : List String :=
  [BoxKey.imageUnknown, BoxKey.videoUnknown]

theorem BoxKey.mem_unasked {key : String} :
    key ∈ unasked ↔ key = trailerRoot ∨ key = trailerService ∨ key = trailerAll ∨
      key = playlistRoot ∨ key = topicExtra := by
  simp [unasked]

theorem BoxKey.mem_placeholders {key : String} :
    key ∈ placeholders ↔ key = imageUnknown ∨ key = videoUnknown := by
  simp [placeholders]

theorem Box.mem_alwaysEnabled {key : String} :
    key ∈ alwaysEnabled ↔ key = BoxKey.audioRoot ∨ key = BoxKey.audioAll ∨ key = BoxKey.imageRoot ∨
      key = BoxKey.imageAll ∨ key = BoxKey.videoRoot ∨ key = BoxKey.videoAll := by
  simp [alwaysEnabled]

/-! ## Tables that differ in disabled boxes -/

/-- Two boxes for a key are the same, or both are disabled and about this key is asked. -/
def Box.AlikeAt (key : String) (b b' : Box) : Prop :=
  b = b' ∨ b.enabled = false ∧ b'.enabled = false ∧ key ∉ BoxKey.unasked ∧
    (key ∈ BoxKey.placeholders → b.title = b'.title)

/-- Two tables have the same keys and differ in disabled boxes only. -/
def BoxTable.Alike (t t' : BoxTable) : Prop :=
  ∀ key, Option.Rel (Box.AlikeAt key) (t.find? key) (t'.find? key)

/-- Tables are alike if under one key they get boxes that are alike. -/
theorem BoxTable.alike_insert (t : BoxTable) {b b' : Box} (hkey : b'.key = b.key)
    (h : Box.AlikeAt b.key b.normalized b'.normalized) : (t.insert b).Alike (t.insert b') := by
  intro key
  rw [find?_insert, find?_insert, hkey]
  split
  · rename_i heq
    rw [heq]
    exact .some h
  · cases t.find? key with
    | none => exact .none
    | some b => exact .some (.inl rfl)

/-- Boxes that are selected from two such tables. -/
structure BoxSelection.Alike {keys : List String} (s s' : BoxSelection keys) : Prop where
  alike : s.table.Alike s'.table
  rooted : s.table.Rooted
  rooted' : s'.table.Rooted

namespace BoxSelection.Alike

variable {keys : List String} {s s' : BoxSelection keys} (h : s.Alike s') (key : String)
  (hkey : key ∈ keys)

include h

theorem box : Box.AlikeAt key (s.box key hkey) (s'.box key hkey) := by
  have hfind : s.table.find? key = some (s.box key hkey) := (Option.some_get _).symm
  have hfind' : s'.table.find? key = some (s'.box key hkey) := (Option.some_get _).symm
  have hrel := h.alike key
  rw [hfind, hfind'] at hrel
  cases hrel
  assumption

theorem enabled_eq : (s.box key hkey).enabled = (s'.box key hkey).enabled := by
  obtain heq | ⟨hoff, hoff', -⟩ := h.box key hkey
  · rw [heq]
  · rw [hoff, hoff']

/-- A box that is enabled is the same in both. -/
theorem box_eq (hon : (s'.box key hkey).enabled = true) : s.box key hkey = s'.box key hkey := by
  obtain heq | ⟨-, hoff, -⟩ := h.box key hkey
  · exact heq
  · rw [hoff] at hon
    cases hon

/-- A root box is the same in both, since it is enabled. -/
theorem box_eq_of_root (hroot : key ∈ Box.alwaysEnabled) : s.box key hkey = s'.box key hkey :=
  h.box_eq key hkey (h.rooted' key hroot _ (Option.some_get _).symm)

/-- A box that nobody asks about is the same in both. -/
theorem box_eq_of_unasked (hunasked : key ∈ BoxKey.unasked) :
    s.box key hkey = s'.box key hkey := by
  obtain heq | ⟨-, -, hasked, -⟩ := h.box key hkey
  · exact heq
  · exact absurd hunasked hasked

/-- A box that gives a placeholder its title is looked at even where it is disabled. -/
theorem title_eq_of_placeholder (hplaceholder : key ∈ BoxKey.placeholders) :
    (s.box key hkey).title = (s'.box key hkey).title := by
  obtain heq | ⟨-, -, -, htitle⟩ := h.box key hkey
  · rw [heq]
  · exact htitle hplaceholder

end BoxSelection.Alike

/-! ## Plans over selected boxes -/

theorem append_congr {α : Type} {as as' bs bs' : List α} (has : as = as') (hbs : bs = bs') :
    as ++ bs = as' ++ bs' := by
  rw [has, hbs]

/-- A plan under a condition matters only if the condition holds. -/
theorem Plan.when_eq_when {condition : Bool} {plan plan' : Plan} :
    Plan.when condition plan = Plan.when condition plan' ↔ (condition = true → plan = plan') := by
  cases condition <;> simp [Plan.when]

section

variable (c : Configuration) (o : Origin) (x : MediaItem)

/- In each of the following plans the boxes that are never asked about are the same in both, and every
other axis asks for the boxes that it uses. -/

/-- Boxes that are alike give the same audio plan. -/
theorem audio_of_alike {s s' : BoxSelection Plan.audioKeys} (h : s.Alike s') :
    Plan.audio c s o x = Plan.audio c s' o x := by
  simp only [Plan.audio, BoxSelection.folder, BoxSelection.enabled, h.enabled_eq, h.box_eq_of_root,
    Box.mem_alwaysEnabled, true_or, or_true]
  repeat' apply append_congr
  · rfl
  all_goals simp +contextual only [Plan.when_eq_when, Bool.and_eq_true, h.box_eq, implies_true]

theorem structured_of_alike {s s' : BoxSelection Plan.structuredKeys} (h : s.Alike s') :
    Plan.structured c s x = Plan.structured c s' x := by
  simp only [Plan.structured, h.enabled_eq]
  repeat' apply append_congr
  all_goals simp +contextual only [Plan.when_eq_when, h.box_eq, implies_true]

theorem image_of_alike {s s' : BoxSelection Plan.imageKeys} (h : s.Alike s') (f : VisualFacets) :
    Plan.visual c (Plan.imageBoxes s) o x f = Plan.visual c (Plan.imageBoxes s') o x f := by
  simp only [Plan.visual, Plan.imageBoxes, h.enabled_eq, h.box_eq_of_root, Box.mem_alwaysEnabled,
    true_or, or_true]
  repeat' apply append_congr
  · rfl
  all_goals simp +contextual only [Plan.when_eq_when, Bool.and_eq_true, h.box_eq, implies_true]

theorem video_of_alike {s s' : BoxSelection Plan.videoKeys} (h : s.Alike s') (f : VisualFacets) :
    Plan.visual c (Plan.videoBoxes s) o x f = Plan.visual c (Plan.videoBoxes s') o x f := by
  simp only [Plan.visual, Plan.videoBoxes, h.enabled_eq, h.box_eq_of_root, Box.mem_alwaysEnabled,
    true_or, or_true]
  repeat' apply append_congr
  · rfl
  all_goals simp +contextual only [Plan.when_eq_when, Bool.and_eq_true, h.box_eq, implies_true]

theorem detailedImage_of_alike {s s' : BoxSelection Plan.detailedImageKeys} (h : s.Alike s') :
    Plan.detailedImage c s o x = Plan.detailedImage c s' o x := by
  simp only [Plan.detailedImage, BoxSelection.folder, BoxSelection.enabled,
    Plan.TopicBoxes.enabled, h.enabled_eq, h.box_eq_of_root, h.box_eq_of_unasked,
    h.title_eq_of_placeholder, Box.mem_alwaysEnabled, BoxKey.mem_unasked,
    BoxKey.mem_placeholders, true_or, or_true]
  repeat' apply append_congr
  · rfl
  all_goals simp +contextual only [Plan.when_eq_when, Bool.and_eq_true, h.box_eq, implies_true]

theorem detailedVideo_of_alike {s s' : BoxSelection Plan.detailedVideoKeys} (h : s.Alike s') :
    Plan.detailedVideo c s o x = Plan.detailedVideo c s' o x := by
  simp only [Plan.detailedVideo, BoxSelection.folder, BoxSelection.enabled,
    Plan.TopicBoxes.enabled, h.enabled_eq, h.box_eq_of_root, h.box_eq_of_unasked,
    h.title_eq_of_placeholder, Box.mem_alwaysEnabled, BoxKey.mem_unasked,
    BoxKey.mem_placeholders, true_or, or_true]
  repeat' apply append_congr
  · rfl
  all_goals simp +contextual only [Plan.when_eq_when, Bool.and_eq_true, h.box_eq, implies_true]

theorem online_of_alike {s s' : BoxSelection Plan.onlineKeys} (h : s.Alike s') :
    Plan.online s x = Plan.online s' x := by
  simp only [Plan.online, BoxSelection.folder, BoxSelection.enabled, h.enabled_eq,
    h.box_eq_of_unasked, BoxKey.mem_unasked, true_or, or_true]
  repeat' apply append_congr
  · rfl
  all_goals simp +contextual only [Plan.when_eq_when, h.box_eq, implies_true]

end

theorem Playlist.trails_of_alike {s s' : BoxSelection boxKeys} (h : s.Alike s') (x : MediaItem) :
    trails s x = trails s' x := by
  simp only [trails, BoxSelection.folder, BoxSelection.enabled, h.enabled_eq, h.box_eq_of_unasked,
    BoxKey.mem_unasked, true_or, or_true]
  apply append_congr
  · refine ite_congr rfl (fun hon => ?_) fun _ => rfl
    rw [h.box_eq _ _ hon]
  · refine ite_congr rfl (fun hon => ?_) fun _ => rfl
    rw [h.box_eq _ _ (Bool.and_eq_true_iff.1 hon).1]

/-! ## Plans over tables -/

section

variable {t t' : BoxTable} (h : t.Alike t') (hr : t.Rooted) (hr' : t'.Rooted)

include h hr hr'

/-- Two such tables fail to select some boxes alike, or select boxes that are alike. -/
theorem BoxTable.Alike.select_cases (keys : List String) :
    (∃ e, t.select keys = .error e ∧ t'.select keys = .error e) ∨
      ∃ s s', t.select keys = .ok s ∧ t'.select keys = .ok s' ∧ s.Alike s' := by
  have hmissing : t'.missing? keys = t.missing? keys := by
    have hnone (key : String) : (t'.find? key).isNone = (t.find? key).isNone := by
      have hrel := h key
      revert hrel
      cases t.find? key <;> cases t'.find? key <;> intro hrel <;> cases hrel <;> rfl
    simp only [missing?, hnone]
  -- Both tables lack the same boxes, so both selections fail at the same key or neither does.
  obtain ⟨key, hkey, herror⟩ | ⟨hnone, -⟩ := t.select_cases keys
  · obtain ⟨key', hkey', herror'⟩ | ⟨hnone, -⟩ := t'.select_cases keys
    · rw [hmissing, hkey] at hkey'
      cases hkey'
      exact .inl ⟨_, herror, herror'⟩
    · rw [hmissing, hkey] at hnone
      cases hnone
  · have hdefined := missing?_eq_none_iff.1 hnone
    have hdefined' := missing?_eq_none_iff.1 (hmissing.trans hnone)
    exact .inr ⟨_, _, select_eq hdefined, select_eq hdefined', h, hr, hr'⟩

/-- What is made of boxes that are selected from two such tables is the same, if it only depends on
what alike selections have in common. -/
theorem BoxTable.Alike.bind_eq {α : Type} {keys : List String} {f f' : BoxSelection keys → α}
    (hf : ∀ s s', s.Alike s' → f s = f' s') :
    (t.select keys >>= fun s => pure (f s) : Except ConfigError α) =
      t'.select keys >>= fun s => pure (f' s) := by
  obtain ⟨e, he, he'⟩ | ⟨s, s', hs, hs', halike⟩ := h.select_cases hr hr' keys
  · rw [he, he']
    rfl
  · rw [hs, hs']
    exact congrArg Except.ok (hf s s' halike)

end

section

variable {conf : Configuration} {t : BoxTable} (h : conf.boxes.Alike t) (hr : conf.boxes.Rooted)
  (hr' : t.Rooted)

include h hr hr'

/-- A builder makes the same plan of two such tables. -/
theorem Builder.plan_of_alike (b : Builder) (o : Origin) (x : MediaItem) :
    b.plan conf o x = b.plan { conf with boxes := t } o x := by
  cases b with
  | audio => exact h.bind_eq hr hr' fun s s' hs => audio_of_alike conf o x hs
  | structuredAudio => exact h.bind_eq hr hr' fun s s' hs => structured_of_alike conf x hs
  | image =>
    refine h.bind_eq hr hr' fun s s' hs => ?_
    simp only [BoxSelection.folder, Box.folder, Folder.plain, hs.title_eq_of_placeholder,
      BoxKey.mem_placeholders, true_or]
    exact image_of_alike conf o x hs _
  | detailedImage =>
    -- Whether an image is left out has nothing to do with boxes.
    have hraw : ({ conf with boxes := t } : Configuration).isRawImage x.mimetype =
      conf.isRawImage x.mimetype := rfl
    simp only [Builder.plan, Configuration.detailedImagePlan, hraw]
    cases conf.isRawImage x.mimetype with
    | true => rfl
    | false => exact h.bind_eq hr hr' fun s s' hs => detailedImage_of_alike conf o x hs
  | video =>
    refine h.bind_eq hr hr' fun s s' hs => ?_
    simp only [BoxSelection.folder, Box.folder, Folder.plain, hs.title_eq_of_placeholder,
      BoxKey.mem_placeholders, or_true]
    exact video_of_alike conf o x hs _
  | detailedVideo => exact h.bind_eq hr hr' fun s s' hs => detailedVideo_of_alike conf o x hs
  | online => exact h.bind_eq hr hr' fun s s' hs => online_of_alike x hs
  | directories => rfl

/-- A playlist is shelved in the same way with two such tables. -/
theorem Playlist.shelve_of_alike {σ : Type} [Shelves σ] (x : MediaItem) (content : String) (s : σ) :
    shelve conf x content s = shelve { conf with boxes := t } x content s := by
  unfold shelve
  cases Format.ofMimetype? x.mimetype with
  | none => rfl
  | some f =>
    obtain ⟨e, he, he'⟩ | ⟨b, b', hb, hb', hs⟩ := h.select_cases hr hr' boxKeys
    · simp only [he, he']
    · simp only [hb, hb', trails_of_alike hs x]

/-- An import does the same with two such tables. -/
theorem Configuration.importItem_of_alike {σ : Type} [Shelves σ] (read : String → Option String)
    (o : Origin) (x : MediaItem) (s : σ) :
    conf.importItem read o x s = { conf with boxes := t }.importItem read o x s := by
  have hplan : conf.plan o x = { conf with boxes := t }.plan o x := by
    -- Which builder it is has nothing to do with boxes.
    have hbuilder : { conf with boxes := t }.builder? x = conf.builder? x := rfl
    rw [plan_eq, plan_eq, hbuilder]
    cases conf.builder? x with
    | none => rfl
    | some b => exact b.plan_of_alike h hr hr' o x
  unfold importItem
  split
  · cases read x.location with
    | none => rfl
    | some content => exact Playlist.shelve_of_alike h hr hr' x content s
  · rw [hplan]

end

/-! ## The statement -/

/-- The online plan goes to the folder of everything, whatever is disabled. -/
theorem exists_online_trail {conf : Configuration} {o : Origin} {x : MediaItem} {plan : Plan}
    (hplan : Builder.online.plan conf o x = .ok plan) :
    ∃ root service all : Box, conf.boxes.find? BoxKey.trailerRoot = some root ∧
      conf.boxes.find? BoxKey.trailerService = some service ∧
      conf.boxes.find? BoxKey.trailerAll = some all ∧
      ∃ p ∈ plan, p.trail = [root.folder, service.folder, all.folder] := by
  obtain ⟨s, hs, hok⟩ := bind_eq_ok hplan
  cases hok
  rw [← BoxTable.table_of_select hs]
  refine ⟨s.box BoxKey.trailerRoot, s.box BoxKey.trailerService, s.box BoxKey.trailerAll,
    (Option.some_get _).symm, (Option.some_get _).symm, (Option.some_get _).symm, ?_⟩
  refine ⟨⟨{ x.reference with sortKey := "" }, _, none⟩, ?_, rfl⟩
  simp [Plan.online, BoxSelection.folder]

/-- A box that is disabled. -/
def Box.disabled (key title : String) : Box :=
  { Box.plain key title UpnpClass.container with enabled := false }

/--
**Disabled boxes do not show, apart from those that nobody asks about.**  Let two tables that can be
made have the same keys and differ in disabled boxes only, which are none of the five in
`BoxKey.unasked`, and keep the titles that stand for what is unknown.  Then every builder makes the
same plans with both, and every import does the same on any shelves.  But the online plan uses its
first three boxes even if they are disabled.
-/
theorem disabled_boxes_do_not_show (conf : Configuration) (t : BoxTable)
    (hmade : conf.boxes.Made) (hmade' : t.Made) (halike : conf.boxes.Alike t) (o : Origin)
    (x : MediaItem) :
    (∀ b : Builder, b.plan conf o x = b.plan { conf with boxes := t } o x) ∧
      (∀ (σ : Type) [Shelves σ] (s : σ),
        (∀ content : String, Playlist.shelve conf x content s =
          Playlist.shelve { conf with boxes := t } x content s) ∧
        ∀ read : String → Option String,
          conf.importItem read o x s = { conf with boxes := t }.importItem read o x s) ∧
      ∀ plan, Builder.online.plan conf o x = .ok plan →
        ∃ root service all : Box, conf.boxes.find? BoxKey.trailerRoot = some root ∧
          conf.boxes.find? BoxKey.trailerService = some service ∧
          conf.boxes.find? BoxKey.trailerAll = some all ∧
          ∃ p ∈ plan, p.trail = [root.folder, service.folder, all.folder] := by
  have hr := hmade.rooted
  have hr' := hmade'.rooted
  -- Plans look at boxes only through what alike tables agree on.
  refine ⟨fun b => b.plan_of_alike halike hr hr' o x, ?_, fun plan hplan =>
    exists_online_trail hplan⟩
  intro σ _ s
  exact ⟨fun content => Playlist.shelve_of_alike halike hr hr' x content s,
    fun read => Configuration.importItem_of_alike halike hr hr' read o x s⟩

/-- A song goes the same ways whatever the title of the disabled box of albums. -/
theorem disabled_boxes_do_not_show_albums :
    ∃ (conf : Configuration) (t : BoxTable) (x : MediaItem),
      conf.boxes = BoxTable.builtin.insert (Box.disabled BoxKey.audioAlbums "Albums") ∧
      t = BoxTable.builtin.insert (Box.disabled BoxKey.audioAlbums "Records") ∧
      x = MediaItem.ofLocation "/music/a.mp3" "audio/mpeg" ∧ conf.boxes.Alike t ∧
      Builder.audio.plan conf (Origin.ofRoot "/music") x =
        Builder.audio.plan { conf with boxes := t } (Origin.ofRoot "/music") x := by
  obtain ⟨conf, hconf⟩ := Configuration.exists_ofBoxes
    (BoxTable.builtin.insert (Box.disabled BoxKey.audioAlbums "Albums"))
  let t := BoxTable.builtin.insert (Box.disabled BoxKey.audioAlbums "Records")
  let x := MediaItem.ofLocation "/music/a.mp3" "audio/mpeg"
  -- The box of albums is none of those that nobody asks about.
  have halbums : Box.AlikeAt BoxKey.audioAlbums
      (Box.disabled BoxKey.audioAlbums "Albums").normalized
      (Box.disabled BoxKey.audioAlbums "Records").normalized :=
    .inr ⟨by decide, by decide, by decide, fun hplaceholder => absurd hplaceholder (by decide)⟩
  have halike : conf.boxes.Alike t :=
    hconf ▸ BoxTable.alike_insert BoxTable.builtin rfl halbums
  have hmade : conf.boxes.Made := hconf ▸ .insert _ .builtin
  exact ⟨conf, t, x, hconf, rfl, rfl, halike,
    (disabled_boxes_do_not_show conf t hmade (.insert _ .builtin) halike
      (Origin.ofRoot "/music") x).1 .audio⟩

/-- An online item goes to the folder of all trailers although the box of that folder is disabled. -/
theorem disabled_box_of_trailers_is_used :
    ∃ (conf : Configuration) (x : MediaItem) (b : Box) (plan : Plan),
      conf.boxes = BoxTable.builtin.insert (Box.disabled BoxKey.trailerAll "All Trailers") ∧
      x = { MediaItem.ofLocation "http://example.org/a.mov" "video/quicktime" with
        form := .externalUrl } ∧
      conf.boxes.find? BoxKey.trailerAll = some b ∧ b.enabled = false ∧
      Builder.online.plan conf (Origin.ofRoot "") x = .ok plan ∧ ∃ p ∈ plan, b.folder ∈ p.trail := by
  obtain ⟨conf, hconf⟩ := Configuration.exists_ofBoxes
    (BoxTable.builtin.insert (Box.disabled BoxKey.trailerAll "All Trailers"))
  let x := { MediaItem.ofLocation "http://example.org/a.mov" "video/quicktime" with
    form := .externalUrl }
  have hboxes : conf.boxes.Complete := hconf ▸ BoxTable.complete_builtin.insert _
  obtain ⟨plan, hplan⟩ := Builder.online.exists_plan_ok hboxes (Origin.ofRoot "") x
  obtain ⟨root, service, all, -, -, hall, p, hp, htrail⟩ := exists_online_trail hplan
  have hbox : conf.boxes.find? BoxKey.trailerAll =
      some (Box.disabled BoxKey.trailerAll "All Trailers").normalized := by
    rw [hconf]
    exact (BoxTable.find?_insert ..).trans (if_pos rfl)
  -- The box that the plan takes its folder from is the disabled one.
  rw [hbox] at hall
  cases hall
  refine ⟨conf, x, _, plan, hconf, rfl, hbox, by decide, hplan, p, hp, ?_⟩
  rw [htrail]
  simp

end MediaShelves
