import MediaShelves.Proofs.Catalog.Additions
import MediaShelves.Proofs.Plan.Boxes
import MediaShelves.Proofs.Playlist.Numbering
import MediaShelves.Scan

/-!
# The ids that imports give

Every import that succeeds gives the ids of what it added, and touches nothing else: no item, no
registered file, and no place of a folder.  So a scan has counted what lies in the catalog.

Main statement: `returned_ids_are_additions`.
-/

namespace MediaShelves

open Catalog

/-! ## The plan of an import -/

/-- The plan that an import carries out on a catalog. -/
def Configuration.importPlan (conf : Configuration) (read : String → Option String) (o : Origin)
    (x : MediaItem) (c : Catalog) : Except ConfigError Plan :=
  if (Playlist.Format.ofMimetype? x.mimetype).isSome then
    match read x.location with
    | some content => Playlist.plan (Shelves.canonical? c) conf x content
    | none => .ok []
  else conf.plan o x

section

variable {c : Catalog} (h : c.Consistent)

include h

theorem Catalog.Consistent.importItem_eq (conf : Configuration) (read : String → Option String)
    (o : Origin) (x : MediaItem) :
    conf.importItem read o x c = carryOutPlan (conf.importPlan read o x c) c := by
  unfold Configuration.importItem Configuration.importPlan
  split
  · cases read x.location with
    | none => rfl
    | some content => exact h.shelve_eq conf x content
  · rfl

/-- An import that succeeds has carried out its plan. -/
theorem Catalog.Consistent.exists_importPlan_ok {conf : Configuration}
    {read : String → Option String} {o : Origin} {x : MediaItem} {ids : List NodeId} {c' : Catalog}
    (hok : conf.importItem read o x c = (.ok ids, c')) :
    ∃ plan, conf.importPlan read o x c = .ok plan ∧ plan.carryOut c = (ids, c') := by
  rw [h.importItem_eq] at hok
  cases hplan : conf.importPlan read o x c with
  | error e =>
    rw [hplan] at hok
    cases hok
  | ok plan =>
    rw [hplan] at hok
    cases hok
    exact ⟨plan, rfl, rfl⟩

/-! ## Imports -/

/-- A plan that is carried out adds the items whose ids it gives. -/
theorem Catalog.Consistent.adds_carryOutPlan {plan : Except ConfigError Plan} {ids : List NodeId}
    (hok : (carryOutPlan plan c).1 = .ok ids) : c.Adds ids (carryOutPlan plan c).2 := by
  cases plan with
  | error e => cases hok
  | ok plan =>
    cases hok
    exact h.adds_plan plan

/-- Every import of a playlist carries out a plan. -/
theorem Catalog.Consistent.exists_importPlaylist_eq (conf : Configuration)
    (content : Option String) (x : MediaItem) :
    ∃ plan, conf.importPlaylist content x c = carryOutPlan plan c := by
  cases content with
  | none => exact ⟨.ok [], rfl⟩
  | some content => exact ⟨_, h.shelve_eq conf x content⟩

theorem Catalog.Consistent.adds_importItem {conf : Configuration} {read : String → Option String}
    {o : Origin} {x : MediaItem} {ids : List NodeId} {c' : Catalog}
    (hok : conf.importItem read o x c = (.ok ids, c')) : c'.Consistent ∧ c.Adds ids c' := by
  obtain ⟨plan, -, hcarry⟩ := h.exists_importPlan_ok hok
  have hconsistent := h.plan plan
  have hadds := h.adds_plan plan
  rw [hcarry] at hconsistent hadds
  exact ⟨hconsistent, hadds⟩

/-- A sidecar changes what is told about an item, and not where anything lies. -/
theorem Catalog.Consistent.sidecar (content : String) (x : MediaItem) :
    (Sidecar.revise content x c).2.Consistent ∧
      (Sidecar.revise content x c).2.itemCount = c.itemCount := by
  unfold Sidecar.revise
  split
  · exact ⟨h.revise _, itemCount_revise c _⟩
  · exact ⟨h, rfl⟩

end

/-! ## Scans -/

namespace Scan

/-- The catalog when a file is shelved: it is registered, and its sidecar has told about it. -/
def Job.entered (j : Job) (f : ScannedFile) (c : Catalog) : Catalog :=
  match f.sidecar.bind j.text? with
  | some content => (Sidecar.revise content (c.register f.item).1 (c.register f.item).2).2
  | none => (c.register f.item).2

/-- What is shelved for a file: its item as the catalog has it by then. -/
def Job.enteredItem (j : Job) (f : ScannedFile) (c : Catalog) : MediaItem :=
  (Shelves.canonical? (j.entered f c) f.item.location).getD (c.register f.item).1

theorem Job.enteredItem_eq {j : Job} {f : ScannedFile} {c : Catalog} {r : StoredItem}
    (hr : (j.entered f c).file? f.item.location = some r) : j.enteredItem f c = r.item := by
  have hcanonical : Shelves.canonical? (j.entered f c) f.item.location = some r.item :=
    congrArg (Option.map _) hr
  rw [Job.enteredItem, hcanonical, Option.getD_some]

/-- Importing a file is shelving its item when it has been entered. -/
theorem Job.exists_importItem_of_importFile {j : Job} {f : ScannedFile} {c c' : Catalog}
    {sum sum' : Summary} (hok : j.importFile f c sum = .ok (c', sum')) :
    ∃ ids metafiles,
      j.configuration.importItem j.text? j.origin (j.enteredItem f c) (j.entered f c) =
        (.ok ids, c') ∧
      sum' = ⟨sum.files + 1, sum.placements + ids.length, metafiles⟩ := by
  simp only [Job.importFile] at hok
  unfold Job.enteredItem Job.entered
  -- With and without a sidecar the import is the last thing that can fail.
  cases hsidecar : f.sidecar.bind j.text? with
  | none =>
    rw [hsidecar] at hok
    split at hok
    · rename_i himport
      cases hok
      exact ⟨_, _, himport, rfl⟩
    · cases hok
  | some content =>
    rw [hsidecar] at hok
    split at hok
    · rename_i himport
      cases hok
      exact ⟨_, _, himport, rfl⟩
    · cases hok

/-- What holds before some files and is kept by each of them holds after all of them. -/
theorem Job.importFiles_induction {j : Job} {P : List ScannedFile → Catalog → Summary → Prop}
    (done : List ScannedFile) {files : List ScannedFile} {c c' : Catalog} {sum sum' : Summary}
    (hok : files.foldlM (fun (c, sum) f => j.importFile f c sum) (c, sum) = .ok (c', sum'))
    (h : P done c sum)
    (hstep : ∀ before f after d d' s s', files = before ++ f :: after → P (done ++ before) d s →
      j.importFile f d s = .ok (d', s') → P (done ++ before ++ [f]) d' s') :
    P (done ++ files) c' sum' := by
  induction files generalizing done c sum with
  | nil =>
    cases hok
    rwa [List.append_nil]
  | cons f files ih =>
    rw [List.foldlM_cons] at hok
    obtain ⟨⟨c₁, sum₁⟩, hfirst, hrest⟩ := bind_eq_ok hok
    have h₁ := hstep [] f files c c₁ sum sum₁ rfl (by rwa [List.append_nil]) hfirst
    rw [List.append_nil] at h₁
    rw [List.append_cons]
    refine ih (done ++ [f]) hrest h₁ ?_
    -- What comes before a later file begins with the first one.
    intro before g after d d' s s' heq hbefore hg
    rw [← List.append_cons] at hbefore ⊢
    exact hstep (f :: before) g after d d' s s' (by rw [heq, List.cons_append]) hbefore hg

/-- After some files the summary tells how many they are and how many items are placed. -/
structure Counted (files : Nat) (c : Catalog) (sum : Summary) : Prop where
  consistent : c.Consistent
  files_eq : sum.files = files
  placements_eq : sum.placements = c.itemCount

theorem counted_empty : Counted 0 Catalog.empty ⟨0, 0, 0⟩ :=
  ⟨consistent_empty, rfl, itemCount_empty.symm⟩

/-- What an import gives is counted, whatever its sidecar has told before. -/
theorem Counted.importItem {files : Nat} {c c' : Catalog} {sum : Summary}
    (h : Counted files c sum) {conf : Configuration} {read : String → Option String} {o : Origin}
    {x : MediaItem} {ids : List NodeId} (hok : conf.importItem read o x c = (.ok ids, c'))
    (metafiles : Nat) :
    Counted (files + 1) c' ⟨sum.files + 1, sum.placements + ids.length, metafiles⟩ := by
  obtain ⟨hc', hadds⟩ := h.consistent.adds_importItem hok
  refine ⟨hc', congrArg (· + 1) h.files_eq, ?_⟩
  rw [hadds.itemCount_eq, h.placements_eq]

/-- One more file is counted with all items that were placed for it. -/
theorem Counted.importFile {files : Nat} {c c' : Catalog} {sum sum' : Summary}
    (h : Counted files c sum) {j : Job} {f : ScannedFile}
    (hok : j.importFile f c sum = .ok (c', sum')) : Counted (files + 1) c' sum' := by
  obtain ⟨ids, metafiles, himport, rfl⟩ := Job.exists_importItem_of_importFile hok
  have hentered : Counted files (j.entered f c) sum := by
    -- Neither registering the file nor its sidecar places anything.
    have hregister := h.consistent.register f.item
    have hsame := h.placements_eq.trans (h.consistent.itemCount_register f.item).symm
    unfold Job.entered
    split
    · rename_i content _
      obtain ⟨hc, hsame'⟩ := hregister.sidecar content (c.register f.item).1
      exact ⟨hc, h.files_eq, hsame.trans hsame'.symm⟩
    · exact ⟨hregister, h.files_eq, hsame⟩
  exact hentered.importItem himport metafiles

theorem Counted.importFiles {files : List ScannedFile} {n : Nat} {c c' : Catalog}
    {sum sum' : Summary} (h : Counted n c sum) {j : Job}
    (hok : files.foldlM (fun (c, sum) f => j.importFile f c sum) (c, sum) = .ok (c', sum')) :
    Counted (n + files.length) c' sum' := by
  refine Job.importFiles_induction
    (P := fun done d s => Counted (n + done.length) d s) [] hok h ?_
  intro before f after d d' s s' _ hbefore hstep
  have hcounted := hbefore.importFile hstep
  simpa [Nat.add_assoc] using hcounted

theorem Job.exists_importFile_ok {j : Job} (h : j.configuration.boxes.Complete) (f : ScannedFile)
    (c : Catalog) (sum : Summary) : ∃ c' sum', j.importFile f c sum = .ok (c', sum') := by
  have hsucceeds (x : MediaItem) (c : Catalog) :=
    Configuration.exists_importItem_ok h j.text? j.origin x c
  simp only [importFile]
  split
  · exact ⟨_, _, rfl⟩
  · rename_i c' herror
    obtain ⟨ids, c'', hok⟩ := hsucceeds _ _
    cases hok.symm.trans herror

/-- With all boxes every scan succeeds. -/
theorem Job.exists_importFiles_ok {j : Job} (h : j.configuration.boxes.Complete)
    (files : List ScannedFile) (c : Catalog) :
    ∃ c' sum, j.importFiles files c = .ok (c', sum) := by
  -- The fold is started anywhere, for the induction is on the files that are left.
  have hfiles (c : Catalog) (sum : Summary) : ∃ c' sum',
      files.foldlM (fun (c, sum) f => j.importFile f c sum) (c, sum) = .ok (c', sum') := by
    induction files generalizing c sum with
    | nil => exact ⟨c, sum, rfl⟩
    | cons f files ih =>
      obtain ⟨c', sum', hfirst⟩ := j.exists_importFile_ok h f c sum
      obtain ⟨c'', sum'', hrest⟩ := ih c' sum'
      refine ⟨c'', sum'', ?_⟩
      simp only [List.foldlM_cons, hfirst]
      exact hrest
  exact hfiles c ⟨0, 0, 0⟩

end Scan

/--
**The ids that an import gives are those of what it added, and nothing else is touched.**  This holds
in every state that requests can lead to, for every builder, for playlists, and for the import that
chooses among them.  So a scan into an empty catalog has counted the files, and as placements all
items that lie in folders.
-/
theorem returned_ids_are_additions (before : List Request) (conf : Configuration) (o : Origin)
    (x : MediaItem) (read : String → Option String) :
    (∀ (b : Builder) (ids : List NodeId), (b.shelve conf o x (run before empty)).1 = .ok ids →
      (run before empty).Adds ids (b.shelve conf o x (run before empty)).2) ∧
      (∀ (content : String) (ids : List NodeId),
        (Playlist.shelve conf x content (run before empty)).1 = .ok ids →
          (run before empty).Adds ids (Playlist.shelve conf x content (run before empty)).2) ∧
      (∀ (content : Option String) (ids : List NodeId),
        (conf.importPlaylist content x (run before empty)).1 = .ok ids →
          (run before empty).Adds ids (conf.importPlaylist content x (run before empty)).2) ∧
      (∀ ids : List NodeId, (conf.importItem read o x (run before empty)).1 = .ok ids →
        (run before empty).Adds ids (conf.importItem read o x (run before empty)).2) ∧
      ∀ (files : List Scan.ScannedFile) (c : Catalog) (sum : Scan.Summary),
        (Scan.Job.mk conf o read).importFiles files empty = .ok (c, sum) →
          sum.placements = c.itemCount ∧ sum.files = files.length := by
  -- All four ways are plans that are carried out, and a scan counts what they give.
  have h := consistent_empty.run before
  refine ⟨fun b ids hok => h.adds_carryOutPlan hok, ?_, ?_, ?_, ?_⟩
  · intro content ids hok
    rw [h.shelve_eq] at hok ⊢
    exact h.adds_carryOutPlan hok
  · intro content ids hok
    obtain ⟨plan, hplan⟩ := h.exists_importPlaylist_eq conf content x
    rw [hplan] at hok ⊢
    exact h.adds_carryOutPlan hok
  · intro ids hok
    exact (h.adds_importItem (Prod.ext hok rfl)).2
  · intro files c sum hok
    have hcounted := Scan.counted_empty.importFiles hok
    exact ⟨hcounted.placements_eq, hcounted.files_eq.trans (Nat.zero_add _)⟩

/-- A song that is imported by the audio builder, by the import that chooses, and by a scan. -/
theorem returned_ids_are_additions_song :
    ∃ (conf : Configuration) (x : MediaItem) (plan : Plan) (ids : List NodeId) (c' c : Catalog)
      (sum : Scan.Summary),
      conf.boxes = BoxTable.builtin ∧ x = MediaItem.ofLocation "/music/a.mp3" "audio/mpeg" ∧
      Builder.audio.plan conf (Origin.ofRoot "/music") x = .ok plan ∧
      (run [.register x] empty).Adds (plan.carryOut (run [.register x] empty)).1
        (plan.carryOut (run [.register x] empty)).2 ∧
      conf.importItem (fun _ => none) (Origin.ofRoot "/music") x (run [.register x] empty) =
        (.ok ids, c') ∧
      (run [.register x] empty).Adds ids c' ∧
      (Scan.Job.mk conf (Origin.ofRoot "/music") fun _ => none).importFiles [⟨x, none⟩] empty =
        .ok (c, sum) ∧
      sum.placements = c.itemCount ∧ sum.files = 1 := by
  obtain ⟨conf, hconf⟩ := Configuration.exists_ofBoxes BoxTable.builtin
  let o := Origin.ofRoot "/music"
  let x := MediaItem.ofLocation "/music/a.mp3" "audio/mpeg"
  have hboxes : conf.boxes.Complete := hconf ▸ BoxTable.complete_builtin
  -- The built-in boxes are all there, so the three imports succeed.
  obtain ⟨plan, hplan⟩ := Builder.audio.exists_plan_ok hboxes o x
  obtain ⟨ids, c', himport⟩ := Configuration.exists_importItem_ok hboxes (fun _ => none) o x
    (run [.register x] empty)
  obtain ⟨c, sum, hscan⟩ := Scan.Job.exists_importFiles_ok (j := ⟨conf, o, fun _ => none⟩)
    hboxes [⟨x, none⟩] empty
  obtain ⟨hbuilder, -, -, hitem, hfiles⟩ :=
    returned_ids_are_additions [.register x] conf o x fun _ => none
  have hadds := hbuilder .audio (plan.carryOut (run [.register x] empty)).1
    (by rw [Builder.shelve, hplan]; rfl)
  rw [Builder.shelve, hplan] at hadds
  have hadds' := hitem ids (by rw [himport])
  rw [himport] at hadds'
  obtain ⟨hplacements, hcount⟩ := hfiles [⟨x, none⟩] c sum hscan
  exact ⟨conf, x, plan, ids, c', c, sum, hconf, rfl, hplan, hadds, himport, hadds', hscan,
    hplacements, hcount⟩

end MediaShelves
