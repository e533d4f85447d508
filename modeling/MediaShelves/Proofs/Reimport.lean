import MediaShelves.Proofs.Plan.Builders
import MediaShelves.Proofs.Playlist.Numbering

/-!
# Importing again

Importing the same item once more with the same builder has no effect, at once or later.

Main statement: `reimport_changes_nothing`.
-/

namespace MediaShelves

open Catalog

variable {c : Catalog}

/-- Carrying out a plan again at once changes nothing, the descriptions of folders included. -/
theorem Catalog.Consistent.carryOutPlan_again (h : c.Consistent) {plan : Except ConfigError Plan}
    {ids : List NodeId} (hok : (carryOutPlan plan c).1 = .ok ids) :
    carryOutPlan plan (carryOutPlan plan c).2 = (.ok [], (carryOutPlan plan c).2) := by
  cases plan with
  | error e => cases hok
  | ok plan =>
    have hrepeat := h.repeat_plan plan
    simp only [carryOutPlan, hrepeat]

/-- Carrying out a plan again later adds no node. -/
theorem Catalog.Consistent.carryOutPlan_later (h : c.Consistent) {plan : Except ConfigError Plan}
    {ids : List NodeId} (hok : (carryOutPlan plan c).1 = .ok ids) (later : List Request) :
    (carryOutPlan plan (Catalog.run later (carryOutPlan plan c).2)).1 = .ok [] ∧
      (Catalog.run later (carryOutPlan plan c).2).SameNodes
        (carryOutPlan plan (Catalog.run later (carryOutPlan plan c).2)).2 := by
  cases plan with
  | error e => cases hok
  | ok plan =>
    obtain ⟨hnil, hnodes⟩ := h.repeat_plan_later plan later
    exact ⟨congrArg Except.ok hnil, hnodes⟩

/-- Shelving a playlist again at once changes nothing. -/
theorem Catalog.Consistent.shelve_again (h : c.Consistent) {conf : Configuration} {x : MediaItem}
    {content : String} {ids : List NodeId} (hok : (Playlist.shelve conf x content c).1 = .ok ids) :
    Playlist.shelve conf x content (Playlist.shelve conf x content c).2 =
      (.ok [], (Playlist.shelve conf x content c).2) := by
  rw [h.shelve_eq] at hok ⊢
  have hagain := h.carryOutPlan_again hok
  cases hplan : Playlist.plan (Shelves.canonical? c) conf x content with
  | error e =>
    rw [hplan] at hok
    cases hok
  | ok plan =>
    rw [hplan] at hagain
    -- The entries are known or not known as before.
    have hknown : Shelves.canonical? (plan.carryOut c).2 = Shelves.canonical? c := by
      funext location
      exact congrArg (Option.map _) (h.file?_plan plan location)
    have hsecond := (h.plan plan).shelve_eq conf x content
    rw [hknown, hplan] at hsecond
    exact hsecond.trans hagain

/--
**Importing again has no effect.**  In every state that requests can lead to: if a builder shelves an
item, then it gives no ids when it does so again, and the catalog is the same in all its tables; if
it does so after any further requests, it gives no ids and adds no node.  A playlist that is shelved
again at once gives no ids and leaves the catalog as it is.
-/
theorem reimport_changes_nothing (before : List Request) (conf : Configuration) (o : Origin)
    (x : MediaItem) :
    (∀ (b : Builder) (ids : List NodeId), (b.shelve conf o x (run before empty)).1 = .ok ids →
      b.shelve conf o x (b.shelve conf o x (run before empty)).2 =
          (.ok [], (b.shelve conf o x (run before empty)).2) ∧
        ∀ later : List Request,
          (b.shelve conf o x (run later (b.shelve conf o x (run before empty)).2)).1 = .ok [] ∧
            (run later (b.shelve conf o x (run before empty)).2).SameNodes
              (b.shelve conf o x (run later (b.shelve conf o x (run before empty)).2)).2) ∧
      ∀ (content : String) (ids : List NodeId),
        (Playlist.shelve conf x content (run before empty)).1 = .ok ids →
          Playlist.shelve conf x content (Playlist.shelve conf x content (run before empty)).2 =
            (.ok [], (Playlist.shelve conf x content (run before empty)).2) := by
  -- Both halves are about what a plan has fulfilled, in any state that requests lead to.
  have h := consistent_empty.run before
  constructor
  · intro b ids hok
    constructor
    · exact h.carryOutPlan_again hok
    · intro later
      exact h.carryOutPlan_later hok later
  · intro content ids hok
    exact h.shelve_again hok

/-- A builder whose boxes are there shelves the item. -/
theorem Builder.exists_shelve_ok {σ : Type} [Shelves σ] {b : Builder} {conf : Configuration}
    {o : Origin} {x : MediaItem} {plan : Plan} (hplan : b.plan conf o x = .ok plan) (s : σ) :
    ∃ ids, (b.shelve conf o x s).1 = .ok ids := by
  rw [Builder.shelve, hplan]
  exact ⟨_, rfl⟩

/-- A playlist of a known format is shelved if the boxes are there. -/
theorem Playlist.exists_shelve_ok {σ : Type} [Shelves σ] {conf : Configuration} {x : MediaItem}
    {f : Format} {boxes : BoxSelection boxKeys} (hformat : Format.ofMimetype? x.mimetype = some f)
    (hboxes : conf.boxes.select boxKeys = .ok boxes) (content : String) (s : σ) :
    ∃ ids, (Playlist.shelve conf x content s).1 = .ok ids := by
  simp only [Playlist.shelve, hformat, hboxes]
  exact ⟨_, rfl⟩

/-- A playlist of one address, which is also shelved as an audio item. -/
theorem reimport_changes_nothing_address :
    ∃ (conf : Configuration) (x : MediaItem) (ids entries : List NodeId),
      x = MediaItem.ofLocation "/music/a.m3u" "audio/x-mpegurl" ∧
      (Builder.audio.shelve conf (Origin.ofRoot "/music") x (run [.register x] empty)).1 = .ok ids ∧
      Builder.audio.shelve conf (Origin.ofRoot "/music") x
          (Builder.audio.shelve conf (Origin.ofRoot "/music") x (run [.register x] empty)).2 =
        (.ok [],
          (Builder.audio.shelve conf (Origin.ofRoot "/music") x (run [.register x] empty)).2) ∧
      (Playlist.shelve conf x "http://a/b" (run [.register x] empty)).1 = .ok entries ∧
      Playlist.shelve conf x "http://a/b"
          (Playlist.shelve conf x "http://a/b" (run [.register x] empty)).2 =
        (.ok [], (Playlist.shelve conf x "http://a/b" (run [.register x] empty)).2) := by
  obtain ⟨conf, hconf⟩ := Configuration.exists_ofBoxes BoxTable.builtin
  have haudio : ∀ key ∈ Plan.audioKeys, (conf.boxes.find? key).isSome := by
    rw [hconf]
    decide +kernel
  have hplaylist : ∀ key ∈ Playlist.boxKeys, (conf.boxes.find? key).isSome := by
    rw [hconf]
    decide +kernel
  have hformat : Playlist.Format.ofMimetype? "audio/x-mpegurl" = some .m3u := by
    decide +kernel
  -- The boxes that both need are among the built-in ones.
  obtain ⟨boxes, hboxes⟩ := BoxTable.exists_select haudio
  obtain ⟨boxes', hselect⟩ := BoxTable.exists_select hplaylist
  let x := MediaItem.ofLocation "/music/a.m3u" "audio/x-mpegurl"
  have hplan : Builder.audio.plan conf (Origin.ofRoot "/music") x =
      .ok (Plan.audio conf boxes (Origin.ofRoot "/music") x) := by
    rw [Builder.plan, Configuration.audioPlan, hboxes]
    rfl
  obtain ⟨ids, hids⟩ := Builder.exists_shelve_ok hplan (run [.register x] empty)
  have hmimetype : Playlist.Format.ofMimetype? x.mimetype = some .m3u := hformat
  obtain ⟨entries, hentries⟩ :=
    Playlist.exists_shelve_ok hmimetype hselect "http://a/b" (run [.register x] empty)
  obtain ⟨hbuilder, hshelve⟩ :=
    reimport_changes_nothing [.register x] conf (Origin.ofRoot "/music") x
  exact ⟨conf, x, ids, entries, rfl, hids, (hbuilder .audio ids hids).1, hentries,
    hshelve "http://a/b" entries hentries⟩

end MediaShelves
