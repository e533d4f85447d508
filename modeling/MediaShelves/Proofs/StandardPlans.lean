import MediaShelves.Proofs.Catalog.Copies
import MediaShelves.Proofs.Pattern.Search
import MediaShelves.Proofs.Plan.Boxes
import MediaShelves.Proofs.Plan.Leaves

/-!
# What the standard plans fill

The standard plans put an item into all folders that its facets, its date and its directories tell,
once into each, and into no other folder.

Main statement: `standard_plans_fill_leaves`, for items with an id; `Builder.reaches` says where any builder puts
any item.
-/

namespace MediaShelves

open Catalog

/-! ## Plans that fill -/

/-- A builder with a plan carries it out. -/
theorem Builder.shelve_eq {b : Builder} {conf : Configuration} {o : Origin} {x : MediaItem}
    {plan : Plan} (hplan : b.plan conf o x = .ok plan) (c : Catalog) :
    b.shelve conf o x c = (.ok (plan.carryOut c).1, (plan.carryOut c).2) := by
  rw [Builder.shelve, hplan]
  rfl

/-- A builder whose plan leads to some folders fills these. -/
theorem Builder.fills_shelve {c : Catalog} (h : c.Consistent) {b : Builder} {conf : Configuration}
    {o : Origin} {x : MediaItem} {j : NodeId} (hj : x.refersTo.or x.id = some j) {plan : Plan}
    (hplan : b.plan conf o x = .ok plan) {leaf : List String → Prop}
    (hleaf : ∀ ts, plan.LeadsTo ts ↔ leaf ts) :
    ∃ ids c', b.shelve conf o x c = (.ok ids, c') ∧ c.Fills c' x j leaf := by
  refine ⟨_, _, shelve_eq hplan c, ?_⟩
  exact h.fills_plan (ofItem_plan hplan) (trailed_plan hplan) hj fun ts => (hleaf ts).symm

/--
What a builder does with an item from the catalog `c` on: with all of its boxes it brings the item into
the folders at some titles, and without one of them it does nothing.
-/
structure Builder.Reaches (b : Builder) (conf : Configuration) (o : Origin) (x : MediaItem)
    (c : Catalog) (leaf : List String → Prop) : Prop where
  received : (∀ key ∈ b.keys, (conf.boxes.find? key).isSome) →
    ∃ ids c', b.shelve conf o x c = (.ok ids, c') ∧ c.Receives c' x leaf
  refused : (∃ key ∈ b.keys, conf.boxes.find? key = none) →
    ∃ e, b.shelve conf o x c = (.error e, c)

/-- A builder reaches the folders that its plan leads to, whether the item has an id or not. -/
theorem Builder.reaches {c : Catalog} (h : c.Consistent) {b : Builder} {conf : Configuration}
    {o : Origin} {x : MediaItem} (hx : b.declines conf x = false) {leaf : List String → Prop}
    (hplan : (∀ key ∈ b.keys, (conf.boxes.find? key).isSome) →
      ∃ plan, b.plan conf o x = .ok plan ∧ ∀ ts, plan.LeadsTo ts ↔ leaf ts) :
    b.Reaches conf o x c leaf where
  received hboxes := by
    obtain ⟨plan, hplan, hleaf⟩ := hplan hboxes
    refine ⟨_, _, shelve_eq hplan c, ?_⟩
    exact h.receives_plan (ofItem_plan hplan) (standsFor_plan hplan) (trailed_plan hplan)
      fun ts => (hleaf ts).symm
  refused hmissing := shelve_of_missing o hx hmissing c

/--
**The standard plans place an item completely and exactly.**  With all boxes, in every state that
requests can lead to, an audio item gets into every folder that its axes name, and so do images and
videos; each of these folders has exactly one copy of the item then, and no other folder has got
any.  An image or a video of an unknown date is found under the title that stands for that.
-/
theorem standard_plans_fill_leaves (before : List Request) {conf : Configuration}
    (hboxes : conf.boxes.Complete) (o : Origin) {x : MediaItem} {j : NodeId} (hid : x.id = some j)
    (hrefers : x.refersTo = none) :
    (∃ ids c', Builder.audio.shelve conf o x (run before empty) = (.ok ids, c') ∧
      (run before empty).Fills c' x j (AudioLeaf conf o x)) ∧
    (∃ ids c', Builder.image.shelve conf o x (run before empty) = (.ok ids, c') ∧
      (run before empty).Fills c' x j (VisualLeaf conf .image o x)) ∧
    (∃ ids c', Builder.video.shelve conf o x (run before empty) = (.ok ids, c') ∧
      (run before empty).Fills c' x j (VisualLeaf conf .video o x)) ∧
    (x.Undated → ∀ k : VisualKeys,
      (conf.boxes.isEnabled k.years → VisualLeaf conf k o x
        [conf.boxes.title k.root, conf.boxes.title k.years, conf.boxes.title k.unknown]) ∧
      (conf.boxes.isEnabled k.dates → VisualLeaf conf k o x
        [conf.boxes.title k.root, conf.boxes.title k.dates, conf.boxes.title k.unknown])) := by
  have h : (run before empty).Consistent := consistent_empty.run before
  -- An item that stands for itself is referred to by its own id.
  have hj : x.refersTo.or x.id = some j := by
    rw [hrefers, hid]
    rfl
  refine ⟨?_, ?_, ?_, ?_⟩
  · obtain ⟨plan, hplan, hleaf⟩ := Configuration.exists_audioPlan (o := o) (x := x) (hboxes.1 .audio)
    exact Builder.fills_shelve h hj (b := .audio) hplan hleaf
  · obtain ⟨plan, hplan, hleaf⟩ := Configuration.exists_imagePlan (o := o) (x := x) (hboxes.1 .image)
    exact Builder.fills_shelve h hj (b := .image) hplan hleaf
  · obtain ⟨plan, hplan, hleaf⟩ := Configuration.exists_videoPlan (o := o) (x := x) (hboxes.1 .video)
    exact Builder.fills_shelve h hj (b := .video) hplan hleaf
  · intro hx k
    exact ⟨fun hyears => .unknownYear hyears hx, fun hdates => .unknownDate hdates hx⟩

/-- What a plan fills may be told by the titles of its trails. -/
theorem Catalog.Fills.of_titles {c c' : Catalog} {x : MediaItem} {j : NodeId}
    {leaf : List String → Prop} {paths : List (List String)} {result : Except ConfigError Plan}
    (hfills : c.Fills c' x j leaf)
    (hplan : ∃ plan, result = .ok plan ∧ ∀ ts, plan.LeadsTo ts ↔ leaf ts)
    (htitles : result.toOption.map (fun plan => plan.map (·.trail.titles)) = some paths) :
    c.Fills c' x j (· ∈ paths) := by
  obtain ⟨plan, rfl, hleaf⟩ := hplan
  obtain rfl : plan.map (·.trail.titles) = paths := Option.some.inj htitles
  have hsame : leaf = (· ∈ plan.map (·.trail.titles)) := by
    funext ts
    rw [← hleaf ts]
    exact propext List.mem_map.symm
  rwa [← hsame]

/-- The built-in boxes and the standard options, with a rule that renames a genre. -/
def Configuration.renamingPop : Configuration where
  boxes := BoxTable.builtin
  options := { Options.standard with rawImageFilter := "" }
  genreMap := ⟨[⟨(Pattern.ofText? "(?-i)Pop").get (by decide +kernel), "Popular", .replace⟩]⟩
  modelMap := NameMap.empty
  headlineMap := NameMap.empty
  rawImages := (Pattern.ofText? "").get (by decide +kernel)
  topicDirectories := none

/-- A song without album and composer, a photo of a day, and a film without a date. -/
theorem standard_plans_fill_leaves_song :
    let conf := Configuration.renamingPop
    let song : MediaItem := { MediaItem.ofLocation "/music/Queen/Jazz/a.mp3" "audio/mpeg" with
      id := some 1
      metadata := (((Metadata.empty.set MetaKey.artist "Queen").set MetaKey.date "1978-11-10").add
        MetaKey.genre "Rock, Pop").add MetaKey.genre " ,Jazz" }
    let photo : MediaItem := { MediaItem.ofLocation "/photos/Trip/a.jpg" "image/jpeg" with
      id := some 1
      metadata := Metadata.empty.set MetaKey.date "2018-5-1T10:00" }
    let film : MediaItem := { MediaItem.ofLocation "/films/a.mp4" "video/mp4" with id := some 1 }
    (∃ ids c', Builder.audio.shelve conf (Origin.ofRoot "/music") song (run [.register song] empty) =
        (.ok ids, c') ∧
      (run [.register song] empty).Fills c' song 1 (· ∈
        [["Audio", "All Audio"], ["Audio", "Artists", "Queen", "All Songs"],
          ["Audio", "All - full name"], ["Audio", "Artists", "Queen", "All - full name"],
          ["Audio", "Artists", "Queen", "Unknown"], ["Audio", "Albums", "Unknown"],
          ["Audio", "Genres", "Rock"], ["Audio", "Genres", "Popular"], ["Audio", "Genres", "Jazz"],
          ["Audio", "Composers", "None"], ["Audio", "Year", "1978"],
          ["Audio", "Directories", "Queen", "Jazz"],
          ["Audio", "Artists", "Queen", "Album Chronology", "1978 - Unknown"]])) ∧
    (∃ ids c', Builder.image.shelve conf (Origin.ofRoot "/photos") photo
          (run [.register photo] empty) = (.ok ids, c') ∧
      (run [.register photo] empty).Fills c' photo 1 (· ∈
        [["Photos", "All Photos"], ["Photos", "Year", "2018", "05"],
          ["Photos", "Date", "2018-05-01"], ["Photos", "Directories", "Trip"]])) ∧
    ∃ ids c', Builder.video.shelve conf (Origin.ofRoot "/films") film
          (run [.register film] empty) = (.ok ids, c') ∧
      (run [.register film] empty).Fills c' film 1 (· ∈
        [["Video", "All Video"], ["Video", "Year", "Unknown"], ["Video", "Date", "Unknown"]]) := by
  intro conf song photo film
  have hboxes : conf.boxes.Complete := BoxTable.complete_builtin
  obtain ⟨⟨ids, c', hshelve, hfills⟩, -⟩ := standard_plans_fill_leaves [.register song] hboxes
    (Origin.ofRoot "/music") (x := song) (j := 1) rfl rfl
  obtain ⟨-, ⟨photoIds, photoShelves, hphoto, hphotoFills⟩, -⟩ :=
    standard_plans_fill_leaves [.register photo] hboxes (Origin.ofRoot "/photos") (x := photo)
      (j := 1) rfl rfl
  obtain ⟨-, -, ⟨filmIds, filmShelves, hfilm, hfilmFills⟩, -⟩ :=
    standard_plans_fill_leaves [.register film] hboxes (Origin.ofRoot "/films") (x := film)
      (j := 1) rfl rfl
  refine ⟨⟨ids, c', hshelve, ?_⟩, ⟨photoIds, photoShelves, hphoto, ?_⟩,
    filmIds, filmShelves, hfilm, ?_⟩
  · have hgenres : conf.genres song = ["Rock", "Popular", "Jazz"] := by
      -- The genres are named one by one, and the rule is tried on each of them.
      show ["Rock", "Pop", "Jazz"].map Configuration.renamingPop.genreName = _
      simp only [List.map_cons, List.map_nil, Configuration.genreName, NameMap.substitute?,
        Pattern.occursIn_eq_listed]
      decide +kernel
    have haudio : ∀ key ∈ Plan.audioKeys, (conf.boxes.find? key).isSome := hboxes.1 .audio
    refine hfills.of_titles (Configuration.exists_audioPlan haudio) ?_
    rw [Configuration.audioPlan, BoxTable.select_eq haudio]
    -- The rule has been applied, so that the rest is a computation.
    show some ((Plan.audio conf ⟨BoxTable.builtin, BoxTable.complete_builtin.1 .audio⟩
      (Origin.ofRoot "/music") song).map (·.trail.titles)) = some _
    rw [Plan.audio, hgenres]
    decide +kernel
  · exact hphotoFills.of_titles (Configuration.exists_imagePlan (hboxes.1 .image))
      (by decide +kernel)
  · exact hfilmFills.of_titles (Configuration.exists_videoPlan (hboxes.1 .video))
      (by decide +kernel)

end MediaShelves
