import MediaShelves.Proofs.Catalog.Repetition
import MediaShelves.Proofs.Playlist.Folders

/-!
# The numbers of playlist entries

Which number an entry gets depends on what happened to the entries before it.  On a catalog nothing
is ever refused, so the numbers are settled before anything is placed: the entries of a playlist are
a plan (`Catalog.Consistent.shelve_eq`).
-/

namespace MediaShelves

/-! ## Playlists as plans -/

namespace Playlist

/-- The placements of an item below some trails. -/
def placements (x : MediaItem) (trails : List Trail) : Plan :=
  trails.map fun t => ⟨x, t, some UpnpClass.playlist⟩

/-- The placements of entries, if each one that is known takes a number. -/
def numbered (canonical? : String → Option MediaItem) (playlist : MediaItem) (f : Format)
    (trails : List Trail) : (next : Nat) → List Entry → Plan
  | _, [] => []
  | next, e :: rest =>
    match entryItem? canonical? playlist f e with
    | none => numbered canonical? playlist f trails next rest
    | some x =>
      placements { x with playlistOrder := some (e.order.getD next) } trails ++
        numbered canonical? playlist f trails (if trails.isEmpty then next else next + 1) rest

/-- An entry that is known is numbered after those before it that are known as well. -/
theorem mem_numbered {known? : String → Option MediaItem} {playlist : MediaItem} {f : Format}
    {trails : List Trail} {t : Trail} (ht : t ∈ trails) {e : Entry} {x : MediaItem}
    (hx : entryItem? known? playlist f e = some x) (before after : List Entry) (next : Nat) :
    (⟨{ x with playlistOrder := some (e.order.getD
        (next + before.countP fun d => (entryItem? known? playlist f d).isSome)) }, t,
      some UpnpClass.playlist⟩ : Placement) ∈
        numbered known? playlist f trails next (before ++ e :: after) := by
  induction before generalizing next with
  | nil =>
    rw [List.nil_append, numbered, hx]
    exact List.mem_append_left _ (List.mem_map.2 ⟨t, ht, rfl⟩)
  | cons d before ih =>
    rw [List.cons_append, numbered]
    cases hd : entryItem? known? playlist f d with
    | none =>
      rw [List.countP_cons_of_neg (by simp [hd])]
      exact ih next
    | some y =>
      -- An entry that is shelved takes a number, and those behind it start one later.
      have hcount : next +
          (d :: before).countP (fun d => (entryItem? known? playlist f d).isSome) =
            next + 1 + before.countP fun d => (entryItem? known? playlist f d).isSome := by
        rw [List.countP_cons_of_pos (by simp [hd])]
        omega
      have hfolders : trails.isEmpty = false :=
        List.isEmpty_eq_false_iff.2 (List.ne_nil_of_mem ht)
      rw [hcount, hfolders, if_neg Bool.false_ne_true]
      exact List.mem_append_right _ (ih (next + 1))

/-- Where the entries of a playlist go, as far as their files are known. -/
def plan (canonical? : String → Option MediaItem) (c : Configuration) (x : MediaItem)
    (content : String) : Except ConfigError Plan :=
  match Format.ofMimetype? x.mimetype with
  | none => .ok []
  | some f =>
    match c.boxes.select boxKeys with
    | .error e => .error e
    | .ok boxes =>
      .ok (numbered canonical? x f (trails boxes x) 1 ((f.entries? content).getD []))

end Playlist

/-! ## On a catalog -/

namespace Catalog

open Playlist

/-- An item that is placed in a folder is there, whether it is new or not. -/
theorem Consistent.placeBelow_eq {c : Catalog} (h : c.Consistent) (x : MediaItem) {t : Trail}
    (ht : t ≠ []) :
    placeBelow x t c =
      ((((⟨x, t, some UpnpClass.playlist⟩ : Placement).carryOut c).1, true),
        ((⟨x, t, some UpnpClass.playlist⟩ : Placement).carryOut c).2) := by
  obtain ⟨i, hfst, hi⟩ := h.exists_openTrail ht
  have hc := h.openTrail t
  have hopen : Shelves.openTrail t c = (some i, (Catalog.openTrail t c).2) := Prod.ext hfst rfl
  obtain ⟨r, hr, -⟩ := hc.pathIndex_iff.1 hi
  have hplaced : ((Catalog.place x i (some UpnpClass.playlist)
      (Catalog.openTrail t c).2).2.placed? x i).isSome :=
    hc.placed?_place (by simp [hr])
  simp only [placeBelow, Placement.carryOut, hopen]
  split
  · rename_i added s hplace
    rw [hplace]
  · -- What was not added is found in the folder.
    rename_i s hplace
    have hs : (Catalog.place x i (some UpnpClass.playlist) (Catalog.openTrail t c).2).2 = s :=
      congrArg Prod.snd hplace
    rw [hs] at hplaced
    rw [hplace]
    exact Prod.ext (Prod.ext rfl hplaced) rfl

theorem Consistent.placeBelowAll_eq {c : Catalog} (h : c.Consistent) (x : MediaItem)
    {trails : List Trail} (htrails : ∀ t ∈ trails, t ≠ []) :
    placeBelowAll x trails c =
      (((Plan.carryOut (placements x trails) c).1, !trails.isEmpty),
        (Plan.carryOut (placements x trails) c).2) := by
  -- Each trail gets the item in turn, so the later ones see what the earlier ones did.
  induction trails generalizing c with
  | nil => rfl
  | cons t trails ih =>
    have hfirst := h.placeBelow_eq x (htrails t (List.mem_cons_self ..))
    have hrest := ih (h.placement ⟨x, t, some UpnpClass.playlist⟩) fun u hu =>
      htrails u (List.mem_cons_of_mem t hu)
    rw [placeBelowAll, hfirst]
    simp only [hrest]
    rfl

/-- **On a catalog every entry that is known takes a number**, so entries are a plan. -/
theorem Consistent.placeEntries_eq {c : Catalog} (h : c.Consistent) (playlist : MediaItem)
    (f : Format) {trails : List Trail} (htrails : ∀ t ∈ trails, t ≠ []) (next : Nat)
    (entries : List Entry) :
    placeEntries playlist f trails next entries c =
      Plan.carryOut (numbered (Shelves.canonical? c) playlist f trails next entries) c := by
  induction entries generalizing c next with
  | nil => rfl
  | cons e entries ih =>
    rw [placeEntries, numbered]
    cases hx : entryItem? (Shelves.canonical? c) playlist f e with
    | none => exact ih h next
    | some x =>
      simp only [h.placeBelowAll_eq _ htrails, Plan.carryOut_append]
      -- What was placed for one entry leaves the files of the others known.
      have hknown (plan : Plan) : Shelves.canonical? (plan.carryOut c).2 = Shelves.canonical? c := by
        funext location
        exact congrArg (Option.map _) (h.file?_plan plan location)
      rw [ih (h.plan _), hknown]
      -- An entry takes a number unless there is no folder to put it in.
      cases trails with
      | nil => rfl
      | cons t trails => rfl

/-- Shelving a playlist on a catalog is carrying out a plan. -/
theorem Consistent.shelve_eq {c : Catalog} (h : c.Consistent) (conf : Configuration)
    (x : MediaItem) (content : String) :
    Playlist.shelve conf x content c =
      carryOutPlan (Playlist.plan (Shelves.canonical? c) conf x content) c := by
  simp only [Playlist.shelve, Playlist.plan]
  cases Format.ofMimetype? x.mimetype with
  | none => rfl
  | some f =>
    cases conf.boxes.select boxKeys with
    | error e => rfl
    | ok boxes =>
      simp only [h.placeEntries_eq x f fun t ht => ne_nil_of_mem_trails ht, carryOutPlan]

end Catalog

end MediaShelves
