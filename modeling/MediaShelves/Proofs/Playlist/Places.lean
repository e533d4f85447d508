import Mathlib.Data.List.Nodup
import MediaShelves.Playlist.Shelving
import MediaShelves.Proofs.Catalog.Labels

/-!
# Entries that find a place

Some items may be refused.  An entry finds a place if one of the folders of its playlist accepts its
item or holds it at its position already.  Which entries do so is told by the labels in these folders
(`placed`), and the number of an entry is that of the entries before it that found a place
(`map_playlistOrder_placed`).
-/

namespace MediaShelves

namespace Playlist

/-! ## Folders and entries -/

/-- What an entry of a playlist resolves to: an address elsewhere, or a file that is known. -/
inductive Resolves (known? : String → Option MediaItem) (playlist : MediaItem) (f : Format)
    (e : Entry) : MediaItem → Prop
  | address {url : String}
      (htarget : Target.ofLocation e.location (directoryOf playlist.location) = .address url) :
      Resolves known? playlist f e (addressItem e url (titleOf playlist) f)
  | file {path : String} {x : MediaItem}
      (htarget : Target.ofLocation e.location (directoryOf playlist.location) = .file path)
      (hknown : known? path = some x) :
      Resolves known? playlist f e (x.titled x.knownTitle)

/-- **An entry has the item that it resolves to.** -/
theorem entryItem?_eq_some_iff {known? : String → Option MediaItem} {playlist : MediaItem}
    {f : Format} {e : Entry} {y : MediaItem} :
    entryItem? known? playlist f e = some y ↔ Resolves known? playlist f e y := by
  constructor
  · intro h
    -- An address is an item of its own; a file is one only if it is known.
    unfold entryItem? at h
    split at h
    · rename_i htarget
      cases h
      exact .address htarget
    · rename_i htarget
      obtain ⟨x, hknown, rfl⟩ := Option.map_eq_some_iff.1 h
      exact .file htarget hknown
  · intro h
    cases h with
    | address htarget => rw [entryItem?, htarget]
    | file htarget hknown =>
      rw [entryItem?, htarget]
      exact congrArg (Option.map fun x => x.titled x.knownTitle) hknown

section Places

variable (refuses : MediaItem → Bool) (folders : List (List String))

/-- Whether one of some folders accepts an item or holds it at its position. -/
def lands (held : List String → List Label) (x : MediaItem) : Bool :=
  folders.any fun ts => !refuses x || (held ts).any (·.clashes x.label)

/-- What is held at which titles after an item was put into some folders. -/
def holding (held : List String → List Label) (x : MediaItem) : List String → List Label := fun ts =>
  if refuses x = false ∧ ts ∈ folders then Label.addTo (held ts) x.label else held ts

/-- The items of the entries that resolve and find a place, with their positions. -/
def placed (resolved? : Entry → Option MediaItem) :
    (held : List String → List Label) → (next : Nat) → List Entry → List MediaItem
  | _, _, [] => []
  | held, next, e :: rest =>
    match resolved? e with
    -- An entry that resolves to nothing finds no place.
    | none => placed resolved? held next rest
    | some x =>
      let x := { x with playlistOrder := some (e.order.getD next) }
      if lands refuses folders held x then
        x :: placed resolved? (holding refuses folders held x) (next + 1) rest
      else placed resolved? held next rest

end Places

/-! ## What folders hold -/

section

variable {refuses : MediaItem → Bool} {folders : List (List String)}

/-- Which entries find a place depends on what the folders are, and not on their order. -/
theorem placed_congr {folders' : List (List String)} (h : ∀ ts, ts ∈ folders ↔ ts ∈ folders') :
    placed refuses folders = placed refuses folders' := by
  -- Only whether some folder takes an item counts, and not in which order they are asked.
  have hlands : lands refuses folders = lands refuses folders' := by
    funext held x
    rw [lands, lands, Bool.eq_iff_iff, List.any_eq_true, List.any_eq_true]
    simp only [h]
  have hholding : holding refuses folders = holding refuses folders' := by
    funext held x ts
    simp only [holding, h]
  funext resolved? held next entries
  induction entries generalizing held next with
  | nil => rfl
  | cons e entries ih => simp only [placed, hlands, hholding, ih]

/-- An item that is accepted lands wherever there is a folder at all. -/
theorem lands_of_accepted {x : MediaItem} (hx : refuses x = false)
    (held : List String → List Label) : lands refuses folders held x = !folders.isEmpty := by
  unfold lands
  cases folders <;> simp [hx]

/-- An item that is refused changes nothing in the folders. -/
theorem holding_of_refused {x : MediaItem} (hx : refuses x = true)
    (held : List String → List Label) : holding refuses folders held x = held := by
  funext ts
  simp [holding, hx]

/-- An item that finds no place is put nowhere. -/
theorem holding_of_not_lands {held : List String → List Label} {x : MediaItem}
    (hx : lands refuses folders held x = false) : holding refuses folders held x = held := by
  cases hrefuses : refuses x with
  | true => exact holding_of_refused hrefuses held
  | false =>
    -- It is accepted, so there is no folder at all.
    rw [lands_of_accepted hrefuses] at hx
    have hnil : folders = [] := by simpa using hx
    funext ts
    simp [holding, hnil]

/-- Putting an item into folders is putting it into the first and then into the others. -/
theorem holding_cons (here : List String) (held : List String → List Label) (x : MediaItem) :
    holding refuses (here :: folders) held x =
      holding refuses folders (holding refuses [here] held x) x := by
  cases hx : refuses x with
  | true => simp only [holding_of_refused hx]
  | false =>
    funext ts
    simp only [holding, hx, true_and, List.mem_cons, List.not_mem_nil, or_false]
    by_cases ht : ts = here
    · by_cases hts : ts ∈ folders
      · -- The same folder is meant twice.
        rw [if_pos (.inl ht), if_pos hts, if_pos ht, Label.addTo_addTo]
      · rw [if_pos (.inl ht), if_neg hts, if_pos ht]
    · simp [ht]

/-- Whether an item finds a place in several folders may be asked of one after another. -/
theorem lands_cons (here : List String) (held : List String → List Label) (x : MediaItem) :
    lands refuses (here :: folders) held x =
      (lands refuses [here] held x || lands refuses folders (holding refuses [here] held x) x) := by
  cases hx : refuses x with
  | true =>
    rw [holding_of_refused hx]
    simp [lands]
  | false => simp [lands_of_accepted hx]

/-- What a folder holds it goes on holding. -/
theorem any_holding {held : List String → List Label} {ts : List String} {m : Label}
    (h : (held ts).any (·.clashes m) = true) (x : MediaItem) :
    (holding refuses folders held x ts).any (·.clashes m) = true := by
  unfold holding
  split
  · rw [Label.any_addTo, h, Bool.true_or]
  · exact h

theorem any_foldl_holding (xs : List MediaItem) {held : List String → List Label}
    {ts : List String} {m : Label} (h : (held ts).any (·.clashes m) = true) :
    (xs.foldl (holding refuses folders) held ts).any (·.clashes m) = true := by
  induction xs generalizing held with
  | nil => exact h
  | cons x xs ih => exact ih (any_holding h x)

/-- An item that is accepted is held by each of the folders. -/
theorem any_holding_of_accepted {x : MediaItem} (hx : refuses x = false)
    (held : List String → List Label) {ts : List String} (hts : ts ∈ folders) :
    (holding refuses folders held x ts).any (·.clashes x.label) = true := by
  rw [holding, if_pos ⟨hx, hts⟩, Label.any_addTo, Label.clashes_self,
    Bool.or_true]

/-- An item that landed is held by one of the folders. -/
theorem exists_any_holding {held : List String → List Label} {x : MediaItem}
    (hx : lands refuses folders held x = true) :
    ∃ ts ∈ folders, (holding refuses folders held x ts).any (·.clashes x.label) = true := by
  obtain ⟨ts, hts, hplace⟩ := List.any_eq_true.1 hx
  refine ⟨ts, hts, ?_⟩
  cases hrefuses : refuses x with
  | false => exact any_holding_of_accepted hrefuses held hts
  | true =>
    rw [hrefuses, Bool.not_true, Bool.false_or] at hplace
    exact any_holding hplace x

/-- Folders end up with what they accept, in its order. -/
theorem foldl_holding (xs : List MediaItem) (held : List String → List Label) (ts : List String) :
    xs.foldl (holding refuses folders) held ts =
      if ts ∈ folders then
        ((xs.filter fun y => !refuses y).map MediaItem.label).foldl Label.addTo (held ts)
      else held ts := by
  -- A folder outside of the list holds what it held; one inside takes what is not refused.
  induction xs generalizing held with
  | nil => simp
  | cons x xs ih =>
    rw [List.foldl_cons, ih, List.filter_cons]
    cases hx : refuses x with
    | true => simp [holding_of_refused hx]
    | false =>
      by_cases hts : ts ∈ folders
      · simp only [if_pos hts, holding, hx, true_and, Bool.not_false, if_true, List.map_cons,
          List.foldl_cons]
      · rw [if_neg hts, if_neg hts, holding, if_neg fun h => hts h.2]

/-! ## Positions -/

section

variable {resolved? : Entry → Option MediaItem} {held : List String → List Label} {next : Nat} {entries : List Entry}

/-- An item that found a place is that of an entry, under a number. -/
theorem exists_entry_of_mem_placed {y : MediaItem}
    (hy : y ∈ placed refuses folders resolved? held next entries) :
    ∃ e ∈ entries, ∃ x number, resolved? e = some x ∧
      y = { x with playlistOrder := some (e.order.getD number) } := by
  induction entries generalizing held next with
  | nil => cases hy
  | cons e entries ih =>
    have hrest {held : List String → List Label} {next : Nat}
        (hy : y ∈ placed refuses folders resolved? held next entries) :
        ∃ e' ∈ e :: entries, ∃ x number, resolved? e' = some x ∧
          y = { x with playlistOrder := some (e'.order.getD number) } := by
      obtain ⟨e', he', hx⟩ := ih hy
      exact ⟨e', List.mem_cons_of_mem e he', hx⟩
    -- The first entry is no item, or lands nowhere, or comes first.
    rw [placed] at hy
    split at hy
    · exact hrest hy
    · rename_i x hx
      dsimp only at hy
      split at hy
      · rcases List.mem_cons.1 hy with rfl | hy
        · exact ⟨e, List.mem_cons_self .., x, next, hx, rfl⟩
        · exact hrest hy
      · exact hrest hy

/-- **Entries without positions are numbered one after another**, as far as they find a place. -/
theorem map_playlistOrder_placed (hentries : ∀ e ∈ entries, e.order = none) :
    (placed refuses folders resolved? held next entries).map (·.playlistOrder) =
      (List.range' next
        (placed refuses folders resolved? held next entries).length).map some := by
  -- The counter stands at the number of the next entry that finds a place.
  induction entries generalizing held next with
  | nil => rfl
  | cons e entries ih =>
    obtain ⟨he, hrest⟩ := List.forall_mem_cons.1 hentries
    rw [placed]
    split
    · exact ih hrest
    · dsimp only
      split
      · rw [List.map_cons, ih hrest, List.length_cons, List.range'_succ, List.map_cons, he]
        rfl
      · exact ih hrest

/-- What found a place is held in the end: by one of the folders, and by all if it was accepted. -/
theorem any_of_mem_placed {y : MediaItem}
    (hy : y ∈ placed refuses folders resolved? held next entries) :
    (∃ ts ∈ folders, ((placed refuses folders resolved? held next entries).foldl
        (holding refuses folders) held ts).any (·.clashes y.label) = true) ∧
      (refuses y = false → ∀ ts ∈ folders,
        ((placed refuses folders resolved? held next entries).foldl
          (holding refuses folders) held ts).any (·.clashes y.label) = true) := by
  induction entries generalizing held next with
  | nil => cases hy
  | cons e entries ih =>
    rw [placed] at hy ⊢
    split at hy
    · exact ih hy
    · dsimp only at hy ⊢
      split at hy
      · rename_i hlands
        rw [if_pos hlands, List.foldl_cons]
        rcases List.mem_cons.1 hy with rfl | hy
        · -- The entry itself is held once it is put into the folders, and stays there.
          obtain ⟨ts, hts, hany⟩ := exists_any_holding hlands
          refine ⟨⟨ts, hts, any_foldl_holding _ hany⟩, ?_⟩
          intro haccepted ts hts
          exact any_foldl_holding _ (any_holding_of_accepted haccepted held hts)
        · exact ih hy
      · rename_i hlands
        rw [if_neg hlands]
        exact ih hy

end

/-- Numbers that are counted up differ. -/
theorem nodup_playlistOrder {found : List MediaItem} {next : Nat}
    (h : found.map (·.playlistOrder) = (List.range' next found.length).map some) :
    (found.map (·.playlistOrder)).Nodup := by
  rw [h]
  exact List.Nodup.map (fun _ _ => Option.some.inj) List.nodup_range'

/-- Items with different positions are not in each other's way. -/
theorem pairwise_labels {found : List MediaItem} (h : (found.map (·.playlistOrder)).Nodup) :
    (found.map MediaItem.label).Pairwise fun a b => a.clashes b = false := by
  rw [List.pairwise_map]
  apply (List.pairwise_map.1 h).imp
  intro a b hne
  simp [Label.clashes, MediaItem.label, hne]

end

end Playlist

end MediaShelves
