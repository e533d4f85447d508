import MediaShelves.Proofs.Plan.Selection

/-!
# Tables of boxes

What every table of boxes has that a configuration can have: it begins with the built-in boxes or
with some settings, and then boxes are put in and removed.

Main statements: a root box that is there is enabled (`BoxTable.Made.rooted`), and with all boxes
every import succeeds (`Configuration.exists_importItem_ok`).
-/

namespace MediaShelves

namespace BoxTable

/-! ## Look-up -/

@[simp] theorem find?_empty (key : String) : empty.find? key = none := rfl

@[simp] theorem find?_insert (t : BoxTable) (b : Box) (key : String) :
    (t.insert b).find? key = if key = b.key then some b.normalized else t.find? key :=
  Keyed.find?_insert ..

@[simp] theorem find?_erase (t : BoxTable) (k key : String) :
    (t.erase k).find? key = if key = k then none else t.find? key :=
  Keyed.find?_erase ..

/-- A box that is put into a table as it is. -/
theorem find?_mk_insert (t : BoxTable) (b : Box) (key : String) :
    (⟨t.boxes.insert b.key b⟩ : BoxTable).find? key =
      if key = b.key then some b else t.find? key :=
  Keyed.find?_insert ..

/-- Of boxes that are put in as they are, the last one for a key is found. -/
theorem find?_foldl_mk_insert (bs : List Box) (t : BoxTable) (key : String) :
    (bs.foldl (fun t b => ⟨t.boxes.insert b.key b⟩) t : BoxTable).find? key =
      (bs.reverse.find? fun b => b.key = key).or (t.find? key) := by
  induction bs generalizing t with
  | nil => rfl
  | cons b bs ih =>
    rw [List.foldl_cons, ih, find?_mk_insert, List.reverse_cons, List.find?_append, Option.or_assoc]
    by_cases hkey : b.key = key
    · simp [hkey]
    · simp [hkey, Ne.symm hkey]

/-- What is in the built-in table can be searched for among the built-in boxes. -/
theorem find?_builtin (key : String) :
    builtin.find? key = Box.builtin.reverse.find? fun b => b.key = key := by
  rw [builtin, find?_foldl_mk_insert, find?_empty, Option.or_none]

theorem isSome_find?_key (bs : List Box) (key : String) :
    (bs.find? fun b => b.key = key).isSome = (bs.map (·.key)).contains key := by
  apply Bool.eq_iff_iff.2
  simp

/-- The built-in table has the keys of the built-in boxes. -/
theorem isSome_find?_builtin (key : String) :
    (builtin.find? key).isSome = (Box.builtin.map (·.key)).contains key := by
  rw [find?_builtin, isSome_find?_key, List.map_reverse, List.contains_reverse]

/-! ## Tables that can be made -/

/-- A table that begins with the built-in boxes or with settings, and then is changed. -/
inductive Made : BoxTable → Prop
  | builtin : Made builtin
  | ofSettings (settings : List BoxSettings) : Made (ofSettings settings)
  | insert {t : BoxTable} (b : Box) : Made t → Made (t.insert b)
  | erase {t : BoxTable} (key : String) : Made t → Made (t.erase key)

/-- The root boxes of a table are enabled, as far as they are there. -/
def Rooted (t : BoxTable) : Prop :=
  ∀ key ∈ Box.alwaysEnabled, ∀ b, t.find? key = some b → b.enabled

theorem rooted_empty : empty.Rooted := by
  intro key _ b hb
  cases hb

theorem Rooted.insert {t : BoxTable} (h : t.Rooted) (b : Box) : (t.insert b).Rooted := by
  intro key hkey b' hb'
  rw [find?_insert] at hb'
  split at hb'
  · rename_i heq
    cases hb'
    simp [Box.normalized, ← heq, hkey]
  · exact h key hkey b' hb'

theorem Rooted.erase {t : BoxTable} (h : t.Rooted) (k : String) : (t.erase k).Rooted := by
  intro key hkey b hb
  rw [find?_erase] at hb
  split at hb
  · cases hb
  · exact h key hkey b hb

/-- A box that is enabled may be put in as it is. -/
theorem Rooted.mk_insert {t : BoxTable} (h : t.Rooted) {b : Box} (hb : b.enabled) :
    Rooted ⟨t.boxes.insert b.key b⟩ := by
  intro key hkey b' hb'
  rw [find?_mk_insert] at hb'
  split at hb'
  · cases hb'
    exact hb
  · exact h key hkey b' hb'

/-- What holds of all built-in boxes holds of those in the built-in table. -/
theorem of_find?_builtin {motive : Box → Prop} (hboxes : ∀ b ∈ Box.builtin, motive b)
    {key : String} {b : Box} (h : builtin.find? key = some b) : motive b := by
  have hall : ∀ key b, builtin.find? key = some b → motive b := by
    unfold builtin
    -- The table is built box by box, and each one that is found was put in at some time.
    refine List.foldlRecOn (motive := fun t : BoxTable => ∀ key b, t.find? key = some b → motive b)
      Box.builtin _ ?_ ?_
    · intro key b hb
      cases hb
    · intro t ht c hc key b hb
      rw [find?_mk_insert] at hb
      split at hb
      · cases hb
        exact hboxes c hc
      · exact ht key b hb
  exact hall key b h

/-- All built-in boxes are enabled. -/
theorem enabled_builtin {key : String} {b : Box} (h : builtin.find? key = some b) : b.enabled :=
  of_find?_builtin (motive := fun b => b.enabled) (by decide) h

/-- No built-in box is pinned. -/
theorem pinned_builtin {key : String} {b : Box} (h : builtin.find? key = some b) :
    b.pinned = none :=
  of_find?_builtin (motive := fun b => b.pinned = none) (by decide) h

theorem enabled_of_mem_builtin {b : Box} (h : b ∈ builtin.toList) : b.enabled := by
  obtain ⟨⟨key, b⟩, hmem, rfl⟩ := List.mem_map.1 h
  exact enabled_builtin (Keyed.find?_of_mem builtin.boxes hmem)

/-- First the settings are put in, and then built-in boxes. -/
theorem rooted_ofSettings (settings : List BoxSettings) : (ofSettings settings).Rooted := by
  unfold ofSettings
  refine List.foldlRecOn builtin.toList _ (List.foldlRecOn settings _ rooted_empty ?_) ?_
  · intro t ht s _
    exact ht.insert _
  · intro t ht b hb
    split
    · exact ht
    · exact ht.mk_insert (enabled_of_mem_builtin hb)

theorem Made.rooted {t : BoxTable} (h : t.Made) : t.Rooted := by
  induction h with
  | builtin => exact fun _ _ _ hb => enabled_builtin hb
  | ofSettings settings => exact rooted_ofSettings settings
  | insert b _ ih => exact ih.insert b
  | erase key _ ih => exact ih.erase key

end BoxTable

/-! ## Complete tables -/

/-- A table has the boxes of all builders, and those of playlists. -/
def BoxTable.Complete (t : BoxTable) : Prop :=
  (∀ b : Builder, ∀ key ∈ b.keys, (t.find? key).isSome) ∧
    ∀ key ∈ Playlist.boxKeys, (t.find? key).isSome

theorem BoxTable.complete_builtin : BoxTable.builtin.Complete := by
  simp only [Complete, isSome_find?_builtin]
  refine ⟨fun b => ?_, by decide +kernel⟩
  cases b <;> decide +kernel

/-- A box that is put into a table takes none away. -/
theorem BoxTable.Complete.insert {t : BoxTable} (h : t.Complete) (b : Box) :
    (t.insert b).Complete := by
  have hfound {key : String} (hkey : (t.find? key).isSome) : ((t.insert b).find? key).isSome := by
    rw [find?_insert]
    split
    · rfl
    · exact hkey
  exact ⟨fun b' key hkey => hfound (h.1 b' key hkey), fun key hkey => hfound (h.2 key hkey)⟩

section

variable {conf : Configuration} (h : conf.boxes.Complete)

include h

/-- With all boxes every builder makes a plan of every item. -/
theorem Builder.exists_plan_ok (b : Builder) (o : Origin) (x : MediaItem) :
    ∃ plan, b.plan conf o x = .ok plan := by
  cases hx : b.declines conf x with
  | true =>
    -- Only the detailed image plan leaves items out.
    obtain ⟨rfl, hraw⟩ : b = .detailedImage ∧ conf.isRawImage x.mimetype := by
      simpa [declines] using hx
    refine ⟨[], ?_⟩
    rw [Builder.plan, Configuration.detailedImagePlan, if_pos hraw]
    rfl
  | false =>
    obtain ⟨key, hkey, -⟩ | ⟨-, hplan⟩ := b.plan_cases o hx
    · rw [BoxTable.missing?_eq_none_iff.2 (h.1 b)] at hkey
      cases hkey
    · exact hplan

/-- With all boxes every import succeeds. -/
theorem Configuration.exists_importItem_ok {σ : Type} [Shelves σ] (read : String → Option String)
    (o : Origin) (x : MediaItem) (s : σ) :
    ∃ ids s', conf.importItem read o x s = (.ok ids, s') := by
  -- A playlist needs the boxes of playlists, and any other item those of its builder.
  unfold importItem
  split
  · rename_i hformat
    obtain ⟨f, hf⟩ := Option.isSome_iff_exists.1 hformat
    obtain ⟨boxes, hboxes⟩ := BoxTable.exists_select h.2
    cases read x.location with
    | none => exact ⟨[], s, rfl⟩
    | some content =>
      simp only [importPlaylist, Playlist.shelve, hf, hboxes]
      exact ⟨_, _, rfl⟩
  · rw [conf.plan_eq]
    cases conf.builder? x with
    | none => exact ⟨[], s, rfl⟩
    | some b =>
      obtain ⟨plan, hplan⟩ := b.exists_plan_ok h o x
      simp only [hplan, carryOutPlan]
      exact ⟨_, _, rfl⟩

end

end MediaShelves
