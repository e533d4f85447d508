import MediaShelves.Playlist.Shelving
import MediaShelves.Proofs.Playlist.FieldRuns

/-!
# The positions of entries

Two formats give their entries no positions (`Format.order_entries`).  In the third each entry has as
its position the number of the field that its location stands in (`Pls.exists_field`).
-/

namespace MediaShelves.Playlist

/-! ## Formats without positions -/

/-- Lines of the extended format give no position. -/
theorem M3u.order_readLines {pending : Option M3u.Info} {lines : List (List Char)} :
    ∀ e ∈ M3u.readLines pending lines, e.order = none := by
  fun_induction M3u.readLines pending lines with
  | case1 => simp
  | case2 _ _ ih => exact ih
  | case3 _ _ _ ih => exact ih
  | case4 pending line rest _ _ ih =>
    intro e he
    rcases List.mem_cons.1 he with rfl | he
    · cases pending <;> rfl
    · exact ih e he

namespace Asx.State

/-- Neither the entry that is being read nor any that was found has a position. -/
def Unnumbered (st : State) : Prop :=
  st.current.order = none ∧ ∀ e ∈ st.found, e.order = none

theorem unnumbered_start : start.Unnumbered :=
  ⟨rfl, by simp [start]⟩

/-- No parameter is a position. -/
theorem order_setParameter (name value : List Char) (e : Entry) :
    (setParameter name value e).order = e.order := by
  simp only [setParameter]
  repeat' split
  all_goals rfl

section

variable {st : State} (h : st.Unnumbered)

include h

/-- No start tag gives a position. -/
theorem Unnumbered.opened (name : String) (attributes : List Xml.Attribute) :
    (st.opened name attributes).Unnumbered := by
  unfold State.opened
  split
  · split <;> exact h
  · split
    · exact ⟨rfl, h.2⟩
    · split <;> exact h
  · split
    · exact h
    · split
      · split
        · split <;> exact h
        · exact h
      · split
        · exact h
        · split
          · exact h
          · split
            · -- A parameter is set wherever it belongs.
              split
              · exact ⟨(order_setParameter ..).trans h.1, h.2⟩
              · exact h
            · exact h

/-- No end tag gives one, though it may end an entry. -/
theorem Unnumbered.closed (name : String) : (st.closed name).Unnumbered := by
  unfold State.closed
  split
  · -- The end of an entry finds it and begins a blank one.
    refine ⟨rfl, ?_⟩
    intro e he
    dsimp only at he
    split at he
    · exact h.2 e he
    · rcases List.mem_cons.1 he with rfl | he
      · exact h.1
      · exact h.2 e he
  · split
    · exact h
    · split <;> exact h

theorem Unnumbered.withText (content : List Char) : (st.withText content).Unnumbered := by
  unfold State.withText
  dsimp only
  split <;> exact h

/-- Nothing that is read gives a position. -/
theorem Unnumbered.step (e : Xml.Event) : (st.step e).Unnumbered := by
  cases e with
  | opened name attributes => exact h.opened (lowerName name) attributes
  | empty name attributes => exact (h.opened (lowerName name) attributes).closed (lowerName name)
  | closed name => exact h.closed (lowerName name)
  | text content => exact h.withText content

theorem Unnumbered.foldl_step (es : List Xml.Event) : (es.foldl State.step st).Unnumbered := by
  induction es generalizing st with
  | nil => exact h
  | cons e es ih => exact ih (h.step e)

end

end Asx.State

/-- Entries of an XML playlist have no positions. -/
theorem Asx.order_entries {text : String} {es : List Entry} (hes : Asx.entries? text = some es) :
    ∀ e ∈ es, e.order = none := by
  simp only [Asx.entries?] at hes
  split at hes
  · cases hes
    intro e he
    rw [List.mem_reverse] at he
    exact (State.unnumbered_start.foldl_step _).2 e he
  · cases hes

/-- Of the three formats only one gives its entries positions. -/
theorem Format.order_entries {f : Format} (hf : f ≠ .pls) (text : String) :
    ∀ e ∈ (f.entries? text).getD [], e.order = none := by
  cases f with
  | m3u => exact M3u.order_readLines
  | pls => exact absurd rfl hf
  | asx =>
    intro e he
    cases hes : Asx.entries? text with
    | none =>
      rw [Format.entries?, hes] at he
      cases he
    | some es =>
      rw [Format.entries?, hes] at he
      exact Asx.order_entries hes e he

/-! ## The format with positions -/

namespace Pls

/--
An entry that some fields with one number have filled: the number is its position, and the location
stands in one of the fields, if there is a location yet.
-/
def OfFields (fs : List Field) (index : Nat) (e : Entry) : Prop :=
  e.order = some index ∧
    (e.location = "" ∨
      ∃ f ∈ fs, f.name = .file ∧ f.index = index ∧ e.location = String.ofList f.value)

variable {fs : List Field}

theorem ofFields_blankEntry (index : Nat) : OfFields fs index (blankEntry index) :=
  ⟨rfl, .inl rfl⟩

/-- One field more with its number leaves it such an entry. -/
theorem OfFields.fill {f : Field} (hf : f ∈ fs) {e : Entry} (he : OfFields fs f.index e) :
    OfFields fs f.index (f.fill e) := by
  obtain ⟨horder, hlocation⟩ := he
  -- Only the name of a file says where an entry lies, and no field changes its position.
  cases hname : f.name with
  | file =>
    simp only [OfFields, Field.fill, hname]
    exact ⟨horder, .inr ⟨f, hf, hname, rfl, rfl⟩⟩
  | title =>
    simp only [OfFields, Field.fill, hname]
    exact ⟨horder, hlocation⟩
  | mimetype =>
    simp only [OfFields, Field.fill, hname]
    exact ⟨horder, hlocation⟩
  | length =>
    simp only [OfFields, Field.fill, hname]
    exact ⟨horder, hlocation⟩

/-- Collecting fields completes one entry after another. -/
theorem ofFields_collect {rest : List Field} (hrest : rest ⊆ fs) {current : Option Entry}
    (hcurrent : ∀ e, current = some e → ∃ index, OfFields fs index e) :
    ∀ e ∈ collect current rest, ∃ index, OfFields fs index e := by
  induction rest generalizing current with
  | nil =>
    intro e he
    exact hcurrent e (Option.mem_toList.1 he)
  | cons f rest ih =>
    obtain ⟨hf, hrest⟩ := List.cons_subset.1 hrest
    -- A field begins an entry of its own, or goes to the one before it.
    have hfresh : ∀ e, some (f.fill (blankEntry f.index)) = some e → ∃ index, OfFields fs index e := by
      intro e he
      cases he
      exact ⟨f.index, (ofFields_blankEntry f.index).fill hf⟩
    cases current with
    | none => exact ih hrest hfresh
    | some e =>
      obtain ⟨index, he⟩ := hcurrent e rfl
      simp only [collect]
      split
      · -- The field belongs to the entry that has begun.
        rename_i hsame
        rw [he.1] at hsame
        cases hsame
        apply ih hrest
        intro e' he'
        cases he'
        exact ⟨f.index, he.fill hf⟩
      · intro e' he'
        rcases List.mem_cons.1 he' with rfl | he'
        · exact ⟨index, he⟩
        · exact ih hrest hfresh e' he'

/-- The position of an entry is the number of the field that its location stands in. -/
theorem exists_field {text : String} {lines : List (List Char)} (hlines : TextLines text lines)
    {e : Entry} (he : e ∈ entries text) :
    ∃ line ∈ lines, ∃ f, Spells line f ∧ f.name = .file ∧ e.order = some f.index ∧
      e.location = String.ofList f.value := by
  obtain ⟨he, hlocation⟩ := List.mem_filter.1 he
  obtain ⟨index, horder, hempty | ⟨f, hf, hname, rfl, hvalue⟩⟩ :=
    ofFields_collect (List.Subset.refl _) (fun _ h => by cases h) e he
  · simp [hempty] at hlocation
  · rw [filterMap_trimmedLines hlines] at hf
    obtain ⟨line, hline, hread⟩ := List.mem_filterMap.1 hf
    exact ⟨line, hline, f, ofLine?_sound hread, hname, horder, hvalue⟩

end Pls

end MediaShelves.Playlist
