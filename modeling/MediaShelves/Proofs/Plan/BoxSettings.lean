import Mathlib.Data.List.Induction
import MediaShelves.Proofs.Plan.Boxes

/-!
# Tables from settings

A table that is made of settings has a box for each key that is built in or mentioned.  Each box is made
of the last settings for its key, which lie over the built-in box, and it is normalized.  Boxes that are
put into a table later are normalized as well, so every table is normal that can be made.

Main statement: `settings_overlay_builtin`.
-/

namespace MediaShelves

/-! ## Normal boxes -/

namespace Box

@[simp] theorem key_normalized (b : Box) : b.normalized.key = b.key := rfl

/-- Normalizing a box again changes nothing. -/
theorem normalized_normalized (b : Box) : b.normalized.normalized = b.normalized := by
  simp [normalized]

/-- A box that normalizing leaves as it is keeps both rules. -/
theorem rules_of_normalized {b : Box} (h : b.normalized = b) :
    (b.key ∈ alwaysEnabled → b.enabled = true) ∧ (b.enabled = false → b.searchable = false) := by
  have henabled : (b.enabled || alwaysEnabled.contains b.key) = b.enabled := congrArg enabled h
  have hsearchable : (b.normalized.enabled && b.searchable) = b.searchable := congrArg searchable h
  rw [h] at hsearchable
  constructor
  · intro hroot
    rw [← henabled, List.contains_iff_mem.2 hroot, Bool.or_true]
  · intro hoff
    rw [← hsearchable, hoff, Bool.false_and]

end Box

namespace BoxTable

/-! ## Normal tables -/

/-- Every box of a table is under its own key, and normalized. -/
def Normal (t : BoxTable) : Prop :=
  ∀ key b, t.find? key = some b → b.key = key ∧ b.normalized = b

theorem normal_empty : empty.Normal := by
  intro key b hb
  cases hb

theorem Normal.insert {t : BoxTable} (h : t.Normal) (b : Box) : (t.insert b).Normal := by
  intro key b' hb'
  rw [find?_insert] at hb'
  split at hb'
  · rename_i hkey
    cases hb'
    exact ⟨hkey.symm, b.normalized_normalized⟩
  · exact h key b' hb'

theorem Normal.erase {t : BoxTable} (h : t.Normal) (k : String) : (t.erase k).Normal := by
  intro key b hb
  rw [find?_erase] at hb
  split at hb
  · cases hb
  · exact h key b hb

/-- A box that is normal may be put in as it is. -/
theorem Normal.mk_insert {t : BoxTable} (h : t.Normal) {b : Box} (hb : b.normalized = b) :
    Normal ⟨t.boxes.insert b.key b⟩ := by
  intro key b' hb'
  rw [find?_mk_insert] at hb'
  split at hb'
  · rename_i hkey
    cases hb'
    exact ⟨hkey.symm, hb⟩
  · exact h key b' hb'

theorem normal_builtin : builtin.Normal := by
  have hboxes : ∀ b ∈ Box.builtin, b.normalized = b := by decide
  unfold builtin
  refine List.foldlRecOn Box.builtin _ normal_empty ?_
  intro t ht b hb
  exact ht.mk_insert (hboxes b hb)

/-! ## Look-up in rows of boxes -/

/-- Tables are the same if they have the same boxes under all keys. -/
theorem ext_find? {t u : BoxTable} (h : ∀ key, t.find? key = u.find? key) : t = u := by
  obtain ⟨boxes⟩ := t
  obtain ⟨boxes'⟩ := u
  exact congrArg BoxTable.mk (Keyed.ext_find? h)

/-- What is found in a table stands in it. -/
theorem mem_toList_of_find? {t : BoxTable} {key : String} {b : Box} (h : t.find? key = some b) :
    b ∈ t.toList := by
  obtain ⟨⟨entries, hsorted⟩⟩ := t
  simp only [find?, toList, Keyed.find?, Keyed.values] at h ⊢
  clear hsorted
  -- What is found under a key is the first entry with it.
  induction entries with
  | nil => cases h
  | cons x entries ih =>
    rw [Keyed.lookup] at h
    split at h
    · cases h
      exact List.mem_cons_self ..
    · exact List.mem_cons_of_mem _ (ih h)

/-- The boxes of a normal table are those that are found under their own keys. -/
theorem Normal.mem_toList_iff {t : BoxTable} (h : t.Normal) {b : Box} :
    b ∈ t.toList ↔ t.find? b.key = some b := by
  refine ⟨fun hb => ?_, mem_toList_of_find?⟩
  obtain ⟨⟨key, b⟩, hmem, rfl⟩ := List.mem_map.1 hb
  have hfind : t.find? key = some b := Keyed.find?_of_mem t.boxes hmem
  rw [(h key b hfind).1]
  exact hfind

/-- A search for a key among the boxes of a normal table finds what is under the key. -/
theorem Normal.find?_toList {t : BoxTable} (h : t.Normal) (key : String) :
    (t.toList.find? fun b => b.key = key) = t.find? key := by
  apply Option.ext
  intro b
  constructor
  · intro hb
    have hkey : b.key = key := by
      simpa using List.find?_some hb
    rw [← hkey]
    exact h.mem_toList_iff.1 (List.mem_of_find?_eq_some hb)
  · intro hb
    -- There is a box with this key in the row, and only one is found under the key.
    have hsome : (t.toList.find? fun b => b.key = key).isSome := by
      rw [List.find?_isSome]
      exact ⟨b, mem_toList_of_find? hb, decide_eq_true (h key b hb).1⟩
    obtain ⟨b', hb'⟩ := Option.isSome_iff_exists.1 hsome
    have hkey : b'.key = key := by
      simpa using List.find?_some hb'
    have hfind := h.mem_toList_iff.1 (List.mem_of_find?_eq_some hb')
    rw [hkey, hb] at hfind
    cases hfind
    exact hb'

/-- A box that fills a gap leaves what is there, and is found where nothing is. -/
theorem find?_fill (t : BoxTable) (b : Box) (key : String) :
    (if t.boxes.contains b.key then t else ⟨t.boxes.insert b.key b⟩ : BoxTable).find? key =
      (t.find? key).or (if b.key = key then some b else none) := by
  -- A box is added only under a key that is not taken.
  cases hfind : t.find? b.key with
  | some b' =>
    have hcontains : t.boxes.contains b.key = true := Option.isSome_iff_exists.2 ⟨b', hfind⟩
    rw [if_pos hcontains]
    by_cases hkey : b.key = key
    · rw [← hkey, hfind, Option.some_or]
    · rw [if_neg hkey, Option.or_none]
  | none =>
    have hcontains : t.boxes.contains b.key = false := Option.isSome_eq_false_iff.2 (by
      rw [Option.isNone_iff_eq_none]
      exact hfind)
    rw [if_neg (by simp [hcontains]), find?_mk_insert]
    by_cases hkey : b.key = key
    · rw [← hkey, if_pos rfl, hfind, if_pos rfl, Option.none_or]
    · rw [if_neg (Ne.symm hkey), if_neg hkey, Option.or_none]

/-- Of the boxes that fill the gaps of a table the first one for a key counts. -/
theorem find?_foldl_fill (bs : List Box) (t : BoxTable) (key : String) :
    (bs.foldl (fun t b => if t.boxes.contains b.key then t else ⟨t.boxes.insert b.key b⟩) t).find?
        key = (t.find? key).or (bs.find? fun b => b.key = key) := by
  induction bs generalizing t with
  | nil => exact Option.or_none.symm
  | cons b bs ih =>
    rw [List.foldl_cons, ih, find?_fill, Option.or_assoc, List.find?_cons]
    by_cases hkey : b.key = key
    · rw [if_pos hkey, decide_eq_true hkey, Option.some_or]
    · rw [if_neg hkey, decide_eq_false hkey, Option.none_or]

end BoxTable

/-! ## Settings -/

/-- The last of some settings that are for a key. -/
def BoxSettings.last? (settings : List BoxSettings) (key : String) : Option BoxSettings :=
  settings.reverse.find? fun s => s.key = key

section

variable {settings : List BoxSettings} {key : String}

theorem BoxSettings.key_of_last? {s : BoxSettings} (h : last? settings key = some s) :
    s.key = key := by
  simpa using List.find?_some h

theorem BoxSettings.isSome_last? :
    (last? settings key).isSome = true ↔ ∃ s ∈ settings, s.key = key := by
  simp [last?]

/-- Settings that are not the last ones for their key might as well be missing. -/
theorem BoxSettings.last?_of_repeated {front back : List BoxSettings} {s : BoxSettings}
    (h : ∃ s' ∈ back, s'.key = s.key) (key : String) :
    last? (front ++ s :: back) key = last? (front ++ back) key := by
  simp only [last?, List.reverse_append, List.reverse_cons, List.find?_append, List.append_assoc]
  by_cases hkey : s.key = key
  · -- What is searched for is found behind these settings.
    obtain ⟨s', hs', hsame⟩ := h
    have hsome : (back.reverse.find? fun s => s.key = key).isSome := by
      rw [List.find?_isSome]
      exact ⟨s', List.mem_reverse.2 hs', decide_eq_true (hsame.trans hkey)⟩
    obtain ⟨last, hlast⟩ := Option.isSome_iff_exists.1 hsome
    rw [hlast, Option.some_or, Option.some_or]
  · have hnone : [s].find? (fun s => s.key = key) = none := by simp [hkey]
    rw [hnone, Option.none_or]

end

/-- The box that settings for a key lie over: the built-in one, or else a plain one. -/
def BoxTable.baseBox (key : String) : Box :=
  (builtin.find? key).getD (Box.plain key key UpnpClass.container)

/--
A box is made of a base: each field is what the settings say, if there are any and they say it, and else
that of the base.  But a root box is enabled, and a box that is not enabled is not searchable.
-/
structure Box.Overlays (b : Box) (s : Option BoxSettings) (base : Box) : Prop where
  key : b.key = base.key
  title : b.title = (s.bind (·.title)).getD base.title
  upnpClass : b.upnpClass = (s.bind (·.upnpClass)).getD base.upnpClass
  enabled : b.enabled = true ↔
    (s.bind (·.enabled)).getD base.enabled = true ∨ b.key ∈ Box.alwaysEnabled
  searchable : b.searchable = true ↔
    b.enabled = true ∧ (s.bind (·.searchable)).getD base.searchable = true
  pinned : b.pinned = (s.bind (·.pinned)).or base.pinned
  shortcut : b.shortcut = (s.bind (·.shortcut)).or base.shortcut
  sortKey : b.sortKey = (s.bind (·.sortKey)).or base.sortKey
  size : b.size = (s.bind (·.size)).getD base.size

/-- A normal box lies over itself. -/
theorem Box.overlays_self {b : Box} (h : b.normalized = b) : b.Overlays none b where
  key := rfl
  title := rfl
  upnpClass := rfl
  enabled := ⟨.inl, fun henabled => henabled.elim id (rules_of_normalized h).1⟩
  searchable := by
    refine ⟨fun hsearchable => ⟨?_, hsearchable⟩, And.right⟩
    -- It would not be searchable if it were not enabled.
    by_contra hoff
    rw [Bool.not_eq_true] at hoff
    rw [(rules_of_normalized h).2 hoff] at hsearchable
    cases hsearchable
  pinned := rfl
  shortcut := rfl
  sortKey := rfl
  size := rfl

namespace BoxTable

/-- What settings make of a base is normalized in the end. -/
theorem overlays_settingsBox (s : BoxSettings) (fallback : Option Box) :
    (settingsBox s fallback).normalized.Overlays (some s)
      (fallback.getD (Box.plain s.key s.key UpnpClass.container)) where
  -- Only the two flags are touched by the normal form; all else is read off the settings.
  key := rfl
  title := rfl
  upnpClass := rfl
  enabled := by
    simp only [Box.normalized, Bool.or_eq_true, List.contains_iff_mem]
    rfl
  searchable := by
    simp only [Box.normalized, Bool.and_eq_true]
    rfl
  pinned := rfl
  shortcut := rfl
  sortKey := rfl
  size := rfl

/-- Settings are for the key of the box that they lie over. -/
theorem key_settingsBox (s : BoxSettings) : (settingsBox s (builtin.find? s.key)).key = s.key := by
  cases hfind : builtin.find? s.key with
  | none => rfl
  | some b => exact (normal_builtin s.key b hfind).1

/-- Of the settings for a key the last ones count. -/
theorem find?_foldl_settings (settings : List BoxSettings) (key : String) :
    (settings.foldl (fun t s => t.insert (settingsBox s (builtin.find? s.key))) empty).find? key =
      (BoxSettings.last? settings key).map fun s =>
        (settingsBox s (builtin.find? s.key)).normalized := by
  -- The last settings are put in after all others.
  induction settings using List.reverseRecOn with
  | nil => rfl
  | append_singleton settings s ih =>
    rw [List.foldl_append, List.foldl_cons, List.foldl_nil, find?_insert, key_settingsBox,
      BoxSettings.last?, List.reverse_concat, List.find?_cons]
    by_cases hkey : s.key = key
    · rw [if_pos hkey.symm, decide_eq_true hkey, Option.map_some]
    · rw [if_neg (Ne.symm hkey), decide_eq_false hkey]
      exact ih

/-- What is under a key: what the last settings make of the built-in box, else that box. -/
theorem find?_ofSettings (settings : List BoxSettings) (key : String) :
    (ofSettings settings).find? key =
      ((BoxSettings.last? settings key).map fun s =>
        (settingsBox s (builtin.find? s.key)).normalized).or (builtin.find? key) := by
  rw [ofSettings, find?_foldl_fill, find?_foldl_settings, normal_builtin.find?_toList]

/-- Each key of a table of settings is either that of some settings or built in. -/
theorem find?_ofSettings_cases {settings : List BoxSettings} {key : String} {b : Box}
    (h : (ofSettings settings).find? key = some b) :
    (∃ s, BoxSettings.last? settings key = some s ∧ s.key = key ∧
        b = (settingsBox s (builtin.find? s.key)).normalized) ∨
      BoxSettings.last? settings key = none ∧ builtin.find? key = some b := by
  rw [find?_ofSettings] at h
  cases hlast : BoxSettings.last? settings key with
  | none =>
    rw [hlast, Option.map_none, Option.none_or] at h
    exact .inr ⟨rfl, h⟩
  | some s =>
    rw [hlast, Option.map_some, Option.some_or] at h
    exact .inl ⟨s, rfl, BoxSettings.key_of_last? hlast, (Option.some.inj h).symm⟩

theorem normal_ofSettings (settings : List BoxSettings) : (ofSettings settings).Normal := by
  intro key b hb
  obtain ⟨s, -, rfl, rfl⟩ | ⟨-, hbuiltin⟩ := find?_ofSettings_cases hb
  · rw [Box.key_normalized]
    exact ⟨key_settingsBox s, Box.normalized_normalized _⟩
  · exact normal_builtin key b hbuiltin

/-- A box of a table of settings is made of the last settings for its key. -/
theorem overlays_of_find? {settings : List BoxSettings} {key : String} {b : Box}
    (h : (ofSettings settings).find? key = some b) :
    b.Overlays (BoxSettings.last? settings key) (baseBox key) := by
  obtain ⟨s, hlast, rfl, rfl⟩ | ⟨hlast, hbuiltin⟩ := find?_ofSettings_cases h
  · rw [hlast]
    exact overlays_settingsBox s _
  · rw [hlast, baseBox, hbuiltin]
    exact Box.overlays_self (normal_builtin key b hbuiltin).2

end BoxTable

/-! ## Changes -/

/-- A change to a table of boxes. -/
inductive BoxChange where
  | insert (b : Box)
  | erase (key : String)

namespace BoxTable

/-- Carries out a change. -/
def change (t : BoxTable) : BoxChange → BoxTable
  | .insert b => t.insert b
  | .erase key => t.erase key

/-- Carries out changes one after another. -/
def changeAll (t : BoxTable) (changes : List BoxChange) : BoxTable :=
  changes.foldl change t

theorem normal_change {t : BoxTable} (h : t.Normal) (e : BoxChange) : (t.change e).Normal := by
  cases e with
  | insert b => exact h.insert b
  | erase key => exact h.erase key

theorem normal_changeAll {t : BoxTable} (h : t.Normal) (changes : List BoxChange) :
    (t.changeAll changes).Normal := by
  induction changes generalizing t with
  | nil => exact h
  | cons e changes ih => exact ih (normal_change h e)

/--
**A table of settings is complete, and every table is normal.**  For all lists of settings: the table
has the built-in keys and those of the settings, and no other ones.  Under each key the fields are
those of the last settings for it, as far as these have them, else those of the built-in box, and for a
key that is not built in those of a plain box that is titled by the key; root boxes are enabled and
disabled boxes not searchable.  Earlier settings for a key have no effect.  And whatever boxes are put in
and removed from then on, each box is under its own key, each root box that is there is enabled, and no
disabled box is searchable.
-/
theorem settings_overlay_builtin (settings : List BoxSettings) :
    (∀ key, ((ofSettings settings).find? key).isSome = true ↔
      key ∈ Box.builtin.map (·.key) ∨ ∃ s ∈ settings, s.key = key) ∧
    (∀ key b, (ofSettings settings).find? key = some b →
      b.Overlays (BoxSettings.last? settings key)
        ((builtin.find? key).getD (Box.plain key key UpnpClass.container))) ∧
    (∀ front s back, settings = front ++ s :: back → (∃ s' ∈ back, s'.key = s.key) →
      ofSettings settings = ofSettings (front ++ back)) ∧
    ∀ (changes : List BoxChange) (key : String) (b : Box),
      ((ofSettings settings).changeAll changes).find? key = some b →
        b.key = key ∧ (key ∈ Box.alwaysEnabled → b.enabled = true) ∧
          (b.enabled = false → b.searchable = false) := by
  refine ⟨fun key => ?_, fun key b hb => overlays_of_find? hb, ?_, ?_⟩
  · -- A key is there if it is set or built in, and what is set is looked up first.
    rw [find?_ofSettings, Option.isSome_or, Option.isSome_map, isSome_find?_builtin,
      Bool.or_eq_true, BoxSettings.isSome_last?, List.contains_iff_mem]
    exact Or.comm
  · rintro front s back rfl hrepeated
    apply ext_find?
    intro key
    rw [find?_ofSettings, find?_ofSettings, BoxSettings.last?_of_repeated hrepeated]
  · intro changes key b hb
    obtain ⟨rfl, hnormal⟩ := normal_changeAll (normal_ofSettings settings) changes key b hb
    exact ⟨rfl, Box.rules_of_normalized hnormal⟩

end BoxTable

end MediaShelves
