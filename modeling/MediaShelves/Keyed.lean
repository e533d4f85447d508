/-!
# Keyed tables

Finite maps from text keys to values, kept as one list in strictly increasing key order.  A table is
determined by its look-ups (`Keyed.ext_find?`), so two histories that leave the same values under
the same keys leave equal tables.
-/

namespace MediaShelves

/-- A finite map from text keys to values, in key order. -/
structure Keyed (α : Type) where
  entries : List (String × α)
  sorted : entries.Pairwise fun a b => a.1 < b.1
deriving DecidableEq, Repr

namespace Keyed

variable {α β : Type}

/-! ## Look-up -/

/-- The table without entries. -/
def empty : Keyed α :=
  ⟨[], .nil⟩

instance : Inhabited (Keyed α) :=
  ⟨empty⟩

/-- The value under `key` in a list of entries. -/
def lookup (key : String) : List (String × α) → Option α
  | [] => none
  | (k, v) :: rest => if key = k then some v else lookup key rest

/-- The value under `key`. -/
def find? (t : Keyed α) (key : String) : Option α :=
  lookup key t.entries

/-- Whether there is a value under `key`. -/
def contains (t : Keyed α) (key : String) : Bool :=
  (t.find? key).isSome

/-- The number of keys. -/
def size (t : Keyed α) : Nat :=
  t.entries.length

/-- Whether there is no key at all. -/
def isEmpty (t : Keyed α) : Bool :=
  t.entries.isEmpty

/-- The keys in increasing order. -/
def keys (t : Keyed α) : List String :=
  t.entries.map (·.1)

/-- The values in key order. -/
def values (t : Keyed α) : List α :=
  t.entries.map (·.2)

/-! ## Insertion -/

/-- Puts a value at its place in a sorted list, in the stead of one with the same key. -/
def insertEntry (key : String) (value : α) : List (String × α) → List (String × α)
  | [] => [(key, value)]
  | (k, v) :: rest =>
    if key < k then (key, value) :: (k, v) :: rest
    else if key = k then (key, value) :: rest
    else (k, v) :: insertEntry key value rest

/-- Insertion adds no key but its own. -/
theorem mem_insertEntry {key : String} {value : α} {xs : List (String × α)} {x : String × α}
    (h : x ∈ insertEntry key value xs) : x.1 = key ∨ x ∈ xs := by
  induction xs with
  | nil => simp_all [insertEntry]
  | cons y ys ih =>
    obtain ⟨k, v⟩ := y
    simp only [insertEntry] at h
    -- Before the first entry, in its place or behind it.
    split at h
    · rcases List.mem_cons.1 h with rfl | h
      · exact .inl rfl
      · exact .inr h
    · split at h
      · rcases List.mem_cons.1 h with rfl | h
        · exact .inl rfl
        · exact .inr (List.mem_cons_of_mem _ h)
      · rcases List.mem_cons.1 h with rfl | h
        · exact .inr (List.mem_cons_self ..)
        · rcases ih h with h | h
          · exact .inl h
          · exact .inr (List.mem_cons_of_mem _ h)

/-- Of two different keys that are not in order, the other order holds. -/
theorem lt_of_not_lt_of_ne {a b : String} (h : ¬ a < b) (hne : a ≠ b) : b < a := by
  refine String.not_le.1 fun hle => hne ?_
  exact String.le_antisymm hle (String.not_lt.1 h)

/-- Insertion keeps the order. -/
theorem sorted_insertEntry {key : String} {value : α} {xs : List (String × α)}
    (h : xs.Pairwise fun a b => a.1 < b.1) :
    (insertEntry key value xs).Pairwise fun a b => a.1 < b.1 := by
  induction xs with
  | nil => simp [insertEntry]
  | cons y ys ih =>
    obtain ⟨k, v⟩ := y
    obtain ⟨hhead, htail⟩ := List.pairwise_cons.1 h
    simp only [insertEntry]
    -- The new key comes first, or takes the place of itself, or goes further down.
    split
    · rename_i hlt
      refine List.pairwise_cons.2 ⟨fun x hx => ?_, h⟩
      rcases List.mem_cons.1 hx with rfl | hx
      · exact hlt
      · exact String.lt_trans hlt (hhead x hx)
    · split
      · rename_i heq
        exact List.pairwise_cons.2 ⟨fun x hx => heq ▸ hhead x hx, htail⟩
      · rename_i hnlt hne
        refine List.pairwise_cons.2 ⟨fun x hx => ?_, ih htail⟩
        rcases mem_insertEntry hx with hx | hx
        · exact hx ▸ lt_of_not_lt_of_ne hnlt hne
        · exact hhead x hx

/-- Sets the value under `key`. -/
def insert (t : Keyed α) (key : String) (value : α) : Keyed α :=
  ⟨insertEntry key value t.entries, sorted_insertEntry t.sorted⟩

/-- The table of a list of entries, later ones winning. -/
def ofList (xs : List (String × α)) : Keyed α :=
  xs.foldl (fun t x => t.insert x.1 x.2) empty

/-- Sets every value of `other`. -/
def overlay (t other : Keyed α) : Keyed α :=
  other.entries.foldl (fun t x => t.insert x.1 x.2) t

/-! ## Removal -/

/-- Removes the value under `key`. -/
def erase (t : Keyed α) (key : String) : Keyed α :=
  ⟨t.entries.filter (fun x => x.1 ≠ key), t.sorted.filter _⟩

/-! ## Laws of look-up -/

@[simp] theorem find?_empty (key : String) : (empty : Keyed α).find? key = none := rfl

/-- A list whose keys are all greater does not have the key. -/
theorem lookup_eq_none {key : String} {xs : List (String × α)}
    (h : ∀ x ∈ xs, key < x.1) : lookup key xs = none := by
  induction xs with
  | nil => rfl
  | cons y ys ih =>
    obtain ⟨k, v⟩ := y
    have hk : key ≠ k := fun he => String.lt_irrefl k (he ▸ h (k, v) (List.mem_cons_self ..))
    simp [lookup, hk, ih fun x hx => h x (List.mem_cons_of_mem _ hx)]

/-- What stands in a table is found under its key. -/
theorem find?_of_mem (t : Keyed α) {key : String} {value : α} (h : (key, value) ∈ t.entries) :
    t.find? key = some value := by
  obtain ⟨xs, hsorted⟩ := t
  simp only [find?] at h ⊢
  induction xs with
  | nil => cases h
  | cons x xs ih =>
    obtain ⟨hx, hxs⟩ := List.pairwise_cons.1 hsorted
    rcases List.mem_cons.1 h with rfl | hmem
    · exact if_pos rfl
    · -- The keys of later entries are greater.
      have hlt : x.1 < key := hx (key, value) hmem
      have hne : key ≠ x.1 := fun heq => String.lt_irrefl x.1 (heq ▸ hlt)
      rw [lookup, if_neg hne]
      exact ih hxs hmem

/-- After insertion the key has the new value and every other key its old one. -/
theorem lookup_insertEntry (key : String) (value : α) (xs : List (String × α)) (k : String) :
    lookup k (insertEntry key value xs) = if k = key then some value else lookup k xs := by
  induction xs with
  | nil => simp [insertEntry, lookup]
  | cons y ys ih =>
    obtain ⟨k', v'⟩ := y
    simp only [insertEntry]
    -- The entry goes in front, or replaces the first one, or the rest decides.
    split
    · by_cases h : k = key <;> simp [lookup, h]
    · split
      · rename_i heq
        subst heq
        by_cases h : k = key <;> simp [lookup, h]
      · rename_i hne
        by_cases h : k = key
        · subst h
          simp [lookup, hne, ih]
        · by_cases h' : k = k'
          · subst h'
            simp [lookup, h]
          · simp [lookup, h, h', ih]

@[simp] theorem find?_insert (t : Keyed α) (key : String) (value : α) (k : String) :
    (t.insert key value).find? k = if k = key then some value else t.find? k :=
  lookup_insertEntry key value t.entries k

/-- After removal the key has no value and every other key its old one. -/
theorem lookup_filter_ne (key : String) (xs : List (String × α)) (k : String) :
    lookup k (xs.filter fun x => x.1 ≠ key) = if k = key then none else lookup k xs := by
  induction xs with
  | nil => simp [lookup]
  | cons y ys ih =>
    obtain ⟨k', v'⟩ := y
    simp only [ne_eq, decide_not] at ih
    -- The first entry is left out, or stays in front of what is left of the rest.
    by_cases h : k' = key
    · subst h
      by_cases h' : k = k'
      · subst h'
        simpa [lookup] using ih
      · simp [lookup, h', ih]
    · by_cases h' : k = k'
      · subst h'
        simp [lookup, h]
      · simp [lookup, h, h', ih]

@[simp] theorem find?_erase (t : Keyed α) (key k : String) :
    (t.erase key).find? k = if k = key then none else t.find? k :=
  lookup_filter_ne key t.entries k

/-- Insertion of many entries: of entries under different keys the one under `k` is found. -/
theorem find?_foldl_insert (xs : List (String × α)) (t : Keyed α) (k : String)
    (h : xs.Pairwise fun a b => a.1 < b.1) :
    (xs.foldl (fun t x => t.insert x.1 x.2) t).find? k = (lookup k xs).or (t.find? k) := by
  induction xs generalizing t with
  | nil => rfl
  | cons x xs ih =>
    obtain ⟨hx, hxs⟩ := List.pairwise_cons.1 h
    rw [List.foldl_cons, ih _ hxs, find?_insert]
    by_cases hk : k = x.1
    · subst hk
      simp [lookup, lookup_eq_none hx]
    · simp [lookup, hk]

/-- Of several entries under one key the last one is found. -/
theorem find?_foldl_insert_getLast? (xs : List (String × α)) (t : Keyed α) (k : String) :
    (xs.foldl (fun t x => t.insert x.1 x.2) t).find? k =
      ((xs.filter fun x => x.1 = k).getLast?.map (·.2)).or (t.find? k) := by
  induction xs generalizing t with
  | nil => rfl
  | cons x xs ih =>
    rw [List.foldl_cons, ih, find?_insert]
    by_cases hk : x.1 = k
    · -- The first entry counts only where the rest has none under the key.
      cases hrest : (xs.filter fun x => x.1 = k).getLast? <;>
        simp [hk, hrest, List.getLast?_cons]
    · simp [hk, Ne.symm hk]

theorem find?_ofList (xs : List (String × α)) (k : String) :
    (ofList xs).find? k = (xs.filter fun x => x.1 = k).getLast?.map (·.2) := by
  rw [ofList, find?_foldl_insert_getLast?, find?_empty, Option.or_none]

@[simp] theorem find?_overlay (t other : Keyed α) (k : String) :
    (t.overlay other).find? k = (other.find? k).or (t.find? k) :=
  find?_foldl_insert other.entries t k other.sorted

/-! ## Extensionality -/

/-- Sorted lists with the same look-ups are equal. -/
theorem entries_ext {xs ys : List (String × α)} (hx : xs.Pairwise fun a b => a.1 < b.1)
    (hy : ys.Pairwise fun a b => a.1 < b.1) (h : ∀ k, lookup k xs = lookup k ys) : xs = ys := by
  induction xs generalizing ys with
  | nil =>
    cases ys with
    | nil => rfl
    | cons y ys => simpa [lookup] using h y.1
  | cons x xs ih =>
    obtain ⟨k, v⟩ := x
    cases ys with
    | nil => simpa [lookup] using h k
    | cons y ys =>
      obtain ⟨k', v'⟩ := y
      obtain ⟨hx₁, hx₂⟩ := List.pairwise_cons.1 hx
      obtain ⟨hy₁, hy₂⟩ := List.pairwise_cons.1 hy
      -- The lesser of two different first keys would have a value in one list only.
      have hk : k = k' := by
        refine Classical.byContradiction fun hne => ?_
        by_cases hlt : k < k'
        · have h₁ := h k
          have h₂ : lookup k ys = none :=
            lookup_eq_none fun x hm => String.lt_trans hlt (hy₁ x hm)
          simp [lookup, hne, h₂] at h₁
        · have hgt := lt_of_not_lt_of_ne hlt hne
          have h₁ := h k'
          have h₂ : lookup k' xs = none :=
            lookup_eq_none fun x hm => String.lt_trans hgt (hx₁ x hm)
          simp [lookup, Ne.symm hne, h₂] at h₁
      subst hk
      have hv : v = v' := by simpa [lookup] using h k
      subst hv
      -- Below the first entry the look-ups agree, for the first key by its absence.
      refine congrArg _ (ih hx₂ hy₂ fun j => ?_)
      by_cases hj : j = k
      · subst hj
        rw [lookup_eq_none fun x hm => hx₁ x hm, lookup_eq_none fun x hm => hy₁ x hm]
      · simpa [lookup, hj] using h j

/-- A table is determined by its look-ups. -/
theorem ext_find? {t u : Keyed α} (h : ∀ k, t.find? k = u.find? k) : t = u := by
  obtain ⟨xs, hx⟩ := t
  obtain ⟨ys, hy⟩ := u
  obtain rfl := entries_ext hx hy h
  rfl

/-! ## Laws of insertion -/

/-- The values of a table put into the table without entries. -/
theorem empty_overlay (t : Keyed α) : empty.overlay t = t := by
  apply ext_find?
  intro k
  rw [find?_overlay, find?_empty, Option.or_none]

/-- Of two values under one key the later one is left. -/
theorem insert_insert (t : Keyed α) (key : String) (value value' : α) :
    (t.insert key value).insert key value' = t.insert key value' := by
  apply ext_find?
  intro k
  simp only [find?_insert]
  split <;> rfl

/-- Values under different keys may be set in either order. -/
theorem insert_comm (t : Keyed α) {key key' : String} (h : key ≠ key') (value value' : α) :
    (t.insert key value).insert key' value' = (t.insert key' value').insert key value := by
  apply ext_find?
  intro k
  simp only [find?_insert]
  split
  · rename_i hk
    subst hk
    rw [if_neg (Ne.symm h)]
  · rfl

end Keyed

end MediaShelves
