import MediaShelves.Pattern

/-!
# Searching with a list of marks

The search marks the spots that it has tried in a hash set, where they lie in buckets by a hash that
depends on the machine.  It only asks whether a spot is marked, so that the spots tried so far may as
well be kept in a list.

Main statement: a pattern has the same leftmost match in a text either way (`match?_eq_listed`).
-/

namespace MediaShelves.Pattern

/-! ## Marks -/

/-- The spots that are marked are those of a list. -/
def Marks (marked : Std.HashSet Spot) (tried : List Spot) : Prop :=
  ∀ spot, marked.contains spot = tried.contains spot

theorem marks_empty : Marks ∅ [] :=
  fun _ => Std.HashSet.contains_empty

/-- A spot that is tried is one spot more, among the marks and in the list. -/
theorem Marks.insert {marked : Std.HashSet Spot} {tried : List Spot} (h : Marks marked tried)
    (spot : Spot) : Marks (marked.insert spot) (spot :: tried) := by
  intro other
  rw [Std.HashSet.contains_insert, List.contains_cons, h other, BEq.comm]

/-! ## The search -/

variable (program : Code) (text : Array Char)

/-- Tries threads in order, and keeps the spots that were tried in a list. -/
def exploreListed : (budget : Nat) → (tried : List Spot) → List Thread → Option (List (Nat × Nat))
  | 0, _, _ => none
  | _ + 1, _, [] => none
  | budget + 1, tried, t :: rest =>
    if tried.contains t.spot then exploreListed budget tried rest
    else
      match t.step program text with
      | .inl notes => some notes
      | .inr threads => exploreListed budget (t.spot :: tried) (threads ++ rest)

/-- **Marks may be kept in a list.** -/
theorem explore_eq_listed {marked : Std.HashSet Spot} {tried : List Spot} (h : Marks marked tried)
    (budget : Nat) (threads : List Thread) :
    explore program text budget marked threads =
      exploreListed program text budget tried threads := by
  -- Each thread asks for one spot, and the marks say the same of it as the list.
  induction budget generalizing marked tried threads with
  | zero => rfl
  | succ budget ih =>
    cases threads with
    | nil => rfl
    | cons t rest =>
      rw [explore, exploreListed, h t.spot]
      split
      · exact ih h rest
      · cases t.step program text with
        | inl notes => rfl
        | inr more => exact ih (h.insert t.spot) (more ++ rest)

/-- The notes of the leftmost match, with the spots that were tried in a list. -/
def searchListed : Option (List (Nat × Nat)) :=
  let spots := (program.size + 1) * (text.size + 1)
  exploreListed program text (3 * spots + text.size + 2) [] (startThreads text)

/-- The search starts without marks, so that the list is empty. -/
theorem search_eq_listed : search program text = searchListed program text :=
  explore_eq_listed program text marks_empty _ _

/-! ## Matches -/

/-- **The leftmost match in a text is found with a list of marks.** -/
theorem match?_eq_listed (p : Pattern) (value : String) :
    p.match? value = (searchListed p.program value.toList.toArray).map fun notes =>
      ⟨value.toList.toArray, notes⟩ := by
  rw [match?, search_eq_listed]

/-- So is whether there is one. -/
theorem occursIn_eq_listed (p : Pattern) (value : String) :
    p.occursIn value = (searchListed p.program value.toList.toArray).isSome := by
  rw [occursIn, match?_eq_listed, Option.isSome_map]

end MediaShelves.Pattern
