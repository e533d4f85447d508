import MediaShelves.Text.CodeTable

/-!
# Sets of code points

A set is the ascending list of the code points at which membership changes, beginning outside.  All
set operations are one merge of two such lists; `contains_combine` says that it does to members what
its argument does to truth values.
-/

namespace MediaShelves.Text

/-! ## Membership in lists of changes -/

/-- Membership of `n`, where `inside` tells it before the first change. -/
def insideAt (inside : Bool) : (flips : List Nat) → (n : Nat) → Bool
  | [], _ => inside
  | flip :: flips, n => if n < flip then inside else insideAt (!inside) flips n

/-- Before the first change nothing has changed. -/
theorem insideAt_of_lt {inside : Bool} {flips : List Nat} {n : Nat} (h : ∀ f ∈ flips, n < f) :
    insideAt inside flips n = inside := by
  cases flips with
  | nil => rfl
  | cons f fs => simp [insideAt, h f (by simp)]

/-! ## Merging -/

/-- The changes of a truth function whose argument changes at `flips`. -/
def mapFlips (g : Bool → Bool) (flips : List Nat) : List Nat :=
  if g true = g false then [] else flips

/-- Puts a change in front where one happens. -/
def addFlip (changes : Bool) (flip : Nat) (flips : List Nat) : List Nat :=
  if changes then flip :: flips else flips

/-- The changes of a truth function of two arguments, which are `a` and `b` before the first one. -/
def combineFlips (op : Bool → Bool → Bool) (a b : Bool) : List Nat → List Nat → List Nat
  | [], ys => mapFlips (op a) ys
  | xs, [] => mapFlips (op · b) xs
  | x :: xs, y :: ys =>
    if x < y then addFlip (op (!a) b != op a b) x (combineFlips op (!a) b xs (y :: ys))
    else if y < x then addFlip (op a (!b) != op a b) y (combineFlips op a (!b) (x :: xs) ys)
    else addFlip (op (!a) (!b) != op a b) x (combineFlips op (!a) (!b) xs ys)
termination_by xs ys => xs.length + ys.length

theorem mem_mapFlips {g : Bool → Bool} {flips : List Nat} {z : Nat} (h : z ∈ mapFlips g flips) :
    z ∈ flips := by
  unfold mapFlips at h
  split at h
  · simp at h
  · exact h

theorem mem_addFlip {changes : Bool} {flip z : Nat} {flips : List Nat}
    (h : z ∈ addFlip changes flip flips) : z = flip ∨ z ∈ flips := by
  unfold addFlip at h
  split at h
  · simpa using h
  · exact .inr h

/-- A merge changes only where one of the lists does. -/
theorem mem_combineFlips {op : Bool → Bool → Bool} {a b : Bool} {xs ys : List Nat} {z : Nat}
    (h : z ∈ combineFlips op a b xs ys) : z ∈ xs ∨ z ∈ ys := by
  fun_induction combineFlips op a b xs ys with
  | case1 => exact .inr (mem_mapFlips h)
  | case2 => exact .inl (mem_mapFlips h)
  | case3 a b x xs y ys _ ih =>
    rcases mem_addFlip h with rfl | h
    · simp
    · rcases ih h with h | h <;> simp_all
  | case4 a b x xs y ys _ _ ih =>
    rcases mem_addFlip h with rfl | h
    · simp
    · rcases ih h with h | h <;> simp_all
  | case5 a b x xs y ys _ _ ih =>
    rcases mem_addFlip h with rfl | h
    · simp
    · rcases ih h with h | h <;> simp_all

/-- What comes before all changes of two lists comes before those of their merge. -/
theorem lt_of_mem_combineFlips {op : Bool → Bool → Bool} {a b : Bool} {xs ys : List Nat} {n z : Nat}
    (hx : ∀ x ∈ xs, n < x) (hy : ∀ y ∈ ys, n < y) (h : z ∈ combineFlips op a b xs ys) : n < z :=
  (mem_combineFlips h).elim (hx z) (hy z)

/-- What comes before the first change of an ascending list comes before all of them. -/
theorem lt_of_mem_ascending {n flip z : Nat} {flips : List Nat} (hn : n < flip)
    (h : (flip :: flips).Pairwise (· < ·)) (hz : z ∈ flip :: flips) : n < z := by
  rcases List.mem_cons.1 hz with rfl | hz
  · exact hn
  · exact Nat.lt_trans hn ((List.pairwise_cons.1 h).1 z hz)

theorem pairwise_mapFlips {g : Bool → Bool} {flips : List Nat} (h : flips.Pairwise (· < ·)) :
    (mapFlips g flips).Pairwise (· < ·) := by
  unfold mapFlips
  split
  · exact .nil
  · exact h

theorem pairwise_addFlip {changes : Bool} {flip : Nat} {flips : List Nat}
    (h : flips.Pairwise (· < ·)) (hf : ∀ z ∈ flips, flip < z) :
    (addFlip changes flip flips).Pairwise (· < ·) := by
  unfold addFlip
  split
  · exact List.pairwise_cons.2 ⟨hf, h⟩
  · exact h

/-- A merge of ascending lists is ascending. -/
theorem pairwise_combineFlips {op : Bool → Bool → Bool} {a b : Bool} {xs ys : List Nat}
    (hx : xs.Pairwise (· < ·)) (hy : ys.Pairwise (· < ·)) :
    (combineFlips op a b xs ys).Pairwise (· < ·) := by
  fun_induction combineFlips op a b xs ys with
  | case1 => exact pairwise_mapFlips hy
  | case2 => exact pairwise_mapFlips hx
  | case3 a b x xs y ys hlt ih =>
    obtain ⟨hx₁, hx₂⟩ := List.pairwise_cons.1 hx
    refine pairwise_addFlip (ih hx₂ hy) fun z hz => ?_
    exact lt_of_mem_combineFlips hx₁ (fun _ => lt_of_mem_ascending hlt hy) hz
  | case4 a b x xs y ys _ hlt ih =>
    obtain ⟨hy₁, hy₂⟩ := List.pairwise_cons.1 hy
    refine pairwise_addFlip (ih hx hy₂) fun z hz => ?_
    exact lt_of_mem_combineFlips (fun _ => lt_of_mem_ascending hlt hx) hy₁ hz
  | case5 a b x xs y ys hxy hyx ih =>
    -- Neither change comes before the other, so both lists change at the same place.
    obtain rfl : x = y := Nat.le_antisymm (Nat.not_lt.1 hyx) (Nat.not_lt.1 hxy)
    obtain ⟨hx₁, hx₂⟩ := List.pairwise_cons.1 hx
    obtain ⟨hy₁, hy₂⟩ := List.pairwise_cons.1 hy
    exact pairwise_addFlip (ih hx₂ hy₂) fun z hz => lt_of_mem_combineFlips hx₁ hy₁ hz

theorem insideAt_mapFlips (g : Bool → Bool) (b : Bool) (flips : List Nat) (n : Nat) :
    insideAt (g b) (mapFlips g flips) n = g (insideAt b flips n) := by
  by_cases hg : g true = g false
  · -- A constant function has no changes.
    have hconst : ∀ c d, g c = g d := by
      intro c d
      cases c <;> cases d <;> simp [hg]
    simp only [mapFlips, hg, if_true, insideAt]
    exact hconst _ _
  · have hn : ∀ c, (!g c) = g (!c) := by
      intro c
      cases ht : g true <;> cases hf : g false <;> cases c <;> simp_all
    simp only [mapFlips, hg, if_false]
    induction flips generalizing b with
    | nil => rfl
    | cons f fs ih =>
      simp only [insideAt]
      split
      · rfl
      · rw [hn, ih]

theorem insideAt_addFlip {c d : Bool} {flip n : Nat} {flips : List Nat} (h : flip ≤ n) :
    insideAt c (addFlip (d != c) flip flips) n = insideAt d flips n := by
  have : ¬ n < flip := by omega
  cases c <;> cases d <;> simp [addFlip, insideAt, this]

/-- Before a change that comes before all others nothing has changed. -/
theorem insideAt_addFlip_of_lt {c changes : Bool} {flip n : Nat} {flips : List Nat} (h : n < flip)
    (hf : ∀ z ∈ flips, flip < z) : insideAt c (addFlip changes flip flips) n = c := by
  refine insideAt_of_lt fun z hz => ?_
  rcases mem_addFlip hz with rfl | hz
  · exact h
  · exact Nat.lt_trans h (hf z hz)

/-- A merge of ascending lists does to membership what `op` does to truth values. -/
theorem insideAt_combineFlips (op : Bool → Bool → Bool) (a b : Bool) {xs ys : List Nat}
    (hx : xs.Pairwise (· < ·)) (hy : ys.Pairwise (· < ·)) (n : Nat) :
    insideAt (op a b) (combineFlips op a b xs ys) n =
      op (insideAt a xs n) (insideAt b ys n) := by
  -- Before the first change of both lists all is as before, and behind it the rest decides.
  fun_induction combineFlips op a b xs ys with
  | case1 a b ys => exact insideAt_mapFlips (op a) b ys n
  | case2 a b xs => exact insideAt_mapFlips (op · b) a xs n
  | case3 a b x xs y ys hlt ih =>
    obtain ⟨hx₁, hx₂⟩ := List.pairwise_cons.1 hx
    by_cases hn : n < x
    · have hrest : ∀ z ∈ combineFlips op (!a) b xs (y :: ys), x < z := fun z =>
        lt_of_mem_combineFlips hx₁ fun _ => lt_of_mem_ascending hlt hy
      rw [insideAt_addFlip_of_lt hn hrest]
      simp [insideAt, hn, Nat.lt_trans hn hlt]
    · rw [insideAt_addFlip (Nat.not_lt.1 hn), ih hx₂ hy]
      simp [insideAt, hn]
  | case4 a b x xs y ys _ hlt ih =>
    obtain ⟨hy₁, hy₂⟩ := List.pairwise_cons.1 hy
    by_cases hn : n < y
    · have hrest : ∀ z ∈ combineFlips op a (!b) (x :: xs) ys, y < z := fun z =>
        lt_of_mem_combineFlips (fun _ => lt_of_mem_ascending hlt hx) hy₁
      rw [insideAt_addFlip_of_lt hn hrest]
      simp [insideAt, hn, Nat.lt_trans hn hlt]
    · rw [insideAt_addFlip (Nat.not_lt.1 hn), ih hx hy₂]
      simp [insideAt, hn]
  | case5 a b x xs y ys hxy hyx ih =>
    obtain rfl : x = y := Nat.le_antisymm (Nat.not_lt.1 hyx) (Nat.not_lt.1 hxy)
    obtain ⟨hx₁, hx₂⟩ := List.pairwise_cons.1 hx
    obtain ⟨hy₁, hy₂⟩ := List.pairwise_cons.1 hy
    by_cases hn : n < x
    · have hrest : ∀ z ∈ combineFlips op (!a) (!b) xs ys, x < z := fun z =>
        lt_of_mem_combineFlips hx₁ hy₁
      rw [insideAt_addFlip_of_lt hn hrest]
      simp [insideAt, hn]
    · rw [insideAt_addFlip (Nat.not_lt.1 hn), ih hx₂ hy₂]
      simp [insideAt, hn]

/-! ## Sets -/

/-- A set of code points, given by where membership changes. -/
structure CodeSet where
  flips : List Nat
  ascending : flips.Pairwise (· < ·)
deriving DecidableEq, Repr

namespace CodeSet

/-- Whether a set has the code point `n`. -/
def contains (s : CodeSet) (n : Nat) : Bool :=
  insideAt false s.flips n

/-- The set without members. -/
def empty : CodeSet :=
  ⟨[], .nil⟩

/-- The code points from `first` to `last`. -/
def range (first last : Nat) : CodeSet :=
  if h : first < last + 1 then ⟨[first, last + 1], by simpa using h⟩ else empty

/-- The set whose members `op` tells from two memberships; `op` is false of two falsehoods. -/
def combine (op : Bool → Bool → Bool) (s t : CodeSet) : CodeSet :=
  ⟨combineFlips op false false s.flips t.flips, pairwise_combineFlips s.ascending t.ascending⟩

/-- The members of either set. -/
def union (s t : CodeSet) : CodeSet :=
  combine (· || ·) s t

/-- The members of both sets. -/
def inter (s t : CodeSet) : CodeSet :=
  combine (· && ·) s t

/-- The members of the first set that the second one lacks. -/
def diff (s t : CodeSet) : CodeSet :=
  combine (fun a b => a && !b) s t

/-- The members of exactly one of two sets. -/
def symmDiff (s t : CodeSet) : CodeSet :=
  combine (fun a b => a != b) s t

/-- All code points. -/
def all : CodeSet :=
  range 0 0x10FFFF

/-- The code points of ASCII. -/
def ascii : CodeSet :=
  range 0 0x7F

/-- One character. -/
def single (c : Char) : CodeSet :=
  range c.toNat c.toNat

/-- The code points that a set lacks. -/
def compl (s : CodeSet) : CodeSet :=
  all.diff s

/-- The members of any of some sets. -/
def unions (sets : List CodeSet) : CodeSet :=
  sets.foldr union empty

/-! ## Laws -/

theorem contains_combine {op : Bool → Bool → Bool} (h : op false false = false) (s t : CodeSet)
    (n : Nat) : (combine op s t).contains n = op (s.contains n) (t.contains n) := by
  have := insideAt_combineFlips op false false s.ascending t.ascending n
  rwa [h] at this

@[simp] theorem contains_empty (n : Nat) : empty.contains n = false := rfl

@[simp] theorem contains_range (first last n : Nat) :
    (range first last).contains n = (decide (first ≤ n) && decide (n ≤ last)) := by
  unfold range
  split
  · simp only [contains, insideAt, Bool.not_false, Bool.not_true]
    by_cases h₁ : n < first <;> by_cases h₂ : n < last + 1 <;> simp [h₁, h₂] <;> omega
  · have outside : ¬(first ≤ n ∧ n ≤ last) := by omega
    simpa using outside

@[simp] theorem contains_union (s t : CodeSet) (n : Nat) :
    (s.union t).contains n = (s.contains n || t.contains n) :=
  contains_combine rfl s t n

@[simp] theorem contains_inter (s t : CodeSet) (n : Nat) :
    (s.inter t).contains n = (s.contains n && t.contains n) :=
  contains_combine rfl s t n

@[simp] theorem contains_diff (s t : CodeSet) (n : Nat) :
    (s.diff t).contains n = (s.contains n && !t.contains n) :=
  contains_combine rfl s t n

@[simp] theorem contains_symmDiff (s t : CodeSet) (n : Nat) :
    (s.symmDiff t).contains n = (s.contains n != t.contains n) :=
  contains_combine rfl s t n

@[simp] theorem contains_unions (sets : List CodeSet) (n : Nat) :
    (unions sets).contains n = sets.any (·.contains n) := by
  induction sets with
  | nil => rfl
  | cons s sets ih => simp [unions, ← ih]

/-! ## Spans -/

/-- The code points from one number to another. -/
abbrev Span := Nat × Nat

/-- The spans between changes. -/
def spansOf : List Nat → List Span
  | first :: stop :: flips => (first, stop - 1) :: spansOf flips
  | _ => []

/-- The spans of a set, in order and with gaps between them. -/
def spans (s : CodeSet) : List Span :=
  spansOf s.flips

/-- The set of the members of some spans. -/
def ofSpans (spans : List Span) : CodeSet :=
  unions (spans.map fun s => range s.1 s.2)

@[simp] theorem contains_ofSpans (spans : List Span) (n : Nat) :
    (ofSpans spans).contains n = spans.any fun s => decide (s.1 ≤ n) && decide (n ≤ s.2) := by
  simp [ofSpans, List.any_map, Function.comp_def]

/-- The set of the members of some runs. -/
def ofRuns (runs : List Run) : CodeSet :=
  ofSpans (runs.flatMap fun r =>
    if r.step = 1 then [(r.first, r.last)]
    else (List.range ((r.last + r.step - r.first) / r.step)).map fun i =>
      (r.first + r.step * i, r.first + r.step * i))

/-- The set that a table lists. -/
def table (text : String) : CodeSet :=
  ofRuns (Run.table text)

/-- The only member of a set that has one member. -/
def single? (s : CodeSet) : Option Nat :=
  match s.flips with
  | [first, stop] => if stop = first + 1 then some first else none
  | _ => none

/-- Whether all members are below `limit`. -/
def isBelow (s : CodeSet) (limit : Nat) : Bool :=
  s.spans.all fun span => decide (span.2 < limit)

end CodeSet

end MediaShelves.Text
