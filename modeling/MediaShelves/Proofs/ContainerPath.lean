import Mathlib.Algebra.Group.Nat.Even
import MediaShelves.ContainerPath

/-!
# Container paths tell their titles

A path is cut into titles at its bare slashes, those behind an even number of backslashes.  No slash
within a title is bare, whatever the title is made of, and so the bare slashes of a path are where
its titles begin.

Main statement: `path_tells_titles`.
-/

namespace MediaShelves.ContainerPath

/-! ## Escaping in two passes -/

/-- A backslash twice, any other character once. -/
def doubled (c : Char) : List Char :=
  if c = '\\' then ['\\', '\\'] else [c]

/-- A slash behind a backslash, any other character alone. -/
def slashed (c : Char) : List Char :=
  if c = '/' then ['\\', '/'] else [c]

/-- Escaping is doubling the backslashes, and then putting one before each slash. -/
theorem escape_eq_passes (title : List Char) :
    escape title = (title.flatMap doubled).flatMap slashed := by
  induction title with
  | nil => rfl
  | cons c title ih =>
    rw [escape, ih, List.flatMap_cons, List.flatMap_append]
    -- The second pass meets a backslash that the first one wrote as any other character.
    by_cases hback : c = '\\'
    · simp [hback, doubled, slashed]
    · by_cases hslash : c = '/'
      · simp [hslash, doubled, slashed]
      · simp [hback, hslash, doubled, slashed]

-- In the other order the backslash of a slash would be doubled, and the slash would be bare.
example : (['/'].flatMap slashed).flatMap doubled = ['\\', '\\', '/'] := by decide

/-! ## Bare slashes -/

/-- How many backslashes stand at the end of a text. -/
def backslashesAtEnd (s : List Char) : Nat :=
  (s.reverse.takeWhile (· == '\\')).length

/-- Whether a slash after a text is bare: the backslashes before it escape one another. -/
def BareAfter (s : List Char) : Prop :=
  Even (backslashesAtEnd s)

instance (s : List Char) : Decidable (BareAfter s) :=
  inferInstanceAs (Decidable (Even _))

theorem bareAfter_nil : BareAfter [] := by decide

theorem bareAfter_singleton {c : Char} (hc : c ≠ '\\') : BareAfter [c] := by
  simp [BareAfter, backslashesAtEnd, hc]

/-- An escaped character is complete. -/
theorem bareAfter_pair {c : Char} (hc : c = '/' ∨ c = '\\') : BareAfter ['\\', c] := by
  rcases hc with rfl | rfl <;> decide

/-- What stands in front does not matter, if a slash after it were bare. -/
theorem BareAfter.append_iff {s : List Char} (h : BareAfter s) (t : List Char) :
    BareAfter (s ++ t) ↔ BareAfter t := by
  unfold BareAfter backslashesAtEnd at *
  rw [List.reverse_append, List.takeWhile_append]
  split
  · -- The second part is nothing but backslashes, so those of both parts add up.
    rename_i hall
    rw [List.length_append, Nat.even_add, iff_true_right h, hall]
  · rfl

theorem bareAfter_escape (title : List Char) : BareAfter (escape title) := by
  induction title with
  | nil => exact bareAfter_nil
  | cons c title ih =>
    rw [escape]
    -- An escaped character brings its own backslash along, any other one needs none.
    split
    · rename_i hc
      exact ((bareAfter_pair hc).append_iff (escape title)).2 ih
    · rename_i hc
      exact ((bareAfter_singleton (not_or.1 hc).2).append_iff (escape title)).2 ih

/-- A title with the slash before it. -/
theorem bareAfter_cons_escape (title : List Char) : BareAfter ('/' :: escape title) :=
  ((bareAfter_singleton (by decide)).append_iff (escape title)).2 (bareAfter_escape title)

/-- A slash after a whole path is bare. -/
theorem bareAfter_encode (titles : List (List Char)) : BareAfter (encode titles) := by
  induction titles with
  | nil => exact bareAfter_nil
  | cons title titles ih =>
    rw [encode]
    exact ((bareAfter_cons_escape title).append_iff _).2 ih

/-- **No slash within a title is bare.** -/
theorem not_bareAfter_of_escape {title front back : List Char}
    (h : escape title = front ++ '/' :: back) : ¬ BareAfter front := by
  induction title generalizing front with
  | nil => simp [escape] at h
  | cons c title ih =>
    rw [escape] at h
    split at h
    · -- The character is escaped: it is the slash itself, or the slash comes later.
      rename_i hc
      cases front with
      | nil => simp at h
      | cons b front =>
        cases front with
        | nil =>
          simp only [List.cons_append, List.nil_append, List.cons.injEq] at h
          rw [← h.1]
          decide
        | cons d front =>
          simp only [List.cons_append, List.cons.injEq] at h
          obtain ⟨rfl, rfl, h⟩ := h
          have hfront : BareAfter ('\\' :: c :: front) ↔ BareAfter front :=
            (bareAfter_pair hc).append_iff front
          rw [hfront]
          exact ih h
    · rename_i hc
      obtain ⟨hslash, hback⟩ := not_or.1 hc
      cases front with
      | nil =>
        simp only [List.nil_append, List.cons.injEq] at h
        exact absurd h.1 hslash
      | cons b front =>
        simp only [List.cons_append, List.cons.injEq] at h
        obtain ⟨rfl, h⟩ := h
        -- A character that is no escape leaves the state as it was.
        have hfront : BareAfter (c :: front) ↔ BareAfter front :=
          (bareAfter_singleton hback).append_iff front
        rw [hfront]
        exact ih h

/-! ## Where titles begin -/

/-- **At a bare slash a title begins**: what stands before it is the path of the titles before. -/
theorem exists_titles_of_bareAfter {titles : List (List Char)} {front back : List Char}
    (h : encode titles = front ++ '/' :: back) (hbare : BareAfter front) :
    ∃ before after, after ≠ [] ∧ titles = before ++ after ∧ front = encode before := by
  induction titles generalizing front with
  | nil => simp [encode] at h
  | cons title titles ih =>
    rw [encode, List.append_eq_append_iff] at h
    rcases h with ⟨rest, rfl, hrest⟩ | ⟨rest, htitle, hrest⟩
    · -- The slash comes after the first title.
      rw [(bareAfter_cons_escape title).append_iff] at hbare
      obtain ⟨before, after, hne, rfl, rfl⟩ := ih hrest hbare
      exact ⟨title :: before, after, hne, rfl, rfl⟩
    · -- It is the one before the first title, or the one right after it; within it none is bare.
      cases front with
      | nil => exact ⟨[], title :: titles, List.cons_ne_nil title titles, rfl, rfl⟩
      | cons b front =>
        rw [List.cons_append, List.cons.injEq] at htitle
        obtain ⟨rfl, htitle⟩ := htitle
        cases rest with
        | nil =>
          rw [List.append_nil] at htitle
          refine ⟨[title], titles, ?_, rfl, ?_⟩
          · rintro rfl
            cases hrest
          · rw [← htitle, encode, encode, List.append_nil]
        | cons d rest =>
          rw [List.cons_append, List.cons.injEq] at hrest
          rw [← hrest.1] at htitle
          have hfront : BareAfter ('/' :: front) ↔ BareAfter front :=
            (bareAfter_singleton (by decide)).append_iff front
          exact absurd (hfront.1 hbare) (not_bareAfter_of_escape htitle)

/-- The bare slashes of a path are where its titles begin. -/
theorem bareAfter_iff_titles {titles : List (List Char)} {front back : List Char}
    (h : encode titles = front ++ '/' :: back) :
    BareAfter front ↔
      ∃ before after, after ≠ [] ∧ titles = before ++ after ∧ front = encode before := by
  constructor
  · exact exists_titles_of_bareAfter h
  · rintro ⟨before, -, -, -, rfl⟩
    exact bareAfter_encode before

/-! ## For strings -/

/-- The titles of a path, as strings. -/
def titles? (path : String) : Option (List String) :=
  (decode? path.toList).map (List.map String.ofList)

theorem titles?_ofTitles (ts : List String) : titles? (ofTitles ts) = some ts := by
  rw [titles?, ofTitles, String.toList_ofList, decode?_encode, Option.map_some, List.map_map]
  exact congrArg some (List.map_id'' (fun t => String.ofList_toList) ts)

theorem toList_ofTitles (ts : List String) :
    (ofTitles ts).toList = encode (ts.map String.toList) :=
  String.toList_ofList

theorem ofTitles_append (ts us : List String) :
    ofTitles (ts ++ us) = ofTitles ts ++ ofTitles us := by
  rw [ofTitles, List.map_append, encode_append, String.ofList_append]
  rfl

/-- The bare slashes of a path are where its titles begin. -/
theorem bareAfter_iff_ofTitles {us : List String} {front rest : String}
    (h : ofTitles us = front ++ "/" ++ rest) :
    BareAfter front.toList ↔ ∃ ts vs, vs ≠ [] ∧ us = ts ++ vs ∧ front = ofTitles ts := by
  have hlist : encode (us.map String.toList) = front.toList ++ '/' :: rest.toList := by
    rw [← toList_ofTitles, h]
    simp
  rw [bareAfter_iff_titles hlist]
  constructor
  · rintro ⟨before, after, hne, hus, hfront⟩
    -- The titles before and after the slash are those of a part of the list each.
    obtain ⟨ts, vs, rfl, rfl, rfl⟩ := List.map_eq_append_iff.1 hus
    refine ⟨ts, vs, ?_, rfl, ?_⟩
    · rintro rfl
      exact hne rfl
    · rw [ofTitles, ← hfront, String.ofList_toList]
  · rintro ⟨ts, vs, hne, rfl, rfl⟩
    refine ⟨ts.map String.toList, vs.map String.toList, ?_, List.map_append, toList_ofTitles ts⟩
    exact fun hnil => hne (List.map_eq_nil_iff.1 hnil)

/--
**A path tells its titles.**  They can be read back, so different titles have different paths.  What
is added to titles makes their path longer.  Of the slashes in a path just those where a title
begins are bare, whatever stands in the titles.  So where a path goes on with a slash after the path
of some titles, this slash is bare, and these titles are the first ones of it, but not all of them.
-/
theorem path_tells_titles :
    (∀ ts, titles? (ofTitles ts) = some ts) ∧
      (∀ ts us, ofTitles ts = ofTitles us → ts = us) ∧
      (∀ ts us, us ≠ [] → ∃ rest, rest ≠ "" ∧ ofTitles (ts ++ us) = ofTitles ts ++ rest) ∧
      (∀ us front rest, ofTitles us = front ++ "/" ++ rest →
        (BareAfter front.toList ↔ ∃ ts vs, vs ≠ [] ∧ us = ts ++ vs ∧ front = ofTitles ts)) ∧
      ∀ ts us rest, ofTitles us = ofTitles ts ++ "/" ++ rest →
        BareAfter (ofTitles ts).toList ∧ ∃ vs, vs ≠ [] ∧ us = ts ++ vs := by
  refine ⟨titles?_ofTitles, fun _ _ => ofTitles_inj.1, ?_, ?_, ?_⟩
  · intro ts us hus
    refine ⟨ofTitles us, ?_, ofTitles_append ts us⟩
    intro hempty
    exact hus (ofTitles_inj.1 hempty)
  · intro us front rest h
    exact bareAfter_iff_ofTitles h
  · intro ts us rest h
    have hbare : BareAfter (ofTitles ts).toList := by
      rw [toList_ofTitles]
      exact bareAfter_encode _
    refine ⟨hbare, ?_⟩
    obtain ⟨before, vs, hne, rfl, hbefore⟩ := (bareAfter_iff_ofTitles h).1 hbare
    -- The titles before the slash have the path of `ts`, so they are `ts`.
    exact ⟨vs, hne, congrArg (· ++ vs) (ofTitles_inj.1 hbefore).symm⟩

/-- A title with a slash, one that is a backslash and one that is empty. -/
theorem path_tells_titles_slash :
    ofTitles ["AC/DC", "\\", ""] = "/AC\\/DC/\\\\/" ∧
      titles? "/AC\\/DC/\\\\/" = some ["AC/DC", "\\", ""] ∧
      (∃ rest, rest ≠ "" ∧ "/AC\\/DC/\\\\/" = "/AC\\/DC" ++ rest) ∧
      ¬ BareAfter "/AC\\".toList ∧ BareAfter "/AC\\/DC".toList ∧
      (∃ ts vs, vs ≠ [] ∧ ["AC/DC", "\\", ""] = ts ++ vs ∧ "/AC\\/DC" = ofTitles ts) ∧
      ∃ vs, vs ≠ [] ∧ ["AC/DC", "\\", ""] = ["AC/DC", "\\"] ++ vs := by
  obtain ⟨hread, -, hlonger, hbare, hbelow⟩ := path_tells_titles
  have hpath : ofTitles ["AC/DC", "\\", ""] = "/AC\\/DC/\\\\/" := by decide
  have hartist : ofTitles ["AC/DC"] = "/AC\\/DC" := by decide
  have hmore := hlonger ["AC/DC"] ["\\", ""] (List.cons_ne_nil _ _)
  rw [List.singleton_append, hpath, hartist] at hmore
  have hend : BareAfter "/AC\\/DC".toList := by decide
  refine ⟨hpath, hpath ▸ hread _, hmore, by decide, hend, ?_, ?_⟩
  · exact (hbare _ "/AC\\/DC" "\\\\/" hpath).1 hend
  · exact (hbelow ["AC/DC", "\\"] _ "" (by decide)).2

end MediaShelves.ContainerPath
