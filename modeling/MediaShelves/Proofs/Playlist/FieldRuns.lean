import Mathlib.Data.List.Induction
import Mathlib.Data.List.SplitBy
import Mathlib.Data.List.TakeWhile
import Mathlib.Data.Option.Basic
import MediaShelves.Playlist.Pls
import MediaShelves.Proofs.Playlist.Lines
import MediaShelves.Proofs.Text.Digits
import MediaShelves.Proofs.Text.Numbers
import MediaShelves.Proofs.Text.Spans

/-!
# The fields of PLS and their runs

`Spells` says which lines are fields and of what.  Adjacent fields with the same number are a run,
and each run in which there is a location is an entry (`runEntry?`); whatever stands between the
fields has no part in this.

Main statement: the entries of a text are those of the runs of its fields
(`Pls.entries_eq_iff_runs`).
-/

namespace MediaShelves.Playlist.Pls

open MediaShelves.Text

/-! ## The grammar of fields -/

/-- Nothing but blanks. -/
def IsGap (s : List Char) : Prop :=
  ∀ c ∈ s, isBlank c = true

/-- A number that fits into 32 bits. -/
structure IsNumber (s : List Char) : Prop where
  ne_nil : s ≠ []
  digits : ∀ c ∈ s, c.isDigit = true
  fits : digitsValue s ≤ max32

/-- A line that is a field. -/
inductive Spells : List Char → Field → Prop where
  | intro {word front number back gap value : List Char} {name : FieldName}
      (hword : FilePath.asciiLower word = name.word) (hfront : IsGap front)
      (hnumber : IsNumber number) (hback : IsGap back) (hgap : IsGap gap)
      (hvalue : BeginsVisibly value) :
      Spells (word ++ (front ++ (number ++ (back ++ '=' :: (gap ++ value)))))
        ⟨name, digitsValue number, value⟩

/-- The fields among some lines. -/
inductive FieldsOf : List (List Char) → List Field → Prop where
  | nil : FieldsOf [] []
  | field {line : List Char} {f : Field} {lines : List (List Char)} {fs : List Field}
      (hline : Spells line f) (hlines : FieldsOf lines fs) : FieldsOf (line :: lines) (f :: fs)
  | other {line : List Char} {lines : List (List Char)} {fs : List Field}
      (hline : ∀ f, ¬ Spells line f) (hlines : FieldsOf lines fs) : FieldsOf (line :: lines) fs

/-- A line that belongs to the format and is no field. -/
inductive IsAside : List Char → Prop where
  | blank : IsAside []
  | comment {mark : Char} {rest : List Char} (hmark : mark = ';' ∨ mark = '#') :
      IsAside (mark :: rest)
  | header {line : List Char} (hline : FilePath.asciiLower line = "[playlist]".toList) :
      IsAside line
  | setting {word front back number : List Char}
      (hword : FilePath.asciiLower word = "numberofentries".toList ∨
        FilePath.asciiLower word = "version".toList)
      (hfront : IsGap front) (hback : IsGap back)
      (hnumber : number ≠ [] ∧ ∀ c ∈ number, isDecimalDigit c = true) :
      IsAside (word ++ (front ++ '=' :: (back ++ number)))

/-! ## Entries of runs -/

/-- The last value that a field has among some. -/
def lastValue? (name : FieldName) (run : List Field) : Option String :=
  (run.filter (·.name = name)).getLast?.map fun f => String.ofList f.value

/-- The fields as maximal runs of the same number. -/
def runs (fs : List Field) : List (List Field) :=
  fs.splitBy fun f g => f.index == g.index

/-- The entry of a run, which needs a location. -/
def runEntry? (run : List Field) : Option Entry :=
  (lastValue? .file run).map fun location =>
    { location
      title := lastValue? .title run
      mimetype := lastValue? .mimetype run
      order := run.head?.map (·.index)
      description := none
      protocol := none
      size := none
      extra := match lastValue? .length run with
        | some value => Keyed.empty.insert "length" value
        | none => Keyed.empty }

/-! ## Reading fields -/

/-- The first letter tells the words apart. -/
theorem FieldName.eq_of_head {m n : FieldName} (h : m.word.head? = n.word.head?) : m = n := by
  cases m <;> cases n <;> first | rfl | exact absurd h (by decide)

/-- A name that is read stands at the beginning, in some case. -/
theorem readName?_sound {line rest : List Char} {name : FieldName}
    (h : readName? line = some (name, rest)) :
    ∃ word, FilePath.asciiLower word = name.word ∧ line = word ++ rest := by
  obtain ⟨n, hn, heq⟩ := Option.map_eq_some_iff.1 h
  cases heq
  have hword := List.find?_some hn
  exact ⟨line.take name.word.length, by simpa using hword, (List.take_append_drop ..).symm⟩

/-- A name in any case is read, as no two names begin with the same letter. -/
theorem readName?_complete {word rest : List Char} {name : FieldName}
    (h : FilePath.asciiLower word = name.word) : readName? (word ++ rest) = some (name, rest) := by
  have hlength : name.word.length = word.length := by
    rw [← h, FilePath.asciiLower, List.length_map]
  -- No other word has the same first letter.
  have hname (n : FieldName) :
      (FilePath.asciiLower ((word ++ rest).take n.word.length) == n.word) = decide (n = name) := by
    by_cases hn : n = name
    · subst hn
      simp [hlength, h]
    · have hhead : n.word.head? ≠ name.word.head? := mt FieldName.eq_of_head hn
      simp only [hn, decide_false, beq_eq_false_iff_ne]
      intro hword
      apply hhead
      rw [← hword, ← h]
      cases word with
      | nil =>
        cases name <;> cases h
      | cons c word =>
        cases n <;> rfl
  rw [readName?]
  simp only [hname]
  have hfind : FieldName.known.find? (fun n => decide (n = name)) = some name := by
    cases name <;> rfl
  rw [hfind, Option.map_some, hlength, List.drop_left]

/-- A text of digits has no sign in front. -/
theorem head?_ne_plus {s : List Char} (hs : ∀ c ∈ s, isDecimalDigit c = true) :
    s.head? ≠ some '+' := by
  intro hplus
  have hdigit := hs '+' (List.mem_of_head? hplus)
  rw [isDecimalDigit_of_mem_marks (by decide)] at hdigit
  cases hdigit

theorem unsigned?_sound {s : List Char} {n : Nat} (hs : ∀ c ∈ s, isDecimalDigit c = true)
    (h : unsigned? max32 s = some n) : IsNumber s ∧ n = digitsValue s := by
  obtain ⟨hne, hdigits, rfl, hfits⟩ := (unsigned?_eq_some_iff (head?_ne_plus hs)).1 h
  exact ⟨⟨hne, hdigits, hfits⟩, rfl⟩

theorem unsigned?_complete {s : List Char} (h : IsNumber s) :
    unsigned? max32 s = some (digitsValue s) := by
  have hs : ∀ c ∈ s, isDecimalDigit c = true := forall_isDecimalDigit h.digits
  exact (unsigned?_eq_some_iff (head?_ne_plus hs)).2 ⟨h.ne_nil, h.digits, rfl, h.fits⟩

/-- A field that is read from a line is spelled by it. -/
theorem ofLine?_sound {line : List Char} {f : Field} (h : Field.ofLine? line = some f) :
    Spells line f := by
  simp only [Field.ofLine?, Option.bind_eq_bind, Option.bind_eq_some_iff] at h
  -- The line is cut where the reading stops: name, number, sign and value, with gaps between.
  obtain ⟨⟨name, rest⟩, hname, index, hindex, hvalue⟩ := h
  obtain ⟨word, hword, rfl⟩ := readName?_sound hname
  obtain ⟨front, hfront, hrest⟩ := exists_eq_append_trimFront rest
  dsimp only at hindex hvalue
  generalize trimFront rest = numbered at hrest hindex hvalue
  subst hrest
  obtain ⟨hnumber, rfl⟩ := unsigned?_sound (fun c hc => List.mem_takeWhile_imp hc) hindex
  have hnumbered := List.takeWhile_append_dropWhile (p := isDecimalDigit) (l := numbered)
  generalize numbered.takeWhile isDecimalDigit = number at hnumbered hnumber hvalue
  generalize numbered.dropWhile isDecimalDigit = tail at hnumbered hvalue
  subst hnumbered
  obtain ⟨back, hback, htail⟩ := exists_eq_append_trimFront tail
  split at hvalue
  · rename_i assigned hequals
    rw [hequals] at htail
    subst htail
    obtain ⟨gap, hgap, hassigned⟩ := exists_eq_append_trimFront assigned
    have hvisible := beginsVisibly_trimFront (s := assigned)
    generalize trimFront assigned = value at hassigned hvalue hvisible
    subst hassigned
    split at hvalue
    · cases hvalue
    · rename_i hne
      cases hvalue
      exact .intro hword hfront hnumber hback hgap (hvisible hne)
  · cases hvalue

/-- A field that a line spells is read from it. -/
theorem ofLine?_complete {line : List Char} {f : Field} (h : Spells line f) :
    Field.ofLine? line = some f := by
  cases h with
  | @intro word front number back gap value name hword hfront hnumber hback hgap hvalue =>
    have hdigits : ∀ c ∈ number, isDecimalDigit c = true := forall_isDecimalDigit hnumber.digits
    -- The number ends at a blank or at the equals sign.
    have hstop : ∀ c, (back ++ '=' :: (gap ++ value)).head? = some c → isDecimalDigit c = false := by
      intro c hc
      cases back with
      | nil =>
        cases hc
        exact isDecimalDigit_of_mem_marks (by decide)
      | cons b back =>
        cases hc
        exact isDecimalDigit_of_isBlank (hback c (by simp))
    have hvisible : BeginsVisibly (number ++ (back ++ '=' :: (gap ++ value))) := by
      obtain ⟨d, ds, rfl⟩ := List.exists_cons_of_ne_nil hnumber.ne_nil
      refine ⟨d, _, rfl, ?_⟩
      cases hd : isBlank d with
      | false => rfl
      | true =>
        have hdigit := hdigits d (by simp)
        rw [isDecimalDigit_of_isBlank hd] at hdigit
        cases hdigit
    have hequals : BeginsVisibly ('=' :: (gap ++ value)) :=
      ⟨'=', gap ++ value, rfl, by decide⟩
    obtain ⟨c, rest, rfl, hc⟩ := hvalue
    simp only [Field.ofLine?, readName?_complete hword, Option.bind_eq_bind, Option.bind_some,
      trimFront_append hfront hvisible, takeWhile_append_of_stop hdigits hstop,
      unsigned?_complete hnumber, dropWhile_append_of_stop hdigits hstop,
      trimFront_append hback hequals, trimFront_append hgap ⟨c, rest, rfl, hc⟩]

/-- **A line is the field that the grammar says.** -/
theorem ofLine?_eq_some_iff {line : List Char} {f : Field} :
    Field.ofLine? line = some f ↔ Spells line f :=
  ⟨ofLine?_sound, ofLine?_complete⟩

/-- A line that no field is read from spells none. -/
theorem ofLine?_eq_none_iff {line : List Char} :
    Field.ofLine? line = none ↔ ∀ f, ¬ Spells line f := by
  simp [Option.eq_none_iff_forall_ne_some, ofLine?_eq_some_iff]

/-- The fields of some lines are what is read from them, line by line. -/
theorem fieldsOf_iff {lines : List (List Char)} {fs : List Field} :
    FieldsOf lines fs ↔ lines.filterMap Field.ofLine? = fs := by
  -- A line is a field or another one, and never both.
  constructor
  · intro h
    induction h with
    | nil => rfl
    | field hline _ ih => rw [List.filterMap_cons_some (ofLine?_complete hline), ih]
    | other hline _ ih => rw [List.filterMap_cons_none (ofLine?_eq_none_iff.2 hline), ih]
  · rintro rfl
    induction lines with
    | nil => exact .nil
    | cons line lines ih =>
      cases hline : Field.ofLine? line with
      | none =>
        rw [List.filterMap_cons_none hline]
        exact .other (ofLine?_eq_none_iff.1 hline) ih
      | some f =>
        rw [List.filterMap_cons_some hline]
        exact .field (ofLine?_sound hline) ih

theorem spells_visible {line : List Char} {f : Field} (h : Spells line f) : f.value ≠ [] := by
  cases h with
  | intro _ _ _ _ _ hvalue =>
    obtain ⟨c, rest, rfl, -⟩ := hvalue
    simp

/-- A field begins with the first letter of a word, in any case. -/
theorem exists_head_of_spells {line : List Char} {f : Field} (h : Spells line f) :
    ∃ c, line.head? = some c ∧ c.toLower ∈ ['f', 't', 'm', 'l'] := by
  -- The word comes first, and its first letter tells which it is.
  have hletter {n : FieldName} {c : Char} (hc : n.word.head? = some c) :
      c ∈ ['f', 't', 'm', 'l'] := by
    cases n <;> cases hc <;> decide
  cases h with
  | @intro word _ _ _ _ _ name hword _ _ _ _ _ =>
    cases word with
    | nil => cases name <;> cases hword
    | cons c word =>
      refine ⟨c, rfl, hletter (n := name) ?_⟩
      rw [← hword]
      rfl

/-- Comments, the header and settings are no fields. -/
theorem not_spells_of_isAside {line : List Char} (h : IsAside line) (f : Field) :
    ¬ Spells line f := by
  intro hf
  obtain ⟨c, hc, hletter⟩ := exists_head_of_spells hf
  -- What begins such a line is none of the letters.
  have hfirst (word : List Char) {rest : List Char} {d : Char} {ds : List Char} (hd : d ∉ ['f', 't', 'm', 'l'])
      (hword : FilePath.asciiLower word = d :: ds) (hline : line = word ++ rest) : False := by
    cases word with
    | nil => cases hword
    | cons b word =>
      subst hline
      cases hc
      cases hword
      exact hd hletter
  cases h with
  | blank => cases hc
  | @comment mark rest hmark =>
    rcases hmark with rfl | rfl
    · exact hfirst [';'] (by decide) rfl rfl
    · exact hfirst ['#'] (by decide) rfl rfl
  | header hline => exact hfirst _ (by decide) hline (List.append_nil _).symm
  | setting hword _ _ _ =>
    rcases hword with hword | hword
    · exact hfirst _ (by decide) hword rfl
    · exact hfirst _ (by decide) hword rfl

/-! ## Filling entries -/

/-- A field that is told again has its new value. -/
theorem lastValue?_append_singleton (name : FieldName) (run : List Field) (f : Field) :
    lastValue? name (run ++ [f]) =
      if f.name = name then some (String.ofList f.value) else lastValue? name run := by
  unfold lastValue?
  split
  · rename_i h
    simp [h]
  · rename_i h
    simp [h]

/-- The entry that the fields of a run leave. -/
def filled (index : Nat) (run : List Field) : Entry :=
  run.foldl (fun e f => f.fill e) (blankEntry index)

/-- Each field of a filled entry holds the last value told for it. -/
theorem filled_eq (index : Nat) (run : List Field) :
    filled index run =
      { location := (lastValue? .file run).getD ""
        title := lastValue? .title run
        mimetype := lastValue? .mimetype run
        order := some index
        description := none
        protocol := none
        size := none
        extra := match lastValue? .length run with
          | some value => Keyed.empty.insert "length" value
          | none => Keyed.empty } := by
  induction run using List.reverseRecOn with
  | nil => rfl
  | append_singleton run f ih =>
    have hstep : filled index (run ++ [f]) = f.fill (filled index run) := by
      simp [filled]
    rw [hstep, ih]
    cases hname : f.name with
    | file => simp [Field.fill, lastValue?_append_singleton, hname]
    | title => simp [Field.fill, lastValue?_append_singleton, hname]
    | mimetype => simp [Field.fill, lastValue?_append_singleton, hname]
    | length =>
      simp only [Field.fill, lastValue?_append_singleton, hname, reduceCtorEq, if_false, if_true]
      -- A length that is told again takes the place of the one before.
      cases lastValue? .length run with
      | none => rfl
      | some value => simp only [Keyed.insert_insert]

/-- A run is an entry if a location is left, and the fields leave no empty one. -/
theorem runEntry?_eq {run : List Field} (hne : run ≠ []) (hvisible : ∀ f ∈ run, f.value ≠ [])
    {index : Nat} (hindex : ∀ f ∈ run, f.index = index) :
    runEntry? run = Option.guard (fun e => e.location ≠ "") (filled index run) := by
  have hhead : run.head?.map (·.index) = some index := by
    obtain ⟨f, rest, rfl⟩ := List.exists_cons_of_ne_nil hne
    simp [hindex f (by simp)]
  rw [filled_eq, runEntry?, hhead]
  cases hfile : lastValue? .file run with
  | none => simp [Option.guard]
  | some location =>
    -- A value that is told is not empty, so neither is the location.
    have hlocation : location ≠ "" := by
      obtain ⟨f, hf, rfl⟩ := Option.map_eq_some_iff.1 hfile
      have hmem : f ∈ run := (List.mem_filter.1 (List.mem_of_getLast? hf)).1
      simpa using hvisible f hmem
    simp [Option.guard, hlocation]

/-! ## Collecting runs -/

/-- Fields with one number are one run. -/
theorem runs_of_index {index : Nat} {run : List Field} (hne : run ≠ [])
    (hindex : ∀ f ∈ run, f.index = index) : runs run = [run] := by
  apply List.splitBy_of_isChain hne
  apply List.Pairwise.isChain
  apply List.pairwise_of_forall_mem_list
  intro f hf g hg
  simp [hindex f hf, hindex g hg]

/-- A field with another number begins another run. -/
theorem runs_append_cons {index : Nat} {run : List Field} (hne : run ≠ [])
    (hindex : ∀ f ∈ run, f.index = index) {f : Field} (hf : f.index ≠ index) (rest : List Field) :
    runs (run ++ f :: rest) = run :: runs (f :: rest) := by
  have hrun := runs_of_index hne hindex
  unfold runs at hrun ⊢
  rw [List.splitBy_append_cons, hrun]
  · rfl
  · intro g hg
    simpa [hindex g (List.mem_of_getLast? hg)] using hf.symm

/-- **Collecting is grouping by runs**, the first of which has begun. -/
theorem filter_collect_filled {index : Nat} {run : List Field} (hne : run ≠ [])
    (hindex : ∀ f ∈ run, f.index = index) {rest : List Field}
    (hvisible : ∀ f ∈ run ++ rest, f.value ≠ []) :
    (collect (some (filled index run)) rest).filter (·.location ≠ "") =
      (runs (run ++ rest)).filterMap runEntry? := by
  induction rest generalizing index run with
  | nil =>
    -- The run that is left at the end is an entry like any other.
    rw [List.append_nil] at hvisible ⊢
    rw [runs_of_index hne hindex, List.filterMap_cons, runEntry?_eq hne hvisible hindex]
    by_cases hlocation : (filled index run).location = ""
    · simp [collect, Option.guard, hlocation]
    · simp [collect, Option.guard, hlocation]
  | cons f rest ih =>
    have horder : (filled index run).order = some index := by
      rw [filled_eq]
    by_cases hf : f.index = index
    · have hstep : f.fill (filled index run) = filled index (run ++ [f]) := by
        simp [filled]
      have hmore : ∀ g ∈ run ++ [f], g.index = index := by
        simpa [or_imp, forall_and] using ⟨hindex, hf⟩
      rw [List.append_cons] at hvisible ⊢
      rw [collect, horder, if_pos (congrArg some hf.symm), hstep]
      exact ih (by simp) hmore hvisible
    · have hother : ¬ some index = some f.index := by
        simpa using Ne.symm hf
      have hstep : f.fill (blankEntry f.index) = filled f.index [f] := rfl
      have hvisible' : ∀ g ∈ [f] ++ rest, g.value ≠ [] :=
        fun g hg => hvisible g (List.mem_append_right run hg)
      have hindex' : ∀ g ∈ [f], g.index = f.index := by
        simp
      have hrest := ih (List.cons_ne_nil f []) hindex' hvisible'
      rw [collect, horder, if_neg hother, hstep, runs_append_cons hne hindex hf,
        List.filterMap_cons, runEntry?_eq hne (fun g hg => hvisible g (by simp [hg])) hindex,
        List.filter_cons, hrest]
      by_cases hlocation : (filled index run).location = ""
      · simp [Option.guard, hlocation]
      · simp [Option.guard, hlocation]

/-- The entries collected are those of the runs. -/
theorem filter_collect {fs : List Field} (hvisible : ∀ f ∈ fs, f.value ≠ []) :
    (collect none fs).filter (·.location ≠ "") = (runs fs).filterMap runEntry? := by
  cases fs with
  | nil => rfl
  | cons f rest =>
    have hindex : ∀ g ∈ [f], g.index = f.index := by
      simp
    exact filter_collect_filled (List.cons_ne_nil f []) hindex hvisible

/-- The fields of a text are those of its lines; a blank line is none. -/
theorem filterMap_trimmedLines {text : String} {lines : List (List Char)}
    (h : TextLines text lines) :
    (trimmedLines text).filterMap Field.ofLine? = lines.filterMap Field.ofLine? := by
  apply h.congr_trimmedLines (f := List.filterMap Field.ofLine?)
  intro lines
  have hblank : Field.ofLine? [] = none :=
    ofLine?_eq_none_iff.2 (not_spells_of_isAside .blank)
  rw [List.filterMap_append, List.filterMap_cons_none hblank, List.filterMap_nil, List.append_nil]

/-- What is read are the entries of the runs, whatever the fields of a text are. -/
theorem entries_eq_of_fieldsOf {text : String} {lines : List (List Char)} (h : TextLines text lines)
    {fs : List Field} (hfs : FieldsOf lines fs) :
    entries text = (runs fs).filterMap runEntry? := by
  have hread : (trimmedLines text).filterMap Field.ofLine? = fs := by
    rw [filterMap_trimmedLines h, fieldsOf_iff.1 hfs]
  -- A field is spelled with a value that is not empty.
  have hvisible : ∀ f ∈ fs, f.value ≠ [] := by
    intro f hf
    rw [← hread] at hf
    obtain ⟨line, -, hline⟩ := List.mem_filterMap.1 hf
    exact spells_visible (ofLine?_sound hline)
  rw [entries, hread]
  exact filter_collect hvisible

/-- A field of the parts that make it up, with a gap on both sides of the equals sign. -/
theorem spells_of_parts (name : FieldName) (word number gap value : List Char)
    (hparts : FilePath.asciiLower word = name.word ∧
      (number ≠ [] ∧ (∀ c ∈ number, c.isDigit = true) ∧ digitsValue number ≤ max32) ∧
      (∀ c ∈ gap, isBlank c = true) ∧ value.head?.any (!isBlank ·) = true) :
    Spells (word ++ (number ++ (gap ++ '=' :: (gap ++ value))))
      ⟨name, digitsValue number, value⟩ := by
  obtain ⟨hword, ⟨hne, hdigits, hfits⟩, hgap, hvalue⟩ := hparts
  obtain ⟨c, hc, hvisible⟩ := (Option.any_eq_true _ _).1 hvalue
  obtain ⟨rest, rfl⟩ := List.head?_eq_some_iff.1 hc
  rw [Bool.not_eq_true'] at hvisible
  have hnumber : IsNumber number := ⟨hne, hdigits, hfits⟩
  exact .intro hword (List.forall_mem_nil _) hnumber hgap hgap ⟨c, rest, rfl, hvisible⟩

end MediaShelves.Playlist.Pls
