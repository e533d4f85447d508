import Mathlib.Data.List.Induction
import Mathlib.Data.List.TakeWhile
import Mathlib.Data.Option.Basic
import MediaShelves.Playlist.M3u
import MediaShelves.Proofs.Playlist.Lines
import MediaShelves.Proofs.Text.Digits
import MediaShelves.Proofs.Text.Spans

/-!
# The line grammar of M3U

A line is a location or a comment, and some comments tell something about the location after them.
`Tells` says which ones and what, and `Derives` says what follows for a whole playlist.  Reading a
playlist is deciding the two: a line at a time and with nothing but the last comment in mind.

Main statement: the entries of a text are those that the grammar derives from its lines
(`M3u.entries_eq_iff_derives`).
-/

namespace MediaShelves.Playlist.M3u

open MediaShelves.Text

/-! ## The grammar of comments -/

/-- What a mimetype is made of. -/
def IsName (s : List Char) : Prop :=
  s ≠ [] ∧ ∀ c ∈ s, isNameCharacter c = true

/-- Two names with a slash between them. -/
def IsMimetype (s : List Char) : Prop :=
  ∃ major minor, s = major ++ '/' :: minor ∧ IsName major ∧ IsName minor

/-- A text is cut at its last comma if and only if a mimetype follows. -/
inductive Cut : List Char → List Char → Option (List Char) → Prop where
  | typed {title mimetype : List Char} (hlast : ',' ∉ mimetype)
      (hmimetype : IsMimetype (trim mimetype)) :
      Cut (title ++ ',' :: mimetype) (trimBack title) (some (trim mimetype))
  | whole {text : List Char}
      (h : ∀ title mimetype, text = title ++ ',' :: mimetype → ',' ∉ mimetype →
        ¬ IsMimetype (trim mimetype)) :
      Cut text text none

/-- A number, which may be negative. -/
inductive IsDuration : List Char → Prop where
  | positive {ds : List Char} (hne : ds ≠ []) (hds : ∀ c ∈ ds, isDecimalDigit c = true) :
      IsDuration ds
  | negative {ds : List Char} (hne : ds ≠ []) (hds : ∀ c ∈ ds, isDecimalDigit c = true) :
      IsDuration ('-' :: ds)

/-- At most one blank. -/
def IsGap (s : List Char) : Prop :=
  s = [] ∨ ∃ c, isBlank c = true ∧ s = [c]

/-- A comment of the extended format, and what it tells. -/
inductive Tells : List Char → Info → Prop where
  | intro {mark duration gap text title : List Char} {mimetype : Option (List Char)}
      (hmark : FilePath.asciiLower mark = "#extinf:".toList) (hduration : IsDuration duration)
      (hgap : IsGap gap) (htext : BeginsVisibly text) (hcut : Cut text title mimetype) :
      Tells (mark ++ duration ++ ',' :: (gap ++ text)) ⟨duration, title, mimetype⟩

/-! ## The grammar of playlists -/

/-- A line that is neither blank nor a comment. -/
def IsLocation (line : List Char) : Prop :=
  line ≠ [] ∧ line.head? ≠ some '#'

instance : DecidablePred IsLocation :=
  fun line => inferInstanceAs (Decidable (line ≠ [] ∧ line.head? ≠ some '#'))

/-- What the last line of some that tells anything tells. -/
inductive LastTells : List (List Char) → Option Info → Prop where
  | none {lines : List (List Char)} (h : ∀ line ∈ lines, ∀ i, ¬ Tells line i) :
      LastTells lines none
  | some {before after : List (List Char)} {line : List Char} {i : Info} (hline : Tells line i)
      (hafter : ∀ line ∈ after, ∀ i, ¬ Tells line i) :
      LastTells (before ++ line :: after) (some i)

/-- The entry of a location, with what was told about it. -/
def described (told : Option Info) (location : List Char) : Entry where
  location := String.ofList location
  title := told.map fun i => String.ofList i.title
  mimetype := told.bind fun i => i.mimetype.map String.ofList
  order := none
  description := none
  protocol := none
  size := none
  extra := match told with
    | some i => Keyed.empty.insert "duration" (String.ofList i.duration)
    | none => Keyed.empty

/-- A playlist: locations, each with the lines since the one before it. -/
inductive Derives : List (List Char) → List Entry → Prop where
  | done {lines : List (List Char)} (hlines : ∀ line ∈ lines, ¬ IsLocation line) :
      Derives lines []
  | entry {before rest : List (List Char)} {location : List Char} {told : Option Info}
      {es : List Entry} (hbefore : ∀ line ∈ before, ¬ IsLocation line)
      (hlocation : IsLocation location) (htold : LastTells before told)
      (hrest : Derives rest es) :
      Derives (before ++ location :: rest) (described told location :: es)

/-- A line without the mark of the extended format tells nothing. -/
theorem not_tells_of_take {line : List Char}
    (h : FilePath.asciiLower (line.take 8) ≠ "#extinf:".toList) (i : Info) : ¬ Tells line i := by
  rintro ⟨hmark, -, -, -, -⟩
  rename_i mark duration gap text title mimetype
  have hlength : mark.length = 8 := by
    have hlength := congrArg List.length hmark
    rwa [FilePath.asciiLower, List.length_map] at hlength
  apply h
  rw [List.append_assoc, ← hlength, List.take_left, hmark]

/-! ## Reading comments -/

/-- A text is taken for a mimetype just when it is one: two names with a slash between them. -/
theorem isMimetype_iff {s : List Char} : isMimetype s = true ↔ IsMimetype s := by
  constructor
  · intro h
    unfold isMimetype at h
    split at h
    · rename_i major minor hparts
      simp only [Bool.and_eq_true, Bool.not_eq_true', List.isEmpty_eq_false_iff,
        List.all_eq_true] at h
      obtain ⟨⟨⟨hmajor, hmajors⟩, hminor⟩, hminors⟩ := h
      have hs : ['/'].intercalate [major, minor] = s := by
        rw [← hparts]
        exact List.intercalate_splitOn '/'
      exact ⟨major, minor, by simp [← hs], ⟨hmajor, hmajors⟩, ⟨hminor, hminors⟩⟩
    · cases h
  · rintro ⟨major, minor, rfl, ⟨hmajor, hmajors⟩, ⟨hminor, hminors⟩⟩
    -- A name has no slash in it, so the text falls into the two names.
    have hslash {name : List Char} (hname : ∀ c ∈ name, isNameCharacter c = true) :
        '/' ∉ name := by
      intro h
      exact absurd (hname '/' h) (by decide)
    have hparts : (major ++ '/' :: minor).splitOn '/' = [major, minor] := by
      have hnone : ∀ name ∈ [major, minor], '/' ∉ name := by
        simp [hslash hmajors, hslash hminors]
      simpa using List.splitOn_intercalate '/' hnone (by simp)
    simp [isMimetype, hparts, hmajor, hminor, List.all_eq_true.2 hmajors,
      List.all_eq_true.2 hminors]

/-- A text is split where it is to be cut. -/
theorem cut_splitTitle (s : List Char) : Cut s (splitTitle s).1 (splitTitle s).2 := by
  unfold splitTitle
  split
  · rename_i title mimetype hcut
    obtain ⟨rfl, hlast⟩ := cutLast?_eq_some_iff.1 hcut
    split
    · rename_i hmimetype
      exact .typed hlast (isMimetype_iff.1 hmimetype)
    · rename_i hmimetype
      apply Cut.whole
      intro title' mimetype' hs hlast'
      -- There is only one last comma.
      have hcut' := cutLast?_eq_some_iff.2 ⟨hs, hlast'⟩
      rw [hcut] at hcut'
      cases hcut'
      exact mt isMimetype_iff.2 hmimetype
  · rename_i hcut
    apply Cut.whole
    intro title mimetype hs
    have hcomma : ',' ∉ s := cutLast?_eq_none_iff.1 hcut
    simp [hs] at hcomma

/-- Where a text is to be cut it is split, since it has only one last comma. -/
theorem splitTitle_of_cut {s title : List Char} {mimetype : Option (List Char)}
    (h : Cut s title mimetype) : splitTitle s = (title, mimetype) := by
  cases h with
  | typed hlast hmimetype =>
    rw [splitTitle, cutLast?_eq_some_iff.2 ⟨rfl, hlast⟩]
    simp [isMimetype_iff.2 hmimetype]
  | whole h =>
    unfold splitTitle
    split
    · rename_i title mimetype hcut
      obtain ⟨hs, hlast⟩ := cutLast?_eq_some_iff.1 hcut
      rw [if_neg (mt isMimetype_iff.1 (h title mimetype hs hlast))]
    · rfl

theorem readDuration?_sound {s duration rest : List Char}
    (h : readDuration? s = some (duration, rest)) :
    IsDuration duration ∧ s = duration ++ ',' :: rest := by
  unfold readDuration? at h
  split at h
  rename_i sign s' hsign
  have hds : ∀ c ∈ s'.takeWhile isDecimalDigit, isDecimalDigit c = true :=
    fun c hc => List.mem_takeWhile_imp hc
  have hs' := List.takeWhile_append_dropWhile (p := isDecimalDigit) (l := s')
  -- Only the parts matter from here on, and not how the digits are told.
  generalize s'.takeWhile isDecimalDigit = ds at h hds hs'
  generalize s'.dropWhile isDecimalDigit = tail at h hs'
  subst hs'
  split at h
  · cases h
  · rename_i hne
    cases h
    split at hsign
    · cases hsign
      exact ⟨.negative hne hds, rfl⟩
    · cases hsign
      exact ⟨.positive hne hds, rfl⟩
  · cases h

/-- Digits are read up to the comma after them. -/
theorem readDigits {sign ds rest : List Char} (hne : ds ≠ [])
    (hds : ∀ c ∈ ds, isDecimalDigit c = true) :
    (match (ds ++ ',' :: rest).takeWhile isDecimalDigit,
        (ds ++ ',' :: rest).dropWhile isDecimalDigit with
      | [], _ => none
      | ds, ',' :: rest => some (sign ++ ds, rest)
      | _, _ => none) = some (sign ++ ds, rest) := by
  have hstop : ∀ c, (',' :: rest).head? = some c → isDecimalDigit c = false := by
    rintro c ⟨⟩
    exact isDecimalDigit_of_mem_marks (by decide)
  rw [takeWhile_append_of_stop hds hstop, dropWhile_append_of_stop hds hstop]
  obtain ⟨d, ds, rfl⟩ := List.exists_cons_of_ne_nil hne
  rfl

theorem readDuration?_complete {duration rest : List Char} (h : IsDuration duration) :
    readDuration? (duration ++ ',' :: rest) = some (duration, rest) := by
  cases h with
  | positive hne hds =>
    unfold readDuration?
    split
    rename_i sign s' hsplit
    split at hsplit
    · rename_i hs
      -- A digit is no sign.
      obtain ⟨d, ds, rfl⟩ := List.exists_cons_of_ne_nil hne
      cases hs
      have hdigit := hds '-' (by simp)
      rw [isDecimalDigit_of_mem_marks (by decide)] at hdigit
      cases hdigit
    · cases hsplit
      exact readDigits hne hds
  | negative hne hds =>
    rw [readDuration?.eq_def, List.cons_append]
    exact readDigits hne hds

theorem readTitle?_sound {s text : List Char} (h : readTitle? s = some text) :
    BeginsVisibly text ∧ ∃ gap, IsGap gap ∧ s = gap ++ text := by
  unfold readTitle? at h
  split at h
  · rename_i c rest
    split at h
    · rename_i hc
      -- The blank in front is skipped, and something visible comes next.
      dsimp only at h
      split at h
      · rename_i d rest
        split at h
        · cases h
        · rename_i hd
          cases h
          exact ⟨⟨d, rest, rfl, by simpa using hd⟩, [c], .inr ⟨c, hc, rfl⟩, rfl⟩
      · cases h
    · rename_i hc
      simp only [hc, Bool.false_eq_true, if_false] at h
      cases h
      exact ⟨⟨c, rest, rfl, by simpa using hc⟩, [], .inl rfl, rfl⟩
  · cases h

theorem readTitle?_complete {gap text : List Char} (hgap : IsGap gap) (htext : BeginsVisibly text) :
    readTitle? (gap ++ text) = some text := by
  obtain ⟨c, rest, rfl, hc⟩ := htext
  rcases hgap with rfl | ⟨b, hb, rfl⟩
  · unfold readTitle?
    simp only [List.nil_append, hc, Bool.false_eq_true, if_false]
  · unfold readTitle?
    simp only [List.cons_append, List.nil_append, hb, if_true, hc, Bool.false_eq_true, if_false]

theorem ofLine?_sound {line : List Char} {i : Info} (h : Info.ofLine? line = some i) :
    Tells line i := by
  simp only [Info.ofLine?, Option.bind_eq_bind, Option.bind_eq_some_iff, Option.guard_eq_some',
    beq_iff_eq] at h
  obtain ⟨-, hmark, ⟨duration, rest⟩, hread, text, htitle, hi⟩ := h
  cases hi
  obtain ⟨hduration, hrest⟩ := readDuration?_sound hread
  obtain ⟨htext, gap, hgap, rfl⟩ := readTitle?_sound htitle
  -- The mark is taken by its length, and what follows it is read in three steps.
  have hline : line = line.take "#extinf:".toList.length ++ duration ++ ',' :: (gap ++ text) := by
    rw [List.append_assoc, ← hrest, List.take_append_drop]
  rw [hline]
  exact .intro hmark hduration hgap htext (cut_splitTitle text)

theorem ofLine?_complete {line : List Char} {i : Info} (h : Tells line i) :
    Info.ofLine? line = some i := by
  cases h with
  | @intro mark duration gap text title mimetype hmark hduration hgap htext hcut =>
    have hlength : "#extinf:".toList.length = mark.length := by
      rw [← hmark]
      simp [FilePath.asciiLower]
    simp only [Info.ofLine?, hlength, List.append_assoc, List.take_left, List.drop_left, hmark,
      beq_self_eq_true, guard, Option.bind_eq_bind, readDuration?_complete hduration,
      Option.bind_some, readTitle?_complete hgap htext, splitTitle_of_cut hcut]
    rfl

/-- **A comment tells what the grammar says.** -/
theorem ofLine?_eq_some_iff {line : List Char} {i : Info} :
    Info.ofLine? line = some i ↔ Tells line i :=
  ⟨ofLine?_sound, ofLine?_complete⟩

/-- A line that nothing is read from tells nothing. -/
theorem ofLine?_eq_none_iff {line : List Char} :
    Info.ofLine? line = none ↔ ∀ i, ¬ Tells line i := by
  simp [Option.eq_none_iff_forall_ne_some, ofLine?_eq_some_iff]

/-! ## Reading playlists -/

/-- What the last of some lines that tells anything tells, after something else was pending. -/
def pendingAfter (pending : Option Info) (lines : List (List Char)) : Option Info :=
  lines.foldl (fun told line => (Info.ofLine? line).or told) pending

/-- What is pending after some lines is what the last of them that tells anything tells. -/
theorem lastTells_pendingAfter (lines : List (List Char)) :
    LastTells lines (pendingAfter none lines) := by
  induction lines using List.reverseRecOn with
  | nil => exact .none (by simp)
  | append_singleton lines line ih =>
    simp only [pendingAfter, List.foldl_append, List.foldl_cons, List.foldl_nil] at ih ⊢
    cases hline : Info.ofLine? line with
    | some i => exact .some (ofLine?_sound hline) (by simp)
    | none =>
      rw [ofLine?_eq_none_iff] at hline
      -- The line tells nothing, so what the others told stands.
      rw [Option.none_or]
      generalize lines.foldl _ none = told at ih ⊢
      cases ih with
      | none h =>
        apply LastTells.none
        simpa [or_imp, forall_and] using ⟨h, hline⟩
      | some htells hafter =>
        rw [List.append_assoc, List.cons_append]
        apply LastTells.some htells
        simpa [or_imp, forall_and] using ⟨hafter, hline⟩

/-- Lines that tell nothing leave pending what is. -/
theorem pendingAfter_of_silent {lines : List (List Char)}
    (h : ∀ line ∈ lines, ∀ i, ¬ Tells line i) (pending : Option Info) :
    pendingAfter pending lines = pending := by
  induction lines with
  | nil => rfl
  | cons line lines ih =>
    obtain ⟨hline, hlines⟩ := List.forall_mem_cons.1 h
    simpa [pendingAfter, ofLine?_eq_none_iff.2 hline] using ih hlines

/-- What the last telling line tells is pending after all of them. -/
theorem pendingAfter_of_lastTells {lines : List (List Char)} {told : Option Info}
    (h : LastTells lines told) : pendingAfter none lines = told := by
  cases h with
  | none h => exact pendingAfter_of_silent h none
  | @some before after line i hline hafter =>
    have hlast := pendingAfter_of_silent hafter (some i)
    simpa [pendingAfter, ofLine?_complete hline] using hlast

/-- A line that is no location changes nothing but what is pending. -/
theorem readLines_cons_of_not {pending : Option Info} {line : List Char}
    (h : ¬ IsLocation line) (rest : List (List Char)) :
    readLines pending (line :: rest) = readLines ((Info.ofLine? line).or pending) rest := by
  cases line with
  | nil => rfl
  | cons c line =>
    have hc : c = '#' := by
      simpa [IsLocation] using h
    subst hc
    rfl

/-- A location is an entry with what is pending, and nothing is pending after it. -/
theorem readLines_cons_of_isLocation {pending : Option Info} {line : List Char}
    (h : IsLocation line) (rest : List (List Char)) :
    readLines pending (line :: rest) = described pending line :: readLines none rest := by
  have hcomment : ∀ comment, line = '#' :: comment → False := by
    rintro comment rfl
    exact h.2 rfl
  cases pending with
  | none => exact readLines.eq_5 line rest h.1 hcomment
  | some i => exact readLines.eq_4 line rest i h.1 hcomment

/-- Lines before a location only add to what is pending. -/
theorem readLines_append_of_not {before : List (List Char)}
    (h : ∀ line ∈ before, ¬ IsLocation line) (pending : Option Info) (rest : List (List Char)) :
    readLines pending (before ++ rest) = readLines (pendingAfter pending before) rest := by
  induction before generalizing pending with
  | nil => rfl
  | cons line before ih =>
    obtain ⟨hline, hbefore⟩ := List.forall_mem_cons.1 h
    rw [List.cons_append, readLines_cons_of_not hline, ih hbefore]
    rfl

/-- A playlist is read as the entries that it is made of. -/
theorem readLines_of_derives {lines : List (List Char)} {es : List Entry}
    (h : Derives lines es) : readLines none lines = es := by
  induction h with
  | done hlines => simpa [readLines] using readLines_append_of_not hlines none []
  | entry hbefore hlocation htold _ ih =>
    rw [readLines_append_of_not hbefore, pendingAfter_of_lastTells htold,
      readLines_cons_of_isLocation hlocation, ih]

/-- What was pending after the lines since the last location decides the next entry. -/
theorem derives_readLines {before : List (List Char)} (hbefore : ∀ line ∈ before, ¬ IsLocation line)
    (lines : List (List Char)) :
    Derives (before ++ lines) (readLines (pendingAfter none before) lines) := by
  induction lines generalizing before with
  | nil =>
    rw [List.append_nil]
    exact .done hbefore
  | cons line lines ih =>
    -- The lines before are those since the last location, so that they tell about the next one.
    by_cases hline : IsLocation line
    · rw [readLines_cons_of_isLocation hline]
      exact .entry hbefore hline (lastTells_pendingAfter before) (ih (List.forall_mem_nil _))
    · have hmore : ∀ l ∈ before ++ [line], ¬ IsLocation l := by
        simpa [or_imp, forall_and] using ⟨hbefore, hline⟩
      have h := ih hmore
      rw [pendingAfter, List.foldl_append] at h
      rw [readLines_cons_of_not hline, List.append_cons]
      exact h

/-- **Lines are read as some entries just when they derive them.** -/
theorem readLines_none_eq_iff {lines : List (List Char)} {es : List Entry} :
    readLines none lines = es ↔ Derives lines es := by
  constructor
  · rintro rfl
    exact derives_readLines (List.forall_mem_nil _) lines
  · exact readLines_of_derives

/-- A line that is no location and tells nothing may as well not be there. -/
theorem readLines_remove {line : List Char} (hlocation : ¬ IsLocation line)
    (htells : ∀ i, ¬ Tells line i) (pending : Option Info) (before after : List (List Char)) :
    readLines pending (before ++ line :: after) = readLines pending (before ++ after) := by
  induction before generalizing pending with
  | nil =>
    rw [List.nil_append, readLines_cons_of_not hlocation, ofLine?_eq_none_iff.2 htells,
      Option.none_or, List.nil_append]
  | cons l before ih =>
    by_cases hl : IsLocation l
    · simp only [List.cons_append, readLines_cons_of_isLocation hl, ih]
    · simp only [List.cons_append, readLines_cons_of_not hl, ih]

/-- The entries are at the locations among the lines, in their order. -/
theorem location_of_derives {lines : List (List Char)} {es : List Entry} (h : Derives lines es) :
    es.map (·.location) = (lines.filter (IsLocation ·)).map String.ofList := by
  have hnone {before : List (List Char)} (hbefore : ∀ line ∈ before, ¬ IsLocation line) :
      before.filter (IsLocation ·) = [] :=
    List.filter_eq_nil_iff.2 (by simpa using hbefore)
  induction h with
  | done hlines => simp [hnone hlines]
  | entry hbefore hlocation _ _ ih =>
    simp [hnone hbefore, hlocation, ih, described]

/-- A blank line is no location and tells nothing, so that it may stand anywhere. -/
theorem readLines_append_blank (lines : List (List Char)) :
    readLines none (lines ++ [[]]) = readLines none lines := by
  have hlocation : ¬ IsLocation [] := by
    simp [IsLocation]
  rw [readLines_remove hlocation (not_tells_of_take (by decide)), List.append_nil]

/-- The lines of a text may be any that it is cut into. -/
theorem entries_eq_readLines {text : String} {lines : List (List Char)}
    (h : TextLines text lines) : entries text = readLines none lines :=
  h.congr_trimmedLines readLines_append_blank

/--
**Parsing is the line grammar.**  The entries of a text are those that its lines derive, and no
others.  So there is one for each line that is a location, in order, and a line that is none and
tells nothing has no effect, wherever it stands.
-/
theorem entries_eq_iff_derives (text : String) :
    (∀ es, entries text = es ↔ ∃ lines, TextLines text lines ∧ Derives lines es) ∧
      ∀ lines, TextLines text lines →
        (entries text).map (·.location) = (lines.filter (IsLocation ·)).map String.ofList ∧
        ∀ before line after, lines = before ++ line :: after → ¬ IsLocation line →
          (∀ i, ¬ Tells line i) →
          ∀ text', TextLines text' (before ++ after) → entries text' = entries text := by
  constructor
  · intro es
    constructor
    · rintro rfl
      -- A text falls into lines in some way, and which way makes no difference.
      obtain ⟨lines, hlines⟩ := exists_textLines text
      exact ⟨lines, hlines, readLines_none_eq_iff.1 (entries_eq_readLines hlines).symm⟩
    · rintro ⟨lines, hlines, hderives⟩
      rw [entries_eq_readLines hlines]
      exact readLines_of_derives hderives
  · intro lines hlines
    have hentries := entries_eq_readLines hlines
    refine ⟨location_of_derives (readLines_none_eq_iff.1 hentries.symm), ?_⟩
    rintro before line after rfl hlocation htells text' htext'
    rw [hentries, entries_eq_readLines htext', readLines_remove hlocation htells]

/-- A comment with a negative duration, and with a comma in the title before the mimetype. -/
theorem tells_song :
    Tells "#ExtInf:-1, Some, Song , audio/mpeg".toList
      ⟨"-1".toList, "Some, Song".toList, some "audio/mpeg".toList⟩ := by
  have hduration : IsDuration ('-' :: ['1']) :=
    .negative (List.cons_ne_nil _ _) (forall_isDecimalDigit (by decide))
  have hgap : IsGap [' '] := .inr ⟨' ', by decide, rfl⟩
  have hmimetype : IsMimetype (trim " audio/mpeg".toList) :=
    ⟨"audio".toList, "mpeg".toList, by decide, ⟨by decide, by decide⟩, by decide, by decide⟩
  -- The last comma is the one before the mimetype, whatever commas the title has.
  have hcut : Cut ("Some, Song ".toList ++ ',' :: " audio/mpeg".toList) _ _ :=
    .typed (by decide) hmimetype
  have hvisible : BeginsVisibly ("Some, Song ".toList ++ ',' :: " audio/mpeg".toList) :=
    ⟨'S', _, rfl, by decide⟩
  have hmark : FilePath.asciiLower "#ExtInf:".toList = "#extinf:".toList := by decide
  exact Tells.intro hmark hduration hgap hvisible hcut

/--
Behind a byte order mark there are a comment that the next one replaces, a blank line and another
comment before a song, and a comment that tells nothing before an address.
-/
theorem entries_eq_iff_derives_radio :
    ∃ text lines,
      text = "\uFEFF" ++ ("#EXTINF:9,Lost\r\n#ExtInf:-1, Some, Song , audio/mpeg\n\n # comment\r\n" ++
        "\t/music/a.mp3 \n#EXTINF,Broken\nhttp://a/b") ∧
      lines = ["#EXTINF:9,Lost", "#ExtInf:-1, Some, Song , audio/mpeg", "", "# comment",
        "/music/a.mp3", "#EXTINF,Broken", "http://a/b"].map String.toList ∧
      TextLines text lines ∧
      entries text =
        [{ Entry.ofLocation "/music/a.mp3" with
            title := some "Some, Song"
            mimetype := some "audio/mpeg"
            extra := Keyed.ofList [("duration", "-1")] },
          Entry.ofLocation "http://a/b"] := by
  refine ⟨_, _, rfl, rfl, ?_⟩
  -- What the entries are is derived from the lines.
  refine (and_iff_left_of_imp fun hlines => ?_).2 (textLines_append (by decide +kernel))
  have hafter : LastTells (["#EXTINF:9,Lost".toList] ++
      "#ExtInf:-1, Some, Song , audio/mpeg".toList :: ["".toList, "# comment".toList])
      (some ⟨"-1".toList, "Some, Song".toList, some "audio/mpeg".toList⟩) := by
    refine .some tells_song fun line hline => not_tells_of_take ?_
    revert line
    decide
  have hbroken : LastTells ["#EXTINF,Broken".toList] none := by
    refine .none fun line hline => not_tells_of_take ?_
    revert line
    decide
  have hsong : IsLocation "/music/a.mp3".toList := by decide
  have haddress : IsLocation "http://a/b".toList := by decide
  have hderives := Derives.entry (by decide) hsong hafter
    (.entry (by decide) haddress hbroken (.done (List.forall_mem_nil _)))
  exact ((entries_eq_iff_derives _).1 _).2 ⟨_, hlines, hderives⟩

end MediaShelves.Playlist.M3u
