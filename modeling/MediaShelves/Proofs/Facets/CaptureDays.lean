import MediaShelves.Facets.Visual
import MediaShelves.Proofs.Facets.Dates
import MediaShelves.Proofs.Plan.Boxes

/-!
# Days of capture

Where nothing else says when an image or a video was taken, its date does.  So a date is read twice:
for the shelves of dates, in any spelling (`DateFacets.told?`), and for the time of capture, as three
numbers with dashes between them (`Configuration.dayTime?`).

The second reader takes one way of writing a day (`WritesDay`), and the sign of a year besides.  A text
that is written so, and in which the first reader finds a day, is read as the same day by both
(`DateFacets.told_same`): the two never name different days.  But of all spellings of a day the second
reader knows only this one, and so a date such as cameras write has no time of capture
(`day_with_colons_has_no_capture`).

Main statement: `capture_day_iff_writesDay`.
-/

namespace MediaShelves

open MediaShelves.Text

/-! ## Numbers of few digits -/

/-- Whether a text is digits that stand for a number, and no more of them than a width. -/
structure WritesNumber (width n : Nat) (s : List Char) : Prop where
  ne_nil : s ≠ []
  isDigit : ∀ c ∈ s, c.isDigit = true
  length_le : s.length ≤ width
  value : digitsValue s = n

theorem writesNumber_padded {width n : Nat} (hwidth : 0 < width) (hn : n < 10 ^ width) :
    WritesNumber width n (padded width n) := by
  have hnumeral := isNumeral_padded hwidth hn
  exact ⟨hnumeral.ne_nil hwidth, hnumeral.2, Nat.le_of_eq hnumeral.1, digitsValue_padded width n⟩

theorem WritesNumber.isSolid {width n : Nat} {s : List Char} (h : WritesNumber width n s) :
    IsSolid s :=
  isSolid_of_digits h.ne_nil h.isDigit

namespace Timestamp

/-- The digits that are read are the front of the text. -/
theorem readDigits?_eq_some {width n : Nat} {s rest : List Char}
    (h : readDigits? width s = some (n, rest)) : ∃ ds, s = ds ++ rest ∧ WritesNumber width n ds := by
  unfold readDigits? at h
  split at h
  · cases h
  · rename_i ds hne
    cases h
    -- The digits that were read begin the text, and there are no more of them than the width.
    have hfront : (s.take width).takeWhile Char.isDigit <+: s.take width := List.takeWhile_prefix _
    have hlength : ((s.take width).takeWhile Char.isDigit).length ≤ width :=
      Nat.le_trans hfront.length_le (List.length_take_le _ _)
    refine ⟨(s.take width).takeWhile Char.isDigit, ?_, hne, ?_, hlength, rfl⟩
    · exact (List.prefix_iff_eq_append.1 (hfront.trans (List.take_prefix _ _))).symm
    · exact fun c hc => List.all_eq_true.1 List.all_takeWhile c hc

/-- A number is read where no digit follows it. -/
theorem readDigits?_append {width n : Nat} {ds rest : List Char} (h : WritesNumber width n ds)
    (hrest : ∀ c, rest.head? = some c → c.isDigit = false) :
    readDigits? width (ds ++ rest) = some (n, rest) := by
  -- The digits end at the width or at the first other character, whichever comes first.
  have hdigits : ((ds ++ rest).take width).takeWhile Char.isDigit = ds := by
    rw [List.take_append, List.take_of_length_le h.length_le]
    apply takeWhile_append_of_stop h.isDigit
    intro c hc
    rw [List.head?_take] at hc
    split at hc
    · cases hc
    · exact hrest c hc
  unfold readDigits?
  rw [hdigits]
  split
  · exact absurd rfl h.ne_nil
  · rw [h.value, List.drop_left]

/-- How a year is written: in four digits at most, or in any number of them behind a sign. -/
inductive WritesYear : Int → List Char → Prop where
  | plain {n : Nat} {ds : List Char} : WritesNumber 4 n ds → WritesYear n ds
  | negative {n : Nat} {ds : List Char} : WritesNumber ds.length n ds → WritesYear (-n) ('-' :: ds)
  | positive {n : Nat} {ds : List Char} : WritesNumber ds.length n ds → WritesYear n ('+' :: ds)

section

variable {year : Int} {y : List Char}

/-- A year is digits and perhaps a sign. -/
theorem WritesYear.isDigit_or_isSign (h : WritesYear year y) :
    ∀ c ∈ y, c.isDigit = true ∨ c ∈ ['-', '+'] := by
  -- A sign is followed by digits only.
  have hsigned {sign : Char} (hsign : sign ∈ ['-', '+']) {ds : List Char}
      (hds : ∀ c ∈ ds, c.isDigit = true) :
      ∀ c ∈ sign :: ds, c.isDigit = true ∨ c ∈ ['-', '+'] := by
    intro c hc
    rcases List.mem_cons.1 hc with rfl | hc
    · exact .inr hsign
    · exact .inl (hds c hc)
  cases h with
  | plain h => exact fun c hc => .inl (h.isDigit c hc)
  | negative h => exact hsigned (by simp) h.isDigit
  | positive h => exact hsigned (by simp) h.isDigit

theorem WritesYear.ne_nil (h : WritesYear year y) : y ≠ [] := by
  cases h with
  | plain h => exact h.ne_nil
  | negative _ => exact List.cons_ne_nil _ _
  | positive _ => exact List.cons_ne_nil _ _

theorem WritesYear.isSolid (h : WritesYear year y) : IsSolid y := by
  refine ⟨h.ne_nil, fun c hc => ?_⟩
  rcases h.isDigit_or_isSign c hc with hdigit | hsign
  · exact isBlank_of_isDigit hdigit
  · exact (by decide : ∀ c ∈ ['-', '+'], isBlank c = false) c hsign

/-- A year of digits has no sign, and so it is the number for which they stand. -/
theorem WritesYear.eq_of_digits (h : WritesYear year y) (hy : ∀ c ∈ y, c.isDigit = true) :
    year = digitsValue y := by
  cases h with
  | plain h => rw [h.value]
  | negative _ => exact absurd (hy '-' (by simp)) (by decide)
  | positive _ => exact absurd (hy '+' (by simp)) (by decide)

end

theorem readYear?_of_digit {d : Char} (hd : d.isDigit = true) (s : List Char) :
    readYear? (d :: s) = (readDigits? 4 (d :: s)).map fun (n, rest) => ((n : Int), rest) := by
  unfold readYear?
  -- A digit is no sign.
  split
  · rename_i heq
    cases heq
    exact absurd hd (by decide)
  · rename_i heq
    cases heq
    exact absurd hd (by decide)
  · rfl

theorem readAllDigits?_eq_some {n : Nat} {s rest : List Char}
    (h : readAllDigits? s = some (n, rest)) :
    ∃ ds, s = ds ++ rest ∧ WritesNumber ds.length n ds := by
  obtain ⟨ds, hs, hds⟩ := readDigits?_eq_some h
  exact ⟨ds, hs, hds.ne_nil, hds.isDigit, Nat.le_refl _, hds.value⟩

theorem readAllDigits?_append {n : Nat} {ds rest : List Char} (h : WritesNumber ds.length n ds)
    (hrest : ∀ c, rest.head? = some c → c.isDigit = false) :
    readAllDigits? (ds ++ rest) = some (n, rest) := by
  refine readDigits?_append ⟨h.ne_nil, h.isDigit, ?_, h.value⟩ hrest
  rw [List.length_append]
  exact Nat.le_add_right _ _

/-- A year that is read stands written at the beginning. -/
theorem readYear?_eq_some {year : Int} {s rest : List Char} (h : readYear? s = some (year, rest)) :
    ∃ y, s = y ++ rest ∧ WritesYear year y := by
  unfold readYear? at h
  -- The sign decides how many digits are read.
  split at h
  all_goals
    obtain ⟨⟨n, rest'⟩, hread, heq⟩ := Option.map_eq_some_iff.1 h
    cases heq
  · obtain ⟨ds, rfl, hds⟩ := readAllDigits?_eq_some hread
    exact ⟨'-' :: ds, rfl, .negative hds⟩
  · obtain ⟨ds, rfl, hds⟩ := readAllDigits?_eq_some hread
    exact ⟨'+' :: ds, rfl, .positive hds⟩
  · obtain ⟨ds, rfl, hds⟩ := readDigits?_eq_some hread
    exact ⟨ds, rfl, .plain hds⟩

/-- A year that stands written is read up to the first character that is no digit. -/
theorem readYear?_append {year : Int} {y rest : List Char} (h : WritesYear year y)
    (hrest : ∀ c, rest.head? = some c → c.isDigit = false) :
    readYear? (y ++ rest) = some (year, rest) := by
  cases h with
  | plain h =>
    -- Without a sign at most four digits are read.
    obtain ⟨d, ds, rfl⟩ := List.exists_cons_of_ne_nil h.ne_nil
    rw [List.cons_append, readYear?_of_digit (h.isDigit d (by simp)), ← List.cons_append,
      readDigits?_append h hrest]
    rfl
  | negative h =>
    rw [List.cons_append, readYear?, readAllDigits?_append h hrest]
    rfl
  | positive h =>
    rw [List.cons_append, readYear?, readAllDigits?_append h hrest]
    rfl

end Timestamp

/-! ## Days with dashes -/

/--
How a year, a month and a day are written with dashes: the month and the day in one digit or two, with
blanks before each number at most.
-/
inductive WritesDay (year : List Char) (month day : Nat) : List Char → Prop where
  | intro {front gap gap' m d : List Char} :
    (∀ c ∈ front, isBlank c = true) → (∀ c ∈ gap, isBlank c = true) →
    (∀ c ∈ gap', isBlank c = true) → WritesNumber 2 month m → WritesNumber 2 day d →
    WritesDay year month day (front ++ (year ++ '-' :: (gap ++ (m ++ '-' :: (gap' ++ d)))))

namespace Timestamp

/-- The beginning of a day. -/
def beginOfDay (year : Int) (month day : Nat) : Timestamp :=
  ⟨year, month, day, 0, 0, 0⟩

/-- A number of the format may stand behind blanks. -/
theorem readParts?_number_eq_some_iff {field : Field} {parts : List FormatPart} {t u : Timestamp}
    {s : List Char} : readParts? (.number field :: parts) t s = some u ↔
      ∃ t' rest, readField? field t (trimFront s) = some (t', rest) ∧
        readParts? parts t' rest = some u := by
  rw [readParts?]
  cases readField? field t (trimFront s) with
  | none => simp
  | some read =>
    constructor
    · exact fun h => ⟨read.1, read.2, rfl, h⟩
    · rintro ⟨t', rest, hread, h⟩
      cases hread
      exact h

/-- A mark of the format stands just as it is. -/
theorem readParts?_mark_eq_some_iff {c : Char} {parts : List FormatPart} {t u : Timestamp}
    {s : List Char} : readParts? (.mark c :: parts) t s = some u ↔
      ∃ rest, s = c :: rest ∧ readParts? parts t rest = some u := by
  cases s with
  | nil => simp [readParts?]
  | cons d rest => by_cases hd : d = c <;> simp [readParts?, hd]

/-- A day is read as a year, a month and a day behind blanks, with dashes between them. -/
theorem readParts?_dayFormat_iff_fields {s : List Char} {t : Timestamp} :
    readParts? dayFormat ⟨0, 0, 0, 0, 0, 0⟩ s = some t ↔
      ∃ year month day rest rest', readYear? (trimFront s) = some (year, '-' :: rest) ∧
        readDigits? 2 (trimFront rest) = some (month, '-' :: rest') ∧
        readDigits? 2 (trimFront rest') = some (day, []) ∧ t = beginOfDay year month day := by
  simp only [dayFormat, readParts?_number_eq_some_iff, readParts?_mark_eq_some_iff, readField?,
    Option.map_eq_some_iff, Prod.exists, Prod.mk.injEq]
  constructor
  · rintro ⟨_, _, ⟨year, _, hyear, rfl, rfl⟩, rest, rfl, _, _, ⟨month, _, hmonth, rfl, rfl⟩,
      rest', rfl, _, _, ⟨day, last, hday, rfl, rfl⟩, hend⟩
    -- The format ends behind the day, and so does the text.
    cases last with
    | nil => exact ⟨year, month, day, rest, rest', hyear, hmonth, hday, (Option.some.inj hend).symm⟩
    | cons c last => cases hend
  · rintro ⟨year, month, day, rest, rest', hyear, hmonth, hday, rfl⟩
    exact ⟨_, _, ⟨year, _, hyear, rfl, rfl⟩, rest, rfl, _, _, ⟨month, _, hmonth, rfl, rfl⟩, rest',
      rfl, _, _, ⟨day, _, hday, rfl, rfl⟩, rfl⟩

/-- **What is read as a day is a day with dashes.** -/
theorem readParts?_dayFormat_eq_some_iff {s : List Char} {t : Timestamp} :
    readParts? dayFormat ⟨0, 0, 0, 0, 0, 0⟩ s = some t ↔
      ∃ year y month day, WritesYear year y ∧ WritesDay y month day s ∧
        t = beginOfDay year month day := by
  rw [readParts?_dayFormat_iff_fields]
  constructor
  · rintro ⟨year, month, day, rest, rest', hyear, hmonth, hday, rfl⟩
    obtain ⟨front, hfront, hs⟩ := exists_eq_append_trimFront s
    obtain ⟨gap, hgap, hrest⟩ := exists_eq_append_trimFront rest
    obtain ⟨gap', hgap', hrest'⟩ := exists_eq_append_trimFront rest'
    obtain ⟨y, hy, hyear⟩ := readYear?_eq_some hyear
    obtain ⟨m, hm, hmonth⟩ := readDigits?_eq_some hmonth
    obtain ⟨d, hd, hday⟩ := readDigits?_eq_some hday
    rw [List.append_nil] at hd
    refine ⟨year, y, month, day, hyear, ?_, rfl⟩
    rw [hs, hy, hrest, hm, hrest', hd]
    exact .intro hfront hgap hgap' hmonth hday
  · rintro ⟨year, y, month, day, hyear, ⟨hfront, hgap, hgap', hmonth, hday⟩, rfl⟩
    rename_i front gap gap' m d
    -- A number ends where the dash behind it begins.
    have hdash (rest : List Char) : ∀ c, ('-' :: rest).head? = some c → c.isDigit = false := by
      intro c hc
      cases hc
      decide
    refine ⟨year, month, day, gap ++ (m ++ '-' :: (gap' ++ d)), gap' ++ d, ?_, ?_, ?_, rfl⟩
    · rw [trimFront_append hfront (hyear.isSolid.beginsVisibly.append _),
        readYear?_append hyear (hdash _)]
    · rw [trimFront_append hgap (hmonth.isSolid.beginsVisibly.append _),
        readDigits?_append hmonth (hdash _)]
    · have hread : readDigits? 2 (d ++ []) = some (day, []) :=
        readDigits?_append hday fun c hc => nomatch hc
      rw [trimFront_append hgap' hday.isSolid.beginsVisibly]
      rwa [List.append_nil] at hread

/-- A day with dashes and a year of four digits is read as this day, if there is such a day. -/
theorem read?_dayFormat_of_writesDay {year month day : Nat} {s : List Char} (hyear : year < 10 ^ 4)
    (h : WritesDay (padded 4 year) month day s)
    (hvalid : (beginOfDay year month day).isValid = true) :
    read? dayFormat s = some (beginOfDay year month day) := by
  apply Option.filter_eq_some_iff.2
  refine ⟨readParts?_dayFormat_eq_some_iff.2 ?_, hvalid⟩
  exact ⟨year, _, month, day, .plain (writesNumber_padded (by decide) hyear), h, rfl⟩

end Timestamp

namespace DateFacets

/-! ## Days with dashes as dates -/

theorem leadingNumbers_eq_cons_iff {s : List Char} {segments : List (List Char)} {n : Nat}
    {ns : List Nat} : leadingNumbers (s :: segments) = n :: ns ↔
      unsigned? max32 s = some n ∧ leadingNumbers segments = ns := by
  rw [leadingNumbers]
  cases unsigned? max32 s <;> simp

section

variable {gap s : List Char} (hgap : ∀ c ∈ gap, isBlank c = true) (hne : s ≠ [])
  (hs : ∀ c ∈ s, c.isDigit = true)

include hgap hne hs

theorem daySegments_number (rest : List Char) :
    daySegments (gap ++ (s ++ '-' :: rest)) = s :: daySegments rest := by
  obtain ⟨htrim, hmarks⟩ := trim_digits hne hs hgap (List.forall_mem_nil _)
  have hparts := daySegments_append_cons hmarks (by decide : isMark '-' = true) rest
  rwa [htrim, List.append_nil, List.append_assoc] at hparts

omit hne in
/-- A day ends at a space, so where a number is found there is none in front of the number. -/
theorem takeWhile_of_leadingNumbers {rest : List Char} {count n : Nat} {ns : List Nat}
    (h : leadingNumbers ((daySegments ((gap ++ (s ++ rest)).takeWhile isOfDay)).take count) =
      n :: ns) :
    (gap ++ (s ++ rest)).takeWhile isOfDay = gap ++ (s ++ rest.takeWhile isOfDay) := by
  by_cases hspace : ∀ c ∈ gap, isOfDay c = true
  · rw [List.takeWhile_append_of_pos hspace,
      List.takeWhile_append_of_pos fun c hc => isOfDay_of_isDigit (hs c hc)]
  · -- Otherwise the only part of the day is blank, and so no number.
    have hstop : (gap ++ (s ++ rest)).takeWhile isOfDay = gap.takeWhile isOfDay := by
      rw [List.takeWhile_append, if_neg]
      intro hlength
      apply hspace
      rw [← (List.takeWhile_prefix isOfDay).eq_of_length hlength]
      exact fun c hc => List.all_eq_true.1 List.all_takeWhile c hc
    have hblank : ∀ c ∈ gap.takeWhile isOfDay, isBlank c = true :=
      fun c hc => hgap c ((List.takeWhile_prefix _).subset hc)
    rw [hstop, daySegments_of_unmarked fun c hc => isMark_of_isBlank (hblank c hc),
      trim_of_blank hblank] at h
    cases count <;> cases h

end

/-- Two numbers with a dash between them that a date tells are what is written there. -/
theorem numbers_of_leadingNumbers {gap gap' m d : List Char} {month day month' day' : Nat}
    (hgap : ∀ c ∈ gap, isBlank c = true) (hgap' : ∀ c ∈ gap', isBlank c = true)
    (hm : WritesNumber 2 month' m) (hd : WritesNumber 2 day' d)
    (h : leadingNumbers ((daySegments
      ((gap ++ (m ++ '-' :: (gap' ++ d))).takeWhile isOfDay)).take 2) = [month, day]) :
    month' = month ∧ day' = day := by
  have hdash (s : List Char) : ('-' :: s).takeWhile isOfDay = '-' :: s.takeWhile isOfDay := by
    rw [List.takeWhile_cons, if_pos (by decide)]
  rw [takeWhile_of_leadingNumbers hgap hm.isDigit h, hdash,
    daySegments_number hgap hm.ne_nil hm.isDigit, List.take_succ_cons,
    leadingNumbers_eq_cons_iff] at h
  obtain ⟨hmonth, h⟩ := h
  -- Behind the day there is nothing, as behind the month there is the dash.
  rw [← List.append_nil d] at h
  obtain ⟨htrim, hmarks⟩ := trim_digits hd.ne_nil hd.isDigit hgap' (List.forall_mem_nil _)
  rw [takeWhile_of_leadingNumbers hgap' hd.isDigit h, List.takeWhile_nil,
    daySegments_of_unmarked hmarks, htrim, List.take_succ_cons, leadingNumbers_eq_cons_iff] at h
  obtain ⟨-, hmonth, -⟩ := (unsigned?_eq_some_iff_of_digits hm.isDigit).1 hmonth
  obtain ⟨-, hday, -⟩ := (unsigned?_eq_some_iff_of_digits hd.isDigit).1 h.1
  exact ⟨hm.value.symm.trans hmonth, hd.value.symm.trans hday⟩

/-- The day in a date is in front of the time, and so is all that has no time in it. -/
theorem dayPart_of_takeWhile {date front s : List Char} (hfront : ∀ c ∈ front, isBlank c = true)
    (hbegin : BeginsVisibly s) (hend : EndsVisibly s)
    (h : date.takeWhile (· != 'T') = front ++ s) : dayPart date = s.takeWhile isOfDay := by
  have hdate : date = front ++ (s ++ date.dropWhile (· != 'T')) := by
    rw [← List.append_assoc, ← h, List.takeWhile_append_dropWhile]
  -- What is left of the time after trimming still begins with the letter T.
  have hstop : ∀ c, (trimBack (date.dropWhile (· != 'T'))).head? = some c → isOfDay c = false := by
    intro c hc
    obtain ⟨back, hback⟩ := isPrefix_trimBack (date.dropWhile (· != 'T'))
    have htime : (date.dropWhile (· != 'T')).head? = some c := by
      rw [← hback, List.head?_append, hc]
      rfl
    have hT := List.head?_dropWhile_not (· != 'T') date
    rw [htime] at hT
    rw [isOfDay, Bool.and_eq_false_iff]
    exact .inl hT
  rw [hdate, dayPart_append hfront hbegin hend, takeWhile_append_of_head hstop]

/-- Only a year without a minus is the first part of a day, and then it is all of this part. -/
theorem daySegments_of_writesYear {y rest first : List Char} {year : Int}
    {segments : List (List Char)} (hy : Timestamp.WritesYear year y)
    (h : daySegments (y ++ '-' :: rest) = first :: segments) (hfirst : IsNumeral 4 first) :
    y = first ∧ daySegments rest = segments := by
  have hunmarked : ∀ c ∈ y, isMark c = false := by
    cases hy with
    | plain hy => exact fun c hc => isMark_of_isDigit (hy.isDigit c hc)
    | positive hy =>
      intro c hc
      rcases List.mem_cons.1 hc with rfl | hc
      · decide
      · exact isMark_of_isDigit (hy.isDigit c hc)
    | @negative n ds hy =>
      -- The minus ends the first part, and nothing is in front of it.
      have hempty : daySegments ([] ++ '-' :: (ds ++ '-' :: rest)) = [] :: daySegments _ :=
        daySegments_append_cons (List.forall_mem_nil _) (by decide) _
      cases h.symm.trans hempty
      cases hfirst.1
  have htrim := hy.isSolid.trim_eq (List.forall_mem_nil _) (List.forall_mem_nil _)
  rw [List.append_nil, List.nil_append] at htrim
  rw [daySegments_append_cons hunmarked (by decide), htrim] at h
  exact List.cons.inj h

/--
What a date tells if the text in front of its time is a day with dashes: this day, or no day at all.
-/
theorem told_same {date y : List Char} {written : Int} {year month day month' day' : Nat}
    (h : WritesDay y month' day' (date.takeWhile (· != 'T'))) (hy : Timestamp.WritesYear written y)
    (htold : told? date = some (year, [month, day])) :
    IsNumeral 4 y ∧ digitsValue y = year ∧ month' = month ∧ day' = day := by
  obtain ⟨first, segments, hsegments, hfirst, hyear, hnumbers⟩ := told?_eq_some_iff.1 htold
  generalize hcore : date.takeWhile (· != 'T') = core at h
  obtain ⟨hfront, hgap, hgap', hm, hd⟩ := h
  rename_i front gap gap' m d
  have hbegin : BeginsVisibly (y ++ '-' :: (gap ++ (m ++ '-' :: (gap' ++ d)))) :=
    hy.isSolid.beginsVisibly.append _
  have hend : EndsVisibly (y ++ '-' :: (gap ++ (m ++ '-' :: (gap' ++ d)))) := by
    have hlast := hd.isSolid.endsVisibly.append_left (y ++ '-' :: (gap ++ (m ++ '-' :: gap')))
    simpa using hlast
  have hofday : ∀ c ∈ y ++ ['-'], isOfDay c = true := by
    have hsigns : ∀ c ∈ ['-', '+'], isOfDay c = true := by decide
    intro c hc
    rcases List.mem_append.1 hc with hc | hc
    · rcases hy.isDigit_or_isSign c hc with hdigit | hsign
      · exact isOfDay_of_isDigit hdigit
      · exact hsigns c hsign
    · exact hsigns c (List.mem_append_left ['+'] hc)
  have hday : dayPart date = y ++ '-' :: (gap ++ (m ++ '-' :: (gap' ++ d))).takeWhile isOfDay := by
    have hwhole : (y ++ ['-'] ++ (gap ++ (m ++ '-' :: (gap' ++ d)))).takeWhile isOfDay = _ :=
      List.takeWhile_append_of_pos hofday
    rw [List.append_assoc, List.append_assoc] at hwhole
    exact (dayPart_of_takeWhile hfront hbegin hend hcore).trans hwhole
  rw [hday] at hsegments
  -- The first part is the year, and then the month and the day are what the other parts tell.
  obtain ⟨rfl, rfl⟩ := daySegments_of_writesYear hy hsegments hfirst
  exact ⟨hfirst, hyear, numbers_of_leadingNumbers hgap hgap' hm hd hnumbers⟩

end DateFacets

/-! ## Items that only their date tells about -/

/-- The facets of an image or a video of which nothing but the date may tell when it was taken. -/
inductive FacetsByDate (c : Configuration) (o : Origin) (x : MediaItem) (placeholder : String) :
    VisualFacets → Prop where
  | image : (x.auxiliary? FactKey.exifCaptureTime).bind
      (Configuration.recordedTime? Timestamp.cameraFormat) = none →
    FacetsByDate c o x placeholder (c.imageFacets o x placeholder)
  | video : (x.auxiliary? FactKey.sidecarCreationTime).bind
      (Configuration.recordedTime? Timestamp.compactFormat) = none →
    FacetsByDate c o x placeholder (c.videoFacets o x placeholder)

namespace FacetsByDate

variable {c : Configuration} {o : Origin} {x : MediaItem} {placeholder : String} {f : VisualFacets}

/-- Both readers are given the same date. -/
theorem dates_and_taken (h : FacetsByDate c o x placeholder f) :
    f.dates = DateFacets.ofDate (x.metadata.filled? MetaKey.date) placeholder ∧
      f.taken = (x.metadata.filled? MetaKey.date).bind Configuration.dayTime? := by
  cases h with
  | image h =>
    refine ⟨rfl, ?_⟩
    rw [Configuration.imageFacets, h, Option.none_or]
  | video h =>
    refine ⟨rfl, ?_⟩
    rw [Configuration.videoFacets, h, Option.none_or]

end FacetsByDate

open Timestamp in
/-- A date that tells a day is read as the beginning of this day or not at all. -/
theorem dayTime?_eq_some_iff {date : String} {year month day : Nat} {t : Timestamp}
    (htold : DateFacets.told? date.toList = some (year, [month, day]))
    (hvalid : (beginOfDay year month day).isValid = true) :
    Configuration.dayTime? date = some t ↔ t = beginOfDay year month day ∧
      WritesDay (padded 4 year) month day (date.toList.takeWhile (· != 'T')) := by
  constructor
  · intro h
    -- The year that was read has four digits, because it is the year that the date tells.
    obtain ⟨hread, -⟩ := Option.filter_eq_some_iff.1 h
    obtain ⟨written, y, month', day', hy, hday, rfl⟩ := readParts?_dayFormat_eq_some_iff.1 hread
    obtain ⟨hnumeral, rfl, rfl, rfl⟩ := DateFacets.told_same hday hy htold
    rw [hnumeral.padded_eq (by decide), hy.eq_of_digits hnumeral.2]
    exact ⟨rfl, hday⟩
  · rintro ⟨rfl, hday⟩
    obtain ⟨hyear, -⟩ := DateFacets.told_bounds htold
    exact read?_dayFormat_of_writesDay hyear hday hvalid

/-- The month of a time in a year of four digits. -/
theorem writeMonth_beginOfDay {year month day : Nat} (hyear : year < 10 ^ 4) :
    Timestamp.writeMonth (Timestamp.beginOfDay year month day) =
      padded 4 year ++ '-' :: padded 2 month := by
  have hwritten : Timestamp.writeYear year = padded 4 year := by
    rw [Timestamp.writeYear, if_pos (by omega), Int.toNat_natCast]
  show Timestamp.writeYear year ++ _ = _
  rw [hwritten]
  rfl

/--
**A time of capture from a date is on the day that the date tells**, and there is one if the day is
written with dashes.  Let nothing else tell when an image or a video was taken, and let its date tell a
year, a month and a day that exists.  Then it was taken at the beginning of this day, or at no time
that is known; and the time is known just where the date has, in front of the letter T, the day with
dashes, the month and the day in one digit or two and blanks only before numbers.  The month of the
capture is then the month under which the date is shelved.
-/
theorem capture_day_iff_writesDay {c : Configuration} {o : Origin} {x : MediaItem}
    {placeholder date : String} {f : VisualFacets} {year month day : Nat}
    (hf : FacetsByDate c o x placeholder f) (hdate : x.metadata.filled? MetaKey.date = some date)
    (htold : DateFacets.told? date.toList = some (year, [month, day]))
    (hvalid : (Timestamp.beginOfDay year month day).isValid = true) :
    (f.taken = none ∨ f.taken = some (Timestamp.beginOfDay year month day)) ∧
      (f.taken = some (Timestamp.beginOfDay year month day) ↔
        WritesDay (padded 4 year) month day (date.toList.takeWhile (· != 'T'))) ∧
      f.dates = DateFacets.ofNumbers year [month, day] ∧
      ∀ title, f.month? = some title → f.dates.month.map (f.dates.year ++ "-" ++ ·) = some title := by
  obtain ⟨hdates, htaken⟩ := hf.dates_and_taken
  have hfacets : f.dates = DateFacets.ofNumbers year [month, day] := by
    rw [hdates, hdate]
    exact DateFacets.ofText_of_told htold placeholder
  -- The day is read only as it is written here, so every statement is one about writing.
  have htime (t : Timestamp) : f.taken = some t ↔ t = Timestamp.beginOfDay year month day ∧
      WritesDay (padded 4 year) month day (date.toList.takeWhile (· != 'T')) := by
    rw [htaken, hdate]
    exact dayTime?_eq_some_iff htold hvalid
  refine ⟨?_, ?_, hfacets, fun title htitle => ?_⟩
  · cases hread : f.taken with
    | none => exact .inl rfl
    | some t => exact .inr (congrArg some ((htime t).1 hread).1)
  · rw [htime]
    exact and_iff_right rfl
  · obtain ⟨t, hread, rfl⟩ := Option.map_eq_some_iff.1 htitle
    obtain ⟨rfl, -⟩ := (htime t).1 hread
    rw [hfacets, writeMonth_beginOfDay (DateFacets.told_bounds htold).1]
    simp [DateFacets.ofNumbers, String.append_assoc]

/-- A photo whose date has one digit for the month, a tab before the day, and a time behind. -/
theorem capture_day_iff_writesDay_photo :
    ∃ (c : Configuration) (f : VisualFacets), c.boxes = BoxTable.builtin ∧
      FacetsByDate c (Origin.ofRoot "/photos")
        { MediaItem.ofLocation "/photos/a.jpg" "image/jpeg" with
          metadata := Metadata.empty.set MetaKey.date "2018-5-\t01T12:00" } "Unknown" f ∧
      f.taken = some (Timestamp.beginOfDay 2018 5 1) ∧
      f.dates = ⟨"2018", some "05", "2018-05-01"⟩ ∧ f.month? = some "2018-05" := by
  obtain ⟨c, hboxes⟩ := Configuration.exists_ofBoxes BoxTable.builtin
  let x : MediaItem := { MediaItem.ofLocation "/photos/a.jpg" "image/jpeg" with
    metadata := Metadata.empty.set MetaKey.date "2018-5-\t01T12:00" }
  let f := c.imageFacets (Origin.ofRoot "/photos") x "Unknown"
  have hf : FacetsByDate c (Origin.ofRoot "/photos") x "Unknown" f := .image rfl
  have hdate : x.metadata.filled? MetaKey.date = some "2018-5-\t01T12:00" := by decide
  have htold : DateFacets.told? "2018-5-\t01T12:00".toList = some (2018, [5, 1]) := by decide
  obtain ⟨-, htime, hdates, hmonth⟩ := capture_day_iff_writesDay hf hdate htold (by decide)
  -- A day may do without a leading zero, and space may stand before it.
  have hday : WritesDay (padded 4 2018) 5 1
      ([] ++ (padded 4 2018 ++ '-' :: ([] ++ (['5'] ++ '-' :: (['\t'] ++ ['0', '1']))))) :=
    .intro (by decide) (by decide) (by decide) ⟨by decide, by decide, by decide, rfl⟩
      ⟨by decide, by decide, by decide, rfl⟩
  have htaken := htime.2 hday
  have hshown : f.month? = some "2018-05" := by
    rw [VisualFacets.month?, htaken]
    rfl
  exact ⟨c, f, hboxes, hf, htaken, hdates, hshown⟩

/-- A date as cameras write it is shelved under its day and its month, and has no time of capture. -/
theorem day_with_colons_has_no_capture :
    ∃ (c : Configuration) (f : VisualFacets), c.boxes = BoxTable.builtin ∧
      FacetsByDate c (Origin.ofRoot "/photos")
        { MediaItem.ofLocation "/photos/a.jpg" "image/jpeg" with
          metadata := Metadata.empty.set MetaKey.date "2018:05:01 12:00:00" } "Unknown" f ∧
      DateFacets.told? "2018:05:01 12:00:00".toList = some (2018, [5, 1]) ∧
      (Timestamp.beginOfDay 2018 5 1).isValid = true ∧
      f.dates = ⟨"2018", some "05", "2018-05-01"⟩ ∧ f.taken = none ∧ f.month? = none := by
  obtain ⟨c, hboxes⟩ := Configuration.exists_ofBoxes BoxTable.builtin
  let x : MediaItem := { MediaItem.ofLocation "/photos/a.jpg" "image/jpeg" with
    metadata := Metadata.empty.set MetaKey.date "2018:05:01 12:00:00" }
  let f := c.imageFacets (Origin.ofRoot "/photos") x "Unknown"
  have hf : FacetsByDate c (Origin.ofRoot "/photos") x "Unknown" f := .image rfl
  have hdate : x.metadata.filled? MetaKey.date = some "2018:05:01 12:00:00" := by decide
  obtain ⟨hdates, htaken⟩ := hf.dates_and_taken
  rw [hdate] at hdates htaken
  -- The time is read with hyphens only.
  have hnone : f.taken = none := htaken.trans (by decide)
  refine ⟨c, f, hboxes, hf, by decide, by decide, hdates.trans (by decide), hnone, ?_⟩
  rw [VisualFacets.month?, hnone]
  rfl

end MediaShelves
