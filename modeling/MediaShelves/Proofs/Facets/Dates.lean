import MediaShelves.Facets.Date
import MediaShelves.Proofs.Text.Numbers
import MediaShelves.Proofs.Text.Spans

/-!
# Spellings of dates

A date tells a year and, behind it, the month and the day as far as they are there (`told?`).  Its
facets are these numbers, written in one way (`ofText_eq`), so that all spellings of a date have the
same facets; and what is written for the numbers is one of the spellings.

Main statement: `spellings_share_facets`.
-/

namespace MediaShelves

open MediaShelves.Text

/-! ## Numerals -/

/-- Whether a text is so many digits. -/
def IsNumeral (width : Nat) (s : List Char) : Prop :=
  s.length = width ∧ ∀ c ∈ s, c.isDigit = true

instance (width : Nat) (s : List Char) : Decidable (IsNumeral width s) :=
  inferInstanceAs (Decidable (_ ∧ _))

theorem isFourDigitYear_iff {s : List Char} : isFourDigitYear s = true ↔ IsNumeral 4 s := by
  rw [isFourDigitYear, Bool.and_eq_true, beq_iff_eq, List.all_eq_true]
  rfl

theorem isNumeral_padded {width n : Nat} (hwidth : 0 < width) (hn : n < 10 ^ width) :
    IsNumeral width (padded width n) :=
  ⟨(length_padded_eq_iff hwidth).2 hn, fun _ hc => isDigit_of_mem_padded hc⟩

namespace IsNumeral

variable {width : Nat} {s : List Char}

theorem ne_nil (h : IsNumeral width s) (hwidth : 0 < width) : s ≠ [] :=
  List.ne_nil_of_length_pos (h.1.symm ▸ hwidth)

theorem digitsValue_lt (h : IsNumeral width s) : digitsValue s < 10 ^ width := by
  rw [← h.1]
  exact Text.digitsValue_lt h.2

/-- A numeral is what is written for its value. -/
theorem padded_eq (h : IsNumeral width s) (hwidth : 0 < width) :
    padded width (digitsValue s) = s := by
  have hwritten := padded_digitsValue (h.ne_nil hwidth) h.2
  rwa [h.1] at hwritten

end IsNumeral

namespace DateFacets

/-! ## What a date tells -/

/-- The numbers that a date tells: the year, then the month and the day as far as they are there. -/
def told? (date : List Char) : Option (Nat × List Nat) :=
  match daySegments (dayPart date) with
  | year :: rest =>
    if isFourDigitYear year then some (digitsValue year, leadingNumbers (rest.take 2)) else none
  | [] => none

/-- The text of a year and the numbers after it. -/
def dateText (year : Nat) (rest : List Nat) : List Char :=
  padded 4 year ++ rest.flatMap fun n => '-' :: padded 2 n

/-- The facets of a year and the numbers after it. -/
def ofNumbers (year : Nat) (rest : List Nat) : DateFacets where
  year := String.ofList (padded 4 year)
  month := rest.head?.map fun n => String.ofList (padded 2 n)
  date := String.ofList (dateText year rest)

/-- A date tells the year in its first segment, if that has four digits, and numbers behind it. -/
theorem told?_eq_some_iff {date : List Char} {year : Nat} {rest : List Nat} :
    told? date = some (year, rest) ↔
      ∃ first segments, daySegments (dayPart date) = first :: segments ∧ IsNumeral 4 first ∧
        digitsValue first = year ∧ leadingNumbers (segments.take 2) = rest := by
  rw [told?]
  -- Only the first segment can be the year.
  cases daySegments (dayPart date) with
  | nil => simp
  | cons first segments =>
    by_cases hfirst : isFourDigitYear first = true
    · have hnumeral := isFourDigitYear_iff.1 hfirst
      simp only [hfirst, if_true, Option.some.injEq, Prod.mk.injEq, List.cons.injEq]
      constructor
      · rintro ⟨hyear, hrest⟩
        exact ⟨first, segments, ⟨rfl, rfl⟩, hnumeral, hyear, hrest⟩
      · rintro ⟨_, _, ⟨rfl, rfl⟩, -, hyear, hrest⟩
        exact ⟨hyear, hrest⟩
    · refine iff_of_false (by simp [hfirst]) ?_
      rintro ⟨_, _, heq, hnumeral, -⟩
      cases heq
      exact hfirst (isFourDigitYear_iff.2 hnumeral)

/-- **The facets of a date are the numbers that it tells**, written in one way. -/
theorem ofText_eq (date placeholder : String) :
    ofText date placeholder =
      match told? date.toList with
      | some (year, rest) => ofNumbers year rest
      | none => unknown placeholder := by
  rw [ofText, told?]
  cases daySegments (dayPart date.toList) with
  | nil => rfl
  | cons first segments =>
    by_cases hfirst : isFourDigitYear first = true
    · have hyear := (isFourDigitYear_iff.1 hfirst).padded_eq (by decide)
      simp [hfirst, ofParts, ofNumbers, dateText, hyear, List.flatMap_map, Function.comp_def]
    · simp [hfirst]

/-- A date that tells a year is taken at its numbers. -/
theorem ofText_of_told {date : String} {year : Nat} {rest : List Nat}
    (h : told? date.toList = some (year, rest)) (placeholder : String) :
    ofText date placeholder = ofNumbers year rest := by
  rw [ofText_eq, h]

/-- A date that is not taken for an unknown one tells a year. -/
theorem exists_told {date placeholder : String} (h : ofText date placeholder ≠ unknown placeholder) :
    ∃ year rest, told? date.toList = some (year, rest) := by
  cases htold : told? date.toList with
  | none =>
    rw [ofText_eq, htold] at h
    exact absurd rfl h
  | some told => exact ⟨told.1, told.2, rfl⟩

theorem length_leadingNumbers_le (segments : List (List Char)) :
    (leadingNumbers segments).length ≤ segments.length := by
  induction segments with
  | nil => exact Nat.le_refl _
  | cons s segments ih =>
    unfold leadingNumbers
    split
    · exact Nat.succ_le_succ ih
    · exact Nat.zero_le _

theorem le_of_mem_leadingNumbers {segments : List (List Char)} {n : Nat}
    (h : n ∈ leadingNumbers segments) : n ≤ max32 := by
  induction segments with
  | nil => cases h
  | cons s segments ih =>
    -- Each of the numbers was read with the bound.
    unfold leadingNumbers at h
    split at h
    · rename_i m hm
      rcases List.mem_cons.1 h with rfl | h
      · exact le_of_unsigned? hm
      · exact ih h
    · cases h

/-- A year of four digits, at most two numbers after it, and none of more than 32 bits. -/
theorem told_bounds {date : List Char} {year : Nat} {rest : List Nat}
    (h : told? date = some (year, rest)) :
    year < 10 ^ 4 ∧ rest.length ≤ 2 ∧ ∀ n ∈ rest, n ≤ max32 := by
  obtain ⟨first, segments, -, hfirst, rfl, rfl⟩ := told?_eq_some_iff.1 h
  refine ⟨hfirst.digitsValue_lt, ?_, fun n hn => le_of_mem_leadingNumbers hn⟩
  exact Nat.le_trans (length_leadingNumbers_le _) (List.length_take_le _ _)

/-! ## Spellings -/

/-- How numbers are written behind a year: each after a dash or a colon, with any zeros in front. -/
inductive WritesNumbers : List Nat → List Char → Prop where
  | nil : WritesNumbers [] []
  | cons {mark : Char} {n : Nat} {ns : List Nat} {rest : List Char} (zeros : Nat) :
    mark ∈ ['-', ':'] → n ≤ max32 → WritesNumbers ns rest →
    WritesNumbers (n :: ns) (mark :: (List.replicate zeros '0' ++ digits n ++ rest))

/--
How a date is written: the year and the numbers, with blanks around them, and then nothing or a text
that begins with a space or the letter T.
-/
inductive Spells (year : List Char) (ns : List Nat) : List Char → Prop where
  | intro {front numbers back time : List Char} :
    (∀ c ∈ front, isBlank c = true) → WritesNumbers ns numbers → (∀ c ∈ back, isBlank c = true) →
    (∀ c, time.head? = some c → c ∈ ['T', ' ']) →
    Spells year ns (front ++ (year ++ numbers ++ (back ++ time)))

/-! ## The day in a date -/

/-- Whether a character belongs to the day, and not to the time behind it. -/
def isOfDay (c : Char) : Bool :=
  c != 'T' && c != ' '

/-- Whether a character stands between the numbers of a day. -/
def isMark (c : Char) : Bool :=
  c == '-' || c == ':'

theorem isMark_iff {c : Char} : isMark c = true ↔ c ∈ ['-', ':'] := by
  simp [isMark]

theorem isMark_of_isDigit {c : Char} (h : c.isDigit = true) : isMark c = false := by
  have hother : ∀ d ∈ ['-', ':'], ¬ d.isDigit = true := by decide
  exact Bool.eq_false_iff.2 fun hmark => hother c (isMark_iff.1 hmark) h

theorem isMark_of_isBlank {c : Char} (h : isBlank c = true) : isMark c = false := by
  have hother : ∀ d ∈ ['-', ':'], ¬ isBlank d = true := by decide
  exact Bool.eq_false_iff.2 fun hmark => hother c (isMark_iff.1 hmark) h

theorem isOfDay_of_isDigit {c : Char} (h : c.isDigit = true) : isOfDay c = true := by
  have hother : ∀ d ∈ ['T', ' '], ¬ d.isDigit = true := by decide
  rw [isOfDay, Bool.and_eq_true, bne_iff_ne, bne_iff_ne]
  exact ⟨fun hc => hother 'T' (by simp) (hc ▸ h), fun hc => hother ' ' (by simp) (hc ▸ h)⟩

/-- Behind something visible, the day goes on as far as the time does not begin. -/
theorem dayPart_append {front s : List Char} (hfront : ∀ c ∈ front, isBlank c = true)
    (hbegin : BeginsVisibly s) (hend : EndsVisibly s) (rest : List Char) :
    dayPart (front ++ (s ++ rest)) = (s ++ trimBack rest).takeWhile isOfDay := by
  rw [dayPart, trim_append hfront hbegin hend]
  rfl

/-- Between a day and a time behind it there are blanks only. -/
theorem isBlank_of_mem_takeWhile {back time : List Char} (hback : ∀ c ∈ back, isBlank c = true)
    (htime : ∀ c, time.head? = some c → c ∈ ['T', ' ']) {c : Char}
    (hc : c ∈ (trimBack (back ++ time)).takeWhile isOfDay) : isBlank c = true := by
  -- Trimming takes away at the end only, so the day is no longer for it.
  have hmem := mem_takeWhile_of_prefix (isPrefix_trimBack _) hc
  have hstop : ∀ d ∈ ['T', ' '], isOfDay d = false := by decide
  rw [takeWhile_append_of_head fun c hc => hstop c (htime c hc)] at hmem
  exact hback c ((List.takeWhile_prefix _).subset hmem)

/-! ## The parts of a day -/

/-- A day without marks is one segment. -/
theorem daySegments_of_unmarked {s : List Char} (hs : ∀ c ∈ s, isMark c = false) :
    daySegments s = [trim s] := by
  show (s.splitOnP isMark).map trim = [trim s]
  rw [List.splitOnP_eq_singleton hs, List.map_singleton]

/-- A mark ends a segment, which is trimmed. -/
theorem daySegments_append_cons {s : List Char} (hs : ∀ c ∈ s, isMark c = false) {mark : Char}
    (hmark : isMark mark = true) (rest : List Char) :
    daySegments (s ++ mark :: rest) = trim s :: daySegments rest := by
  show ((s ++ mark :: rest).splitOnP isMark).map trim = trim s :: (rest.splitOnP isMark).map trim
  rw [List.splitOnP_append_cons_of_forall_mem hs mark hmark, List.map_cons]

/-- Digits with blanks around them are a part without marks, which is trimmed to the digits. -/
theorem trim_digits {s front back : List Char} (hne : s ≠ []) (hs : ∀ c ∈ s, c.isDigit = true)
    (hfront : ∀ c ∈ front, isBlank c = true) (hback : ∀ c ∈ back, isBlank c = true) :
    trim (front ++ (s ++ back)) = s ∧ ∀ c ∈ front ++ (s ++ back), isMark c = false := by
  refine ⟨(isSolid_of_digits hne hs).trim_eq hfront hback, fun c hc => ?_⟩
  simp only [List.mem_append] at hc
  rcases hc with hc | hc | hc
  · exact isMark_of_isBlank (hfront c hc)
  · exact isMark_of_isDigit (hs c hc)
  · exact isMark_of_isBlank (hback c hc)

theorem leadingNumbers_eq {segments : List (List Char)} {ns : List Nat}
    (h : segments.map (unsigned? max32) = ns.map some) : leadingNumbers segments = ns := by
  -- Both lists are walked at once, and neither can end before the other.
  induction segments generalizing ns with
  | nil =>
    cases ns with
    | nil => rfl
    | cons n ns => cases h
  | cons s segments ih =>
    cases ns with
    | nil => cases h
    | cons n ns =>
      obtain ⟨hs, hsegments⟩ := List.cons.inj h
      rw [leadingNumbers, hs]
      exact congrArg (n :: ·) (ih hsegments)

/-! ## Reading spellings -/

/-- Written numbers are digits and marks. -/
theorem WritesNumbers.isDigit_or_isMark {ns : List Nat} {w : List Char} (h : WritesNumbers ns w) :
    ∀ c ∈ w, c.isDigit = true ∨ isMark c = true := by
  induction h with
  | nil => simp
  | cons zeros hmark _ _ ih =>
    intro c hc
    rw [List.mem_cons, List.mem_append] at hc
    rcases hc with rfl | hc | hc
    · exact .inr (isMark_iff.2 hmark)
    · exact .inl (isDigit_of_mem_zeros_append hc)
    · exact ih c hc

/-- The parts of a day are the digits in front and the numbers, each of which is read. -/
theorem WritesNumbers.exists_segments {ns : List Nat} {w : List Char} (h : WritesNumbers ns w)
    {s gap : List Char} (hne : s ≠ []) (hs : ∀ c ∈ s, c.isDigit = true)
    (hgap : ∀ c ∈ gap, isBlank c = true) :
    ∃ segments, daySegments (s ++ (w ++ gap)) = s :: segments ∧
      segments.map (unsigned? max32) = ns.map some := by
  induction h generalizing s with
  | nil =>
    -- No mark follows, so the blanks behind belong to this part.
    obtain ⟨htrim, hmarks⟩ := trim_digits hne hs (List.forall_mem_nil _) hgap
    refine ⟨[], ?_, rfl⟩
    show daySegments ([] ++ (s ++ gap)) = [s]
    rw [daySegments_of_unmarked hmarks, htrim]
  | @cons mark n ns rest zeros hmark hn _ ih =>
    -- The mark ends this part, and the number behind it is the digits of the next one.
    obtain ⟨segments, hsegments, hread⟩ :=
      ih (zeros_append_ne_nil zeros n) fun c hc => isDigit_of_mem_zeros_append hc
    obtain ⟨htrim, hmarks⟩ := trim_digits hne hs (List.forall_mem_nil _) (List.forall_mem_nil _)
    rw [List.nil_append, List.append_nil] at htrim hmarks
    refine ⟨(List.replicate zeros '0' ++ digits n) :: segments, ?_, ?_⟩
    · rw [List.cons_append, List.append_assoc,
        daySegments_append_cons hmarks (isMark_iff.2 hmark), hsegments, htrim]
    · rw [List.map_cons, List.map_cons, unsigned?_zeros_append hn, hread]

/-- **A spelling is read as the numbers that it spells.** -/
theorem Spells.told?_eq {year : List Char} {ns : List Nat} {date : List Char}
    (h : Spells year ns date) (hyear : IsNumeral 4 year) (hns : ns.length ≤ 2) :
    told? date = some (digitsValue year, ns) := by
  obtain ⟨hfront, hnumbers, hback, htime⟩ := h
  rename_i front numbers back time
  have hne := hyear.ne_nil (by decide)
  -- Year and numbers have no blank and begin no time, so they are in the day as they are.
  have hchars : ∀ c ∈ year ++ numbers, c.isDigit = true ∨ isMark c = true := by
    intro c hc
    rcases List.mem_append.1 hc with hc | hc
    · exact .inl (hyear.2 c hc)
    · exact hnumbers.isDigit_or_isMark c hc
  have hsolid : IsSolid (year ++ numbers) := by
    refine ⟨List.append_ne_nil_of_left_ne_nil hne _, fun c hc => ?_⟩
    rcases hchars c hc with hdigit | hmark
    · exact isBlank_of_isDigit hdigit
    · exact Bool.eq_false_iff.2 fun hblank => by simp [isMark_of_isBlank hblank] at hmark
  have hday : ∀ c ∈ year ++ numbers, isOfDay c = true := by
    have hmarks : ∀ c ∈ ['-', ':'], isOfDay c = true := by decide
    intro c hc
    rcases hchars c hc with hdigit | hmark
    · exact isOfDay_of_isDigit hdigit
    · exact hmarks c (isMark_iff.1 hmark)
  obtain ⟨segments, hsegments, hread⟩ := hnumbers.exists_segments hne hyear.2
    fun c hc => isBlank_of_mem_takeWhile hback htime hc
  have hlength : segments.length ≤ 2 := by
    rw [← List.length_map (unsigned? max32), hread, List.length_map]
    exact hns
  apply told?_eq_some_iff.2
  refine ⟨year, segments, ?_, hyear, rfl, ?_⟩
  · rw [dayPart_append hfront hsolid.beginsVisibly hsolid.endsVisibly,
      List.takeWhile_append_of_pos hday, List.append_assoc, hsegments]
  · rw [List.take_of_length_le hlength, leadingNumbers_eq hread]

/-- What is written for a year and numbers spells them. -/
theorem spells_dateText {year : Nat} {rest : List Nat} (hrest : ∀ n ∈ rest, n ≤ max32) :
    Spells (padded 4 year) rest (dateText year rest) := by
  -- What a date is written as is a dash and two digits for each number.
  have hnumbers : WritesNumbers rest (rest.flatMap fun n => '-' :: padded 2 n) := by
    induction rest with
    | nil => exact .nil
    | cons n rest ih =>
      apply WritesNumbers.cons
      · simp
      · exact hrest n (by simp)
      · exact ih fun m hm => hrest m (by simp [hm])
  have hspells : Spells (padded 4 year) rest ([] ++ (dateText year rest ++ ([] ++ []))) :=
    .intro (List.forall_mem_nil _) hnumbers (List.forall_mem_nil _) fun c hc => by cases hc
  rwa [List.nil_append, List.nil_append, List.append_nil] at hspells

/-- The date that is written for some numbers tells these numbers. -/
theorem told?_dateText {year : Nat} {rest : List Nat} (hyear : year < 10 ^ 4)
    (hlength : rest.length ≤ 2) (hrest : ∀ n ∈ rest, n ≤ max32) :
    told? (dateText year rest) = some (year, rest) := by
  rw [(spells_dateText hrest).told?_eq (isNumeral_padded (by decide) hyear) hlength,
    digitsValue_padded]

/-! ## Facets of spellings -/

/-- A number as it is shelved: in two digits, or in more where it needs them. -/
def numberTitle (n : Nat) : String :=
  if n < 10 then "0" ++ toString n else toString n

theorem numberTitle_eq (n : Nat) : numberTitle n = String.ofList (padded 2 n) := by
  have hlength : (digits n).length ≤ 1 ↔ n < 10 ^ 1 :=
    Nat.length_toDigits_le_iff (by decide) (by decide)
  have hpositive : 0 < (digits n).length := Nat.length_toDigits_pos
  rw [numberTitle, Nat.toString_eq_ofList_toDigits]
  -- One digit gets a zero in front; more are written as they are.
  split
  · have hone : (digits n).length = 1 := by omega
    rw [padded, hone, String.ofList_append]
    rfl
  · have hmore : 2 - (digits n).length = 0 := by omega
    rw [padded, hmore]
    rfl

/--
**All spellings of a day share their facets.**  A year of four digits, a year with a month, and a
year with a month and a day are shelved under the same titles however they are written: with any
zeros in front of the numbers, with dashes or colons, with blanks around them and with a time behind.
And what a date that is known is shelved under is itself shelved under the same titles.
-/
theorem spellings_share_facets (placeholder : String) :
    (∀ year, IsNumeral 4 year →
      (∀ date, Spells year [] date.toList →
        ofDate (some date) placeholder = ⟨String.ofList year, none, String.ofList year⟩) ∧
      (∀ month date, Spells year [month] date.toList →
        ofDate (some date) placeholder = ⟨String.ofList year, some (numberTitle month),
          String.ofList year ++ "-" ++ numberTitle month⟩) ∧
      ∀ month day date, Spells year [month, day] date.toList →
        ofDate (some date) placeholder = ⟨String.ofList year, some (numberTitle month),
          String.ofList year ++ "-" ++ numberTitle month ++ "-" ++ numberTitle day⟩) ∧
      ∀ date other, ofDate (some date) placeholder ≠ unknown placeholder →
        ofDate (some (ofDate (some date) placeholder).date) other =
          ofDate (some date) placeholder := by
  refine ⟨fun year hyear => ?_, fun date other hknown => ?_⟩
  · -- All spellings of one form tell the same numbers, and these alone make the facets.
    have hpadded := hyear.padded_eq (by decide)
    have hfacets (ns : List Nat) (hns : ns.length ≤ 2) (date : String)
        (hdate : Spells year ns date.toList) :
        ofDate (some date) placeholder = ofNumbers (digitsValue year) ns :=
      ofText_of_told (hdate.told?_eq hyear hns) placeholder
    refine ⟨fun date hdate => ?_, fun month date hdate => ?_, fun month day date hdate => ?_⟩
    · rw [hfacets [] (by simp) date hdate]
      simp [ofNumbers, dateText, hpadded]
    · rw [hfacets [month] (by simp) date hdate]
      simp [ofNumbers, dateText, hpadded, numberTitle_eq, String.append_assoc]
    · rw [hfacets [month, day] (by simp) date hdate]
      simp [ofNumbers, dateText, hpadded, numberTitle_eq, String.append_assoc]
  · -- The date of known facets is itself a spelling of the numbers in them.
    obtain ⟨year, rest, htold⟩ := exists_told hknown
    obtain ⟨hyear, hlength, hrest⟩ := told_bounds htold
    have hagain : told? (ofNumbers year rest).date.toList = some (year, rest) := by
      rw [ofNumbers, String.toList_ofList]
      exact told?_dateText hyear hlength hrest
    show ofText (ofText date placeholder).date other = ofText date placeholder
    rw [ofText_of_told htold, ofText_of_told hagain]

/-- A year, a month and a day with zeros, two marks, blanks and a time; and a date that is known. -/
theorem spellings_share_facets_spring :
    let year := "2025".toList
    (IsNumeral 4 year ∧ Spells year [] "2025T10".toList ∧ Spells year [4] "\t2025:0004 ".toList ∧
      Spells year [4, 12] " 2025:4-012\t T-10:00".toList ∧
      ofDate (some "2025-4-5") "Unknown" ≠ unknown "Unknown") ∧
      ofDate (some "2025T10") "Unknown" = ⟨"2025", none, "2025"⟩ ∧
      ofDate (some "\t2025:0004 ") "Unknown" = ⟨"2025", some "04", "2025-04"⟩ ∧
      ofDate (some " 2025:4-012\t T-10:00") "Unknown" = ⟨"2025", some "04", "2025-04-12"⟩ ∧
      ofDate (some (ofDate (some "2025-4-5") "Unknown").date) "None" =
        ofDate (some "2025-4-5") "Unknown" := by
  intro year
  obtain ⟨hspellings, hknown⟩ := spellings_share_facets "Unknown"
  have hyear : IsNumeral 4 year := by decide
  have hfour : WritesNumbers [4] [':', '0', '0', '0', '4'] := .cons 3 (by simp) (by decide) .nil
  have htwelve : WritesNumbers [4, 12] [':', '4', '-', '0', '1', '2'] :=
    .cons 0 (by simp) (by decide) (.cons 1 (by simp) (by decide) .nil)
  have hyears : Spells year [] ([] ++ (year ++ [] ++ ([] ++ ['T', '1', '0']))) :=
    .intro (by decide) .nil (by decide) (by simp)
  have hmonths : Spells year [4] (['\t'] ++ (year ++ [':', '0', '0', '0', '4'] ++ ([' '] ++ []))) :=
    .intro (by decide) hfour (by decide) (by simp)
  have hdays : Spells year [4, 12] ([' '] ++ (year ++ [':', '4', '-', '0', '1', '2'] ++
      (['\t', ' '] ++ ['T', '-', '1', '0', ':', '0', '0']))) :=
    .intro (by decide) htwelve (by decide) (by simp)
  have hdate : ofDate (some "2025-4-5") "Unknown" ≠ unknown "Unknown" := by decide
  -- Three spellings, and a date that its own facets tell once more.
  obtain ⟨hyearOnly, hyearMonth, hyearMonthDay⟩ := hspellings year hyear
  exact ⟨⟨hyear, hyears, hmonths, hdays, hdate⟩, hyearOnly "2025T10" hyears,
    hyearMonth 4 "\t2025:0004 " hmonths, hyearMonthDay 4 12 " 2025:4-012\t T-10:00" hdays,
    hknown "2025-4-5" "None" hdate⟩

end DateFacets

end MediaShelves
