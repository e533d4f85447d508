import MediaShelves.Proofs.Facets.Dates

/-!
# The order of dates

Date facets are texts, and texts are what shelves sort.  As long as the month and the day fit into two
digits, the facets have one width and sort as the days do; a greater number is written in full, so
that the text grows (`hasForm_two_iff`) and sorts by its digits (`great_month_sorts_first`).

Main statement: `dates_sort_by_numbers`.
-/

namespace MediaShelves

open MediaShelves.Text

namespace DateFacets

/-! ## Forms -/

/-- Whether a text is digits, as many of them as a width allows. -/
def IsPart (isWidth : Nat → Prop) (s : List Char) : Prop :=
  isWidth s.length ∧ ∀ c ∈ s, c.isDigit = true

/-- The three forms of date facets, with months and days of some width. -/
inductive HasForm (isWidth : Nat → Prop) : DateFacets → Prop where
  | year {y : List Char} : IsNumeral 4 y →
    HasForm isWidth ⟨String.ofList y, none, String.ofList y⟩
  | month {y m : List Char} : IsNumeral 4 y → IsPart isWidth m →
    HasForm isWidth ⟨String.ofList y, some (String.ofList m), String.ofList (y ++ '-' :: m)⟩
  | day {y m d : List Char} : IsNumeral 4 y → IsPart isWidth m → IsPart isWidth d →
    HasForm isWidth
      ⟨String.ofList y, some (String.ofList m), String.ofList (y ++ '-' :: (m ++ '-' :: d))⟩

/-- The facets of numbers have a form with the widths of these numbers. -/
theorem hasForm_ofNumbers {isWidth : Nat → Prop} {year : Nat} {rest : List Nat}
    (hyear : year < 10 ^ 4) (hlength : rest.length ≤ 2)
    (hrest : ∀ n ∈ rest, isWidth (padded 2 n).length) : HasForm isWidth (ofNumbers year rest) := by
  have hnumeral := isNumeral_padded (by decide) hyear
  have hpart (n : Nat) (hn : n ∈ rest) : IsPart isWidth (padded 2 n) :=
    ⟨hrest n hn, fun _ hc => isDigit_of_mem_padded hc⟩
  -- A date has at most three numbers, and each count of them has a form of its own.
  match rest with
  | [] =>
    have hform : HasForm isWidth ⟨_, _, _⟩ := .year hnumeral
    simpa [ofNumbers, dateText] using hform
  | [m] =>
    have hform : HasForm isWidth ⟨_, _, _⟩ := .month hnumeral (hpart m (by simp))
    simpa [ofNumbers, dateText] using hform
  | [m, d] =>
    have hform : HasForm isWidth ⟨_, _, _⟩ :=
      .day hnumeral (hpart m (by simp)) (hpart d (by simp))
    simpa [ofNumbers, dateText] using hform
  | _ :: _ :: _ :: _ => simp at hlength

/-- What is written tells which numbers it was written for. -/
theorem eq_of_ofNumbers_date_eq {year year' : Nat} {rest rest' : List Nat}
    (hyear : year < 10 ^ 4) (hyear' : year' < 10 ^ 4) (hlength : rest.length ≤ 2)
    (hlength' : rest'.length ≤ 2) (hrest : ∀ n ∈ rest, n ≤ max32) (hrest' : ∀ n ∈ rest', n ≤ max32)
    (h : (ofNumbers year rest).date = (ofNumbers year' rest').date) :
    year = year' ∧ rest = rest' := by
  have htext : dateText year rest = dateText year' rest' := String.ofList_injective h
  have htold := told?_dateText hyear hlength hrest
  rw [htext, told?_dateText hyear' hlength' hrest'] at htold
  cases htold
  exact ⟨rfl, rfl⟩

/-- Facets with months and days of two digits are those of small numbers. -/
theorem HasForm.exists_numbers {f : DateFacets} (h : HasForm (· = 2) f) :
    ∃ year rest, year < 10 ^ 4 ∧ rest.length ≤ 2 ∧ (∀ n ∈ rest, n < 10 ^ 2) ∧
      f = ofNumbers year rest := by
  -- A part of two digits is what is written for its value.
  have hpart {s : List Char} (hs : IsPart (· = 2) s) :
      digitsValue s < 10 ^ 2 ∧ padded 2 (digitsValue s) = s := by
    have hnumeral : IsNumeral 2 s := hs
    exact ⟨hnumeral.digitsValue_lt, hnumeral.padded_eq (by decide)⟩
  cases h with
  | @year y hy =>
    refine ⟨digitsValue y, [], hy.digitsValue_lt, by simp, by simp, ?_⟩
    simp [ofNumbers, dateText, hy.padded_eq (by decide)]
  | @month y m hy hm =>
    obtain ⟨hvalue, hwritten⟩ := hpart hm
    refine ⟨digitsValue y, [digitsValue m], hy.digitsValue_lt, by simp, by simpa, ?_⟩
    simp [ofNumbers, dateText, hy.padded_eq (by decide), hwritten]
  | @day y m d hy hm hd =>
    obtain ⟨hvalue, hwritten⟩ := hpart hm
    obtain ⟨hvalue', hwritten'⟩ := hpart hd
    refine ⟨digitsValue y, [digitsValue m, digitsValue d], hy.digitsValue_lt, by simp,
      by simpa using ⟨hvalue, hvalue'⟩, ?_⟩
    simp [ofNumbers, dateText, hy.padded_eq (by decide), hwritten, hwritten']

/-- **Facets have one width** just where the month and the day are below a hundred. -/
theorem hasForm_two_iff {year : Nat} {rest : List Nat} (hyear : year < 10 ^ 4)
    (hlength : rest.length ≤ 2) (hrest : ∀ n ∈ rest, n ≤ max32) :
    HasForm (· = 2) (ofNumbers year rest) ↔ ∀ n ∈ rest, n < 10 ^ 2 := by
  constructor
  · -- Facets of one width are those of small numbers, and what is written tells which numbers.
    intro h
    obtain ⟨year', rest', hyear', hlength', hsmall, heq⟩ := h.exists_numbers
    have hrest' : ∀ n ∈ rest', n ≤ max32 :=
      fun n hn => Nat.le_of_lt (Nat.lt_of_lt_of_le (hsmall n hn) (by decide))
    obtain ⟨-, rfl⟩ := eq_of_ofNumbers_date_eq hyear hyear' hlength hlength' hrest hrest'
      (congrArg DateFacets.date heq)
    exact hsmall
  · intro hsmall
    exact hasForm_ofNumbers hyear hlength fun n hn =>
      (length_padded_eq_iff (by decide)).2 (hsmall n hn)

/-! ## Order -/

/-- The text after the year sorts as the numbers in it, and a number that is missing comes first. -/
theorem numbers_lt_numbers_iff {rest rest' : List Nat} (h : ∀ n ∈ rest, n < 10 ^ 2)
    (h' : ∀ n ∈ rest', n < 10 ^ 2) :
    (rest.flatMap fun n => '-' :: padded 2 n) < (rest'.flatMap fun n => '-' :: padded 2 n) ↔
      rest < rest' := by
  induction rest generalizing rest' with
  | nil =>
    cases rest' with
    | nil => simp
    | cons m rest' => exact iff_of_true (List.nil_lt_cons _ _) (List.nil_lt_cons _ _)
  | cons n rest ih =>
    cases rest' with
    | nil => exact iff_of_false (List.not_lt_nil _) (List.not_lt_nil _)
    | cons m rest' =>
      -- The first numbers are of one length and decide, unless they are the same.
      have hn := h n (by simp)
      have hm := h' m (by simp)
      have hlength : ('-' :: padded 2 n).length = ('-' :: padded 2 m).length := by
        rw [List.length_cons, List.length_cons, (length_padded_eq_iff (by decide)).2 hn,
          (length_padded_eq_iff (by decide)).2 hm]
      have hnumber : '-' :: padded 2 n < '-' :: padded 2 m ↔ n < m :=
        List.cons_lt_cons_self.trans (padded_lt_padded_iff (by decide) hn hm)
      have hsame : '-' :: padded 2 n = '-' :: padded 2 m ↔ n = m := by
        rw [List.cons.injEq, padded_inj]
        exact and_iff_right rfl
      rw [List.flatMap_cons, List.flatMap_cons, append_lt_append_iff hlength, hnumber, hsame,
        ih (fun k hk => h k (by simp [hk])) (fun k hk => h' k (by simp [hk])),
        List.cons_lt_cons_iff]

section

variable {year year' : Nat} {rest rest' : List Nat} (hyear : year < 10 ^ 4)
  (hyear' : year' < 10 ^ 4)

include hyear hyear'

/-- Dates sort by the year first, whatever follows it. -/
theorem date_lt_date_iff :
    (ofNumbers year rest).date < (ofNumbers year' rest').date ↔
      year < year' ∨ year = year' ∧
        (rest.flatMap fun n => '-' :: padded 2 n) <
          (rest'.flatMap fun n => '-' :: padded 2 n) := by
  have hlength : (padded 4 year).length = (padded 4 year').length := by
    rw [(length_padded_eq_iff (by decide)).2 hyear, (length_padded_eq_iff (by decide)).2 hyear']
  rw [String.lt_iff, ofNumbers, ofNumbers, String.toList_ofList, String.toList_ofList,
    dateText, dateText, append_lt_append_iff hlength, padded_lt_padded_iff (by decide) hyear hyear',
    padded_inj]

/-- **Dates sort as their numbers**, as long as these have two digits. -/
theorem date_lt_date_iff_of_small (hrest : ∀ n ∈ rest, n < 10 ^ 2)
    (hrest' : ∀ n ∈ rest', n < 10 ^ 2) :
    (ofNumbers year rest).date < (ofNumbers year' rest').date ↔
      year :: rest < year' :: rest' := by
  rw [date_lt_date_iff hyear hyear', numbers_lt_numbers_iff hrest hrest', List.cons_lt_cons_iff]

end

/--
**Dates sort as days while their numbers have two digits.**  The facets of a date are the placeholder,
or a year of four digits with nothing, a month, or a month and a day behind it, each of two digits at
least; of exactly two if the numbers that the date tells are below a hundred, and only then.  Dates
that tell different numbers have different facets, and a smaller year always comes first.  If all
numbers of two dates are below a hundred, their facets sort as year, month and day do, where a part
that is missing comes first.
-/
theorem dates_sort_by_numbers (placeholder : String) :
    (∀ date, ofDate date placeholder = unknown placeholder ∨
      ∃ text year rest, date = some text ∧ told? text.toList = some (year, rest) ∧
        HasForm (2 ≤ ·) (ofDate date placeholder) ∧
        (HasForm (· = 2) (ofDate date placeholder) ↔ ∀ n ∈ rest, n < 100)) ∧
      ∀ a b year year' rest rest', told? a.toList = some (year, rest) →
        told? b.toList = some (year', rest') →
        ((ofDate (some a) placeholder).date = (ofDate (some b) placeholder).date ↔
          year :: rest = year' :: rest') ∧
        (year < year' → (ofDate (some a) placeholder).date < (ofDate (some b) placeholder).date) ∧
        ((∀ n ∈ rest ++ rest', n < 100) →
          ((ofDate (some a) placeholder).date < (ofDate (some b) placeholder).date ↔
            year :: rest < year' :: rest')) := by
  constructor
  · intro date
    cases date with
    | none => exact .inl rfl
    | some text =>
      -- A date may tell a year and still have the facets of the placeholder, if this is that year.
      by_cases hknown : ofText text placeholder = unknown placeholder
      · exact .inl hknown
      · obtain ⟨year, rest, htold⟩ := exists_told hknown
        obtain ⟨hyear, hlength, hrest⟩ := told_bounds htold
        have hfacets : ofDate (some text) placeholder = ofNumbers year rest :=
          ofText_of_told htold placeholder
        refine .inr ⟨text, year, rest, rfl, htold, ?_, ?_⟩
        · rw [hfacets]
          apply hasForm_ofNumbers hyear hlength
          intro n _
          rw [length_padded]
          exact Nat.le_max_left _ _
        · rw [hfacets]
          exact hasForm_two_iff hyear hlength hrest
  · intro a b year year' rest rest' ha hb
    obtain ⟨hyear, hlength, hrest⟩ := told_bounds ha
    obtain ⟨hyear', hlength', hrest'⟩ := told_bounds hb
    have hfacets : ofDate (some a) placeholder = ofNumbers year rest :=
      ofText_of_told ha placeholder
    have hfacets' : ofDate (some b) placeholder = ofNumbers year' rest' :=
      ofText_of_told hb placeholder
    rw [hfacets, hfacets']
    refine ⟨⟨fun hdate => ?_, fun hnumbers => ?_⟩, fun hlt => ?_, fun hsmall => ?_⟩
    · obtain ⟨rfl, rfl⟩ :=
        eq_of_ofNumbers_date_eq hyear hyear' hlength hlength' hrest hrest' hdate
      rfl
    · cases hnumbers
      rfl
    · exact (date_lt_date_iff hyear hyear').2 (.inl hlt)
    · obtain ⟨hrestSmall, hrestSmall'⟩ := List.forall_mem_append.1 hsmall
      exact date_lt_date_iff_of_small hyear hyear' hrestSmall hrestSmall'

/-- A month and a day in it, written in different ways. -/
theorem dates_sort_by_numbers_march :
    (told? "2025-3".toList = some (2025, [3]) ∧ told? "2025:03:1 12:00".toList = some (2025, [3, 1]) ∧
      ∀ n ∈ [3] ++ [3, 1], n < 100) ∧
      HasForm (· = 2) (ofDate (some "2025-3") "Unknown") ∧
      (ofDate (some "2025-3") "Unknown").date < (ofDate (some "2025:03:1 12:00") "Unknown").date := by
  obtain ⟨hforms, hsorted⟩ := dates_sort_by_numbers "Unknown"
  have hmonth : told? "2025-3".toList = some (2025, [3]) := by decide
  have hday : told? "2025:03:1 12:00".toList = some (2025, [3, 1]) := by decide
  have hsmall : ∀ n ∈ [3] ++ [3, 1], n < 100 := by decide
  -- The date is known, so its form is that of the numbers it tells.
  have hform : HasForm (· = 2) (ofDate (some "2025-3") "Unknown") := by
    rcases hforms (some "2025-3") with hunknown | ⟨text, year, rest, htext, htold, -, hwidth⟩
    · exact absurd hunknown (by decide)
    · cases htext
      cases hmonth.symm.trans htold
      exact hwidth.2 (by decide)
  obtain ⟨-, -, horder⟩ := hsorted _ _ _ _ _ _ hmonth hday
  exact ⟨⟨hmonth, hday, hsmall⟩, hform, (horder hsmall).2 (by decide)⟩

/-- A day in a hundredth month is written with three digits and comes before the twentieth month. -/
theorem great_month_sorts_first :
    told? "2025-100-5".toList = some (2025, [100, 5]) ∧
      told? "2025-20".toList = some (2025, [20]) ∧
      ofDate (some "2025-100-5") "Unknown" = ⟨"2025", some "100", "2025-100-05"⟩ ∧
      (ofDate (some "2025-100-5") "Unknown").date < (ofDate (some "2025-20") "Unknown").date := by
  decide

end DateFacets

end MediaShelves
