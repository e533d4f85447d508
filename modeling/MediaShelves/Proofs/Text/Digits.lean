import MediaShelves.Proofs.Text.Spans
import MediaShelves.Text.CharacterClass

/-!
# Decimal digits

What a table lists is told by its spans, without the merge that makes a set of them
(`CodeSet.contains_table`).  So the digits of ASCII are decimal digits (`isDecimalDigit_of_isDigit`),
and neither blanks nor the marks around numbers are.
-/

namespace MediaShelves.Text

/-! ## Tables -/

namespace CodeSet

/-- The spans of a run: one, or one for each of its code points. -/
def spansOfRun (r : Run) : List Span :=
  if r.step = 1 then [(r.first, r.last)]
  else (List.range ((r.last + r.step - r.first) / r.step)).map fun i =>
    (r.first + r.step * i, r.first + r.step * i)

/-- The spans that a table lists. -/
def spansOfTable (s : List Char) : List Span :=
  (((s.splitOnP Char.isWhitespace).filter fun word => !word.isEmpty).map Run.ofWord).flatMap
    spansOfRun

/-- A table lists what lies in its spans. -/
theorem contains_table (s : List Char) (n : Nat) :
    (table (String.ofList s)).contains n =
      (spansOfTable s).any fun span => decide (span.1 ≤ n) && decide (n ≤ span.2) := by
  have hruns : ofRuns (Run.table (String.ofList s)) = ofSpans (spansOfTable s) := by
    rw [Run.table, tableWords, String.toList_ofList]
    rfl
  rw [table, hruns, contains_ofSpans]

end CodeSet

/-! ## Digits and other characters -/

-- The characters of the table are spelled out here, which is a long list.
set_option maxRecDepth 8000 in
theorem contains_decimalDigits_of_ascii :
    ∀ n ∈ List.range' 0x30 10, decimalDigits.contains n = true := by
  intro n hn
  refine (CodeSet.contains_table _ n).trans ?_
  revert n
  decide +kernel

set_option maxRecDepth 8000 in
theorem contains_decimalDigits_of_other :
    ∀ n ∈ List.range' 0x9 5 ++ [0x20, 0x2B, 0x2C, 0x2D, 0x3D, 0x85, 0xA0, 0x1680] ++
      List.range' 0x2000 11 ++ [0x2028, 0x2029, 0x202F, 0x205F, 0x3000],
      decimalDigits.contains n = false := by
  intro n hn
  refine (CodeSet.contains_table _ n).trans ?_
  revert n
  decide +kernel

theorem isDecimalDigit_of_isDigit {c : Char} (h : c.isDigit = true) : isDecimalDigit c = true := by
  rw [isDecimalDigit]
  refine contains_decimalDigits_of_ascii _ ?_
  rw [List.mem_range'_1]
  simp only [Char.isDigit, ge_iff_le, Bool.and_eq_true, decide_eq_true_eq,
    UInt32.le_iff_toNat_le] at h
  exact ⟨h.1, Nat.lt_succ_of_le h.2⟩

theorem forall_isDecimalDigit {s : List Char} (hs : ∀ c ∈ s, c.isDigit = true) :
    ∀ c ∈ s, isDecimalDigit c = true :=
  fun c hc => isDecimalDigit_of_isDigit (hs c hc)

theorem isDecimalDigit_of_isBlank {c : Char} (h : isBlank c = true) :
    isDecimalDigit c = false := by
  rw [isDecimalDigit]
  refine contains_decimalDigits_of_other _ ?_
  simp only [isBlank, Bool.or_eq_true, Bool.and_eq_true, decide_eq_true_eq, beq_iff_eq] at h
  simp only [List.mem_append, List.mem_range'_1, List.mem_cons, List.not_mem_nil, or_false]
  omega

/-- The marks that stand around numbers are no digits. -/
theorem isDecimalDigit_of_mem_marks {c : Char} (h : c ∈ ['=', '+', ',', '-']) :
    isDecimalDigit c = false := by
  refine contains_decimalDigits_of_other _ ?_
  revert c
  decide

end MediaShelves.Text
