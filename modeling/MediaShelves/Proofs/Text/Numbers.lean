import Mathlib.Algebra.Group.Nat.Defs
import MediaShelves.Text.Decimal

/-!
# Numbers in texts

What is read as a number: digits without a sign in front (`unsigned?_eq_some_iff`).  The digits that
are written for a number are read as the number (`unsigned?_digits`), with any zeros in front of them
(`unsigned?_zeros_append`).

Texts of digits of one length sort as the numbers that they stand for (`lt_iff_digitsValue_lt`), so
that numbers which fit into a width may be compared as they are written (`padded_lt_padded_iff`).
-/

namespace MediaShelves.Text

/-! ## What is read as a number -/

/-- A text is a number if it has digits, and no other characters. -/
theorem natOfDigits?_eq_some_iff {s : List Char} {n : Nat} :
    natOfDigits? s = some n ↔ s ≠ [] ∧ (∀ c ∈ s, c.isDigit = true) ∧ digitsValue s = n := by
  unfold natOfDigits?
  -- The empty text is ruled out first, then any character that is no digit.
  split
  · rename_i hs
    simp [List.isEmpty_iff.1 hs]
  · rename_i hs
    have hne : s ≠ [] := mt List.isEmpty_iff.2 hs
    split
    · rename_i hdigits
      rw [List.all_eq_true] at hdigits
      rw [Option.some.injEq]
      exact ⟨fun hvalue => ⟨hne, hdigits, hvalue⟩, fun h => h.2.2⟩
    · rename_i hdigits
      rw [List.all_eq_true] at hdigits
      simp [hdigits]

/-- A number of digits that is not too great. -/
theorem bind_limit_eq_some_iff {limit : Nat} {s : List Char} {n : Nat} :
    ((natOfDigits? s).bind fun n => if n ≤ limit then some n else none) = some n ↔
      s ≠ [] ∧ (∀ c ∈ s, c.isDigit = true) ∧ digitsValue s = n ∧ n ≤ limit := by
  rw [Option.bind_eq_some_iff]
  constructor
  · rintro ⟨m, hm, hlimit⟩
    split at hlimit
    · rename_i hle
      cases hlimit
      obtain ⟨hne, hdigits, hvalue⟩ := natOfDigits?_eq_some_iff.1 hm
      exact ⟨hne, hdigits, hvalue, hle⟩
    · cases hlimit
  · rintro ⟨hne, hdigits, hvalue, hle⟩
    exact ⟨n, natOfDigits?_eq_some_iff.2 ⟨hne, hdigits, hvalue⟩, if_pos hle⟩

/-- Without a sign a text is a number if it is digits and not too great. -/
theorem unsigned?_eq_some_iff {limit : Nat} {s : List Char} {n : Nat} (hsign : s.head? ≠ some '+') :
    unsigned? limit s = some n ↔
      s ≠ [] ∧ (∀ c ∈ s, c.isDigit = true) ∧ digitsValue s = n ∧ n ≤ limit := by
  rw [← bind_limit_eq_some_iff]
  -- Without a sign the digits begin at once.
  unfold unsigned?
  split
  · exact absurd rfl hsign
  · dsimp only
    cases natOfDigits? s <;> rfl

/-- Behind a plus sign the digits follow. -/
theorem unsigned?_plus_eq_some_iff {limit : Nat} {s : List Char} {n : Nat} :
    unsigned? limit ('+' :: s) = some n ↔
      s ≠ [] ∧ (∀ c ∈ s, c.isDigit = true) ∧ digitsValue s = n ∧ n ≤ limit := by
  rw [← bind_limit_eq_some_iff]
  simp only [unsigned?]
  cases natOfDigits? s <;> rfl

theorem unsigned?_eq_some_iff_of_digits {limit : Nat} {s : List Char} {n : Nat}
    (hs : ∀ c ∈ s, c.isDigit = true) :
    unsigned? limit s = some n ↔ s ≠ [] ∧ digitsValue s = n ∧ n ≤ limit := by
  have hsign : s.head? ≠ some '+' := by
    intro hplus
    exact absurd (hs '+' (List.mem_of_head? hplus)) (by decide)
  rw [unsigned?_eq_some_iff hsign, and_iff_right hs]

theorem le_of_unsigned? {limit : Nat} {s : List Char} {n : Nat} (h : unsigned? limit s = some n) :
    n ≤ limit := by
  simp only [unsigned?] at h
  split at h
  · split at h
    · cases h
      assumption
    · cases h
  · cases h

/-! ## The value of digits -/

/-- Zeros in front do not count. -/
theorem digitsValue_zeros_append (zeros : Nat) (s : List Char) :
    digitsValue (List.replicate zeros '0' ++ s) = digitsValue s := by
  show Nat.ofDigitChars 10 (List.replicate zeros '0' ++ s) 0 = Nat.ofDigitChars 10 s 0
  rw [Nat.ofDigitChars_append, Nat.ofDigitChars_replicate_zero, Nat.mul_zero]

/-- The first digit counts as often as its place says. -/
theorem digitsValue_cons (c : Char) (s : List Char) :
    digitsValue (c :: s) = 10 ^ s.length * (c.toNat - '0'.toNat) + digitsValue s := by
  show Nat.ofDigitChars 10 (c :: s) 0 = _ + Nat.ofDigitChars 10 s 0
  rw [Nat.ofDigitChars_cons, Nat.ofDigitChars_eq_ofDigitChars_zero, Nat.mul_zero, Nat.zero_add]

/-- A text of digits is worth less than ten to the power of its length. -/
theorem digitsValue_lt {s : List Char} (hs : ∀ c ∈ s, c.isDigit = true) :
    digitsValue s < 10 ^ s.length := by
  induction s with
  | nil => exact Nat.one_pos
  | cons c s ih =>
    have hc := Char.isDigit_iff_toNat.1 (hs c (by simp))
    have hrest := ih fun d hd => hs d (by simp [hd])
    -- The leading digit is at most nine.
    have hlead : 10 ^ s.length * (c.toNat - '0'.toNat) ≤ 10 ^ s.length * 9 := by
      apply Nat.mul_le_mul_left
      have hnine : '9'.toNat - '0'.toNat = 9 := rfl
      omega
    rw [digitsValue_cons, List.length_cons, Nat.pow_succ]
    omega

/-! ## The order of digits -/

/-- Numbers in parts, the rest of which is below the unit of the leading part. -/
theorem lead_lt_lead_iff {unit p q a b : Nat} (ha : a < unit) (hb : b < unit) :
    unit * p + a < unit * q + b ↔ p < q ∨ p = q ∧ a < b := by
  rcases Nat.lt_trichotomy p q with h | rfl | h
  · have hunit : unit * (p + 1) ≤ unit * q := Nat.mul_le_mul_left _ h
    rw [Nat.mul_succ] at hunit
    exact iff_of_true (by omega) (.inl h)
  · simp
  · have hunit : unit * (q + 1) ≤ unit * p := Nat.mul_le_mul_left _ h
    rw [Nat.mul_succ] at hunit
    exact iff_of_false (by omega) (by omega)

/-- **Digits sort as numbers**, if the texts have one length. -/
theorem lt_iff_digitsValue_lt {s t : List Char} (hlength : s.length = t.length)
    (hs : ∀ c ∈ s, c.isDigit = true) (ht : ∀ c ∈ t, c.isDigit = true) :
    s < t ↔ digitsValue s < digitsValue t := by
  induction s generalizing t with
  | nil =>
    cases List.length_eq_zero_iff.1 hlength.symm
    simp
  | cons c s ih =>
    cases t with
    | nil => cases hlength
    | cons d t =>
      have hrest : s.length = t.length := Nat.succ.inj hlength
      have hs' : ∀ e ∈ s, e.isDigit = true := fun e he => hs e (by simp [he])
      have ht' : ∀ e ∈ t, e.isDigit = true := fun e he => ht e (by simp [he])
      have hc := Char.isDigit_iff_toNat.1 (hs c (by simp))
      have hd := Char.isDigit_iff_toNat.1 (ht d (by simp))
      -- Digits are in the order of their values.
      have hlt : c < d ↔ c.toNat - '0'.toNat < d.toNat - '0'.toNat := by
        rw [Char.lt_def, UInt32.lt_iff_toNat_lt]
        show c.toNat < d.toNat ↔ _
        omega
      have heq : c = d ↔ c.toNat - '0'.toNat = d.toNat - '0'.toNat := by
        rw [← Char.toNat_inj]
        omega
      rw [List.cons_lt_cons_iff, ih hrest hs' ht', hlt, heq, digitsValue_cons, digitsValue_cons,
        ← hrest, lead_lt_lead_iff (digitsValue_lt hs') (hrest ▸ digitsValue_lt ht')]

/-- Digits of one length that stand for one number are the same. -/
theorem eq_of_digitsValue_eq {s t : List Char} (hlength : s.length = t.length)
    (hs : ∀ c ∈ s, c.isDigit = true) (ht : ∀ c ∈ t, c.isDigit = true)
    (hvalue : digitsValue s = digitsValue t) : s = t := by
  apply List.le_antisymm
  · intro hlt
    rw [lt_iff_digitsValue_lt hlength.symm ht hs] at hlt
    omega
  · intro hlt
    rw [lt_iff_digitsValue_lt hlength hs ht] at hlt
    omega

/-- Texts whose first parts have one length sort by these parts, and then by what follows. -/
theorem append_lt_append_iff {s t u v : List Char} (hlength : s.length = t.length) :
    s ++ u < t ++ v ↔ s < t ∨ s = t ∧ u < v := by
  -- Both first parts end together, as they have one length.
  induction s generalizing t with
  | nil =>
    cases List.length_eq_zero_iff.1 hlength.symm
    simp
  | cons c s ih =>
    cases t with
    | nil => cases hlength
    | cons d t =>
      rw [List.cons_append, List.cons_append, List.cons_lt_cons_iff, List.cons_lt_cons_iff,
        ih (Nat.succ.inj hlength), List.cons.injEq, and_or_left, or_assoc, and_assoc]

/-! ## The digits of a number -/

theorem isDigit_of_mem_digits {n : Nat} {c : Char} (h : c ∈ digits n) : c.isDigit = true :=
  Nat.isDigit_of_mem_toDigits (by decide) (by decide) h

theorem isDigit_of_mem_zeros_append {zeros n : Nat} {c : Char}
    (h : c ∈ List.replicate zeros '0' ++ digits n) : c.isDigit = true := by
  rcases List.mem_append.1 h with h | h
  · rw [List.eq_of_mem_replicate h]
    rfl
  · exact isDigit_of_mem_digits h

theorem zeros_append_ne_nil (zeros n : Nat) : List.replicate zeros '0' ++ digits n ≠ [] :=
  List.append_ne_nil_of_right_ne_nil _ Nat.toDigits_ne_nil

/-- The digits of a number are worth that number. -/
theorem digitsValue_digits (n : Nat) : digitsValue (digits n) = n :=
  Nat.ofDigitChars_toDigits (by decide) (by decide)

/-- **What is written for a number is read as it**, with zeros in front as well. -/
theorem unsigned?_zeros_append {limit n : Nat} (h : n ≤ limit) (zeros : Nat) :
    unsigned? limit (List.replicate zeros '0' ++ digits n) = some n := by
  have hdigits : ∀ c ∈ List.replicate zeros '0' ++ digits n, c.isDigit = true :=
    fun c hc => isDigit_of_mem_zeros_append hc
  apply (unsigned?_eq_some_iff_of_digits hdigits).2
  exact ⟨zeros_append_ne_nil zeros n,
    (digitsValue_zeros_append zeros _).trans (digitsValue_digits n), h⟩

theorem unsigned?_digits {limit n : Nat} (h : n ≤ limit) : unsigned? limit (digits n) = some n :=
  unsigned?_zeros_append h 0

/-! ## Numbers of a width -/

theorem isDigit_of_mem_padded {width n : Nat} {c : Char} (h : c ∈ padded width n) :
    c.isDigit = true :=
  isDigit_of_mem_zeros_append h

theorem digitsValue_padded (width n : Nat) : digitsValue (padded width n) = n :=
  (digitsValue_zeros_append _ _).trans (digitsValue_digits n)

/-- Numbers are told apart by what is written for them. -/
theorem padded_inj {width m n : Nat} : padded width m = padded width n ↔ m = n := by
  constructor
  · intro h
    rw [← digitsValue_padded width m, h, digitsValue_padded]
  · exact fun h => h ▸ rfl

theorem length_padded (width n : Nat) :
    (padded width n).length = max width (digits n).length := by
  rw [padded, List.length_append, List.length_replicate]
  omega

/-- A number fits into a width if it is below the power of ten. -/
theorem length_padded_eq_iff {width n : Nat} (hwidth : 0 < width) :
    (padded width n).length = width ↔ n < 10 ^ width := by
  rw [length_padded, ← Nat.length_toDigits_le_iff (by decide) hwidth]
  show max width (digits n).length = width ↔ (digits n).length ≤ width
  omega

/-- Digits are what is written for their number in their width. -/
theorem padded_digitsValue {s : List Char} (hne : s ≠ []) (hs : ∀ c ∈ s, c.isDigit = true) :
    padded s.length (digitsValue s) = s := by
  have hwidth : 0 < s.length := List.length_pos_iff.2 hne
  apply eq_of_digitsValue_eq
  · exact (length_padded_eq_iff hwidth).2 (digitsValue_lt hs)
  · exact fun c hc => isDigit_of_mem_padded hc
  · exact hs
  · exact digitsValue_padded _ _

/-- **Numbers of one width sort as they are written.** -/
theorem padded_lt_padded_iff {width m n : Nat} (hwidth : 0 < width) (hm : m < 10 ^ width)
    (hn : n < 10 ^ width) : padded width m < padded width n ↔ m < n := by
  have hlength : (padded width m).length = (padded width n).length := by
    rw [(length_padded_eq_iff hwidth).2 hm, (length_padded_eq_iff hwidth).2 hn]
  rw [lt_iff_digitsValue_lt hlength (fun c hc => isDigit_of_mem_padded hc)
    (fun c hc => isDigit_of_mem_padded hc), digitsValue_padded, digitsValue_padded]

end MediaShelves.Text
