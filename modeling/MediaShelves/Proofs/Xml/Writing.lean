import Mathlib.Data.List.Forall2
import MediaShelves.Proofs.Text.Spans
import MediaShelves.Xml.Event

/-!
# Writing texts and attributes

How texts, attributes and elements are written, with the freedom that the format leaves: quotes of
either kind, white space within tags and between them, entities where they are not needed.

Main statements: a text is read back (`Escapes.unescape?`), and so are the attributes in a tag
(`WritesAttributes.readAttributes`).
-/

namespace MediaShelves.Xml

open MediaShelves.Text

/-! ## The grammar -/

/-- White space, perhaps none. -/
def IsGap (s : List Char) : Prop :=
  ∀ c ∈ s, isSpace c = true

/-- The characters that markup is made of. -/
def special : List Char :=
  ['<', '>', '&', '"', '\'']

/-- A text as it is written: what is special is an entity, and whatever else may be one. -/
inductive Escapes : List Char → List Char → Prop where
  | nil : Escapes [] []
  | plain {c : Char} {s w : List Char} (hc : c ∉ special) (hs : Escapes s w) :
      Escapes (c :: s) (c :: w)
  | entity {c : Char} {s name w : List Char} (hname : entity? name = some c) (hs : Escapes s w) :
      Escapes (c :: s) ('&' :: (name ++ ';' :: w))

/-- A value between quotes. -/
inductive Quotes : List Char → List Char → Prop where
  | intro {quote : Char} {value w : List Char} (hquote : quote = '"' ∨ quote = '\'')
      (hvalue : Escapes value w) : Quotes value (quote :: (w ++ [quote]))

/-- A name of Latin letters. -/
def IsWord (name : List Char) : Prop :=
  name ≠ [] ∧ ∀ c ∈ name, c.isAlpha = true

/-- The names and values in a tag, each after some white space. -/
inductive WritesAttributes : List (List Char × List Char) → List Char → Prop where
  | nil {gap : List Char} (hgap : IsGap gap) : WritesAttributes [] gap
  | cons {gap name value w rest : List Char} {attributes : List (List Char × List Char)}
      (hgap : IsGap gap) (hne : gap ≠ []) (hname : IsWord name) (hvalue : Quotes value w)
      (hrest : WritesAttributes attributes rest) :
      WritesAttributes ((name, value) :: attributes) (gap ++ (name ++ '=' :: (w ++ rest)))

/-- A content between a start tag and its end tag. -/
inductive Wraps (name : List Char) (attributes : List (List Char × List Char))
    (content : List Char) : List Char → Prop where
  | intro {tag gap : List Char} (htag : WritesAttributes attributes tag) (hgap : IsGap gap) :
      Wraps name attributes content
        ('<' :: (name ++ (tag ++ '>' :: (content ++ '<' :: '/' :: (name ++ (gap ++ ['>']))))))

/-- An element without content: one tag or two. -/
inductive EmptyElement (name : List Char) (attributes : List (List Char × List Char)) :
    List Char → Prop where
  | single {tag : List Char} (htag : WritesAttributes attributes tag) :
      EmptyElement name attributes ('<' :: (name ++ (tag ++ ['/', '>'])))
  | pair {content s : List Char} (hcontent : IsGap content)
      (hs : Wraps name attributes content s) : EmptyElement name attributes s

/-! ## Entities -/

/-- The capital letters are those from A to Z. -/
theorem isUpper_iff {c : Char} : c.isUpper = true ↔ 'A' ≤ c ∧ c ≤ 'Z' :=
  decide_eq_true_iff

/-- The small letters are those from a to z. -/
theorem isLower_iff {c : Char} : c.isLower = true ↔ 'a' ≤ c ∧ c ≤ 'z' := by
  show (decide ('a' ≤ c) && decide (c ≤ 'z')) = true ↔ _
  rw [Bool.and_eq_true, decide_eq_true_iff, decide_eq_true_iff]

theorem isAlphanum_of_isHexDigit {c : Char} (h : isHexDigit c = true) : c.isAlphanum = true := by
  simp only [isHexDigit, Bool.or_eq_true, Bool.and_eq_true, decide_eq_true_eq] at h
  show (c.isUpper || c.isLower || c.isDigit) = true
  rw [Bool.or_eq_true, Bool.or_eq_true, isUpper_iff, isLower_iff]
  -- The letters A to F are among the letters, in either case.
  rcases h with (hdigit | ⟨hlow, hhigh⟩) | ⟨hlow, hhigh⟩
  · exact .inr hdigit
  · exact .inl (.inr ⟨hlow, Char.le_trans hhigh (by decide)⟩)
  · exact .inl (.inl ⟨hlow, Char.le_trans hhigh (by decide)⟩)

/-- What entities are made of. -/
theorem entity?_characters {name : List Char} {c : Char} (h : entity? name = some c) :
    ∀ d ∈ name, d = '#' ∨ d.isAlphanum = true := by
  unfold entity? at h
  split at h
  · -- A number in hexadecimal digits, behind its two marks.
    rename_i ds
    obtain ⟨n, hn, -⟩ := Option.bind_eq_some_iff.1 h
    unfold natOfHexDigits? at hn
    split at hn
    · rename_i hds
      rw [Bool.and_eq_true, List.all_eq_true] at hds
      intro d hd
      rcases List.mem_cons.1 hd with rfl | hd
      · exact .inl rfl
      · rcases List.mem_cons.1 hd with rfl | hd
        · exact .inr (by decide)
        · exact .inr (isAlphanum_of_isHexDigit (hds.2 d hd))
    · cases hn
  · rename_i ds _
    obtain ⟨n, hn, -⟩ := Option.bind_eq_some_iff.1 h
    unfold natOfDigits? at hn
    split at hn
    · cases hn
    · split at hn
      · rename_i hds
        intro d hd
        rcases List.mem_cons.1 hd with rfl | hd
        · exact .inl rfl
        · exact .inr (by simp [Char.isAlphanum, List.all_eq_true.1 hds d hd])
      · cases hn
  · -- The names of the predefined entities are letters.
    have hwords : ∀ word ∈ [['l', 't'], ['g', 't'], ['a', 'm', 'p'], ['a', 'p', 'o', 's'],
        ['q', 'u', 'o', 't']], ∀ d ∈ word, d = '#' ∨ d.isAlphanum = true := by
      decide
    apply hwords
    simp only [List.mem_cons, List.not_mem_nil, or_false]
    by_contra hnone
    simp only [not_or] at hnone
    simp [hnone] at h

section

variable {s w : List Char} (h : Escapes s w)

include h

/-- **Entities stand for what was written**, and other characters for themselves. -/
theorem Escapes.unescape? : unescape? w = some s := by
  -- What is escaped is plain characters and entities, and an entity ends at its first semicolon.
  induction h with
  | nil => rw [Xml.unescape?]
  | @plain c s w hc _ ih =>
    have hamp : c ≠ '&' := by
      rintro rfl
      exact hc (by decide)
    rw [Xml.unescape?, if_neg hamp, ih, Option.map_some]
  | @entity c s name w hname _ ih =>
    have hsemicolon : ';' ∉ name := by
      intro hmem
      exact absurd (entity?_characters hname ';' hmem) (by decide)
    rw [Xml.unescape?, if_pos rfl, cutFirst?_of_not_mem hsemicolon]
    simp only [hname, ih, Option.map_some]

/-- What is written ends neither a text nor a value. -/
theorem Escapes.not_mem {d : Char} (hd : d ∈ ['<', '>', '"', '\'']) : d ∉ w := by
  have hspecial : ∀ d ∈ ['<', '>', '"', '\''], d ∈ special ∧ d ≠ '&' ∧ d ≠ ';' ∧
      ¬ (d = '#' ∨ d.isAlphanum = true) := by
    decide
  -- None of the four stands plain, in a name of an entity or around it.
  obtain ⟨hmem, hamp, hsemicolon, hother⟩ := hspecial d hd
  induction h with
  | nil => simp
  | plain hc _ ih =>
    rw [List.mem_cons, not_or]
    exact ⟨fun hdc => hc (hdc ▸ hmem), ih⟩
  | entity hname _ ih =>
    simp only [List.mem_cons, List.mem_append, not_or]
    exact ⟨hamp, fun hdname => hother (entity?_characters hname d hdname), hsemicolon, ih⟩

theorem Escapes.ne_nil (hs : s ≠ []) : w ≠ [] := by
  cases h with
  | nil => exact absurd rfl hs
  | plain => simp
  | entity => simp

end

/-- Every text can be written. -/
theorem exists_escapes (s : List Char) : ∃ w, Escapes s w := by
  -- Every special character has an entity.
  have hspecial : ∀ c ∈ special, ∃ name ∈ [['l', 't'], ['g', 't'], ['a', 'm', 'p'],
      ['a', 'p', 'o', 's'], ['q', 'u', 'o', 't']], entity? name = some c := by
    decide +kernel
  induction s with
  | nil => exact ⟨[], .nil⟩
  | cons c s ih =>
    obtain ⟨w, hw⟩ := ih
    by_cases hc : c ∈ special
    · obtain ⟨name, -, hname⟩ := hspecial c hc
      exact ⟨_, .entity hname hw⟩
    · exact ⟨_, .plain hc hw⟩

theorem isGap_nil : IsGap [] :=
  List.forall_mem_nil _

theorem exists_writesAttributes {attributes : List (List Char × List Char)}
    (h : ∀ p ∈ attributes, IsWord p.1) : ∃ tag, WritesAttributes attributes tag := by
  induction attributes with
  | nil => exact ⟨[], .nil isGap_nil⟩
  | cons p attributes ih =>
    obtain ⟨hp, h⟩ := List.forall_mem_cons.1 h
    obtain ⟨rest, hrest⟩ := ih h
    -- Any value can be escaped, so only the names have to be words.
    obtain ⟨w, hw⟩ := exists_escapes p.2
    have hgap : IsGap [' '] := by
      simp [IsGap, isSpace]
    exact ⟨_, .cons hgap (List.cons_ne_nil _ _) hp (.intro (.inl rfl) hw) hrest⟩

/-! ## White space and letters -/

theorem isSpace_iff {c : Char} :
    isSpace c = true ↔ c ∈ [' ', '\t', '\n', '\r'] := by
  simp [isSpace, or_assoc]

/-- White space and letters are no marks. -/
theorem not_mem_marks {c : Char} (h : isSpace c = true ∨ c.isAlpha = true) :
    c ∉ ['<', '>', '"', '\'', '/', '=', '!', '?'] := by
  have hmarks : ∀ c ∈ ['<', '>', '"', '\'', '/', '=', '!', '?'],
      ¬ (isSpace c = true ∨ c.isAlpha = true) := by
    decide
  exact fun hc => hmarks c hc h

theorem isSpace_of_isAlpha {c : Char} (h : c.isAlpha = true) : isSpace c = false := by
  have hspaces : ∀ c ∈ [' ', '\t', '\n', '\r'], c.isAlpha = false := by
    decide
  cases hc : isSpace c with
  | false => rfl
  | true =>
    rw [hspaces c (isSpace_iff.1 hc)] at h
    cases h

theorem IsWord.isSpace {name : List Char} (h : IsWord name) : ∀ c ∈ name, isSpace c = false :=
  fun c hc => isSpace_of_isAlpha (h.2 c hc)

/-- White space at the end is what is dropped. -/
theorem trimEnd_append {s gap : List Char} (hs : ∀ c, s.getLast? = some c → isSpace c = false)
    (hgap : IsGap gap) : trimEnd (s ++ gap) = s := by
  have hreverse : ∀ c ∈ gap.reverse, isSpace c = true := by
    simpa [IsGap] using hgap
  have hstop : ∀ c, s.reverse.head? = some c → isSpace c = false := by
    simpa using hs
  rw [trimEnd, List.reverse_append, dropWhile_append_of_stop hreverse hstop, List.reverse_reverse]

/-! ## Attributes -/

theorem readAttributes_gap {gap : List Char} (hgap : IsGap gap) (seen : List (List Char))
    (s : List Char) : readAttributes seen (gap ++ s) = readAttributes seen s := by
  induction gap with
  | nil => rfl
  | cons c gap ih =>
    obtain ⟨hc, hgap⟩ := List.forall_mem_cons.1 hgap
    rw [List.cons_append, readAttributes, if_pos hc, ih hgap]

theorem readAttributes_quoted {name w : List Char} {quote : Char} {seen : List (List Char)}
    (hname : IsWord name) (hseen : name ∉ seen) (hquote : quote = '"' ∨ quote = '\'')
    (hw : quote ∉ w) (rest : List Char) :
    readAttributes seen (name ++ '=' :: quote :: (w ++ quote :: rest)) =
      ⟨name, w⟩ :: readAttributes (name :: seen) rest := by
  obtain ⟨c, cs, rfl⟩ := List.exists_cons_of_ne_nil hname.1
  have hspace : isSpace c = false := hname.isSpace c (List.mem_cons_self ..)
  have hpart : ∀ d ∈ cs, isNamePart d = true := by
    intro d hd
    have hdletter := hname.2 d (List.mem_cons_of_mem c hd)
    have hequals : d ≠ '=' := by
      rintro rfl
      exact absurd hdletter (by decide)
    simp [isNamePart, hequals, isSpace_of_isAlpha hdletter]
  -- The name ends at the sign, and no space is passed on either side of it.
  have hstop : ∀ d, ('=' :: quote :: (w ++ quote :: rest)).head? = some d →
      isNamePart d = false := by
    rintro d ⟨⟩
    decide
  have hquotespace : isSpace quote = false := by
    rcases hquote with rfl | rfl <;> decide
  have hequals : ('=' :: quote :: (w ++ quote :: rest)).dropWhile isSpace =
      '=' :: quote :: (w ++ quote :: rest) :=
    List.dropWhile_cons_of_neg (by decide)
  have hvalue : (quote :: (w ++ quote :: rest)).dropWhile isSpace =
      quote :: (w ++ quote :: rest) :=
    List.dropWhile_cons_of_neg (by simp [hquotespace])
  rw [List.cons_append, readAttributes]
  simp only [hspace, Bool.false_eq_true, if_false, takeWhile_append_of_stop hpart hstop]
  split
  · rename_i hdrop
    rw [dropWhile_append_of_stop hpart hstop, hequals] at hdrop
    cases hdrop
  · rename_i d after hdrop
    rw [dropWhile_append_of_stop hpart hstop, hequals] at hdrop
    cases hdrop
    rw [if_neg (by simp), if_neg (by simpa using hseen)]
    split
    · rename_i hdrop
      rw [hvalue] at hdrop
      cases hdrop
    · rename_i q value hdrop
      rw [hvalue] at hdrop
      cases hdrop
      rw [if_pos hquote]
      split
      · rename_i inner outer hcut
        rw [cutFirst?_of_not_mem hw] at hcut
        cases hcut
        rfl
      · rename_i hcut
        rw [cutFirst?_of_not_mem hw] at hcut
        cases hcut

/-- An attribute has the name and the value that were written. -/
def Attribute.Says (a : Attribute) (p : List Char × List Char) : Prop :=
  a.name = p.1 ∧ a.text = p.2

/-- **Attributes are read back** if their names differ. -/
theorem WritesAttributes.readAttributes {attributes : List (List Char × List Char)}
    {tag : List Char} (h : WritesAttributes attributes tag)
    (hnodup : (attributes.map (·.1)).Nodup) (seen : List (List Char))
    (hseen : ∀ p ∈ attributes, p.1 ∉ seen) :
    List.Forall₂ Attribute.Says (Xml.readAttributes seen tag) attributes := by
  induction h generalizing seen with
  | @nil gap hgap =>
    have hread := readAttributes_gap hgap seen []
    rw [List.append_nil, Xml.readAttributes] at hread
    rw [hread]
    exact .nil
  | @cons gap name value w rest attributes hgap _ hname hvalue hrest ih =>
    obtain ⟨hnew, hnodup⟩ := List.nodup_cons.1 hnodup
    obtain ⟨hname', hseen⟩ := List.forall_mem_cons.1 hseen
    cases hvalue with
    | @intro quote _ w hquote hvalue =>
      -- Neither quote is written within a value.
      have hmem : quote ∈ ['<', '>', '"', '\''] := by
        rcases hquote with rfl | rfl <;> decide
      have hwritten : quote :: (w ++ [quote]) ++ rest = quote :: (w ++ quote :: rest) := by
        simp
      rw [readAttributes_gap hgap, hwritten,
        readAttributes_quoted hname hname' hquote (hvalue.not_mem hmem)]
      refine .cons ⟨rfl, ?_⟩ (ih hnodup _ ?_)
      · rw [Attribute.text, hvalue.unescape?, Option.getD_some]
      · intro p hp
        rw [List.mem_cons, not_or]
        refine ⟨?_, hseen p hp⟩
        intro hsame
        -- No later attribute has the name of the first one.
        exact hnew (List.mem_map.2 ⟨p, hp, hsame⟩)

end MediaShelves.Xml
