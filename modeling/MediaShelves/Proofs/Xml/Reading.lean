import MediaShelves.Proofs.Xml.Writing

/-!
# Reading elements

What is written as an element is read as its events, whatever comes after it (`Reads`).

Main statements: an element around whatever else is read (`Wraps.reads`), around a text
(`readsBeforeTag_text`), and without content (`EmptyElement.reads`); the document that is written
(`ofText_eq`).
-/

namespace MediaShelves.Xml

open MediaShelves.Text

/-! ## Tags -/

/-- The end of a tag that begins with a text is looked for after the text. -/
def Balanced (s : List Char) : Prop :=
  ∀ rest, tagEnd? none (s ++ rest) = (tagEnd? none rest).map (· + s.length)

theorem Balanced.append {s t : List Char} (hs : Balanced s) (ht : Balanced t) :
    Balanced (s ++ t) := by
  intro rest
  rw [List.append_assoc, hs, ht, Option.map_map, List.length_append]
  congr 1
  funext n
  simp only [Function.comp_apply]
  omega

theorem balanced_of_plain {s : List Char} (h : ∀ c ∈ s, c ∉ ['>', '"', '\'']) : Balanced s := by
  intro rest
  induction s with
  | nil => simp
  | cons c s ih =>
    obtain ⟨hc, hs⟩ := List.forall_mem_cons.1 h
    simp only [List.mem_cons, List.not_mem_nil, or_false, not_or] at hc
    rw [List.cons_append, tagEnd?, if_neg hc.1, if_neg (not_or.2 hc.2), ih hs, Option.map_map]
    rfl

theorem tagEnd?_quoted {quote : Char} {w : List Char} (h : quote ∉ w) (rest : List Char) :
    tagEnd? (some quote) (w ++ quote :: rest) = (tagEnd? none rest).map (· + (w.length + 1)) := by
  induction w with
  | nil => simp [tagEnd?]
  | cons c w ih =>
    obtain ⟨hc, hw⟩ := not_or.1 (mt List.mem_cons.2 h)
    rw [List.cons_append, tagEnd?, if_neg (Ne.symm hc), ih hw, Option.map_map]
    rfl

theorem Quotes.balanced {value w : List Char} (h : Quotes value w) : Balanced w := by
  cases h with
  | @intro quote _ w hquote hvalue =>
    intro rest
    have hmem : quote ∈ ['<', '>', '"', '\''] := by
      rcases hquote with rfl | rfl <;> decide
    have hne : quote ≠ '>' := by
      rcases hquote with rfl | rfl <;> decide
    -- The quote that opens is closed by the next one like it, and the value has none.
    rw [List.cons_append, List.append_assoc, List.singleton_append, tagEnd?, if_neg hne,
      if_pos hquote, tagEnd?_quoted (hvalue.not_mem hmem), Option.map_map, List.length_cons,
      List.length_append]
    rfl

/-- The marks that matter to the end of a tag. -/
theorem marks_subset : ['>', '"', '\''] ⊆ ['<', '>', '"', '\'', '/', '=', '!', '?'] := by
  decide

theorem IsGap.balanced {gap : List Char} (h : IsGap gap) : Balanced gap :=
  balanced_of_plain fun c hc hmem => not_mem_marks (.inl (h c hc)) (marks_subset hmem)

theorem IsWord.balanced {name : List Char} (h : IsWord name) : Balanced name :=
  balanced_of_plain fun c hc hmem => not_mem_marks (.inr (h.2 c hc)) (marks_subset hmem)

section

variable {attributes : List (List Char × List Char)} {tag : List Char}
  (h : WritesAttributes attributes tag)

include h

theorem WritesAttributes.balanced : Balanced tag := by
  induction h with
  | nil hgap => exact hgap.balanced
  | @cons gap name value w rest attributes hgap _ hname hvalue _ ih =>
    have hequals : Balanced ['='] := balanced_of_plain (by decide)
    exact hgap.balanced.append (hname.balanced.append (hequals.append (hvalue.balanced.append ih)))

theorem WritesAttributes.head? {c : Char} (hc : tag.head? = some c) : isSpace c = true := by
  cases h with
  | nil hgap => exact hgap c (List.mem_of_head? hc)
  | cons hgap hne _ _ _ =>
    obtain ⟨d, gap, rfl⟩ := List.exists_cons_of_ne_nil hne
    cases hc
    exact hgap c (List.mem_cons_self ..)

/-- A tag that ends in a slash has the slash after its attributes. -/
theorem WritesAttributes.getLast? : tag.getLast? ≠ some '/' := by
  induction h with
  | nil hgap =>
    intro hlast
    cases hgap _ (List.mem_of_getLast? hlast)
  | @cons gap name value w rest attributes _ _ _ hvalue _ ih =>
    cases hvalue with
    | @intro quote _ w hquote _ =>
      -- Behind the last attribute stands a gap, or the quote that closes its value.
      have hsplit : gap ++ (name ++ '=' :: (quote :: (w ++ [quote]) ++ rest)) =
          (gap ++ name ++ '=' :: quote :: w) ++ ([quote] ++ rest) := by
        simp
      rw [hsplit, List.getLast?_append, List.getLast?_append]
      cases hrest : rest.getLast? with
      | some c =>
        rw [hrest] at ih
        exact ih
      | none =>
        have hslash : quote ≠ '/' := by
          rcases hquote with rfl | rfl <;> decide
        simpa using hslash

end

theorem readTag_append {name tag : List Char} (hname : IsWord name)
    (htag : ∀ c, tag.head? = some c → isSpace c = true) :
    readTag (name ++ tag) = (name, readAttributes [] tag) := by
  have htake : (name ++ tag).takeWhile (fun c => !isSpace c) = name := by
    apply takeWhile_append_of_stop
    · simpa using hname.isSpace
    · simpa using htag
  simp only [readTag, htake, List.drop_left]

theorem selfClosing?_append_slash (s : List Char) : selfClosing? (s ++ ['/']) = some s := by
  simp [selfClosing?]

theorem selfClosing?_eq_none {s : List Char} (h : s.getLast? ≠ some '/') :
    selfClosing? s = none := by
  unfold selfClosing?
  split
  · rename_i rest hrest
    have hs : s = rest.reverse ++ ['/'] := by
      rw [← List.reverse_reverse s, hrest, List.reverse_cons]
    simp [hs] at h
  · rfl

/-! ## Reading -/

/-- A text leaves some events before those of whatever comes after it. -/
def Reads (s : List Char) (es : List Event) : Prop :=
  ∀ stack rest, readEvents stack (s ++ rest) = es.foldr Document.after (readEvents stack rest)

/-- A text does so where a tag comes after it. -/
def ReadsBeforeTag (s : List Char) (es : List Event) : Prop :=
  ∀ stack rest, readEvents stack (s ++ '<' :: rest) =
    es.foldr Document.after (readEvents stack ('<' :: rest))

theorem Reads.readsBeforeTag {s : List Char} {es : List Event} (h : Reads s es) :
    ReadsBeforeTag s es :=
  fun stack rest => h stack ('<' :: rest)

theorem Reads.append {s t : List Char} {es fs : List Event} (hs : Reads s es) (ht : Reads t fs) :
    Reads (s ++ t) (es ++ fs) := by
  intro stack rest
  rw [List.append_assoc, hs, ht, List.foldr_append]

theorem reads_gap {gap : List Char} (hgap : IsGap gap) : Reads gap [] := by
  intro stack rest
  induction gap with
  | nil => rfl
  | cons c gap ih =>
    obtain ⟨hc, hgap⟩ := List.forall_mem_cons.1 hgap
    rw [List.cons_append, readEvents, if_pos hc]
    exact ih hgap

/-- A text begins and ends with no white space. -/
def IsTrimmed (s : List Char) : Prop :=
  s ≠ [] ∧ (∀ c, s.head? = some c → isSpace c = false) ∧
    ∀ c, s.getLast? = some c → isSpace c = false

theorem Escapes.isTrimmed {s w : List Char} (h : Escapes s w) (hs : IsTrimmed s) :
    IsTrimmed w := by
  obtain ⟨hne, hhead, hlast⟩ := hs
  refine ⟨h.ne_nil hne, ?_, ?_⟩
  · cases h with
    | nil => simp
    | plain _ _ => exact hhead
    | entity _ _ =>
      rintro c ⟨⟩
      decide
  · clear hhead
    induction h with
    | nil => exact hlast
    | @plain c s w _ hs ih =>
      cases s with
      | nil =>
        cases hs
        exact hlast
      | cons d s =>
        obtain ⟨e, w, rfl⟩ := List.exists_cons_of_ne_nil (hs.ne_nil (List.cons_ne_nil d s))
        rw [List.getLast?_cons_cons] at hlast ⊢
        exact ih (List.cons_ne_nil d s) hlast
    | @entity c s name w _ hs ih =>
      -- An entity ends in a semicolon, so what it stands for need not be looked at.
      have hsplit : '&' :: (name ++ ';' :: w) = ('&' :: name) ++ ([';'] ++ w) := by
        simp
      rw [hsplit, List.getLast?_append, List.getLast?_append]
      cases s with
      | nil =>
        cases hs
        rintro d ⟨⟩
        decide
      | cons d s =>
        have hw := hs.ne_nil (List.cons_ne_nil d s)
        rw [List.getLast?_cons_cons] at hlast
        have hih := ih (List.cons_ne_nil d s) hlast
        rw [List.getLast?_eq_some_getLast hw] at hih ⊢
        exact hih

theorem readsBeforeTag_text {w front back : List Char} (hfront : IsGap front) (hw : IsTrimmed w)
    (hmark : '<' ∉ w) (hback : IsGap back) : ReadsBeforeTag (front ++ (w ++ back)) [.text w] := by
  intro stack rest
  obtain ⟨hne, hhead, hlast⟩ := hw
  obtain ⟨c, cs, rfl⟩ := List.exists_cons_of_ne_nil hne
  have hc : isSpace c = false := hhead c rfl
  obtain ⟨hcmark, hmarks⟩ := not_or.1 (mt List.mem_cons.2 hmark)
  -- The text goes up to the next tag, and the gap behind it is trimmed away.
  have htext : ∀ d ∈ cs ++ back, (d != '<') = true := by
    intro d hd
    rw [bne_iff_ne]
    rintro rfl
    rcases List.mem_append.1 hd with hd | hd
    · exact hmarks hd
    · exact absurd (hback '<' hd) (by decide)
  have hstop : ∀ d, ('<' :: rest).head? = some d → (d != '<') = false := by
    rintro d ⟨⟩
    decide
  have hgap := reads_gap hfront stack (c :: (cs ++ back ++ '<' :: rest))
  have hsplit : front ++ (c :: cs ++ back) ++ '<' :: rest =
      front ++ c :: (cs ++ back ++ '<' :: rest) := by
    simp
  rw [hsplit, hgap, List.foldr_nil, readEvents, if_neg (by simp [hc]), if_pos (Ne.symm hcmark),
    takeWhile_append_of_stop htext hstop, dropWhile_append_of_stop htext hstop,
    ← List.cons_append, trimEnd_append hlast hback]
  rfl

section

variable {content : List Char} {d : Char} (hd : content.head? = some d)
  (hcontent : Balanced content)

include hd hcontent

/-- What is seen of a tag: its first character, its end, and what comes after it. -/
theorem Balanced.tagEnd? (rest : List Char) :
    (content ++ '>' :: rest).head? = some d ∧
      Xml.tagEnd? none (content ++ '>' :: rest) = some content.length ∧
      (content ++ '>' :: rest).take content.length = content ∧
      (content ++ '>' :: rest).drop (content.length + 1) = rest := by
  refine ⟨?_, ?_, List.take_left, ?_⟩
  · rw [List.head?_append, hd, Option.some_or]
  · rw [hcontent]
    simp [Xml.tagEnd?]
  · rw [← List.drop_drop, List.drop_left, List.drop_one, List.tail_cons]

/-- An end tag closes the innermost element. -/
theorem readEvents_closing {name : List Char} (hslash : d = '/')
    (hname : closedName (content.drop 1) = name) (rest : List Char) (stack : List (List Char)) :
    readEvents (name :: stack) ('<' :: (content ++ '>' :: rest)) =
      .after (.closed name) (readEvents stack rest) := by
  obtain ⟨hhead, hend, htake, hdrop⟩ := hcontent.tagEnd? hd rest
  have hmark : ¬ ('/' = '!' ∨ '/' = '?') := by
    decide
  subst hslash
  rw [readEvents, if_neg (by decide), if_neg (by simp)]
  simp only [hhead, if_neg hmark, hend, htake, hname, if_true, hdrop]

variable (hmark : ¬ (d = '!' ∨ d = '?')) (hslash : d ≠ '/')

include hmark hslash

/-- A start tag opens an element. -/
theorem readEvents_opening (hopen : selfClosing? content = none) (rest : List Char)
    (stack : List (List Char)) :
    readEvents stack ('<' :: (content ++ '>' :: rest)) =
      .after (.opened (readTag content).1 (readTag content).2)
        (readEvents ((readTag content).1 :: stack) rest) := by
  obtain ⟨hhead, hend, htake, hdrop⟩ := hcontent.tagEnd? hd rest
  rw [readEvents, if_neg (by decide), if_neg (by simp)]
  simp only [hhead, if_neg hmark, hend, htake, if_neg hslash, hopen, hdrop]

/-- A tag with a slash at its end does so and closes it. -/
theorem readEvents_selfClosing {inner : List Char} (hinner : selfClosing? content = some inner)
    (rest : List Char) (stack : List (List Char)) :
    readEvents stack ('<' :: (content ++ '>' :: rest)) =
      .after (.empty (readTag inner).1 (readTag inner).2) (readEvents stack rest) := by
  obtain ⟨hhead, hend, htake, hdrop⟩ := hcontent.tagEnd? hd rest
  rw [readEvents, if_neg (by decide), if_neg (by simp)]
  simp only [hhead, if_neg hmark, hend, htake, if_neg hslash, hinner, hdrop]

end

section

variable {name tag : List Char} {attributes : List (List Char × List Char)} (hname : IsWord name)

include hname

/-- A tag that begins with a name is no other markup. -/
theorem IsWord.exists_head (s : List Char) :
    ∃ d, (name ++ s).head? = some d ∧ ¬ (d = '!' ∨ d = '?') ∧ d ≠ '/' := by
  obtain ⟨c, cs, rfl⟩ := List.exists_cons_of_ne_nil hname.1
  have hc := not_mem_marks (.inr (hname.2 c (List.mem_cons_self ..)))
  refine ⟨c, rfl, ?_, ?_⟩
  · rintro (rfl | rfl) <;> exact absurd hc (by decide)
  · rintro rfl
    exact absurd hc (by decide)

theorem readEvents_start (htag : WritesAttributes attributes tag) (rest : List Char)
    (stack : List (List Char)) :
    readEvents stack ('<' :: (name ++ (tag ++ '>' :: rest))) =
      .after (.opened name (readAttributes [] tag)) (readEvents (name :: stack) rest) := by
  obtain ⟨d, hd, hmark, hslash⟩ := hname.exists_head tag
  -- A tag without attributes ends in its name, and no name ends in a slash.
  have hopen : selfClosing? (name ++ tag) = none := by
    apply selfClosing?_eq_none
    rw [List.getLast?_append]
    cases hlast : tag.getLast? with
    | some c =>
      rw [← hlast]
      simpa [hlast] using htag.getLast?
    | none =>
      intro hslash
      exact absurd (hname.2 '/' (List.mem_of_getLast? hslash)) (by decide)
  rw [← List.append_assoc,
    readEvents_opening hd (hname.balanced.append htag.balanced) hmark hslash hopen,
    readTag_append hname fun _ => htag.head?]

theorem readEvents_single (htag : WritesAttributes attributes tag) (rest : List Char)
    (stack : List (List Char)) :
    readEvents stack ('<' :: (name ++ (tag ++ '/' :: '>' :: rest))) =
      .after (.empty name (readAttributes [] tag)) (readEvents stack rest) := by
  obtain ⟨d, hd, hmark, hslash⟩ := hname.exists_head (tag ++ ['/'])
  have hbalanced : Balanced (name ++ (tag ++ ['/'])) :=
    hname.balanced.append (htag.balanced.append (balanced_of_plain (by decide)))
  have hsplit : name ++ (tag ++ '/' :: '>' :: rest) = name ++ (tag ++ ['/']) ++ '>' :: rest := by
    simp
  -- The slash before the bracket is what makes the tag a single one.
  have hinner : selfClosing? (name ++ (tag ++ ['/'])) = some (name ++ tag) := by
    rw [← List.append_assoc, selfClosing?_append_slash]
  rw [hsplit, readEvents_selfClosing hd hbalanced hmark hslash hinner,
    readTag_append hname fun _ => htag.head?]

theorem readEvents_end {gap : List Char} (hgap : IsGap gap) (rest : List Char)
    (stack : List (List Char)) :
    readEvents (name :: stack) ('<' :: '/' :: (name ++ (gap ++ '>' :: rest))) =
      .after (.closed name) (readEvents stack rest) := by
  have hbalanced : Balanced (['/'] ++ (name ++ gap)) :=
    (balanced_of_plain (by decide)).append (hname.balanced.append hgap.balanced)
  -- White space behind the name is not part of it.
  have hclosed : closedName (name ++ gap) = name := by
    have hlast : ∀ c, name.getLast? = some c → isSpace c = false :=
      fun c hc => hname.isSpace c (List.mem_of_getLast? hc)
    obtain ⟨c, cs, rfl⟩ := List.exists_cons_of_ne_nil hname.1
    rw [closedName, trimEnd_append hlast hgap]
  have hsplit : '/' :: (name ++ (gap ++ '>' :: rest)) = ['/'] ++ (name ++ gap) ++ '>' :: rest := by
    simp
  rw [hsplit, readEvents_closing (d := '/') rfl hbalanced rfl hclosed]

end

/-! ## Elements -/

section

variable {name s : List Char} {attributes : List (List Char × List Char)} (hname : IsWord name)
  (hnodup : (attributes.map (·.1)).Nodup)

include hname hnodup

/-- An element is read around its content. -/
theorem Wraps.reads {content : List Char} {es : List Event}
    (h : Wraps name attributes content s) (hcontent : ReadsBeforeTag content es) :
    ∃ as, List.Forall₂ Attribute.Says as attributes ∧
      Reads s (.opened name as :: es ++ [.closed name]) := by
  cases h with
  | @intro tag gap htag hgap =>
    refine ⟨_, htag.readAttributes hnodup [] (by simp), ?_⟩
    intro stack rest
    have hsplit : '<' :: (name ++ (tag ++ '>' :: (content ++ '<' :: '/' :: (name ++ (gap ++ ['>']))))) ++
        rest = '<' :: (name ++ (tag ++ '>' ::
          (content ++ '<' :: '/' :: (name ++ (gap ++ '>' :: rest))))) := by
      simp
    rw [hsplit, readEvents_start hname htag, hcontent, readEvents_end hname hgap]
    simp

/-- **An element without content** is one event or two. -/
theorem EmptyElement.reads (h : EmptyElement name attributes s) :
    ∃ as, List.Forall₂ Attribute.Says as attributes ∧
      (Reads s [.empty name as] ∨ Reads s [.opened name as, .closed name]) := by
  -- One tag is one event, a pair of tags with a gap between them is two.
  cases h with
  | @single tag htag =>
    refine ⟨_, htag.readAttributes hnodup [] (by simp), .inl ?_⟩
    intro stack rest
    have hsplit : '<' :: (name ++ (tag ++ ['/', '>'])) ++ rest =
        '<' :: (name ++ (tag ++ '/' :: '>' :: rest)) := by
      simp
    rw [hsplit, readEvents_single hname htag]
    rfl
  | pair hcontent hs =>
    obtain ⟨as, has, hreads⟩ := hs.reads hname hnodup (reads_gap hcontent).readsBeforeTag
    exact ⟨as, has, .inr hreads⟩

end

/-- **The events of a document** are those of what is written in it. -/
theorem ofText_eq {s : List Char} {es : List Event} (h : Reads s es) {c : Char}
    (hc : s.head? = some c) (hmark : c.toNat ≠ 0xFEFF) :
    Document.ofText (String.ofList s) = ⟨es, true⟩ := by
  obtain ⟨rest, rfl⟩ := List.head?_eq_some_iff.1 hc
  -- The events are put in front of the end one by one.
  have hevents (es : List Event) : es.foldr Document.after Document.ended = ⟨es, true⟩ := by
    induction es with
    | nil => rfl
    | cons e es ih =>
      rw [List.foldr_cons, ih]
      rfl
  have hread := h [] []
  rw [List.append_nil, readEvents, hevents] at hread
  rw [Document.ofText, String.toList_ofList]
  simp only [if_neg hmark, hread]

end MediaShelves.Xml
