import MediaShelves.Facets.Genre
import MediaShelves.Facets.Visual
import MediaShelves.Proofs.Pattern.Search

/-!
# Renaming

A name map renames in two ways.  `NameMap.replace?` puts the target of a rule, with its references
expanded, in the place of the match.  `NameMap.substitute?` gives the target of a rule as it is written.
Where the first rule that occurs in a name is there to replace, both take this rule
(`replace?_of_first`), and if its match is the whole name, they differ by the expansion alone.

Main statement: `substitute_eq_replace_iff`.
-/

namespace MediaShelves

namespace Pattern

/-! ## Expansion -/

/-- What a template stands for in a match. -/
def expansion (p : Pattern) (template : String) (w : Match) : String :=
  String.ofList ((Piece.ofTemplate 0 template.toList).flatMap (Piece.expand p.names w))

/-- Whether no dollar sign of a template begins a reference. -/
def IsLiteral (template : List Char) : Prop :=
  ∀ front rest, template = front ++ '$' :: rest → readReference rest = none

theorem IsLiteral.tail {c : Char} {rest : List Char} (h : IsLiteral (c :: rest)) : IsLiteral rest :=
  fun front after heq => h (c :: front) after (congrArg (c :: ·) heq)

/-- A template without references is read character by character. -/
theorem ofTemplate_of_isLiteral {template : List Char} (h : IsLiteral template) :
    Piece.ofTemplate 0 template = template.map Piece.char := by
  induction template with
  | nil => rfl
  | cons c rest ih =>
    rw [Piece.ofTemplate]
    split
    · -- The dollar sign begins no reference, so it is a character as any other.
      rename_i hdollar
      rw [h [] rest (congrArg (· :: rest) hdollar), ih h.tail]
      rfl
    · rw [ih h.tail]
      rfl

/-- **A template without references stands for itself**, in any match. -/
theorem expansion_of_isLiteral {template : String} (h : IsLiteral template.toList) (p : Pattern)
    (w : Match) : p.expansion template w = template := by
  have hchars : (template.toList.map Piece.char).flatMap (Piece.expand p.names w) =
      template.toList := by
    rw [List.flatMap_map]
    exact List.flatMap_singleton' _
  rw [expansion, ofTemplate_of_isLiteral h, hchars, String.ofList_toList]

/-! ## Matches of a whole text -/

/-- A part of a text that is all of it leaves nothing around itself. -/
theorem around_of_take_drop {s : List Char} {start stop : Nat} (h : (s.take stop).drop start = s) :
    s.take start = [] ∧ s.drop stop = [] := by
  -- By lengths: the part is as long as the text, or the text is empty and there is nothing around it.
  have hlength := congrArg List.length h
  rw [List.length_drop, List.length_take] at hlength
  rw [List.take_eq_nil_iff, List.drop_eq_nil_iff, ← List.length_eq_zero_iff]
  omega

theorem Match.around_of_group {w : Match} (h : w.group? 0 = some w.text.toList) :
    w.before = [] ∧ w.after = [] := by
  unfold Match.group? at h
  split at h
  · rename_i start stop hstart hstop
    rw [Match.before, Match.after, hstart, hstop]
    exact around_of_take_drop (Option.some.inj h)
  · cases h

theorem text_of_match? {p : Pattern} {value : String} {w : Match} (h : p.match? value = some w) :
    w.text.toList = value.toList := by
  obtain ⟨notes, -, rfl⟩ := Option.map_eq_some_iff.1 h
  rfl

/-- **Where a pattern matches a whole text, the expanded template is all that is left.** -/
theorem replace?_of_match_whole {p : Pattern} {value : String} {w : Match}
    (hmatch : p.match? value = some w) (hwhole : w.group? 0 = some value.toList)
    (template : String) : p.replace? template value = some (p.expansion template w) := by
  rw [← text_of_match? hmatch] at hwhole
  obtain ⟨hbefore, hafter⟩ := Match.around_of_group hwhole
  rw [replace?, hmatch]
  show some (String.ofList (w.before ++ _ ++ w.after)) = some (p.expansion template w)
  rw [hbefore, hafter, List.nil_append, List.append_nil]
  rfl

/-- A pattern replaces something where it occurs. -/
theorem isSome_replace? (p : Pattern) (template value : String) :
    (p.replace? template value).isSome = p.occursIn value :=
  Option.isSome_map

end Pattern

namespace NameMap

/-! ## The first rule -/

variable {m : NameMap} {value : String} {r : NameRule}

/-- The rule that replaces is the first one of its purpose that occurs in the name. -/
theorem replace?_eq_find? (m : NameMap) (purpose : RulePurpose) (value : String) :
    m.replace? purpose value =
      (m.rules.find? fun r => r.purpose = purpose && r.pattern.occursIn value).bind
        fun r => r.pattern.replace? r.target value := by
  rw [replace?]
  -- A rule is passed over by both sides for the same two reasons: its purpose, or no match.
  induction m.rules with
  | nil => rfl
  | cons r rules ih =>
    rw [List.findSome?_cons, List.find?_cons, ← Pattern.isSome_replace? r.pattern r.target value]
    by_cases hpurpose : r.purpose = purpose
    · rw [if_pos hpurpose, decide_eq_true hpurpose, Bool.true_and]
      cases hread : r.pattern.replace? r.target value with
      | none => exact ih
      | some name => exact hread.symm
    · rw [if_neg hpurpose, decide_eq_false hpurpose, Bool.false_and]
      exact ih

/-- The first rule of all that occurs is also the first one of its own purpose. -/
theorem find?_of_purpose {purpose : RulePurpose} (hpurpose : r.purpose = purpose)
    (h : m.rules.find? (fun r => r.pattern.occursIn value) = some r) :
    m.rules.find? (fun r => r.purpose = purpose && r.pattern.occursIn value) = some r := by
  obtain ⟨hoccurs, front, back, hrules, hfront⟩ := List.find?_eq_some_iff_append.1 h
  apply List.find?_eq_some_iff_append.2
  refine ⟨?_, front, back, hrules, fun a ha => ?_⟩
  · rw [decide_eq_true hpurpose, hoccurs]
    rfl
  · -- No rule in front of it occurs, so none of its purpose does.
    have hnot := hfront a ha
    rw [Bool.not_eq_true'] at hnot
    rw [hnot, Bool.and_false]
    rfl

/-- The first rule that occurs is the one that replaces, if it is there to replace. -/
theorem replace?_of_first (hpurpose : r.purpose = .replace)
    (h : m.rules.find? (fun r => r.pattern.occursIn value) = some r) :
    m.replace? .replace value = r.pattern.replace? r.target value := by
  rw [replace?_eq_find?, find?_of_purpose hpurpose h]
  rfl

/-- The first rule that occurs gives its target as it is written. -/
theorem substitute?_of_first (h : m.rules.find? (fun r => r.pattern.occursIn value) = some r) :
    m.substitute? value = some r.target := by
  rw [substitute?, h]
  rfl

/-- Whether the first rule that occurs in a name is there to replace, and matches all of the name. -/
structure ReplacesWhole (m : NameMap) (value : String) (r : NameRule) (w : Pattern.Match) :
    Prop where
  first : m.rules.find? (fun r => r.pattern.occursIn value) = some r
  purpose : r.purpose = .replace
  leftmost : r.pattern.match? value = some w
  whole : w.group? 0 = some value.toList

/-- Of a name that is matched as a whole the replacement leaves the expanded target only. -/
theorem ReplacesWhole.replace?_eq {w : Pattern.Match} (h : m.ReplacesWhole value r w) :
    m.replace? .replace value = some (r.pattern.expansion r.target w) := by
  rw [replace?_of_first h.purpose h.first, Pattern.replace?_of_match_whole h.leftmost h.whole]

/--
**The two ways of renaming differ by the expansion.**  Let the first rule that occurs in a name be
there to replace, and let its leftmost match be the whole name.  Then the replacement is the target
with its references expanded, and the substitute is the target as it is written, which is also the
name under which a model or a genre is shelved.  So the two are the same just where the expansion
changes nothing; and this is so, for any match, where no dollar sign in the target begins a reference.
-/
theorem substitute_eq_replace_iff {m : NameMap} {value : String} {r : NameRule} {w : Pattern.Match}
    (h : m.ReplacesWhole value r w) :
    m.replace? .replace value = some (r.pattern.expansion r.target w) ∧
      m.substitute? value = some r.target ∧
      (m.substitute? value = m.replace? .replace value ↔ r.pattern.expansion r.target w = r.target) ∧
      (Pattern.IsLiteral r.target.toList → m.substitute? value = m.replace? .replace value) ∧
      ∀ c : Configuration, (c.modelMap = m → c.modelName value = r.target) ∧
        (c.genreMap = m → c.genreName value = r.target) := by
  have hreplace := h.replace?_eq
  have hsubstitute := substitute?_of_first h.first
  -- Replacing expands the target and substituting does not, so they agree where that is the same.
  refine ⟨hreplace, hsubstitute, ?_, fun hliteral => ?_, fun c => ⟨fun hc => ?_, fun hc => ?_⟩⟩
  · rw [hreplace, hsubstitute, Option.some.injEq]
    exact eq_comm
  · rw [hreplace, hsubstitute, Pattern.expansion_of_isLiteral hliteral]
  · rw [Configuration.modelName, hc, hsubstitute]
    rfl
  · rw [Configuration.genreName, hc, hsubstitute]
    rfl

/-- The map of one rule whose pattern matches all of a name. -/
theorem exists_replacesWhole {pattern target name expanded : String}
    (h : ((Pattern.ofText? pattern).bind fun p => (p.match? name).map fun w =>
      (w.group? 0, p.expansion target w)) = some (some name.toList, expanded)) :
    ∃ m r w, NameMap.ofRules [⟨pattern, target, .replace⟩] = .ok m ∧ m.ReplacesWhole name r w ∧
      r.target = target ∧ r.pattern.expansion target w = expanded := by
  -- The pattern and its match are taken apart; the map is that of the rule with this pattern.
  obtain ⟨p, hp, hmatches⟩ := Option.bind_eq_some_iff.1 h
  obtain ⟨w, hmatch, hw⟩ := Option.map_eq_some_iff.1 hmatches
  obtain ⟨hwhole, hexpanded⟩ := Prod.mk.inj hw
  have hread : Pattern.ofText pattern = .ok p := by rw [Pattern.ofText, hp]
  have hrules : NameMap.ofRules [⟨pattern, target, .replace⟩] = .ok ⟨[⟨p, target, .replace⟩]⟩ := by
    simp only [ofRules, List.mapM_cons, List.mapM_nil, readRule, hread]
    rfl
  have hoccurs : p.occursIn name = true := by
    rw [Pattern.occursIn, hmatch]
    rfl
  have hfirst : [NameRule.mk p target .replace].find? (fun r => r.pattern.occursIn name) =
      some ⟨p, target, .replace⟩ := by
    rw [List.find?_cons, hoccurs]
  exact ⟨_, _, w, hrules, ⟨hfirst, rfl, hmatch, hwhole⟩, rfl, hexpanded⟩

/-- A rule without references in its target. -/
theorem substitute_eq_replace_iff_plain :
    ∃ m r w, NameMap.ofRules [⟨"(?-i)EOS (7D)", "Canon 7D", .replace⟩] = .ok m ∧
      m.ReplacesWhole "EOS 7D" r w ∧ m.substitute? "EOS 7D" = some "Canon 7D" ∧
      m.substitute? "EOS 7D" = m.replace? .replace "EOS 7D" := by
  have hread : ((Pattern.ofText? "(?-i)EOS (7D)").bind fun p => (p.match? "EOS 7D").map fun w =>
      (w.group? 0, p.expansion "Canon 7D" w)) = some (some "EOS 7D".toList, "Canon 7D") := by
    -- With a list of marks the search is a computation.
    simp only [Pattern.match?_eq_listed]
    decide +kernel
  obtain ⟨m, r, w, hm, hwhole, htarget, -⟩ := exists_replacesWhole hread
  obtain ⟨-, hsubstitute, -, hsame, -⟩ := substitute_eq_replace_iff hwhole
  rw [htarget] at hsubstitute hsame
  have hliteral : Pattern.IsLiteral "Canon 7D".toList := by
    intro front rest heq
    have hdollar : '$' ∈ "Canon 7D".toList := heq ▸ List.mem_append_right front (by simp)
    exact absurd hdollar (by decide)
  exact ⟨m, r, w, hm, hwhole, hsubstitute, hsame hliteral⟩

/-- Where a target refers to a group, the replacement has the group and the substitute the reference. -/
theorem reference_is_not_expanded :
    ∃ m r w, NameMap.ofRules [⟨"(?-i)EOS (7D)", "Canon $1", .replace⟩] = .ok m ∧
      m.ReplacesWhole "EOS 7D" r w ∧ m.replace? .replace "EOS 7D" = some "Canon 7D" ∧
      m.substitute? "EOS 7D" = some "Canon $1" := by
  have hread : ((Pattern.ofText? "(?-i)EOS (7D)").bind fun p => (p.match? "EOS 7D").map fun w =>
      (w.group? 0, p.expansion "Canon $1" w)) = some (some "EOS 7D".toList, "Canon 7D") := by
    simp only [Pattern.match?_eq_listed]
    decide +kernel
  obtain ⟨m, r, w, hm, hwhole, htarget, hexpanded⟩ := exists_replacesWhole hread
  have hreplace := hwhole.replace?_eq
  have hsubstitute := substitute?_of_first hwhole.first
  rw [htarget] at hreplace hsubstitute
  rw [hexpanded] at hreplace
  exact ⟨m, r, w, hm, hwhole, hreplace, hsubstitute⟩

end NameMap

end MediaShelves
