import MediaShelves.Facets.Visual
import MediaShelves.Proofs.Facets.Dates
import MediaShelves.Proofs.FilePath.SegmentsBelow
import MediaShelves.Proofs.Text.Parts

/-!
# What items tell

Where the titles come from under which an item is shelved: the values in its metadata, the genres
that it lists, the directories on its path, and the day that its date begins with.  Each is said by
the text that it is read from, and by nothing that the readers of this text have made of it.

Main statements: `MediaItem.told_eq`, `Configuration.namesGenre_iff`, `Configuration.putsBelow_iff`
and `MediaItem.TellsDay.toldDate_eq`.
-/

namespace MediaShelves

open MediaShelves.Text

/-! ## Single values -/

namespace MediaItem

variable {x : MediaItem} {key value : String}

/-- What an item tells under a key: the first value there, unless that is empty. -/
def Tells (x : MediaItem) (key value : String) : Prop :=
  value ≠ "" ∧ ∃ more, x.metadata.all key = value :: more

/-- What is told under a key is what is filled there. -/
theorem tells_iff : x.Tells key value ↔ x.metadata.filled? key = some value := by
  rw [Tells, Metadata.filled?, Metadata.first?, Option.filter_eq_some_iff, List.head?_eq_some_iff,
    decide_eq_true_iff, and_comm]

/-- What an item tells under a key, or a placeholder. -/
def told (x : MediaItem) (key placeholder : String) : String :=
  match x.metadata.all key with
  | [] => placeholder
  | value :: _ => if value = "" then placeholder else value

/-- What is filled is the first value, unless that is empty. -/
theorem filled?_eq (m : Metadata) (key : String) :
    m.filled? key = match m.all key with
      | [] => none
      | value :: _ => if value = "" then none else some value := by
  rw [Metadata.filled?, Metadata.first?]
  cases m.all key with
  | nil => rfl
  | cons value more =>
    rw [List.head?_cons, Option.filter_some]
    by_cases hvalue : value = "" <;> simp [hvalue]

/-- A placeholder stands for what is not filled. -/
theorem told_eq (x : MediaItem) (key placeholder : String) :
    x.told key placeholder = (x.metadata.filled? key).getD placeholder := by
  rw [told, filled?_eq]
  cases x.metadata.all key with
  | nil => rfl
  | cons value more =>
    dsimp only
    split <;> rfl

/-- The year of a date: the four digits in front of its first dash, or else the date as it is. -/
def yearText (date : String) : String :=
  if IsNumeral 4 (date.toList.take 4) ∧ date.toList[4]? = some '-' then
    String.ofList (date.toList.take 4)
  else date

/-- The reader looks for four digits and a dash, character by character. -/
theorem leadingYear_eq (date : String) : leadingYear date = yearText date := by
  unfold leadingYear yearText
  split
  · rename_i a b c d rest hdate
    simp [hdate, IsNumeral]
  · -- No dash after four characters, so these are no year.
    rename_i hother
    rw [if_neg]
    rintro ⟨⟨hlength, -⟩, hdash⟩
    obtain ⟨hfour, hget⟩ := List.getElem?_eq_some_iff.1 hdash
    match hdate : date.toList with
    | [] | [_] | [_, _] | [_, _, _] | [_, _, _, _] => simp [hdate] at hfour
    | a :: b :: c :: d :: e :: rest =>
      simp only [hdate] at hget
      exact hother a b c d rest (by rw [hdate, ← hget]; rfl)

/-- The year that an item tells, or a placeholder. -/
def toldYear (x : MediaItem) : String :=
  match x.metadata.all MetaKey.date with
  | [] => "Unknown"
  | date :: _ => if date = "" then "Unknown" else yearText date

/-- The year that is told is the one that is read off a date that is filled. -/
theorem toldYear_eq (x : MediaItem) :
    x.toldYear = ((x.metadata.filled? MetaKey.date).map leadingYear).getD "Unknown" := by
  rw [toldYear, filled?_eq]
  cases x.metadata.all MetaKey.date with
  | nil => rfl
  | cons date more =>
    dsimp only
    split
    · rfl
    · exact (leadingYear_eq date).symm

end MediaItem

/-! ## Genres -/

/--
What rules make of a name: the target of the first one whose pattern occurs in it, and where none
does, the name itself.
-/
inductive NameMap.Renames (m : NameMap) (name : String) : String → Prop where
  | rule {before after : List NameRule} {r : NameRule} (hrules : m.rules = before ++ r :: after)
      (hbefore : ∀ q ∈ before, q.pattern.occursIn name = false)
      (hoccurs : r.pattern.occursIn name = true) : Renames m name r.target
  | none (hnone : ∀ r ∈ m.rules, r.pattern.occursIn name = false) : Renames m name name

/-- **The first rule that occurs renames**, and without one the name stays. -/
theorem NameMap.renames_iff {m : NameMap} {name new : String} :
    m.Renames name new ↔ (m.substitute? name).getD name = new := by
  rw [substitute?]
  constructor
  · intro h
    -- The first rule that occurs is the one that is found, with none before it.
    cases h with
    | @rule before after r hrules hbefore hoccurs =>
      have hfind : m.rules.find? (fun r => r.pattern.occursIn name) = some r := by
        apply List.find?_eq_some_iff_append.2
        exact ⟨hoccurs, before, after, hrules, fun q hq => by rw [hbefore q hq]; rfl⟩
      rw [hfind]
      rfl
    | none hnone =>
      have hfind : m.rules.find? (fun r => r.pattern.occursIn name) = none :=
        List.find?_eq_none.2 fun r hr => Bool.eq_false_iff.1 (hnone r hr)
      rw [hfind]
      rfl
  · rintro rfl
    cases hfind : m.rules.find? (fun r => r.pattern.occursIn name) with
    | none =>
      exact .none fun r hr => Bool.eq_false_iff.2 (List.find?_eq_none.1 hfind r hr)
    | some r =>
      obtain ⟨hoccurs, before, after, hrules, hbefore⟩ := List.find?_eq_some_iff_append.1 hfind
      exact .rule hrules (fun q hq => by simpa using hbefore q hq) hoccurs

/-- The names that a text lists: what stands between its commas, trimmed, unless nothing is left. -/
inductive ListsName (text : String) : String → Prop where
  | intro {parts : List (List Char)} {part name : List Char}
      (hparts : Parts [','] text.toList parts) (hpart : part ∈ parts) (hname : Trims part name)
      (hne : name ≠ []) : ListsName text (String.ofList name)

/-- **A text lists the parts between its commas.** -/
theorem listsName_iff {text name : String} : ListsName text name ↔ name ∈ commaParts text := by
  -- Empty parts are dropped after they are trimmed, so that a blank part is none.
  simp only [commaParts, List.mem_filter, List.mem_map, decide_eq_true_eq]
  constructor
  · rintro ⟨hparts, hpart, hname, hne⟩
    rw [parts_splitOn_iff] at hparts
    rw [trims_iff] at hname
    subst hparts hname
    exact ⟨⟨_, hpart, rfl⟩, mt String.ofList_eq_empty_iff.1 hne⟩
  · rintro ⟨⟨part, hpart, rfl⟩, hne⟩
    exact .intro (parts_splitOn_iff.2 rfl) hpart (trims_trim part)
      (mt String.ofList_eq_empty_iff.2 hne)

namespace Configuration

variable {c : Configuration} {o : Origin} {x : MediaItem}

/-- The genres of an item: what its values for that list, under the names that rules give them. -/
def NamesGenre (c : Configuration) (x : MediaItem) (genre : String) : Prop :=
  ∃ text ∈ x.metadata.all MetaKey.genre, ∃ name,
    ListsName text name ∧ c.genreMap.Renames name genre

/-- **The genres of an item are those that its metadata lists and the rules name.** -/
theorem namesGenre_iff {genre : String} : c.NamesGenre x genre ↔ genre ∈ c.genres x := by
  simp only [NamesGenre, listsName_iff, NameMap.renames_iff, genres, genreName, List.mem_map,
    List.mem_flatMap]
  constructor
  · rintro ⟨text, htext, name, hname, hgenre⟩
    exact ⟨name, ⟨text, htext, hname⟩, hgenre⟩
  · rintro ⟨name, ⟨text, htext, hname⟩, hgenre⟩
    exact ⟨text, htext, name, hname, hgenre⟩

/-- There is no genre where nothing is listed. -/
theorem genres_eq_nil_iff : c.genres x = [] ↔ ∀ genre, ¬ c.NamesGenre x genre := by
  simp only [namesGenre_iff, List.eq_nil_iff_forall_not_mem]

end Configuration

/-! ## Directories -/

namespace FilePath

/-- Segments of a path that name no directory of their own. -/
def fillers : List (List Char) :=
  [[], ['.'], ['.', '.']]

/-- Empty segments and dots are all that does not count. -/
theorem filter_isProperSegment (segments : List (List Char)) :
    segments.filter isProperSegment = segments.filter (· ∉ fillers) := by
  congr 1
  funext segment
  rw [Bool.eq_iff_iff]
  simp [isProperSegment, fillers, and_assoc]

/--
The directories between a root and a file.  Without a root it is the one that holds the file.  With
a root they are those on the way from it to the file; if its path does not begin that of the file,
they are all directories of the file.
-/
inductive Between (location : List Char) : (root : List Char) → List (List Char) → Prop where
  | only {above : List (List Char)} {directory name : List Char}
      (hparts : Parts ['/'] location (above ++ [directory, name])) (hne : directory ≠ []) :
      Between location [] [directory]
  | nowhere
      (hnone : ∀ above directory name, Parts ['/'] location (above ++ [directory, name]) →
        directory = []) : Between location [] []
  | below {root directory rest : List Char} {segments : List (List Char)} {name : List Char}
      (hroot : root ≠ []) (hnames : Names root directory) (hlocation : location = directory ++ rest)
      (hparts : Parts ['/'] rest (segments ++ [name])) :
      Between location root (segments.filter (· ∉ fillers))
  | outside {root directory : List Char} {segments : List (List Char)} {name : List Char}
      (hroot : root ≠ []) (hnames : Names root directory) (hlocation : ¬ directory <+: location)
      (hparts : Parts ['/'] location (segments ++ [name])) :
      Between location root (segments.filter (· ∉ fillers))

/-- The last segment of a path is the name, and the others are its directories. -/
theorem directorySegments_of_parts {path name : List Char} {parts : List (List Char)}
    (h : Parts ['/'] path (parts ++ [name])) :
    directorySegments path = parts.filter (· ∉ fillers) := by
  rw [directorySegments, segments, parts_splitOn_iff.1 h, List.dropLast_concat,
    filter_isProperSegment]

/-- Every path has segments, and one of them is the last. -/
theorem exists_parts (path : List Char) :
    ∃ parts name, Parts ['/'] path (parts ++ [name]) ∧
      directorySegments path = parts.filter (· ∉ fillers) := by
  have hlast := List.dropLast_concat_getLast (segments_ne_nil path)
  have hparts := parts_splitOn_iff.2 hlast.symm
  exact ⟨_, _, hparts, directorySegments_of_parts hparts⟩

/-- The segment in front of the name is the directory that holds the file. -/
theorem lastDirectory_of_parts {location directory name : List Char} {above : List (List Char)}
    (h : Parts ['/'] location (above ++ [directory, name])) : lastDirectory location = directory := by
  rw [lastDirectory, parts_splitOn_iff.1 h]
  simp

/-- A path goes through a directory, or is a name only. -/
theorem lastDirectory_cases (location : List Char) :
    (∃ above name, Parts ['/'] location (above ++ [lastDirectory location, name])) ∨
      lastDirectory location = [] ∧
        ∀ above directory name, ¬ Parts ['/'] location (above ++ [directory, name]) := by
  unfold lastDirectory
  -- Read from behind, the first part is the name and the second one the directory.
  split
  · rename_i name directory above hreverse
    left
    refine ⟨above.reverse, name, parts_splitOn_iff.2 ?_⟩
    rw [← List.reverse_reverse (location.splitOn '/'), hreverse]
    simp
  · rename_i hshort
    right
    refine ⟨rfl, fun above directory name hparts => ?_⟩
    apply hshort name directory above.reverse
    rw [parts_splitOn_iff.1 hparts]
    simp

/-- Every root names a directory. -/
theorem exists_names (root : List Char) : ∃ directory, Names root directory := by
  by_cases hlast : root.getLast? = some '/'
  · obtain ⟨directory, rfl⟩ := List.getLast?_eq_some_iff.1 hlast
    exact ⟨directory, .inl rfl⟩
  · exact ⟨root, .inr ⟨rfl, hlast⟩⟩

/-- Whichever way they are told, the directories are those that are read off the path. -/
theorem Between.segmentsBelow_eq {location root : List Char} {directories : List (List Char)}
    (h : Between location root directories) : segmentsBelow root location = directories := by
  -- Each way to lie below a root is one branch of the definition.
  cases h with
  | only hparts hne =>
    rw [segmentsBelow, if_pos rfl, lastDirectory_of_parts hparts]
    split
    · exact absurd rfl hne
    · rfl
  | nowhere hnone =>
    have hnil : lastDirectory location = [] := by
      obtain ⟨above, name, hparts⟩ | ⟨hnil, -⟩ := lastDirectory_cases location
      · exact hnone above _ name hparts
      · exact hnil
    rw [segmentsBelow, if_pos rfl, hnil]
  | below hroot hnames hlocation hparts =>
    rw [hlocation, segmentsBelow_append hroot hnames, directorySegments_of_parts hparts]
  | outside hroot hnames hlocation hparts =>
    rw [segmentsBelow_of_outside hroot hnames hlocation, directorySegments_of_parts hparts]

/-- **The directories below a root are those between it and the file.** -/
theorem between_iff {location root : List Char} {directories : List (List Char)} :
    Between location root directories ↔ segmentsBelow root location = directories := by
  refine ⟨Between.segmentsBelow_eq, ?_⟩
  rintro rfl
  -- Without a root only the last directory counts; a root is begun with or it is not.
  by_cases hroot : root = []
  · subst hroot
    rw [segmentsBelow, if_pos rfl]
    split
    · rename_i hnil
      refine .nowhere fun above directory name hparts => ?_
      rw [← lastDirectory_of_parts hparts, hnil]
    · rename_i hne
      obtain ⟨above, name, hparts⟩ | ⟨hnil, -⟩ := lastDirectory_cases location
      · exact .only hparts hne
      · exact absurd hnil hne
  · obtain ⟨directory, hnames⟩ := exists_names root
    by_cases hprefix : directory <+: location
    · obtain ⟨rest, rfl⟩ := hprefix
      obtain ⟨segments, name, hparts, heq⟩ := exists_parts rest
      rw [segmentsBelow_append hroot hnames, heq]
      exact .below hroot hnames rfl hparts
    · obtain ⟨segments, name, hparts, heq⟩ := exists_parts location
      rw [segmentsBelow_of_outside hroot hnames hprefix, heq]
      exact .outside hroot hnames hprefix hparts

end FilePath

namespace Configuration

variable {c : Configuration} {o : Origin} {x : MediaItem}

/-- The directories of an item: those between the root and it, without those that are skipped. -/
def PutsBelow (c : Configuration) (o : Origin) (x : MediaItem) (directories : List String) : Prop :=
  ∃ segments, FilePath.Between x.location.toList o.root.toList segments ∧
    directories = (segments.drop c.options.skipFolders).map String.ofList

/-- **The directories of an item are those between the root and it**, less those skipped. -/
theorem putsBelow_iff {directories : List String} :
    c.PutsBelow o x directories ↔ c.directories o x = directories := by
  simp only [PutsBelow, FilePath.between_iff, exists_eq_left', Configuration.directories,
    Origin.directories, List.map_drop]
  exact eq_comm

end Configuration

/-! ## Days -/

/-- How a number is spelled: in digits, perhaps with a plus sign in front, and blanks around it. -/
inductive SpellsNumber (part : List Char) : Nat → Prop where
  | intro {sign ds : List Char} (hpart : Trims part (sign ++ ds)) (hsign : sign ∈ [[], ['+']])
      (hne : ds ≠ []) (hdigits : ∀ c ∈ ds, c.isDigit = true)
      (hlimit : Nat.ofDigitChars 10 ds 0 < 2 ^ 32) : SpellsNumber part (Nat.ofDigitChars 10 ds 0)

/-- **A part of a date is read as the number that it spells.** -/
theorem spellsNumber_iff {part : List Char} {n : Nat} :
    SpellsNumber part n ↔ unsigned? max32 (trim part) = some n := by
  have hlimit (n : Nat) : n ≤ max32 ↔ n < 2 ^ 32 := Nat.lt_succ_iff.symm
  constructor
  · -- At most one plus sign stands before the digits, and it is read past.
    rintro ⟨hpart, hsign, hne, hdigits, hbound⟩
    rw [hpart.trim_eq]
    rename_i sign ds
    obtain rfl | rfl : sign = [] ∨ sign = ['+'] := by simpa using hsign
    · exact (unsigned?_eq_some_iff_of_digits hdigits).2 ⟨hne, rfl, (hlimit _).2 hbound⟩
    · exact unsigned?_plus_eq_some_iff.2 ⟨hne, hdigits, rfl, (hlimit _).2 hbound⟩
  · intro h
    by_cases hsign : (trim part).head? = some '+'
    · obtain ⟨ds, hds⟩ := List.head?_eq_some_iff.1 hsign
      rw [hds, unsigned?_plus_eq_some_iff] at h
      obtain ⟨hne, hdigits, rfl, hbound⟩ := h
      have hpart : Trims part (['+'] ++ ds) := trims_iff.2 hds
      exact .intro hpart (by simp) hne hdigits ((hlimit _).1 hbound)
    · rw [unsigned?_eq_some_iff hsign] at h
      obtain ⟨hne, hdigits, rfl, hbound⟩ := h
      have hpart : Trims part ([] ++ trim part) := trims_trim part
      exact .intro hpart (by simp) hne hdigits ((hlimit _).1 hbound)

/-- The numbers that the first of some parts spell, up to the first part that spells none. -/
inductive SpellNumbers : List (List Char) → List Nat → Prop where
  | nil : SpellNumbers [] []
  | cons {part : List Char} {parts : List (List Char)} {n : Nat} {ns : List Nat}
      (hpart : SpellsNumber part n) (hparts : SpellNumbers parts ns) :
      SpellNumbers (part :: parts) (n :: ns)
  | stop {part : List Char} {parts : List (List Char)} (hpart : ∀ n, ¬ SpellsNumber part n) :
      SpellNumbers (part :: parts) []

/-- Reading stops where the first part spells no number. -/
theorem spellNumbers_iff {parts : List (List Char)} {ns : List Nat} :
    SpellNumbers parts ns ↔ leadingNumbers (parts.map trim) = ns := by
  constructor
  · intro h
    -- The reading stops at the first part that is no number, as the relation does.
    induction h with
    | nil => rfl
    | cons hpart _ ih => rw [List.map_cons, leadingNumbers, spellsNumber_iff.1 hpart, ih]
    | stop hpart =>
      have hnone := Option.eq_none_iff_forall_ne_some.2 fun n => mt spellsNumber_iff.2 (hpart n)
      rw [List.map_cons, leadingNumbers, hnone]
  · rintro rfl
    induction parts with
    | nil => exact .nil
    | cons part parts ih =>
      rw [List.map_cons, leadingNumbers]
      cases hn : unsigned? max32 (trim part) with
      | none =>
        refine .stop fun n hpart => ?_
        rw [spellsNumber_iff, hn] at hpart
        cases hpart
      | some n => exact .cons (spellsNumber_iff.2 hn) ih

/--
The day that a date tells.  It stands between the blanks in front and the time of day, which begins
at a space or the letter T, and is cut at dashes and colons.  The first part is a year of four digits,
and up to two numbers follow.
-/
inductive TellsDay (date : String) : (year : List Char) → List Nat → Prop where
  | intro {day time first year : List Char} {parts : List (List Char)} {ns : List Nat}
      (hdate : Trims date.toList (day ++ time)) (hday : ∀ c ∈ day, c ∉ ['T', ' '])
      (htime : ∀ c, time.head? = some c → c ∈ ['T', ' '])
      (hparts : Parts ['-', ':'] day (first :: parts)) (hfirst : Trims first year)
      (hyear : IsNumeral 4 year) (hns : SpellNumbers (parts.take 2) ns) : TellsDay date year ns

/-- The day in front of the time is what no time begins in. -/
theorem dayPart_eq_of_trims {date day time : List Char} (hdate : Trims date (day ++ time))
    (hday : ∀ c ∈ day, c ∉ ['T', ' ']) (htime : ∀ c, time.head? = some c → c ∈ ['T', ' ']) :
    dayPart date = day := by
  have hstop : ∀ c ∈ ['T', ' '], DateFacets.isOfDay c = false := by decide
  have hgo : ∀ c ∈ day, DateFacets.isOfDay c = true := by
    intro c hc
    simpa [DateFacets.isOfDay] using hday c hc
  rw [dayPart, hdate.trim_eq]
  exact takeWhile_append_of_stop hgo fun c hc => hstop c (htime c hc)

/-- **A date tells a day where its parts begin with a year of four digits.** -/
theorem tellsDay_iff {date : String} {year : List Char} {ns : List Nat} :
    TellsDay date year ns ↔ ∃ segments, daySegments (dayPart date.toList) = year :: segments ∧
      IsNumeral 4 year ∧ leadingNumbers (segments.take 2) = ns := by
  have hmarks : ∀ c, (c == '-' || c == ':') = true ↔ c ∈ ['-', ':'] := by simp
  constructor
  · rintro ⟨hdate, hday, htime, hparts, hfirst, hyear, hns⟩
    rename_i day time first parts
    refine ⟨parts.map trim, ?_, hyear, ?_⟩
    · rw [dayPart_eq_of_trims hdate hday htime, daySegments, (parts_iff hmarks).1 hparts,
        List.map_cons, hfirst.trim_eq]
    · rw [← List.map_take]
      exact spellNumbers_iff.1 hns
  · rintro ⟨segments, hsegments, hyear, rfl⟩
    rw [daySegments, List.map_eq_cons_iff] at hsegments
    obtain ⟨first, parts, hparts, rfl, rfl⟩ := hsegments
    have hwhole : trim date.toList = dayPart date.toList ++
        (trim date.toList).dropWhile DateFacets.isOfDay := List.takeWhile_append_dropWhile.symm
    -- The day part ends where the trimmed date has its first T or space.
    refine .intro (hwhole ▸ trims_trim date.toList) ?_ ?_ ((parts_iff hmarks).2 hparts)
      (trims_trim first) hyear (spellNumbers_iff.2 (List.map_take ▸ rfl))
    · intro c hc
      have hof : DateFacets.isOfDay c = true := List.all_eq_true.1 List.all_takeWhile c hc
      simpa [DateFacets.isOfDay] using hof
    · intro c hc
      have hstop := List.head?_dropWhile_not DateFacets.isOfDay (trim date.toList)
      rw [hc] at hstop
      simpa [DateFacets.isOfDay, Decidable.or_iff_not_imp_left] using hstop

/-- Numbers behind dashes, one after another. -/
theorem intercalate_numberTitle (s : String) (ns : List Nat) :
    "-".intercalate (s :: ns.map DateFacets.numberTitle) =
      s ++ String.ofList (ns.flatMap fun n => '-' :: padded 2 n) := by
  induction ns generalizing s with
  | nil => simp
  | cons n ns ih =>
    rw [List.map_cons, String.intercalate_cons_cons, ih, List.flatMap_cons,
      DateFacets.numberTitle_eq, ← String.toList_inj]
    simp

namespace MediaItem

/-- The date that an item tells, in titles; the title of a box stands for one that is unknown. -/
def toldDate (x : MediaItem) (placeholder : String) : DateFacets :=
  DateFacets.ofDate (x.metadata.filled? MetaKey.date) placeholder

/-- The day that the date of an item tells. -/
def TellsDay (x : MediaItem) (year : List Char) (ns : List Nat) : Prop :=
  ∃ date, x.Tells MetaKey.date date ∧ MediaShelves.TellsDay date year ns

/-- An item tells no date, or one that does not begin with a year of four digits. -/
def Undated (x : MediaItem) : Prop :=
  ∀ year ns, ¬ x.TellsDay year ns

/-- A day is told, or there is none. -/
theorem tellsDay_or_undated (x : MediaItem) : (∃ year ns, x.TellsDay year ns) ∨ x.Undated := by
  by_cases hday : ∃ year ns, x.TellsDay year ns
  · exact .inl hday
  · exact .inr fun year ns h => hday ⟨year, ns, h⟩

/-- A day is shelved under its year, its month, and all its numbers. -/
theorem TellsDay.toldDate_eq {x : MediaItem} {year : List Char} {ns : List Nat}
    (h : x.TellsDay year ns) (placeholder : String) :
    x.toldDate placeholder =
      ⟨String.ofList year, ns.head?.map DateFacets.numberTitle,
        "-".intercalate (String.ofList year :: ns.map DateFacets.numberTitle)⟩ := by
  obtain ⟨date, hdate, hday⟩ := h
  obtain ⟨segments, hsegments, hyear, hns⟩ := tellsDay_iff.1 hday
  -- The parts of the day are what the facets are made of.
  have htold : DateFacets.told? date.toList = some (digitsValue year, ns) :=
    DateFacets.told?_eq_some_iff.2 ⟨year, segments, hsegments, hyear, rfl, hns⟩
  rw [toldDate, tells_iff.1 hdate, intercalate_numberTitle]
  show DateFacets.ofText date placeholder = _
  rw [DateFacets.ofText_of_told htold]
  have htitle : DateFacets.numberTitle = fun n => String.ofList (padded 2 n) :=
    funext DateFacets.numberTitle_eq
  simp [DateFacets.ofNumbers, DateFacets.dateText, hyear.padded_eq (by decide : 0 < 4), htitle]

/-- Where no day is told, the placeholder stands for the year and for the date. -/
theorem Undated.toldDate_eq {x : MediaItem} (hx : x.Undated) (placeholder : String) :
    x.toldDate placeholder = DateFacets.unknown placeholder := by
  rw [toldDate]
  cases hdate : x.metadata.filled? MetaKey.date with
  | none => rfl
  | some date =>
    show DateFacets.ofText date placeholder = _
    rw [DateFacets.ofText_eq]
    cases htold : DateFacets.told? date.toList with
    | none => rfl
    | some numbers =>
      -- A date that tells numbers begins with a year.
      obtain ⟨year, segments, hsegments, hyear, -, hns⟩ := DateFacets.told?_eq_some_iff.1 htold
      exact absurd ⟨date, tells_iff.2 hdate, tellsDay_iff.2 ⟨segments, hsegments, hyear, hns⟩⟩
        (hx year numbers.2)

end MediaItem

end MediaShelves
