import MediaShelves.FilePath
import MediaShelves.Proofs.Text.Spans

/-!
# Directories below a root

The directories between a root and a file are read off the path of the file: the path of the root is
taken away at the front, and what is left is cut at its slashes.  Wherever the root is a directory
above the file these are the directories on the way, and elsewhere they are directories of the path
all the same, unless the path of the root ends in the middle of a name.

Main statement: `segmentsBelow_whole_unless_broken`.
-/

namespace MediaShelves.FilePath

open MediaShelves.Text

/-! ## Segments of a path -/

/-- What stands between the slashes of a path. -/
def segments (path : List Char) : List (List Char) :=
  path.splitOn '/'

/--
The directories that a path goes through: its segments without the last one, the empty ones and the
dots.
-/
def directorySegments (path : List Char) : List (List Char) :=
  (segments path).dropLast.filter isProperSegment

theorem segments_ne_nil (path : List Char) : segments path ≠ [] :=
  List.splitOn_ne_nil '/' path

theorem segments_of_not_mem {path : List Char} (h : '/' ∉ path) : segments path = [path] :=
  List.splitOn_eq_singleton h

theorem segments_append (before after : List Char) :
    segments (before ++ '/' :: after) = segments before ++ segments after :=
  List.splitOnP_append_cons before after rfl

theorem directorySegments_of_not_mem {path : List Char} (h : '/' ∉ path) :
    directorySegments path = [] := by
  rw [directorySegments, segments_of_not_mem h]
  rfl

theorem directorySegments_append (before after : List Char) :
    directorySegments (before ++ '/' :: after) =
      (segments before).filter isProperSegment ++ directorySegments after := by
  -- The last segment of the whole is the last one of the part after the slash.
  rw [directorySegments, segments_append, List.dropLast_append_of_ne_nil (segments_ne_nil after),
    List.filter_append]
  rfl

/-- A slash in front adds an empty segment, which does not count. -/
theorem directorySegments_cons_slash (path : List Char) :
    directorySegments ('/' :: path) = directorySegments path :=
  directorySegments_append [] path

theorem mem_segments_of_mem_directorySegments {path segment : List Char}
    (h : segment ∈ directorySegments path) : segment ∈ segments path :=
  List.dropLast_subset _ (List.mem_filter.1 h).1

/-- The directories of a path are those of what stands before its last slash. -/
theorem directorySegments_eq (path : List Char) :
    directorySegments path =
      ((match cutLast? '/' path with
        | some (before, _) => before
        | none => []).splitOn '/').filter isProperSegment := by
  cases hcut : cutLast? '/' path with
  | none => exact directorySegments_of_not_mem (cutLast?_eq_none_iff.1 hcut)
  | some parts =>
    obtain ⟨before, after⟩ := parts
    obtain ⟨rfl, hafter⟩ := cutLast?_eq_some_iff.1 hcut
    -- No slash follows, so what is after this one is a single segment, the name of the file.
    rw [directorySegments_append, directorySegments_of_not_mem hafter, List.append_nil]
    rfl

/-! ## Roots -/

/-- Whether a root names a directory: it is its path, with one slash more or none at the end. -/
def Names (root directory : List Char) : Prop :=
  root = directory ++ ['/'] ∨ root = directory ∧ directory.getLast? ≠ some '/'

instance (root directory : List Char) : Decidable (Names root directory) :=
  inferInstanceAs (Decidable (_ ∨ _))

/-- The rest of a location that goes on in the middle of the last name of a directory. -/
structure BreaksName (directory location part rest : List Char) : Prop where
  location_eq : location = directory ++ (part ++ '/' :: rest)
  part_ne_nil : part ≠ []
  not_mem_part : '/' ∉ part
  directory_ne_nil : directory ≠ []
  no_slash : directory.getLast? ≠ some '/'

section

variable {root directory : List Char}

theorem Names.withoutTrailingSlash_eq (h : Names root directory) :
    withoutTrailingSlash root = directory := by
  rcases h with rfl | ⟨rfl, hlast⟩
  · simp [withoutTrailingSlash]
  · -- There is no slash to take away.
    rw [List.getLast?_eq_head?_reverse] at hlast
    unfold withoutTrailingSlash
    split
    · rename_i rest hreverse
      rw [hreverse] at hlast
      exact absurd rfl hlast
    · rfl

theorem segmentsBelow_eq (hroot : root ≠ []) (h : Names root directory) (location : List Char) :
    segmentsBelow root location =
      directorySegments ((dropStart? directory location).getD location) := by
  rw [segmentsBelow, if_neg hroot, h.withoutTrailingSlash_eq]
  exact (directorySegments_eq _).symm

/-- Where the path of the root stands in front, it is taken away. -/
theorem segmentsBelow_append (hroot : root ≠ []) (h : Names root directory) (rest : List Char) :
    segmentsBelow root (directory ++ rest) = directorySegments rest := by
  rw [segmentsBelow_eq hroot h, dropStart?_eq_some_iff.2 rfl]
  rfl

/-- Where it does not, all directories of the location are left. -/
theorem segmentsBelow_of_outside (hroot : root ≠ []) (h : Names root directory)
    {location : List Char} (hlocation : ¬ directory <+: location) :
    segmentsBelow root location = directorySegments location := by
  have hnone : dropStart? directory location = none := by
    apply Option.eq_none_iff_forall_ne_some.2
    intro rest hrest
    exact hlocation ⟨rest, (dropStart?_eq_some_iff.1 hrest).symm⟩
  rw [segmentsBelow_eq hroot h, hnone]
  rfl

end

/-! ## Whole names -/

/-- After a directory whose path is empty or ends in a slash whole names follow. -/
theorem directorySegments_suffix_of_slash {directory rest : List Char}
    (h : directory = [] ∨ directory.getLast? = some '/') :
    directorySegments rest <:+ directorySegments (directory ++ rest) := by
  rcases h with rfl | hlast
  · exact List.suffix_rfl
  · obtain ⟨before, rfl⟩ := List.getLast?_eq_some_iff.1 hlast
    rw [List.append_assoc, List.singleton_append, directorySegments_append]
    exact List.suffix_append _ _

/-- Unless a name is broken, the directories below a root are the last ones of the location. -/
theorem segmentsBelow_suffix {root directory location : List Char} (hroot : root ≠ [])
    (h : Names root directory) (hwhole : ∀ part rest, ¬ BreaksName directory location part rest) :
    segmentsBelow root location <:+ directorySegments location := by
  -- Elsewhere nothing is taken away, and a directory that ends in a slash is taken away whole.
  by_cases hprefix : directory <+: location
  · obtain ⟨rest, rfl⟩ := hprefix
    rw [segmentsBelow_append hroot h]
    by_cases hslash : directory = [] ∨ directory.getLast? = some '/'
    · exact directorySegments_suffix_of_slash hslash
    · obtain ⟨hne, hlast⟩ := not_or.1 hslash
      by_cases hmem : '/' ∈ rest
      · -- The directory ends in a name, so its path can only be followed by the slash.
        obtain ⟨part, after, rfl, hpart⟩ := List.eq_append_cons_of_mem hmem
        have hnil : part = [] :=
          Classical.byContradiction fun hpart_ne =>
            hwhole part after ⟨rfl, hpart_ne, hpart, hne, hlast⟩
        rw [hnil, List.nil_append, directorySegments_cons_slash, directorySegments_append]
        exact List.suffix_append _ _
      · -- No slash follows, so no directory is left.
        rw [directorySegments_of_not_mem hmem]
        exact List.nil_suffix
  · exact ⟨[], segmentsBelow_of_outside hroot h hprefix⟩

/-! ## Broken names -/

section

variable {directory location part rest : List Char}

/-- The part after the break is the end of a longer name of the location. -/
theorem BreaksName.exists_segments_eq (h : BreaksName directory location part rest) :
    ∃ above name, name ≠ [] ∧ segments location = above ++ (name ++ part) :: segments rest := by
  obtain ⟨rfl, -, hpart, hne, hlast⟩ := h
  -- The name that is broken is what stands after the last slash of the directory.
  cases hcut : cutLast? '/' directory with
  | none =>
    have hname := cutLast?_eq_none_iff.1 hcut
    have hwhole : segments (directory ++ part) = [directory ++ part] :=
      segments_of_not_mem (by simp [hname, hpart])
    refine ⟨[], directory, hne, ?_⟩
    rw [← List.append_assoc, segments_append, hwhole]
    rfl
  | some parts =>
    obtain ⟨before, name⟩ := parts
    obtain ⟨rfl, hname⟩ := cutLast?_eq_some_iff.1 hcut
    have hnonempty : name ≠ [] := by
      -- Otherwise the directory would end in this slash.
      rintro rfl
      simp at hlast
    have hwhole : segments (name ++ part) = [name ++ part] :=
      segments_of_not_mem (by simp [hname, hpart])
    refine ⟨segments before, name, hnonempty, ?_⟩
    rw [List.append_assoc, List.cons_append, segments_append, ← List.append_assoc, segments_append,
      hwhole]
    rfl

/-- Where a name is broken, the part after the break counts as a directory. -/
theorem BreaksName.segmentsBelow_eq {root : List Char} (hroot : root ≠ [])
    (hnames : Names root directory) (h : BreaksName directory location part rest) :
    segmentsBelow root location = [part].filter isProperSegment ++ directorySegments rest := by
  rw [h.location_eq, segmentsBelow_append hroot hnames, directorySegments_append,
    segments_of_not_mem h.not_mem_part]

end

/--
**The directories below a root are whole names, unless the root breaks one.**  A slash at the end of
the root makes no difference.  Below the root the directories are those of the relative path.
Elsewhere they are the last directories of the location, with their whole names, and all of them if
its path does not begin with that of the root; except where it goes on with a part of a name right
after the path of the root: then that part, which is the end of a longer name, is the first of them.
-/
theorem segmentsBelow_whole_unless_broken {root : List Char} (hroot : root ≠ [])
    (location : List Char) :
    (root.getLast? ≠ some '/' →
      segmentsBelow (root ++ ['/']) location = segmentsBelow root location) ∧
      ∀ directory, Names root directory →
        (∀ relative, location = directory ++ '/' :: relative →
          segmentsBelow root location = directorySegments relative) ∧
        (¬ directory <+: location → segmentsBelow root location = directorySegments location) ∧
        ((∀ part rest, ¬ BreaksName directory location part rest) →
          segmentsBelow root location <:+ directorySegments location ∧
          ∀ segment ∈ segmentsBelow root location, segment ∈ segments location) ∧
        ∀ part rest, BreaksName directory location part rest →
          segmentsBelow root location =
            [part].filter isProperSegment ++ directorySegments rest ∧
          ∃ above name, name ≠ [] ∧
            segments location = above ++ (name ++ part) :: segments rest := by
  constructor
  · intro hlast
    have hslash : root ++ ['/'] ≠ [] := by simp
    -- Both roots name the one without the slash.
    rw [segmentsBelow_eq hslash (.inl rfl), segmentsBelow_eq hroot (.inr ⟨rfl, hlast⟩)]
  · intro directory hnames
    refine ⟨?_, segmentsBelow_of_outside hroot hnames, ?_, ?_⟩
    · rintro relative rfl
      rw [segmentsBelow_append hroot hnames, directorySegments_cons_slash]
    · intro hwhole
      have hlast := segmentsBelow_suffix hroot hnames hwhole
      exact ⟨hlast, fun segment h => mem_segments_of_mem_directorySegments (hlast.mem h)⟩
    · intro part rest hbreaks
      exact ⟨hbreaks.segmentsBelow_eq hroot hnames, hbreaks.exists_segments_eq⟩

/-- A directory with a file far below it, a file elsewhere, and a directory whose name goes on. -/
theorem segmentsBelow_whole_unless_broken_shelf :
    let root := "/home/shelf".toList
    (root ≠ [] ∧ root.getLast? ≠ some '/' ∧ Names root root ∧
      ¬ root <+: "/media/x/song.mp3".toList ∧
      BreaksName root "/home/shelf2/a/song.mp3".toList ['2'] "a/song.mp3".toList) ∧
      segmentsBelow (root ++ ['/']) "/home/shelf/x/song.mp3".toList =
        segmentsBelow root "/home/shelf/x/song.mp3".toList ∧
      segmentsBelow root (root ++ '/' :: "x/.././/y/song.mp3".toList) = [['x'], ['y']] ∧
      segmentsBelow root "/media/x/song.mp3".toList = ["media".toList, ['x']] ∧
      (∀ segment ∈ segmentsBelow root "/media/x/song.mp3".toList,
        segment ∈ segments "/media/x/song.mp3".toList) ∧
      segmentsBelow root "/home/shelf2/a/song.mp3".toList = [['2'], ['a']] := by
  intro root
  have hroot : root ≠ [] := by decide
  have hlast : root.getLast? ≠ some '/' := by decide
  have hnames : Names root root := .inr ⟨rfl, hlast⟩
  have helsewhere : ¬ root <+: "/media/x/song.mp3".toList := by decide
  have hbreaks : BreaksName root "/home/shelf2/a/song.mp3".toList ['2'] "a/song.mp3".toList :=
    ⟨by decide, by decide, by decide, hroot, hlast⟩
  -- A shelf, a file on it, one elsewhere, and one whose path begins with that of the shelf.
  have hslash := (segmentsBelow_whole_unless_broken hroot "/home/shelf/x/song.mp3".toList).1 hlast
  have hbelow := ((segmentsBelow_whole_unless_broken hroot _).2 root hnames).1
    "x/.././/y/song.mp3".toList rfl
  have hwhole : ∀ part rest, ¬ BreaksName root "/media/x/song.mp3".toList part rest :=
    fun part rest h => helsewhere ⟨part ++ '/' :: rest, h.location_eq.symm⟩
  have houtside := ((segmentsBelow_whole_unless_broken hroot _).2 root hnames).2.1 helsewhere
  have hnames_whole := ((segmentsBelow_whole_unless_broken hroot _).2 root hnames).2.2.1 hwhole
  have hbroken := ((segmentsBelow_whole_unless_broken hroot _).2 root hnames).2.2.2 _ _ hbreaks
  refine ⟨⟨hroot, hlast, hnames, helsewhere, hbreaks⟩, hslash, ?_, ?_, hnames_whole.2, ?_⟩
  · rw [hbelow]
    decide
  · rw [houtside]
    decide
  · rw [hbroken.1]
    decide

/-- A directory beside the root leaves a piece of its name where it begins like that of the root. -/
theorem sibling_leaves_piece_of_name :
    let root := "/home/shelf".toList
    let location := "/home/shelf2/a/song.mp3".toList
    root ≠ [] ∧ Names root root ∧ (∀ relative, location ≠ root ++ '/' :: relative) ∧
      ['2'] ∈ segmentsBelow root location ∧ ['2'] ∉ segments location := by
  intro root location
  refine ⟨by decide, by decide, ?_, by decide, by decide⟩
  intro relative hlocation
  -- Right after the root there is no slash.
  have hnext := congrArg (fun s => s[11]?) hlocation
  exact absurd hnext (by simp [root, location])

end MediaShelves.FilePath
