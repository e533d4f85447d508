import MediaShelves.Playlist
import MediaShelves.Proofs.Text.Percent
import MediaShelves.Proofs.Text.Spans

/-!
# What a location means

A location in a playlist is an address, a path, a path from the directory of the playlist, or the URL of
a file: four forms that exclude each other (`Means`).  What follows the scheme in the URL of a file is
decoded as a whole, so a host stays in front of the path and the result is not absolute.

Main statement: `location_means_iff`, with `host_is_no_directory` for a URL with a host.
-/

namespace MediaShelves.Playlist

open MediaShelves.Text

/-! ## The four forms -/

/-- A path begins with a slash. -/
def IsAbsolute (path : String) : Prop :=
  path.toList.head? = some '/'

instance (path : String) : Decidable (IsAbsolute path) :=
  inferInstanceAs (Decidable (_ = _))

/-- A location begins with the name of a scheme, as the location writes it. -/
def HasScheme (scheme location : String) : Prop :=
  (scheme.toList ≠ [] ∧ ∀ c ∈ scheme.toList, isNameCharacter c = true) ∧
    ∃ rest, location = scheme ++ "://" ++ rest

/-- What a location means in a playlist. -/
inductive Means (playlist : String) : String → Target → Prop
  | address {location scheme : String} (hscheme : HasScheme scheme location)
      (hother : scheme ≠ "file") : Means playlist location (.address location)
  | fileUrl (rest : String) :
      Means playlist ("file://" ++ rest) (.file (percentDecoded rest))
  | absolute {location : String} (habsolute : IsAbsolute location) :
      Means playlist location (.file location)
  | relative {location directory name : String} (hplaylist : playlist = directory ++ "/" ++ name)
      (hname : '/' ∉ name.toList) (hscheme : ∀ scheme, ¬ HasScheme scheme location)
      (hrelative : ¬ IsAbsolute location) :
      Means playlist location (.file (directory ++ "/" ++ location))

/-! ## Schemes -/

theorem eq_of_beforeScheme? {s scheme : List Char} (h : beforeScheme? s = some scheme) :
    ∃ rest, s = scheme ++ [':', '/', '/'] ++ rest := by
  -- The scheme ends where its mark begins for the first time.
  induction s generalizing scheme with
  | nil => cases h
  | cons c s ih =>
    rw [beforeScheme?] at h
    split at h
    · rename_i hmark
      cases h
      obtain ⟨rest, hrest⟩ := List.isPrefixOf_iff_prefix.1 hmark
      exact ⟨rest, hrest.symm⟩
    · obtain ⟨before, hbefore, rfl⟩ := Option.map_eq_some_iff.1 h
      obtain ⟨rest, rfl⟩ := ih hbefore
      exact ⟨rest, rfl⟩

/-- No character of a name begins the mark behind it. -/
theorem beforeScheme?_append {scheme : List Char} (h : ∀ c ∈ scheme, isNameCharacter c = true)
    (rest : List Char) : beforeScheme? (scheme ++ [':', '/', '/'] ++ rest) = some scheme := by
  induction scheme with
  | nil => simp [beforeScheme?]
  | cons c scheme ih =>
    obtain ⟨hc, hscheme⟩ := List.forall_mem_cons.1 h
    -- The mark would begin with a colon.
    have hcolon : c ≠ ':' := by
      rintro rfl
      exact absurd hc (by decide)
    simp only [List.cons_append] at ih ⊢
    rw [beforeScheme?, ih hscheme]
    simp [Ne.symm hcolon]

/-- A scheme that is found is the one that the location begins with, and there is no other one. -/
theorem HasScheme.beforeScheme?_eq {scheme location : String} (h : HasScheme scheme location) :
    beforeScheme? location.toList = some scheme.toList := by
  obtain ⟨⟨-, hname⟩, rest, rfl⟩ := h
  simp only [String.toList_append]
  exact beforeScheme?_append hname rest.toList

theorem HasScheme.unique {scheme scheme' location : String} (h : HasScheme scheme location)
    (h' : HasScheme scheme' location) : scheme = scheme' := by
  have hsame := h.beforeScheme?_eq
  rw [h'.beforeScheme?_eq] at hsame
  exact (String.toList_inj.1 (Option.some.inj hsame)).symm

theorem hasScheme_toList_iff {location : String} :
    hasScheme location.toList = true ↔ ∃ scheme, HasScheme scheme location := by
  rw [hasScheme, Option.any_eq_true]
  constructor
  · rintro ⟨scheme, hbefore, hname⟩
    obtain ⟨rest, hrest⟩ := eq_of_beforeScheme? hbefore
    -- The characters before the mark are the scheme, and the mark and the rest follow.
    refine ⟨String.ofList scheme, ⟨?_, ?_⟩, String.ofList rest, ?_⟩
    · simp_all
    · simp_all
    · apply String.toList_inj.1
      simpa using hrest
  · rintro ⟨scheme, hscheme⟩
    refine ⟨scheme.toList, hscheme.beforeScheme?_eq, ?_⟩
    simpa using hscheme.1

theorem hasScheme_file (rest : String) : HasScheme "file" ("file://" ++ rest) :=
  ⟨by decide, rest, by simp⟩

/-- The name of a scheme does not begin with a slash. -/
theorem HasScheme.not_isAbsolute {scheme location : String} (h : HasScheme scheme location) :
    ¬ IsAbsolute location := by
  obtain ⟨⟨hne, hname⟩, rest, rfl⟩ := h
  obtain ⟨c, tail, hscheme⟩ := List.exists_cons_of_ne_nil hne
  have hc : isNameCharacter c = true := hname c (by simp [hscheme])
  intro habsolute
  have hslash : c = '/' := by
    simpa [IsAbsolute, hscheme] using habsolute
  subst hslash
  exact absurd hc (by decide)

/-! ## Directories -/

theorem directoryOf_append {name : String} (hname : '/' ∉ name.toList) (directory : String) :
    directoryOf (directory ++ "/" ++ name) = directory ++ "/" := by
  have hcut : cutLast? '/' (directory ++ "/" ++ name).toList =
      some (directory.toList, name.toList) := by
    rw [cutLast?_eq_some_iff]
    exact ⟨by simp, hname⟩
  rw [directoryOf, FilePath.directoryPart, hcut]
  apply String.toList_inj.1
  simp

/-- What begins with a slash is a name in a directory. -/
theorem IsAbsolute.exists_directory {path : String} (h : IsAbsolute path) :
    ∃ directory name : String, path = directory ++ "/" ++ name ∧ '/' ∉ name.toList := by
  -- An absolute path has a slash, and its last one is where the name begins.
  cases hcut : cutLast? '/' path.toList with
  | none =>
    have hmem : '/' ∈ path.toList := List.mem_of_mem_head? h
    exact absurd hmem (cutLast?_eq_none_iff.1 hcut)
  | some parts =>
    obtain ⟨hpath, hname⟩ := cutLast?_eq_some_iff.1 hcut
    refine ⟨String.ofList parts.1, String.ofList parts.2, ?_, by simpa using hname⟩
    apply String.toList_inj.1
    simpa using hpath

theorem IsAbsolute.append {path : String} (h : IsAbsolute path) (rest : String) :
    IsAbsolute (path ++ rest) := by
  rw [IsAbsolute, String.toList_append, List.head?_append, h]
  rfl

/-- The directory of what begins with a slash begins with one. -/
theorem IsAbsolute.directory {directory name : String} (h : IsAbsolute (directory ++ "/" ++ name)) :
    IsAbsolute (directory ++ "/") := by
  -- Even without a directory there is the slash behind it.
  have hne : (directory ++ "/").toList.head?.isSome := by
    simp
  obtain ⟨c, hc⟩ := Option.isSome_iff_exists.1 hne
  rw [IsAbsolute, String.toList_append, List.head?_append, hc] at h
  rw [IsAbsolute, hc]
  exact h

/-! ## Targets of the four forms -/

section

variable (directory : String)

theorem ofLocation_fileUrl (rest : String) :
    Target.ofLocation ("file://" ++ rest) directory = .file (percentDecoded rest) := by
  have hdrop : dropStart? "file://".toList ("file://" ++ rest).toList = some rest.toList := by
    rw [dropStart?_eq_some_iff, String.toList_append]
  rw [Target.ofLocation, hdrop]
  simp [percentDecoded]

/-- A location that is no URL of a file has no such beginning. -/
theorem dropStart?_file_eq_none {location : String} (h : ¬ HasScheme "file" location) :
    dropStart? "file://".toList location.toList = none := by
  apply Option.eq_none_iff_forall_ne_some.2
  intro rest hdrop
  have hlocation : location = "file://" ++ String.ofList rest := by
    apply String.toList_inj.1
    simpa using dropStart?_eq_some_iff.1 hdrop
  exact h (hlocation ▸ hasScheme_file _)

theorem ofLocation_address {location scheme : String} (hscheme : HasScheme scheme location)
    (hother : scheme ≠ "file") : Target.ofLocation location directory = .address location := by
  have hfile : ¬ HasScheme "file" location := fun h => hother (hscheme.unique h)
  rw [Target.ofLocation, dropStart?_file_eq_none hfile]
  exact if_pos (hasScheme_toList_iff.2 ⟨scheme, hscheme⟩)

theorem ofLocation_absolute {location : String} (habsolute : IsAbsolute location) :
    Target.ofLocation location directory = .file location := by
  -- Both questions that come first are about schemes.
  have hnone : ¬ ∃ scheme, HasScheme scheme location :=
    fun ⟨_, h⟩ => h.not_isAbsolute habsolute
  rw [Target.ofLocation, dropStart?_file_eq_none fun h => hnone ⟨_, h⟩]
  show (if hasScheme location.toList then _ else _) = _
  rw [if_neg (mt hasScheme_toList_iff.1 hnone)]
  exact if_pos habsolute

theorem ofLocation_relative {location : String} (hscheme : ∀ scheme, ¬ HasScheme scheme location)
    (hrelative : ¬ IsAbsolute location) :
    Target.ofLocation location directory = .file (directory ++ location) := by
  rw [Target.ofLocation, dropStart?_file_eq_none (hscheme "file")]
  show (if hasScheme location.toList then _ else _) = _
  rw [if_neg (mt hasScheme_toList_iff.1 (not_exists.2 hscheme))]
  exact if_neg hrelative

end

/-- What a location means is what it is read as. -/
theorem Means.ofLocation_eq {playlist location : String} {t : Target}
    (h : Means playlist location t) : Target.ofLocation location (directoryOf playlist) = t := by
  cases h with
  | address hscheme hother => exact ofLocation_address _ hscheme hother
  | fileUrl rest => exact ofLocation_fileUrl _ rest
  | absolute habsolute => exact ofLocation_absolute _ habsolute
  | relative hplaylist hname hscheme hrelative =>
    rw [hplaylist, directoryOf_append hname, ofLocation_relative _ hscheme hrelative]

/-- Every location has one of the four forms. -/
theorem exists_means {playlist : String} (hplaylist : IsAbsolute playlist) (location : String) :
    ∃ t, Means playlist location t := by
  -- A scheme counts first, then a slash at the beginning.
  by_cases hscheme : ∃ scheme, HasScheme scheme location
  · obtain ⟨scheme, hscheme⟩ := hscheme
    by_cases hfile : scheme = "file"
    · subst hfile
      obtain ⟨-, rest, rfl⟩ := hscheme
      exact ⟨_, .fileUrl rest⟩
    · exact ⟨_, .address hscheme hfile⟩
  · by_cases habsolute : IsAbsolute location
    · exact ⟨_, .absolute habsolute⟩
    · obtain ⟨directory, name, hdirectory, hname⟩ := hplaylist.exists_directory
      exact ⟨_, .relative hdirectory hname (not_exists.1 hscheme) habsolute⟩

theorem ofLocation_eq_iff {playlist : String} (hplaylist : IsAbsolute playlist) (location : String)
    (t : Target) :
    Target.ofLocation location (directoryOf playlist) = t ↔ Means playlist location t := by
  refine ⟨?_, Means.ofLocation_eq⟩
  rintro rfl
  obtain ⟨t, ht⟩ := exists_means hplaylist location
  rwa [ht.ofLocation_eq]

/-! ## Absolute targets -/

/-- Decoding leaves the slash in front of a path. -/
theorem IsAbsolute.percentDecoded {path : String} (h : IsAbsolute path) :
    IsAbsolute (percentDecoded path) := by
  -- The slash has no percent sign, so it stays in front of what is decoded.
  obtain ⟨rest, hrest⟩ := List.head?_eq_some_iff.1 h
  have hpath : path = "/" ++ String.ofList rest := by
    apply String.toList_inj.1
    simpa using hrest
  rw [hpath, percentDecoded_append (by decide)]
  exact IsAbsolute.append (by decide) _

/-- A local file is at an absolute path, unless the URL of a file goes on without a slash. -/
theorem Means.isAbsolute {playlist location path : String} (hplaylist : IsAbsolute playlist)
    (h : Means playlist location (.file path)) :
    IsAbsolute path ∨ ∃ rest, location = "file://" ++ rest ∧ ¬ IsAbsolute rest := by
  -- Only what follows the scheme of a file may lack the slash.
  cases h with
  | fileUrl rest =>
    by_cases hrest : IsAbsolute rest
    · exact .inl hrest.percentDecoded
    · exact .inr ⟨rest, rfl, hrest⟩
  | absolute habsolute => exact .inl habsolute
  | relative hdirectory =>
    rw [hdirectory] at hplaylist
    exact .inl (hplaylist.directory.append location)

/-- A host in front of a path is in front of it still where the path has been decoded. -/
theorem isAbsolute_host_append {host path : String} (hhost : '/' ∉ host.toList)
    (hpath : IsAbsolute path) : IsAbsolute (host ++ path) ↔ host = "" := by
  rw [IsAbsolute, String.toList_append, List.head?_append]
  constructor
  · intro habsolute
    cases hhead : host.toList.head? with
    | none => simpa using hhead
    | some c =>
      -- The host would begin with the slash.
      rw [hhead] at habsolute
      cases habsolute
      exact absurd (List.mem_of_mem_head? hhead) hhost
  · rintro rfl
    exact hpath

/--
**What the entries of a playlist point to.**  In a playlist at an absolute path every location has just
one meaning: it is an address exactly if it has a scheme other than that of files, and otherwise a local
file, at the location itself if that begins with a slash, at the directory of the playlist followed by the
location if that is relative, and at the decoded path if it is the URL of a file without a host.  All
of these paths are absolute.  In the URL of a file with a host, the host stays in front of the path.
-/
theorem location_means_iff {playlist : String} (hplaylist : IsAbsolute playlist)
    (location : String) :
    (∀ t, Target.ofLocation location (directoryOf playlist) = t ↔ Means playlist location t) ∧
    (Target.ofLocation location (directoryOf playlist) = .address location ↔
      ∃ scheme, HasScheme scheme location ∧ scheme ≠ "file") ∧
    (∀ path, Target.ofLocation location (directoryOf playlist) = .file path →
      IsAbsolute path ∨ ∃ rest, location = "file://" ++ rest ∧ ¬ IsAbsolute rest) ∧
    ∀ host path : String, '/' ∉ host.toList → '%' ∉ host.toList → IsAbsolute path →
      location = "file://" ++ (host ++ path) →
        Target.ofLocation location (directoryOf playlist) =
            .file (host ++ percentDecoded path) ∧
          (IsAbsolute (host ++ percentDecoded path) ↔ host = "") := by
  have hmeans := ofLocation_eq_iff hplaylist location
  refine ⟨hmeans, ?_, ?_, ?_⟩
  · rw [hmeans]
    constructor
    · rintro (⟨hscheme, hother⟩ | _ | _ | _)
      exact ⟨_, hscheme, hother⟩
    · rintro ⟨scheme, hscheme, hother⟩
      exact .address hscheme hother
  · intro path hfile
    exact ((hmeans _).1 hfile).isAbsolute hplaylist
  · -- A host without a percent sign is not decoded, and stays in front of the path.
    rintro host path hslash hpercent hpath rfl
    refine ⟨?_, isAbsolute_host_append hslash hpath.percentDecoded⟩
    rw [ofLocation_fileUrl, percentDecoded_append hpercent]

/-- A song by the URL of its file, which writes a blank as a percent sign with two digits. -/
theorem location_means_iff_song :
    IsAbsolute "/lists/rock/a.m3u" ∧
      Target.ofLocation "file:///music/My%20Song.mp3" (directoryOf "/lists/rock/a.m3u") =
        .file "/music/My Song.mp3" ∧
      IsAbsolute "/music/My Song.mp3" := by
  have hplaylist : IsAbsolute "/lists/rock/a.m3u" := by
    decide
  have hdecoded : "" ++ percentDecoded "/music/My%20Song.mp3" = "/music/My Song.mp3" := by
    decide +kernel
  obtain ⟨-, -, -, hurl⟩ := location_means_iff hplaylist "file:///music/My%20Song.mp3"
  obtain ⟨htarget, habsolute⟩ :=
    hurl "" "/music/My%20Song.mp3" (by decide) (by decide) (by decide) rfl
  rw [hdecoded] at htarget habsolute
  exact ⟨hplaylist, htarget, habsolute.2 rfl⟩

/-- A host is taken for a directory, and not for one below the root. -/
theorem host_is_no_directory :
    Target.ofLocation "file://localhost/music/a.mp3" (directoryOf "/lists/a.m3u") =
        .file "localhost/music/a.mp3" ∧
      ¬ IsAbsolute "localhost/music/a.mp3" := by
  refine ⟨?_, by decide⟩
  decide +kernel

end MediaShelves.Playlist
