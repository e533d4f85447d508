import MediaShelves.Proofs.Catalog.Titles

/-!
# The history of a folder

A folder is told about by two kinds of requests: trails describe it, and items that are placed in it
bring a class along.  Nothing else makes a folder what it is.

Main statement: every folder of a catalog is the accumulation of what the requests told about it, in
their order (`folder_accumulates_history`).
-/

namespace MediaShelves

/-! ## Contributions -/

/-- What a request tells about a folder: a description, or a class that an item brings along. -/
inductive Contribution where
  | folder (f : Folder)
  | hint (upnpClass : String)

namespace Contribution

/-- Whether it is only a class. -/
def isHint : Contribution → Bool
  | .folder _ => false
  | .hint _ => true

/-- The description, where it is one. -/
def description? : Contribution → Option Folder
  | .folder f => some f
  | .hint _ => none

/-- The class that it tells. -/
def upnpClass : Contribution → String
  | .folder f => f.upnpClass
  | .hint upnpClass => upnpClass

end Contribution

/-- The descriptions among some contributions. -/
def Contribution.descriptions (es : List Contribution) : List Folder :=
  es.filterMap description?

namespace Folder

/-- A folder apart from its id. -/
def unpinned (f : Folder) : Folder :=
  { f with pinned := none }

/-- What a folder borrows, and from whom. -/
def loan (f : Folder) : List Resource × Keyed String × Option NodeId :=
  (f.resources, f.auxiliary, f.owner)

end Folder

/-- A folder after a contribution; a class is lost as long as there is no folder. -/
def Contribution.absorb : Option Folder → Contribution → Option Folder
  | none, .folder f => some f.unpinned
  | some g, .folder f => some (Catalog.mergeFolder g f)
  | none, .hint _ => none
  | some g, .hint upnpClass => some (Catalog.hintFolder (some upnpClass) g)

/-- A folder after some contributions. -/
def Contribution.develop (g : Option Folder) (es : List Contribution) : Option Folder :=
  es.foldl absorb g

/--
The folder that a trail asks for at some titles.  The trail begins below the titles `above`, and each
of its folders lies at the titles down to it.
-/
def Trail.folderAt? (above : List String) : Trail → List String → Option Folder
  | [], _ => none
  | f :: rest, titles =>
    if titles = above ++ [f.title] then some f
    else folderAt? (above ++ [f.title]) rest titles

namespace Catalog

/-- What a request tells about the folder with these titles and this id. -/
def Request.contributions (titles : List String) (id : NodeId) : Request → List Contribution
  | .openTrail t => ((t.folderAt? [] titles).map Contribution.folder).toList
  | .place _ folder hint => if folder = id then (hint.map Contribution.hint).toList else []
  | .register _ => []
  | .revise _ => []

/-- What requests tell about the folder with these titles and this id, in their order. -/
def history (rs : List Request) (titles : List String) (id : NodeId) : List Contribution :=
  rs.flatMap (·.contributions titles id)

/-- The folder at some titles, apart from its id. -/
def content? (c : Catalog) (titles : List String) : Option Folder :=
  (c.findFolder? titles).map (·.folder.unpinned)

/-! ## One folder of a trail -/

/-- What is found at some titles is found by their path. -/
theorem content?_of_pathIndex {c : Catalog} {ts : List String} {i : NodeId} {r : StoredFolder}
    (hi : c.pathIndex[ContainerPath.ofTitles ts]? = some i) (hr : c.folder? i = some r) :
    c.content? ts = some r.folder.unpinned := by
  simp [content?, findFolder?, folderAt?, hi, hr]

section Trails

variable {c : Catalog} (h : c.Consistent)

include h

/-- Changing a folder changes what is found at its titles. -/
theorem Consistent.content?_changeFolder {id : NodeId} (change : Folder → Folder)
    (hchange : ∀ f, (change f).unpinned = change f.unpinned) (ts : List String) :
    (c.changeFolder id change).content? ts =
      if c.pathIndex[ContainerPath.ofTitles ts]? = some id then (c.content? ts).map change
      else c.content? ts := by
  cases hi : c.pathIndex[ContainerPath.ofTitles ts]? with
  | none => simp [content?, findFolder?, folderAt?, hi]
  | some i =>
    obtain ⟨r, hr, -⟩ := h.pathIndex_iff.1 hi
    by_cases hid : i = id
    · subst hid
      simp [content?, findFolder?, folderAt?, hi, hr, hchange]
    · simp [content?, findFolder?, folderAt?, hi, hr, hid]

/-- Opening a folder is told to the folder opened and to no other. -/
theorem Consistent.content?_openChild {parent : NodeId} {ts : List String}
    (f : Folder) (us : List String) :
    (Catalog.openChild parent (ContainerPath.ofTitles (ts ++ [f.title])) f c).2.content? us =
      if us = ts ++ [f.title] then Contribution.absorb (c.content? us) (.folder f)
      else c.content? us := by
  obtain ⟨id, hid, heq⟩ | ⟨hnone, heq⟩ :=
    openChild_cases parent (ContainerPath.ofTitles (ts ++ [f.title])) f c
  · rw [heq, h.content?_changeFolder (fun g => mergeFolder g f) fun _ => rfl]
    by_cases hus : us = ts ++ [f.title]
    · -- The folder is there and takes over the description.
      subst hus
      obtain ⟨r, hr, -⟩ := h.pathIndex_iff.1 hid
      simp [hid, content?_of_pathIndex hid hr, Contribution.absorb]
    · -- Another list of titles has another path, and another folder.
      rw [if_neg hus, if_neg fun hother => hus (h.titles_unique hother hid)]
  · rw [heq]
    by_cases hus : us = ts ++ [f.title]
    · -- The description makes the folder.
      subst hus
      simp [content?, findFolder?, folderAt?, hnone, Contribution.absorb, Folder.unpinned]
    · have hpath : ContainerPath.ofTitles us ≠ ContainerPath.ofTitles (ts ++ [f.title]) :=
        fun hpath => hus (ContainerPath.ofTitles_inj.1 hpath)
      cases hi : c.pathIndex[ContainerPath.ofTitles us]? with
      | none => simp [content?, findFolder?, folderAt?, hi, hpath, hus]
      | some i =>
        obtain ⟨r, hr, -⟩ := h.pathIndex_iff.1 hi
        simp [content?, findFolder?, folderAt?, hi, hpath, hus, hr,
          h.ne_freshId_of_folder f.pinned hr]

end Trails

/-! ## Trails -/

end Catalog

/-- Below some titles a trail asks for no folder at these titles, nor above them. -/
theorem Trail.folderAt?_above (t : Trail) {above titles : List String}
    (h : titles.length ≤ above.length) : t.folderAt? above titles = none := by
  induction t generalizing above with
  | nil => rfl
  | cons f t ih =>
    -- The folders of the trail have one title more than what is above them, or more still.
    have hne : titles ≠ above ++ [f.title] := by
      rintro rfl
      rw [List.length_append] at h
      exact absurd h (Nat.not_succ_le_self _)
    rw [Trail.folderAt?, if_neg hne]
    exact ih (by simp only [List.length_append]; omega)

/-- Whatever a trail asks for lies below the titles where it begins. -/
theorem Trail.prefix_of_folderAt? {t : Trail} {above titles : List String} {f : Folder}
    (h : t.folderAt? above titles = some f) : above <+: titles := by
  induction t generalizing above with
  | nil => cases h
  | cons g t ih =>
    rw [Trail.folderAt?] at h
    split at h
    · rename_i htitles
      rw [htitles]
      exact List.prefix_append above [g.title]
    · exact (List.prefix_append above [g.title]).trans (ih h)

/-- A trail asks for a folder at all titles that its own begin with. -/
theorem Trail.isSome_folderAt? (t : Trail) (above ts : List String) :
    (t.folderAt? above (above ++ ts)).isSome = (!ts.isEmpty && ts.isPrefixOf t.titles) := by
  induction t generalizing above ts with
  | nil => cases ts <;> rfl
  | cons f t ih =>
    cases ts with
    | nil =>
      have hnone : Trail.folderAt? above (f :: t) above = none :=
        Trail.folderAt?_above (f :: t) (Nat.le_refl _)
      simp [hnone]
    | cons u ts =>
      by_cases hu : u = f.title
      · subst hu
        rw [Trail.folderAt?]
        cases ts with
        | nil => simp [Trail.titles]
        | cons v ts =>
          -- More titles than that of the first folder are looked for below it.
          rw [if_neg (by simp)]
          have hrest := ih (above ++ [f.title]) (v :: ts)
          rw [List.append_assoc, List.singleton_append] at hrest
          rw [hrest]
          simp [Trail.titles]
      · -- The rest of the trail lies below another folder.
        have hnone : Trail.folderAt? above (f :: t) (above ++ u :: ts) = none := by
          rw [Option.eq_none_iff_forall_ne_some]
          intro g hg
          rw [Trail.folderAt?, if_neg (by simp [hu])] at hg
          have hprefix := Trail.prefix_of_folderAt? hg
          rw [List.prefix_append_right_inj, List.cons_prefix_cons] at hprefix
          exact hu hprefix.1.symm
        rw [hnone]
        simp [Trail.titles, List.isPrefixOf, hu]

namespace Catalog

/-- Going down a trail tells each folder on it what the trail says. -/
theorem Consistent.content?_openBelow {t : Trail} {c : Catalog} (h : c.Consistent)
    {parent : NodeId} {ts : List String}
    (hp : c.pathOf? parent = some (ContainerPath.ofTitles ts)) (us : List String) :
    (Catalog.openBelow parent (ContainerPath.ofTitles ts) t c).2.content? us =
      Contribution.develop (c.content? us)
        ((t.folderAt? ts us).map Contribution.folder).toList := by
  induction t generalizing c parent ts with
  | nil => rfl
  | cons f t ih =>
    obtain ⟨hc, hpath⟩ := h.openChild hp f
    rw [ContainerPath.child_ofTitles] at hc hpath
    simp only [Catalog.openBelow, ContainerPath.child_ofTitles]
    rw [ih hc hpath, h.content?_openChild, Trail.folderAt?]
    by_cases hus : us = ts ++ [f.title]
    · -- The rest of the trail lies below this folder.
      subst hus
      rw [Trail.folderAt?_above t (Nat.le_refl _)]
      simp [Contribution.develop]
    · simp [hus]

/-- A trail tells each folder on its way what it says of that folder. -/
theorem Consistent.content?_openTrail {c : Catalog} (h : c.Consistent) (t : Trail)
    (us : List String) :
    (Catalog.openTrail t c).2.content? us =
      Contribution.develop (c.content? us)
        ((t.folderAt? [] us).map Contribution.folder).toList := by
  exact h.content?_openBelow (pathOf?_root c) us

/-! ## Requests -/

theorem unpinned_hintFolder (hint : Option String) (f : Folder) :
    (hintFolder hint f).unpinned = hintFolder hint f.unpinned := by
  cases hint with
  | none => rfl
  | some cls =>
    by_cases hcls : f.upnpClass = UpnpClass.container
    · simp [hintFolder, Folder.unpinned, hcls]
    · simp [hintFolder, Folder.unpinned, hcls]

/-- Placing an item is told to its folder as a hint, and to no other. -/
theorem Consistent.content?_place {c : Catalog} (h : c.Consistent) (x : MediaItem)
    (folder : NodeId) (hint : Option String) (us : List String) :
    (Catalog.place x folder hint c).2.content? us =
      if c.pathIndex[ContainerPath.ofTitles us]? = some folder then
        Contribution.develop (c.content? us) (hint.map Contribution.hint).toList
      else c.content? us := by
  have hchange :
      (c.changeFolder folder (hintFolder hint)).content? us =
        if c.pathIndex[ContainerPath.ofTitles us]? = some folder then
          (c.content? us).map (hintFolder hint)
        else c.content? us :=
    h.content?_changeFolder (hintFolder hint) (unpinned_hintFolder hint) us
  have hdevelop : (c.content? us).map (hintFolder hint) =
      Contribution.develop (c.content? us) (hint.map Contribution.hint).toList := by
    cases hint with
    | none =>
      cases c.content? us <;> rfl
    | some cls =>
      cases c.content? us <;> rfl
  rw [← hdevelop]
  -- The hint counts whether the item is there already or not.
  obtain ⟨habsent, heq⟩ | ⟨-, -, heq⟩ | ⟨-, -, heq⟩ := place_cases x folder hint c
  · -- Without such a folder nothing happens, and the id is that of no path.
    rw [heq, if_neg]
    intro hi
    obtain ⟨r, hr, -⟩ := h.pathIndex_iff.1 hi
    exact habsent (.inr (by simp [hr]))
  · rw [heq]
    exact hchange
  · rw [heq]
    exact hchange

@[simp] theorem content?_register (c : Catalog) (x : MediaItem) (us : List String) :
    (c.register x).2.content? us = c.content? us := by
  obtain ⟨id, -, heq⟩ | ⟨-, heq⟩ := c.register_cases x
  · rw [heq]
  · rw [heq]
    rfl

@[simp] theorem content?_revise (c : Catalog) (x : MediaItem) (us : List String) :
    (Catalog.revise x c).2.content? us = c.content? us := by
  obtain ⟨-, heq⟩ | ⟨id, -, -, heq⟩ := revise_cases x c
  · rw [heq]
  · rw [heq]
    rfl

/-- A request develops each folder by what it tells about it. -/
theorem Consistent.content?_apply {c : Catalog} (h : c.Consistent) (r : Request)
    {ts : List String} {id : NodeId}
    (hid : ∀ i, (r.apply c).pathIndex[ContainerPath.ofTitles ts]? = some i → i = id) :
    (r.apply c).content? ts = Contribution.develop (c.content? ts) (r.contributions ts id) := by
  cases r with
  | register x => exact content?_register c x ts
  | openTrail t => exact h.content?_openTrail t ts
  | revise x => exact content?_revise c x ts
  | place x folder hint =>
    rw [Request.apply, h.content?_place, Request.contributions]
    have hgrows := h.grows_place x folder hint
    cases hi : c.pathIndex[ContainerPath.ofTitles ts]? with
    | none =>
      -- Where there is no folder yet, a class is lost.
      have hnone : c.content? ts = none := by
        simp [content?, findFolder?, folderAt?, hi]
      rw [hnone]
      by_cases hfolder : folder = id
      · cases hint with
        | none => simp [hfolder, Contribution.develop]
        | some cls => simp [hfolder, Contribution.develop, Contribution.absorb]
      · simp [hfolder, Contribution.develop]
    | some i =>
      -- A path keeps its folder, so this one is the folder in question.
      have hsame : i = id := hid i (hgrows.pathIndex h (h.place x folder hint) hi)
      subst hsame
      by_cases hfolder : i = folder
      · simp [hfolder]
      · simp [hfolder, Ne.symm hfolder, Contribution.develop]

/-- Requests develop each folder by what they tell about it. -/
theorem Consistent.content?_run {c : Catalog} (h : c.Consistent) (rs : List Request)
    {ts : List String} {id : NodeId}
    (hid : ∀ i, (Catalog.run rs c).pathIndex[ContainerPath.ofTitles ts]? = some i → i = id) :
    (Catalog.run rs c).content? ts =
      Contribution.develop (c.content? ts) (history rs ts id) := by
  induction rs generalizing c with
  | nil => rfl
  | cons r rs ih =>
    have hr : (r.apply c).content? ts =
        Contribution.develop (c.content? ts) (r.contributions ts id) := by
      apply h.content?_apply r
      intro i hi
      -- Who is at these titles now is there at the end.
      apply hid i
      exact ((h.apply r).grows_run rs).pathIndex (h.apply r) ((h.apply r).run rs) hi
    rw [run_cons, ih (h.apply r) hid, hr]
    simp [history, Contribution.develop, List.foldl_append]

end Catalog

/-! ## Accumulation -/

/--
A folder that began as `d` and was told about by `es`: the description that made it gives its title,
sort key and shortcut; a key has the values of the last description that carries it; one searchable
description is enough; the first specific class stays; and the loan is that of the first description
that has resources.
-/
structure Accumulates (g d : Folder) (es : List Contribution) : Prop where
  title : g.title = d.title
  sortKey : g.sortKey = d.sortKey
  shortcut : g.shortcut = d.shortcut
  metadata : ∀ key, g.metadata.table.find? key =
    (d :: Contribution.descriptions es).reverse.findSome? fun f => f.metadata.table.find? key
  searchable : g.searchable = (d :: Contribution.descriptions es).any (·.searchable)
  upnpClass : g.upnpClass =
    ((d.upnpClass :: es.map Contribution.upnpClass).find? (· ≠ UpnpClass.container)).getD
      UpnpClass.container
  loan : g.loan =
    (((d :: Contribution.descriptions es).find? fun f => !f.resources.isEmpty).getD d).loan

/-- A folder that was told of once is what it was told to be. -/
theorem accumulates_nil (d : Folder) : Accumulates d.unpinned d [] where
  title := rfl
  sortKey := rfl
  shortcut := rfl
  -- What is left of a folder without its pinned id is what a single description tells.
  metadata key := by
    simp [Contribution.descriptions, Folder.unpinned]
  searchable := by
    simp [Contribution.descriptions, Folder.unpinned]
  upnpClass := by
    by_cases hcls : d.upnpClass = UpnpClass.container
    · simp [Folder.unpinned, hcls]
    · simp [Folder.unpinned, hcls]
  loan := by
    by_cases hres : d.resources.isEmpty
    · simp [Contribution.descriptions, Folder.unpinned, Folder.loan, hres]
    · simp [Contribution.descriptions, Folder.unpinned, Folder.loan, hres]

/-- The first specific class: what the class of a folder is decides whether another one counts. -/
theorem find?_class_append (cls : List String) (next : String) :
    ((cls ++ [next]).find? (· ≠ UpnpClass.container)).getD UpnpClass.container =
      if (cls.find? (· ≠ UpnpClass.container)).getD UpnpClass.container = UpnpClass.container
      then next
      else (cls.find? (· ≠ UpnpClass.container)).getD UpnpClass.container := by
  rw [List.find?_append]
  -- A class counts if all before it are the plain one.
  cases hcls : cls.find? (· ≠ UpnpClass.container) with
  | none =>
    by_cases hnext : next = UpnpClass.container
    · simp [hnext]
    · simp [hnext]
  | some first =>
    have hfirst := List.find?_some hcls
    simp only [ne_eq, decide_not, Bool.not_eq_eq_eq_not, Bool.not_true,
      decide_eq_false_iff_not] at hfirst
    simp [hfirst]

/-- A hint counts as long as the class is not specific. -/
theorem Accumulates.hint {g d : Folder} {es : List Contribution} (h : Accumulates g d es)
    (cls : String) :
    Accumulates (Catalog.hintFolder (some cls) g) d (es ++ [.hint cls]) := by
  have hdescr : Contribution.descriptions (es ++ [.hint cls]) = Contribution.descriptions es := by
    simp [Contribution.descriptions, Contribution.description?]
  have hclass : (Catalog.hintFolder (some cls) g).upnpClass =
      if g.upnpClass = UpnpClass.container then cls else g.upnpClass := by
    simp only [Catalog.hintFolder]
    split <;> rfl
  have hrest : Catalog.hintFolder (some cls) g =
      { g with upnpClass := (Catalog.hintFolder (some cls) g).upnpClass } := by
    simp only [Catalog.hintFolder]
    split <;> rfl
  -- All rules but that of the class read nothing that the hint has changed.
  rw [hrest]
  constructor
  · exact h.title
  · exact h.sortKey
  · exact h.shortcut
  · rw [hdescr]
    exact h.metadata
  · rw [hdescr]
    exact h.searchable
  · rw [List.map_append, ← List.cons_append]
    simp only [List.map_cons, List.map_nil]
    rw [find?_class_append, ← h.upnpClass]
    exact hclass
  · rw [hdescr]
    exact h.loan

/-- Another description adds what it has. -/
theorem Accumulates.folder {g d : Folder} {es : List Contribution} (h : Accumulates g d es)
    (f : Folder) : Accumulates (Catalog.mergeFolder g f) d (es ++ [.folder f]) := by
  have hdescr : d :: Contribution.descriptions (es ++ [.folder f]) =
      (d :: Contribution.descriptions es) ++ [f] := by
    simp [Contribution.descriptions, Contribution.description?]
  constructor
  · exact h.title
  · exact h.sortKey
  · exact h.shortcut
  · intro key
    rw [hdescr, List.reverse_append, List.reverse_singleton, List.singleton_append,
      List.findSome?_cons]
    simp only [Catalog.mergeFolder, Metadata.overlay, Keyed.find?_overlay, h.metadata key]
    cases f.metadata.table.find? key <;> rfl
  · rw [hdescr, List.any_append, ← h.searchable]
    simp [Catalog.mergeFolder]
  · rw [List.map_append, ← List.cons_append]
    simp only [List.map_cons, List.map_nil]
    rw [find?_class_append, ← h.upnpClass]
    rfl
  · -- The loan is taken if there is none so far and the description brings one.
    rw [hdescr, List.find?_append]
    have hloan := h.loan
    cases hfirst : (d :: Contribution.descriptions es).find? fun f => !f.resources.isEmpty with
    | some first =>
      rw [hfirst] at hloan
      have hres : first.resources.isEmpty = false := by
        simpa using List.find?_some hfirst
      have hsame : g.resources = first.resources := congrArg Prod.fst hloan
      simpa [Catalog.mergeFolder, Folder.loan, hsame, hres] using hloan
    | none =>
      rw [hfirst] at hloan
      have hd : d.resources.isEmpty = true := by
        simpa using List.find?_eq_none.1 hfirst d (List.mem_cons_self ..)
      -- Nobody had resources before, so the new description decides.
      have hsame : g.resources = d.resources := congrArg Prod.fst hloan
      by_cases hf : f.resources.isEmpty
      · simpa [Catalog.mergeFolder, Folder.loan, hsame, hd, hf] using hloan
      · simp [Catalog.mergeFolder, Folder.loan, hsame, hd, hf]

/-- Developing a folder accumulates the contributions. -/
theorem exists_develop_some (d : Folder) (es : List Contribution) :
    ∃ g, Contribution.develop (some d.unpinned) es = some g ∧ Accumulates g d es := by
  -- Contributions are absorbed from the left, so the last one is taken off.
  induction es using List.reverseRecOn with
  | nil => exact ⟨d.unpinned, rfl, accumulates_nil d⟩
  | append_singleton es e ih =>
    obtain ⟨g, hg, haccum⟩ := ih
    have hstep : Contribution.develop (some d.unpinned) (es ++ [e]) =
        Contribution.absorb (some g) e := by
      rw [← hg]
      simp [Contribution.develop]
    rw [hstep]
    cases e with
    | folder f => exact ⟨_, rfl, haccum.folder f⟩
    | hint cls => exact ⟨_, rfl, haccum.hint cls⟩

/-- A folder begins with the first description; the classes before it are lost. -/
theorem exists_first_description {es : List Contribution} {g : Folder}
    (h : Contribution.develop none es = some g) :
    ∃ d es', es.dropWhile Contribution.isHint = .folder d :: es' ∧ Accumulates g d es' := by
  induction es with
  | nil => cases h
  | cons e es ih =>
    -- What comes before the first description finds no folder.
    cases e with
    | hint cls =>
      obtain ⟨d, es', hdrop, haccum⟩ := ih h
      exact ⟨d, es', by simpa [List.dropWhile_cons, Contribution.isHint] using hdrop, haccum⟩
    | folder d =>
      obtain ⟨g', hg', haccum⟩ := exists_develop_some d es
      have hsame : g' = g := by
        have := hg'.symm.trans h
        exact Option.some.inj this
      subst hsame
      exact ⟨d, es, by simp [Contribution.isHint], haccum⟩

namespace Catalog

/--
**A folder is the accumulation of what the requests told about it.**  It lies at a list of titles,
the first description at these titles made it, and all later ones, with the classes of the items that
were placed in it, have added to it by the rules of `Accumulates`.
-/
theorem folder_accumulates_history (rs : List Request) {id : NodeId} {r : StoredFolder}
    (hr : (run rs empty).folder? id = some r) :
    ∃ titles d es, r.path = ContainerPath.ofTitles titles ∧
      (history rs titles id).dropWhile Contribution.isHint = .folder d :: es ∧
      Accumulates r.folder d es := by
  have hc : (run rs empty).Consistent := consistent_empty.run rs
  obtain ⟨ts, -, hpath, hindex⟩ := hc.exists_pathIndex hr
  -- The folder is what the requests developed at its titles, apart from its id.
  have hcontent : (run rs empty).content? ts = Contribution.develop none (history rs ts id) := by
    apply consistent_empty.content?_run rs
    intro i hi
    rw [hindex] at hi
    exact (Option.some.inj hi).symm
  rw [content?_of_pathIndex hindex hr] at hcontent
  obtain ⟨d, es, hdrop, haccum⟩ := exists_first_description hcontent.symm
  refine ⟨ts, d, es, hpath, hdrop, ?_⟩
  -- The rules do not read the id.
  exact ⟨haccum.title, haccum.sortKey, haccum.shortcut, haccum.metadata, haccum.searchable,
    haccum.upnpClass, haccum.loan⟩

/-- A folder that is made, gets the class of an album with an item, and is then described again. -/
def albumRequests : List Request :=
  [.openTrail [Folder.plain "Album" UpnpClass.container],
    .place (MediaItem.ofLocation "/a.mp3" "audio/mpeg") 1 (some UpnpClass.musicAlbum),
    .openTrail [Folder.facet "Album" UpnpClass.container [(MetaKey.date, "2001")]]]

theorem folder_accumulates_history_album :
    ∃ r titles d es, (run albumRequests empty).folder? 1 = some r ∧
      r.path = ContainerPath.ofTitles titles ∧
      (history albumRequests titles 1).dropWhile Contribution.isHint = .folder d :: es ∧
      Accumulates r.folder d es := by
  have hsome : ((run albumRequests empty).folder? 1).isSome := by
    decide +kernel
  obtain ⟨r, hr⟩ := Option.isSome_iff_exists.1 hsome
  obtain ⟨titles, d, es, hpath, hdrop, haccum⟩ := folder_accumulates_history albumRequests hr
  exact ⟨r, titles, d, es, hr, hpath, hdrop, haccum⟩

end Catalog

end MediaShelves
