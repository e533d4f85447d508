import MediaShelves.Proofs.Catalog.Lagging
import MediaShelves.Shelves.Cached

/-!
# What the memory of shelves changes

Calls are made on a catalog, and the same calls on a catalog with a memory in front of it.  An answer
from memory saves the catalog behind it the merges of a bare trail.  These concern nothing but classes
and marks for searching, which no answer depends on.

Main statements: the answers and the nodes are the same (`memory_changes_no_answer`), the folders
with a memory in front of them lag behind the other ones (`remembered_folders_lag_behind`), and they
are equal if bare folders are plain (`remembered_catalog_eq_of_isPlain`).
-/

namespace MediaShelves

/-! ## Calls -/

/-- What shelves are asked, and the catalog behind them. -/
inductive Call where
  | openTrail (t : Trail)
  | place (x : MediaItem) (folder : NodeId) (hint : Option String)
  | revise (x : MediaItem)
  | placed (x : MediaItem) (folder : NodeId)
  | canonical (location : String)
  | register (x : MediaItem)

/-- What a call answers. -/
inductive Answer where
  | node (id : Option NodeId)
  | item (x : Option MediaItem)
deriving DecidableEq

section

variable {σ : Type} [Shelves σ] (register : σ → MediaItem → MediaItem × σ)

/-- Makes a call, given how the shelves register a file. -/
def Call.perform : Call → σ → Answer × σ
  | .openTrail t, s =>
    let (id, s) := Shelves.openTrail t s
    (.node id, s)
  | .place x folder hint, s =>
    let (id, s) := Shelves.place x folder hint s
    (.node id, s)
  | .revise x, s =>
    let (id, s) := Shelves.revise x s
    (.node id, s)
  | .placed x folder, s => (.node (Shelves.placed? s x folder), s)
  | .canonical location, s => (.item (Shelves.canonical? s location), s)
  | .register x, s =>
    let (y, s) := register s x
    (.item (some y), s)

/-- Makes calls one after another. -/
def Call.performAll : List Call → σ → List Answer × σ
  | [], s => ([], s)
  | call :: calls, s =>
    let (answer, s) := call.perform register s
    let (answers, s) := performAll calls s
    (answer :: answers, s)

end

/-- Registers a file in the catalog behind a memory. -/
def Cached.register (s : Cached Catalog) (x : MediaItem) : MediaItem × Cached Catalog :=
  let (y, inner) := s.inner.register x
  (y, { s with inner })

/-! ## One call -/

namespace Cached

open Catalog (LagsBehind)

/-- A memory that knows where trails lead, and a catalog behind it that lags behind another one. -/
structure Mirrors (s : Cached Catalog) (d : Catalog) : Prop where
  inner : s.inner.Consistent
  direct : d.Consistent
  lags : s.inner.LagsBehind d
  known : ∀ {p id}, s.known.find? p = some id → s.inner.pathIndex[p]? = some id

/-- With nothing stored there is nothing to remember. -/
theorem mirrors_empty : (ofShelves Catalog.empty).Mirrors Catalog.empty where
  inner := Catalog.consistent_empty
  direct := Catalog.consistent_empty
  lags := LagsBehind.refl Catalog.empty
  known h := by cases h

section

variable {s : Cached Catalog} {d : Catalog} (h : s.Mirrors d)

include h

/-- A memory stays right as long as nothing is taken away behind it. -/
theorem Mirrors.grow {c d' : Catalog} (hc : c.Consistent) (hgrows : s.inner.Grows c)
    (hd : d'.Consistent) (hlags : c.LagsBehind d') : Mirrors { s with inner := c } d' where
  inner := hc
  direct := hd
  lags := hlags
  known hknown := hgrows.pathIndex h.inner hc (h.known hknown)

/-- What is answered from memory is where a trail of bare folders leads, in both catalogs. -/
theorem Mirrors.fromMemory? {t : Trail} {id : NodeId} (hid : s.fromMemory? t = some id) :
    t.all Folder.isBare = true ∧ s.inner.pathIndex[t.path]? = some id ∧
      d.pathIndex[t.path]? = some id := by
  unfold Cached.fromMemory? at hid
  split at hid
  · rename_i hbare
    have hinner := h.known hid
    refine ⟨hbare, hinner, ?_⟩
    rw [h.lags.nodes.paths]
    exact hinner
  · cases hid

/-- Opening a trail gives the same answer with a memory, and leaves a mirror. -/
theorem Mirrors.openTrail (t : Trail) :
    (s.openTrail t).1 = (Catalog.openTrail t d).1 ∧
      (s.openTrail t).2.Mirrors (Catalog.openTrail t d).2 := by
  have hd := h.direct.openTrail t
  unfold Cached.openTrail
  split
  · -- Only the second catalog goes down the trail, and runs ahead.
    rename_i id hid
    obtain ⟨hbare, -, hdirect⟩ := h.fromMemory? hid
    obtain ⟨-, hfst, -⟩ := h.direct.openTrail_of_pathIndex hdirect
    have hahead := h.direct.openTrail_of_isBare hbare hdirect
    exact ⟨hfst.symm, h.inner, hd, h.lags.trans hahead, h.known⟩
  · -- Both catalogs go down the trail.
    obtain ⟨hfst, hlags⟩ := h.lags.openTrail t
    have hc := h.inner.openTrail t
    have hgrow := h.grow hc (h.inner.grows_openTrail t) hd hlags
    have hopen : Shelves.openTrail t s.inner = Catalog.openTrail t s.inner := rfl
    by_cases ht : t = []
    · subst ht
      rw [hopen]
      exact ⟨hfst.symm, hgrow⟩
    · obtain ⟨id, hid, hend⟩ := h.inner.exists_openTrail ht
      have hpair : Shelves.openTrail t s.inner = (some id, (Catalog.openTrail t s.inner).2) :=
        Prod.ext hid rfl
      rw [hpair]
      refine ⟨hid.symm.trans hfst.symm, hc, hd, hlags, ?_⟩
      -- What is new in the memory is where this trail leads.
      intro p j hj
      rw [Keyed.find?_insert] at hj
      split at hj
      · rename_i hp
        cases hj
        rw [hp]
        exact hend
      · exact hgrow.known hj

/-- **A call has the same answer** with a memory in front. -/
theorem Mirrors.perform (call : Call) :
    (call.perform Cached.register s).1 = (call.perform Catalog.register d).1 ∧
      (call.perform Cached.register s).2.Mirrors (call.perform Catalog.register d).2 := by
  -- Only trails are answered from memory; any other call goes to the shelves.
  cases call with
  | openTrail t =>
    obtain ⟨hfst, hmirrors⟩ := h.openTrail t
    exact ⟨congrArg Answer.node hfst, hmirrors⟩
  | place x folder hint =>
    obtain ⟨hfst, hlags⟩ := h.lags.place x folder hint
    exact ⟨congrArg Answer.node hfst.symm, h.grow (h.inner.place x folder hint)
      (h.inner.grows_place x folder hint) (h.direct.place x folder hint) hlags⟩
  | revise x =>
    obtain ⟨hfst, hlags⟩ := h.lags.revise x
    exact ⟨congrArg Answer.node hfst.symm, h.grow (h.inner.revise x)
      (Catalog.grows_revise s.inner x) (h.direct.revise x) hlags⟩
  | placed x folder =>
    exact ⟨congrArg Answer.node (h.lags.nodes.placed? x folder).symm, h⟩
  | canonical location =>
    refine ⟨?_, h⟩
    show Answer.item ((s.inner.file? location).map (·.item)) =
      Answer.item ((d.file? location).map (·.item))
    rw [h.lags.nodes.file?]
  | register x =>
    obtain ⟨hfst, hlags⟩ := h.lags.register x
    exact ⟨congrArg (fun y => Answer.item (some y)) hfst.symm, h.grow (h.inner.register x)
      (h.inner.grows_register x) (h.direct.register x) hlags⟩

/-- A call leaves the same catalog if no trail of bare folders has anything new to tell. -/
theorem Mirrors.inner_perform (hsame : s.inner = d) (call : Call)
    (hcall : ∀ t, call = .openTrail t → t.all Folder.isBare = true → t.all Folder.isPlain = true) :
    (call.perform Cached.register s).2.inner = (call.perform Catalog.register d).2 := by
  subst hsame
  cases call with
  | openTrail t =>
    show (s.openTrail t).2.inner = (Catalog.openTrail t s.inner).2
    unfold Cached.openTrail
    split
    · -- A catalog that goes down a plain trail stays as it is.
      rename_i id hid
      obtain ⟨hbare, hindex, -⟩ := h.fromMemory? hid
      exact (h.inner.openTrail_of_isPlain (hcall t rfl hbare) hindex).symm
    · split <;> rename_i hopen <;> exact (congrArg Prod.snd hopen).symm
  | place x folder hint => rfl
  | revise x => rfl
  | placed x folder => rfl
  | canonical location => rfl
  | register x => rfl

end

/-! ## All calls -/

/-- So do any calls, one after the other. -/
theorem Mirrors.performAll {s : Cached Catalog} {d : Catalog} (h : s.Mirrors d)
    (calls : List Call) :
    (Call.performAll Cached.register calls s).1 = (Call.performAll Catalog.register calls d).1 ∧
      (Call.performAll Cached.register calls s).2.Mirrors
        (Call.performAll Catalog.register calls d).2 := by
  induction calls generalizing s d with
  | nil => exact ⟨rfl, h⟩
  | cons call calls ih =>
    obtain ⟨hanswer, hcall⟩ := h.perform call
    obtain ⟨hanswers, hcalls⟩ := ih hcall
    refine ⟨?_, hcalls⟩
    simp only [Call.performAll, hanswer, hanswers]

theorem Mirrors.inner_performAll {s : Cached Catalog} {d : Catalog} (h : s.Mirrors d)
    (hsame : s.inner = d) {calls : List Call}
    (hcalls : ∀ t, Call.openTrail t ∈ calls →
      t.all Folder.isBare = true → t.all Folder.isPlain = true) :
    (Call.performAll Cached.register calls s).2.inner =
      (Call.performAll Catalog.register calls d).2 := by
  induction calls generalizing s d with
  | nil => exact hsame
  | cons call calls ih =>
    have hcall := h.inner_perform hsame call fun t ht => hcalls t (by simp [ht])
    exact ih (h.perform call).2 hcall fun t ht => hcalls t (List.mem_cons_of_mem call ht)

end Cached

/--
**A memory changes no answer.**  Whatever calls are made, on an empty catalog and on an empty catalog
with a memory in front, all answers are the same.  In the end the same items are under the same ids,
and the same folders below the same parents at the same paths.  What is remembered for a path is the
folder at that path, and the empty trail is not answered from memory.
-/
theorem memory_changes_no_answer (calls : List Call) :
    let direct := Call.performAll Catalog.register calls Catalog.empty
    let cached := Call.performAll Cached.register calls (Cached.ofShelves Catalog.empty)
    cached.1 = direct.1 ∧
      cached.2.inner.SameNodes direct.2 ∧
      (∀ i, (cached.2.inner.folder? i).map (fun r => (r.id, r.parent, r.path)) =
        (direct.2.folder? i).map fun r => (r.id, r.parent, r.path)) ∧
      (∀ path id, cached.2.known.find? path = some id →
        ∃ r, cached.2.inner.folder? id = some r ∧ r.path = path) ∧
      ∀ t id, cached.2.fromMemory? t = some id →
        t ≠ [] ∧ cached.2.inner.pathIndex[t.path]? = some id := by
  intro direct cached
  -- The folders have the same places, and differ in what they have been told at most.
  obtain ⟨hanswers, h⟩ := Cached.mirrors_empty.performAll calls
  refine ⟨hanswers, h.lags.nodes, ?_, ?_, ?_⟩
  · intro i
    obtain ⟨hr, hs⟩ | ⟨r, f, hr, hs⟩ := h.lags.nodes.folder_cases h.inner h.direct i
    · rw [hr, hs]
    · rw [hr, hs]
      rfl
  · intro path id hid
    exact h.inner.pathIndex_iff.1 (h.known hid)
  · intro t id hid
    obtain ⟨-, hindex, -⟩ := h.fromMemory? hid
    exact ⟨(h.inner.openTrail_of_pathIndex hindex).1, hindex⟩

/--
**Folders behind a memory lag behind.**  At every list of titles there is a folder in both catalogs or
in neither, and the two say the same in all but their class and their mark for searching.  One that is
marked behind the memory is marked without it, and one without a specific class is without one behind
the memory.
-/
theorem remembered_folders_lag_behind (calls : List Call) (ts : List String) :
    let direct := Call.performAll Catalog.register calls Catalog.empty
    let cached := Call.performAll Cached.register calls (Cached.ofShelves Catalog.empty)
    (cached.2.inner.findFolder? ts).isSome = (direct.2.findFolder? ts).isSome ∧
      ∀ r s, cached.2.inner.findFolder? ts = some r → direct.2.findFolder? ts = some s →
        r.folder.LagsBehind s.folder := by
  intro direct cached
  obtain ⟨-, h⟩ := Cached.mirrors_empty.performAll calls
  -- Both stores lead a path to the same id, so only the two folders there may differ.
  have hpaths : direct.2.pathIndex = cached.2.inner.pathIndex := h.lags.nodes.paths
  simp only [Catalog.findFolder?, Catalog.folderAt?, hpaths]
  cases cached.2.inner.pathIndex[ContainerPath.ofTitles ts]? with
  | none =>
    refine ⟨rfl, fun r s hr => ?_⟩
    cases hr
  | some i => exact ⟨(h.lags.nodes.folders i).symm, fun r s hr hs => h.lags.folders hr hs⟩

/-- A bare folder that is an album and marked for searching is lost on a memory. -/
theorem remembered_folder_is_no_album :
    ¬ ∀ (calls : List Call) (ts : List String),
      ((Call.performAll Cached.register calls
          (Cached.ofShelves Catalog.empty)).2.inner.findFolder? ts).map (·.folder) =
        ((Call.performAll Catalog.register calls Catalog.empty).2.findFolder? ts).map
          (·.folder) := by
  intro h
  have hfolder := h [.openTrail [Folder.plain "A" UpnpClass.container],
    .openTrail [{ Folder.plain "A" UpnpClass.musicAlbum with searchable := true }]] ["A"]
  revert hfolder
  decide +kernel

/--
Nothing else is lost: if trails of bare folders have no class of their own and no mark for searching,
the catalog behind a memory is the one without it.
-/
theorem remembered_catalog_eq_of_isPlain {calls : List Call}
    (hcalls : ∀ t, Call.openTrail t ∈ calls →
      t.all Folder.isBare = true → t.all Folder.isPlain = true) :
    (Call.performAll Cached.register calls (Cached.ofShelves Catalog.empty)).2.inner =
      (Call.performAll Catalog.register calls Catalog.empty).2 :=
  Cached.mirrors_empty.inner_performAll rfl hcalls

end MediaShelves
