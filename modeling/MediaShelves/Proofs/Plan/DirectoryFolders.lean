import Mathlib.Algebra.Group.Int.Defs
import Mathlib.Algebra.Group.Nat.Defs
import MediaShelves.Origin

/-!
# Directory folders

The folders that a trail goes through are one for each directory.  Those from a certain depth on
borrow the resources of the item or of its physical folder; how many of them do is counted from the
last one up.  The depth is computed in signed words, which is exact for counts that are not greater
than a signed word can be, and not for all counts beyond.

Main statements: `directories_borrow_from_depth` and `borrowing_grows_below_turn`.
-/

namespace MediaShelves

/-! ## The depth in words -/

/-- What a number is in signed words, where that is a turn around their range away at most. -/
theorem bmod_word_eq {a b : Int} (hturn : b = a ∨ b = a + 2 ^ 64 ∨ b = a - 2 ^ 64)
    (hlow : -2 ^ 63 ≤ b) (hhigh : b < 2 ^ 63) : a.bmod (2 ^ 64) = b := by
  rw [Int.bmod_def]
  split <;> omega

theorem toInt_toInt64 (w : UInt64) : w.toInt64.toInt = (w.toNat : Int).bmod (2 ^ 64) :=
  BitVec.toInt_eq_toNat_bmod w.toBitVec

section

variable {count : Nat} (hcount : count < 2 ^ 63) (w : UInt64)

include hcount

theorem toInt_count_sub :
    (Int64.ofNat count - w.toInt64).toInt = ((count : Int) - w.toNat).bmod (2 ^ 64) := by
  rw [Int64.toInt_sub, Int64.toInt_ofNat_of_lt hcount, toInt_toInt64, Int.sub_bmod_bmod]

/--
The depth from which folders borrow, in signed words: it is the one in whole numbers, but lies
beyond all directories for a count that is too great.
-/
theorem toInt_threshold :
    (Int64.ofNat count - w.toInt64 - 1).toInt =
      if w.toNat < 2 ^ 63 + count then (count : Int) - w.toNat - 1
      else (count : Int) - w.toNat - 1 + 2 ^ 64 := by
  have hword := w.toNat_lt
  rw [Int64.toInt_sub, toInt_count_sub hcount, Int64.toInt_one, Int.bmod_sub_bmod]
  split
  · exact bmod_word_eq (.inl rfl) (by omega) (by omega)
  · exact bmod_word_eq (.inr (.inl rfl)) (by omega) (by omega)

/--
Which directory folders borrow: those whose depth and the count together reach the last one, unless
the count is too great.
-/
theorem borrowsAt_iff {depth : Nat} (hdepth : depth < count) :
    borrowsAt count w depth = true ↔
      count ≤ depth + w.toNat + 1 ∧ w.toNat < 2 ^ 63 + count := by
  have hword := w.toNat_lt
  rw [borrowsAt, decide_eq_true_iff, Int64.le_iff_toInt_le, toInt_threshold hcount,
    Int64.toInt_ofNat_of_lt (Nat.lt_trans hdepth hcount)]
  split <;> omega

end

/-! ## Overflow -/

/-- A subtraction of signed words overflows if the difference is no signed word. -/
theorem ssubOverflow_iff (a b : Int64) :
    a.toBitVec.ssubOverflow b.toBitVec = true ↔
      2 ^ 63 ≤ a.toInt - b.toInt ∨ a.toInt - b.toInt < -2 ^ 63 := by
  rw [BitVec.ssubOverflow, Bool.or_eq_true, decide_eq_true_iff, decide_eq_true_iff]
  rfl

/-- Whether a step on the way to the depth from which folders borrow leaves the signed words. -/
def thresholdOverflows (count : Nat) (parentCount : UInt64) : Bool :=
  (Int64.ofNat count).toBitVec.ssubOverflow parentCount.toInt64.toBitVec ||
    (Int64.ofNat count - parentCount.toInt64).toBitVec.ssubOverflow (1 : Int64).toBitVec

/-- The computation leaves the signed words for the counts right above them, and for no others. -/
theorem thresholdOverflows_iff {count : Nat} (hcount : count < 2 ^ 63) (w : UInt64) :
    thresholdOverflows count w = true ↔ 2 ^ 63 ≤ w.toNat ∧ w.toNat ≤ 2 ^ 63 + count := by
  have hword := w.toNat_lt
  rw [thresholdOverflows, Bool.or_eq_true, ssubOverflow_iff, ssubOverflow_iff,
    Int64.toInt_ofNat_of_lt hcount, Int64.toInt_one, toInt_count_sub hcount, toInt_toInt64]
  by_cases hsigned : w.toNat < 2 ^ 63
  · -- The count is read as it is, and no difference is too small.
    have hcountRead : (w.toNat : Int).bmod (2 ^ 64) = w.toNat :=
      bmod_word_eq (.inl rfl) (by omega) (by omega)
    have hdifference : ((count : Int) - w.toNat).bmod (2 ^ 64) = count - w.toNat :=
      bmod_word_eq (.inl rfl) (by omega) (by omega)
    rw [hcountRead, hdifference]
    omega
  · -- The count is read as a negative number, so the first difference may be too great.
    have hcountRead : (w.toNat : Int).bmod (2 ^ 64) = w.toNat - 2 ^ 64 :=
      bmod_word_eq (.inr (.inr rfl)) (by omega) (by omega)
    rw [hcountRead]
    by_cases hgreat : 2 ^ 63 + count < w.toNat
    · have hdifference : ((count : Int) - w.toNat).bmod (2 ^ 64) = count - w.toNat + 2 ^ 64 :=
        bmod_word_eq (.inr (.inl rfl)) (by omega) (by omega)
      rw [hdifference]
      omega
    · -- The first difference is one of those that are too great, whatever becomes of the second.
      constructor
      · intro _
        omega
      · intro _
        exact .inl (.inl (by omega))

/-! ## One folder for each directory -/

/-- The folder for a directory, made after a template, by whether it borrows and is the last one. -/
def directoryFolder (template : Folder) (o : Origin) (x : MediaItem) (borrows last : Bool)
    (name : String) : Folder :=
  { template with
    title := name
    resources := if borrows then (o.loan x).resources else template.resources
    auxiliary := if borrows then x.auxiliary else template.auxiliary
    owner := if last then (o.loan x).owner else template.owner }

theorem directoryFolders_eq (template : Folder) (o : Origin) (x : MediaItem) (parentCount : UInt64)
    (directories : List String) :
    directoryFolders template o x parentCount directories =
      directories.mapIdx fun depth name =>
        directoryFolder template o x (borrowsAt directories.length parentCount depth) false name := by
  rw [directoryFolders, List.mapIdx_eq_mapIdx_iff]
  intro depth _
  -- A folder that borrows and one that does not are written in different ways.
  cases hborrows : borrowsAt directories.length parentCount depth with
  | false => rfl
  | true => rfl

namespace Trail

theorem getElem?_withLeafOwner (owner : Option NodeId) (t : Trail) (i : Nat) :
    (t.withLeafOwner owner)[i]? =
      if i + 1 = t.length then t[i]?.map fun f => { f with owner := owner } else t[i]? := by
  -- The last folder of a trail is the one that nothing follows.
  induction t generalizing i with
  | nil => simp [withLeafOwner]
  | cons f t ih =>
    cases t with
    | nil =>
      cases i with
      | zero => rfl
      | succ i => simp [withLeafOwner]
    | cons g t =>
      cases i with
      | zero => simp [withLeafOwner]
      | succ i => simpa [withLeafOwner] using ih i

/-- The last folder of a trail that goes on is the last one of the rest. -/
theorem withLeafOwner_append (owner : Option NodeId) (t : Trail) {u : Trail} (hu : u ≠ []) :
    withLeafOwner owner (t ++ u) = t ++ u.withLeafOwner owner := by
  induction t with
  | nil => rfl
  | cons f t ih =>
    -- Something follows this folder, so it is not the last one.
    obtain ⟨g, rest, hrest⟩ : ∃ g rest, t ++ u = g :: rest :=
      List.exists_cons_of_ne_nil (List.append_ne_nil_of_right_ne_nil t hu)
    rw [List.cons_append, List.cons_append, ← ih, hrest]
    rfl

section

variable (t : Trail) (template : Folder) (o : Origin) (x : MediaItem) (parentCount : UInt64)
  {directories : List String}

/-- Going through directories leaves a trail as it is and appends a folder for each of them. -/
theorem throughDirectories_eq (hne : directories ≠ []) :
    t.throughDirectories template o x parentCount directories =
      t ++ directories.mapIdx fun depth name =>
        directoryFolder template o x (borrowsAt directories.length parentCount depth)
          (depth + 1 == directories.length) name := by
  have hfolders : directoryFolders template o x parentCount directories ≠ [] :=
    List.mapIdx_ne_nil_iff.2 hne
  rw [throughDirectories, withLeafOwner_append _ _ hfolders, directoryFolders_eq]
  congr 1
  apply List.ext_getElem?
  intro depth
  rw [getElem?_withLeafOwner, List.getElem?_mapIdx, List.getElem?_mapIdx, List.length_mapIdx]
  -- The owner is set in the folder for the last directory, and only there.
  split
  · rename_i hlast
    rw [Option.map_map, hlast, beq_self_eq_true]
    rfl
  · rename_i hlast
    rw [beq_eq_false_iff_ne.2 hlast]

theorem getElem?_throughDirectories {depth : Nat} {name : String}
    (hname : directories[depth]? = some name) :
    (t.throughDirectories template o x parentCount directories)[t.length + depth]? =
      some (directoryFolder template o x (borrowsAt directories.length parentCount depth)
        (depth + 1 == directories.length) name) := by
  have hne : directories ≠ [] := by
    rintro rfl
    cases hname
  rw [throughDirectories_eq t template o x parentCount hne,
    List.getElem?_append_right (Nat.le_add_right ..), Nat.add_sub_cancel_left, List.getElem?_mapIdx,
    hname]
  rfl

end

end Trail

/-- Where folders borrow from a depth on, the ones above it are the template under other titles. -/
theorem mapIdx_directoryFolder (template : Folder) (o : Origin) (x : MediaItem)
    {upper lower : List String} (hlower : lower ≠ []) {borrows : Nat → Bool}
    (hborrows : ∀ depth < (upper ++ lower).length, borrows depth = true ↔ upper.length ≤ depth) :
    ((upper ++ lower).mapIdx fun depth name =>
        directoryFolder template o x (borrows depth) (depth + 1 == (upper ++ lower).length) name) =
      upper.map template.titled ++ lower.mapIdx fun depth name =>
        directoryFolder template o x true (depth + 1 == lower.length) name := by
  have hpos := List.length_pos_iff.2 hlower
  rw [List.length_append] at hborrows ⊢
  rw [List.mapIdx_append]
  congr 1
  · rw [List.mapIdx_eq_iff]
    intro depth
    rw [List.getElem?_map]
    by_cases hdepth : depth < upper.length
    · -- A folder above that depth does not borrow, and it is not the last one.
      have hnone : borrows depth = false := by
        rw [Bool.eq_false_iff, Ne, hborrows depth (by omega)]
        omega
      have hlast : (depth + 1 == upper.length + lower.length) = false :=
        beq_eq_false_iff_ne.2 (by omega)
      rw [hnone, hlast]
      rfl
    · rw [List.getElem?_eq_none (Nat.le_of_not_lt hdepth)]
      rfl
  · -- The depths of the lower ones are counted from the first of them.
    rw [List.mapIdx_eq_mapIdx_iff]
    intro depth hdepth
    have hsome : borrows (depth + upper.length) = true :=
      (hborrows _ (by omega)).2 (by omega)
    have hlast : (depth + upper.length + 1 == upper.length + lower.length) =
        (depth + 1 == lower.length) := by
      rw [Bool.eq_iff_iff, beq_iff_eq, beq_iff_eq]
      omega
    rw [hsome, hlast]

namespace Origin

/-- A physical folder with resources is the one to lend them. -/
theorem loan_of_parent {o : Origin} {p : PhysicalParent} (hp : o.parent = some p)
    (hresources : p.resources ≠ []) (x : MediaItem) : o.loan x = ⟨p.resources, some p.id⟩ := by
  rw [loan, hp]
  exact if_neg (by simpa using hresources)

/-- Otherwise it is the item. -/
theorem loan_of_item {o : Origin} (hp : ∀ p, o.parent = some p → p.resources = [])
    (x : MediaItem) : o.loan x = ⟨x.resources, x.id⟩ := by
  unfold loan
  split
  · rename_i p hparent
    rw [hp p hparent]
    rfl
  · rfl

end Origin

/--
**Directory folders borrow from a depth on.**  A trail that goes through directories is the trail as
it was and then one folder for each of them, in order: the template under the name of the directory,
with the resources that are lent and the facts of the item from the depth on that is as many
directories above the last one as the count says, and with the owner of these resources in the last
one.  So the folders that borrow are the last ones, and there are as many as the count says and one
more, if there are so many directories.  A physical folder lends its resources if it has some, and
else the item does.  (The directories are at most as many as a list in memory can have.)
-/
theorem directories_borrow_from_depth (t : Trail) (template : Folder) (o : Origin) (x : MediaItem)
    {parentCount : UInt64} {directories : List String} (hne : directories ≠ [])
    (hlength : directories.length < 2 ^ 63) (hcount : parentCount.toNat < 2 ^ 63) :
    (t.throughDirectories template o x parentCount directories =
      t ++ directories.mapIdx fun depth name =>
        { template with
          title := name
          resources :=
            if (directories.length : Int) - parentCount.toNat - 1 ≤ depth then (o.loan x).resources
            else template.resources
          auxiliary :=
            if (directories.length : Int) - parentCount.toNat - 1 ≤ depth then x.auxiliary
            else template.auxiliary
          owner :=
            if depth + 1 = directories.length then (o.loan x).owner else template.owner }) ∧
      (∃ upper lower : List String, directories = upper ++ lower ∧ lower ≠ [] ∧
        lower.length = min directories.length (parentCount.toNat + 1) ∧
        t.throughDirectories template o x parentCount directories =
          t ++ (upper.map template.titled ++ lower.mapIdx fun depth name =>
            directoryFolder template o x true (depth + 1 == lower.length) name)) ∧
      (∀ p, o.parent = some p → p.resources ≠ [] → o.loan x = ⟨p.resources, some p.id⟩) ∧
      ((∀ p, o.parent = some p → p.resources = []) → o.loan x = ⟨x.resources, x.id⟩) := by
  have hfolders := Trail.throughDirectories_eq t template o x parentCount hne
  have hborrows {depth : Nat} (hdepth : depth < directories.length) :=
    borrowsAt_iff hlength parentCount hdepth
  refine ⟨?_, ?_, fun p hp hresources => Origin.loan_of_parent hp hresources x,
    fun hp => Origin.loan_of_item hp x⟩
  · -- For such counts the depth in words is the one in whole numbers.
    rw [hfolders, List.append_cancel_left_eq, List.mapIdx_eq_mapIdx_iff]
    intro depth hdepth
    have hthreshold : borrowsAt directories.length parentCount depth = true ↔
        (directories.length : Int) - parentCount.toNat - 1 ≤ depth := by
      rw [hborrows hdepth]
      omega
    simp only [directoryFolder, hthreshold, beq_iff_eq]
  · -- The directories are cut where as many are left as borrow.
    have hpos := List.length_pos_iff.2 hne
    generalize hm : min directories.length (parentCount.toNat + 1) = m
    have hcut := List.take_append_drop (directories.length - m) directories
    have hlower : (directories.drop (directories.length - m)).length = m := by
      rw [List.length_drop]
      omega
    have hupper : (directories.take (directories.length - m)).length = directories.length - m := by
      rw [List.length_take]
      omega
    generalize directories.take (directories.length - m) = upper at hcut hupper
    generalize directories.drop (directories.length - m) = lower at hcut hlower
    have hlower_ne : lower ≠ [] := List.length_pos_iff.1 (by omega)
    refine ⟨upper, lower, hcut.symm, hlower_ne, hlower, ?_⟩
    subst hcut
    rw [hfolders, mapIdx_directoryFolder template o x hlower_ne]
    intro depth hdepth
    rw [hborrows hdepth]
    omega

/-- A film with a resource of its own. -/
def film : MediaItem :=
  { MediaItem.ofLocation "/films/a/b/c/film.mkv" "video/x-matroska" with
    id := some 9
    resources := [⟨"default", Keyed.empty⟩] }

theorem directories_borrow_from_depth_film :
    (["a", "b", "c"] ≠ [] ∧ ["a", "b", "c"].length < 2 ^ 63 ∧ (1 : UInt64).toNat < 2 ^ 63) ∧
      (Trail.throughDirectories [] (Folder.plain "" UpnpClass.container) (Origin.ofRoot "/films")
          film 1 ["a", "b", "c"]).map (fun f => (f.title, f.resources, f.owner)) =
        [("a", [], none), ("b", film.resources, none), ("c", film.resources, some 9)] := by
  have hne : ["a", "b", "c"] ≠ [] := by decide
  have hlength : ["a", "b", "c"].length < 2 ^ 63 := by decide
  have hcount : (1 : UInt64).toNat < 2 ^ 63 := by decide
  refine ⟨⟨hne, hlength, hcount⟩, ?_⟩
  rw [(directories_borrow_from_depth [] (Folder.plain "" UpnpClass.container)
    (Origin.ofRoot "/films") film hne hlength hcount).1]
  decide +kernel

/--
**Greater counts let more folders borrow, up to a turn of the signed words.**  The depth is computed
without overflow but for the counts from the middle of the words on that exceed it by the number of
directories at most.  For counts that exceed it by less, each folder that borrows with a smaller
count borrows with the greater one too, and is the same folder.  With all counts beyond no folder
borrows.
-/
theorem borrowing_grows_below_turn (t : Trail) (template : Folder) (o : Origin) (x : MediaItem)
    {p q : UInt64} {directories : List String} (hlength : directories.length < 2 ^ 63)
    (hpq : p ≤ q) :
    (thresholdOverflows directories.length q = true ↔
      2 ^ 63 ≤ q.toNat ∧ q.toNat ≤ 2 ^ 63 + directories.length) ∧
      ∀ depth name, directories[depth]? = some name →
        (q.toNat < 2 ^ 63 + directories.length →
          borrowsAt directories.length p depth = true →
            (t.throughDirectories template o x p directories)[t.length + depth]? =
              some (directoryFolder template o x true (depth + 1 == directories.length) name) ∧
            (t.throughDirectories template o x q directories)[t.length + depth]? =
              some (directoryFolder template o x true (depth + 1 == directories.length) name)) ∧
        (2 ^ 63 + directories.length ≤ q.toNat →
          (t.throughDirectories template o x q directories)[t.length + depth]? =
            some (directoryFolder template o x false (depth + 1 == directories.length) name)) := by
  refine ⟨thresholdOverflows_iff hlength q, ?_⟩
  intro depth name hname
  obtain ⟨hdepth, -⟩ := List.getElem?_eq_some_iff.1 hname
  have hle : p.toNat ≤ q.toNat := UInt64.le_iff_toNat_le.1 hpq
  have hfolder (w : UInt64) := Trail.getElem?_throughDirectories t template o x w hname
  constructor
  · intro hq hp
    have hreach := (borrowsAt_iff hlength p hdepth).1 hp
    -- What the smaller count reaches, the greater one reaches too.
    have hborrows : borrowsAt directories.length q depth = true :=
      (borrowsAt_iff hlength q hdepth).2 ⟨by omega, hq⟩
    rw [hfolder p, hfolder q, hp, hborrows]
    exact ⟨rfl, rfl⟩
  · intro hq
    have hnone : borrowsAt directories.length q depth = false := by
      rw [Bool.eq_false_iff, Ne, borrowsAt_iff hlength q hdepth]
      omega
    rw [hfolder q, hnone]

theorem borrowing_grows_below_turn_film :
    (["a", "b", "c"].length < 2 ^ 63 ∧ (1 : UInt64) ≤ 9223372036854775807 ∧
      (9223372036854775807 : UInt64).toNat < 2 ^ 63 + 3 ∧ borrowsAt 3 1 1 = true) ∧
      (Trail.throughDirectories [] (Folder.plain "" UpnpClass.container) (Origin.ofRoot "/films")
          film 9223372036854775807 ["a", "b", "c"])[1]? =
        some (directoryFolder (Folder.plain "" UpnpClass.container) (Origin.ofRoot "/films") film
          true false "b") := by
  have hlength : ["a", "b", "c"].length < 2 ^ 63 := by decide
  have hle : (1 : UInt64) ≤ 9223372036854775807 := by decide
  have hcount : (9223372036854775807 : UInt64).toNat < 2 ^ 63 + 3 := by decide
  have hborrows : borrowsAt 3 1 1 = true := by decide
  refine ⟨⟨hlength, hle, hcount, hborrows⟩, ?_⟩
  have hgrows := ((borrowing_grows_below_turn [] (Folder.plain "" UpnpClass.container)
    (Origin.ofRoot "/films") film hlength hle).2 1 "b" rfl).1 hcount hborrows
  exact hgrows.2

/-- With the greatest count of all no folder borrows, and a smaller one overflows. -/
theorem greatest_count_borrows_nothing :
    let trail (w : UInt64) := Trail.throughDirectories []
      (Folder.plain "" UpnpClass.container) (Origin.ofRoot "/films") film w ["a", "b", "c"]
    (trail 1).map (·.resources) = [[], film.resources, film.resources] ∧
      (trail 18446744073709551615).map (·.resources) = [[], [], []] ∧
      thresholdOverflows 3 9223372036854775808 = true := by
  decide +kernel

end MediaShelves
