import Mathlib.Tactic.Choose
import MediaShelves.Proofs.Catalog.Additions
import MediaShelves.Proofs.Catalog.Ancestry
import MediaShelves.Proofs.Catalog.Outline

/-!
# What an outline lists

An outline is written by going down from the root: first the folders of a folder, each with all that
lies below it, then its items.  Nothing in the tables bounds how deep that goes.  It comes to an end
because each folder lies at a list of titles and only so many folders are there, and it meets every
node once because every node lies below one other.

Main statement: `outline_lists_each_node_once`.
-/

namespace MediaShelves.Catalog

/-! ## Nodes and their lines -/

/-- A folder or an item. -/
inductive Node where
  | folder (r : StoredFolder)
  | item (r : StoredItem)

namespace Node

/-- The node right above a node; canonical items have none. -/
def parent? : Node → Option NodeId
  | folder r => some r.parent
  | item r => r.parent

/-- The line of a node at a depth. -/
def line (depth : Nat) : Node → OutlineLine
  | folder r => ⟨depth, r.folder.title, true⟩
  | item r => ⟨depth, r.item.title, false⟩

/-- What is written for a node: its title, with a slash behind that of a folder, and a line feed. -/
def text : Node → String
  | folder r => r.folder.title ++ "/\n"
  | item r => r.item.title ++ "\n"

/--
How the nodes of one folder are ordered: its folders before its items, folders by title, and items
by position and title.
-/
def Precedes : Node → Node → Prop
  | folder r, folder s => r.folder.title < s.folder.title
  | folder _, item _ => True
  | item _, folder _ => False
  | item r, item s =>
    r.item.playlistOrder < s.item.playlistOrder ∨
      r.item.playlistOrder = s.item.playlistOrder ∧ r.item.title ≤ s.item.title

end Node

/-- A node that is listed, and how far its line is indented. -/
structure Listed where
  depth : Nat
  node : Node

/-- The line of a listed node. -/
def Listed.line (e : Listed) : OutlineLine :=
  e.node.line e.depth

/-- A line is indented by two blanks for each folder above its node. -/
theorem Listed.text_line (e : Listed) :
    e.line.text = String.ofList (List.replicate (2 * e.depth) ' ') ++ e.node.text := by
  obtain ⟨depth, n⟩ := e
  cases n with
  | folder r => exact String.append_assoc
  | item r => exact String.append_assoc

/-- What is listed below a node, where it is known what is listed below its folders. -/
def listBelow (c : Catalog) (depth : Nat) (parent : NodeId) (block : StoredFolder → List Listed) :
    List Listed :=
  (c.foldersIn parent).flatMap (fun r => ⟨depth, .folder r⟩ :: block r) ++
    (c.listedItems parent).map fun r => ⟨depth, .item r⟩

/--
Going down from a node comes to an end and lists these nodes.  There is no budget: a derivation is a
finite tree of calls, one for each folder that is met.
-/
inductive Lists (c : Catalog) : (depth : Nat) → NodeId → List Listed → Prop where
  | descend {depth : Nat} {parent : NodeId} (block : StoredFolder → List Listed)
      (h : ∀ r ∈ c.foldersIn parent, Lists c (depth + 1) r.id (block r)) :
      Lists c depth parent (c.listBelow depth parent block)

/-- Whether a node has its place in a catalog; canonical items have none. -/
def Places (c : Catalog) : Node → Prop
  | .folder r => c.folder? r.id = some r
  | .item r => c.item? r.id = some r ∧ r.parent.isSome

/-- Whether a node lies right below what is at some titles. -/
def LiesBelow (c : Catalog) (n : Node) (ts : List String) : Prop :=
  ∃ p, n.parent? = some p ∧ c.nodeAt? ts = some p

/--
Whether a node stands in the block of the node above it, where others are listed before it: the node
above is the one from which the way goes down, or its line was the last one that is indented less.
-/
def InBlock (depth : Nat) (parent : NodeId) (before : List Listed) (e : Listed) : Prop :=
  (e.depth = depth ∧ e.node.parent? = some parent) ∨
    ∃ (k : Nat) (r : StoredFolder) (above between : List Listed),
      before = above ++ ⟨k, .folder r⟩ :: between ∧ e.depth = k + 1 ∧
        e.node.parent? = some r.id ∧ ∀ b ∈ between, k < b.depth

/-- Whether all nodes of a list stand in the blocks of the nodes above them. -/
def Nested (depth : Nat) (parent : NodeId) (es : List Listed) : Prop :=
  ∀ before e after, es = before ++ e :: after → InBlock depth parent before e

/-! ## The end of the way down -/

/-- What is listed is settled. -/
theorem Lists.unique {c : Catalog} {depth : Nat} {parent : NodeId} {es es' : List Listed}
    (h : c.Lists depth parent es) (h' : c.Lists depth parent es') : es = es' := by
  induction h generalizing es' with
  | descend block _ ih =>
    -- The two derivations meet the same folders, and agree below each of them.
    cases h' with
    | descend block' h' =>
      have hblocks : ∀ r ∈ c.foldersIn _, block r = block' r := fun r hr => ih r hr (h' r hr)
      unfold listBelow
      congr 1
      apply List.flatMap_congr
      intro r hr
      rw [hblocks r hr]

section

variable {c : Catalog} (h : c.Consistent)

include h

/-- A budget that is deep enough is not used up, and the lines are those of the nodes met. -/
theorem Consistent.exists_lists {budget : Nat} {ts : List String} {i : NodeId}
    (hi : c.nodeAt? ts = some i) (hdeep : c.folderCount < ts.length + budget) (depth : Nat) :
    ∃ es, c.Lists depth i es ∧ c.outlineBelow budget depth i = es.map Listed.line := by
  -- The budget gets smaller by one where the titles get longer by one, so their sum stays.
  have hlength := h.length_le_folderCount (by rw [hi]; rfl)
  induction budget generalizing ts i depth with
  | zero => omega
  | succ budget ih =>
    -- Each folder is one title further down.
    have hblock : ∀ r, r ∈ c.foldersIn i → ∃ es, c.Lists (depth + 1) r.id es ∧
        c.outlineBelow budget (depth + 1) r.id = es.map Listed.line := by
      intro r hr
      obtain ⟨hfolder, rfl⟩ := h.mem_foldersIn.1 hr
      have hchild := h.nodeAt?_child hi hfolder
      refine ih hchild ?_ (depth + 1) (h.length_le_folderCount (by rw [hchild]; rfl))
      rw [List.length_append, List.length_singleton]
      omega
    -- What is listed below the folders makes up the block of this one.
    choose! block hlists hlines using hblock
    refine ⟨c.listBelow depth i block, .descend block hlists, ?_⟩
    rw [outlineBelow, listBelow, List.map_append, List.map_flatMap, List.map_map]
    congr 1
    apply List.flatMap_congr
    intro r hr
    rw [hlines r hr]
    rfl

/-! ## Which nodes are listed -/

/-- The items listed in a folder are those placed in it. -/
theorem Consistent.mem_listedItems {p : NodeId} {r : StoredItem} :
    r ∈ c.listedItems p ↔ c.item? r.id = some r ∧ r.parent = some p := by
  rw [listedItems, List.mem_mergeSort, h.mem_itemsIn]
  constructor
  · rintro ⟨i, hr, hp⟩
    rw [h.item_id hr]
    exact ⟨hr, hp⟩
  · rintro ⟨hr, hp⟩
    exact ⟨r.id, hr, hp⟩

/-- Below a node there are the nodes whose parent it is, and what is below its folders. -/
theorem Consistent.mem_listBelow {depth : Nat} {p : NodeId} {block : StoredFolder → List Listed}
    {e : Listed} :
    e ∈ c.listBelow depth p block ↔
      (e.depth = depth ∧ c.Places e.node ∧ e.node.parent? = some p) ∨
        ∃ r ∈ c.foldersIn p, e ∈ block r := by
  -- What is listed is a folder or an item right below, or comes from the block of such a folder.
  simp only [listBelow, List.mem_append, List.mem_flatMap, List.mem_cons, List.mem_map]
  constructor
  · rintro (⟨r, hr, rfl | he⟩ | ⟨r, hr, rfl⟩)
    · obtain ⟨hfolder, hparent⟩ := h.mem_foldersIn.1 hr
      exact .inl ⟨rfl, hfolder, congrArg some hparent⟩
    · exact .inr ⟨r, hr, he⟩
    · obtain ⟨hitem, hparent⟩ := h.mem_listedItems.1 hr
      exact .inl ⟨rfl, ⟨hitem, by rw [hparent]; rfl⟩, hparent⟩
  · rintro (⟨hdepth, hplaced, hparent⟩ | ⟨r, hr, he⟩)
    · obtain ⟨k, n⟩ := e
      obtain rfl : k = depth := hdepth
      cases n with
      | folder r => exact .inl ⟨r, h.mem_foldersIn.2 ⟨hplaced, Option.some.inj hparent⟩, .inl rfl⟩
      | item r => exact .inr ⟨r, h.mem_listedItems.2 ⟨hplaced.1, hparent⟩, rfl⟩
    · exact .inl ⟨r, hr, .inr he⟩

/-- A node lies right below one list of titles. -/
theorem Consistent.liesBelow_inj {n m : Node} {ts us : List String} (hn : c.LiesBelow n ts)
    (hm : c.LiesBelow m us) (hparent : n.parent? = m.parent?) : ts = us := by
  obtain ⟨p, hp, hts⟩ := hn
  obtain ⟨q, hq, hus⟩ := hm
  rw [hp, hq] at hparent
  obtain rfl := Option.some.inj hparent
  exact h.nodeAt?_inj hts hus

/-- What is listed below some titles are the nodes there, each indented by the titles in between. -/
theorem Consistent.mem_lists {depth : Nat} {p : NodeId} {es : List Listed}
    (hes : c.Lists depth p es) {ts : List String} (hp : c.nodeAt? ts = some p) {e : Listed} :
    e ∈ es ↔
      c.Places e.node ∧ ∃ us, c.LiesBelow e.node (ts ++ us) ∧ e.depth = depth + us.length := by
  induction hes generalizing ts e with
  | @descend depth p block _ ih =>
    rw [h.mem_listBelow]
    constructor
    · rintro (⟨hdepth, hplaced, hparent⟩ | ⟨r, hr, he⟩)
      · exact ⟨hplaced, [], ⟨p, hparent, by rwa [List.append_nil]⟩, hdepth⟩
      · obtain ⟨hfolder, rfl⟩ := h.mem_foldersIn.1 hr
        obtain ⟨hplaced, us, hlies, hdepth⟩ := (ih r hr (h.nodeAt?_child hp hfolder)).1 he
        refine ⟨hplaced, r.folder.title :: us, ?_, ?_⟩
        · rwa [List.append_assoc] at hlies
        · rw [hdepth, List.length_cons]
          omega
    · rintro ⟨hplaced, us, hlies, hdepth⟩
      cases us with
      | nil =>
        -- The node lies right here, as the titles are those of this folder alone.
        obtain ⟨q, hparent, hq⟩ := hlies
        rw [List.append_nil, hp] at hq
        obtain rfl := Option.some.inj hq
        exact .inl ⟨hdepth, hplaced, hparent⟩
      | cons t us =>
        -- The first title below is that of a folder, and the node lies below that one.
        rw [List.append_cons] at hlies
        obtain ⟨q, -, hq⟩ := id hlies
        obtain ⟨j, hj⟩ := Option.isSome_iff_exists.1
          (h.isSome_nodeAt?_of_append (by rw [hq]; rfl))
        obtain ⟨r, hr, rfl, hparent⟩ := h.exists_parent_nodeAt? hj
        obtain ⟨rfl, -⟩ := h.folder_id hr
        rw [hp] at hparent
        have hmem : r ∈ c.foldersIn p :=
          h.mem_foldersIn.2 ⟨hr, (Option.some.inj hparent).symm⟩
        refine .inr ⟨r, hmem, (ih r hmem hj).2 ⟨hplaced, us, hlies, ?_⟩⟩
        rw [hdepth, List.length_cons]
        omega

/-- The node that a node lies below is at some titles. -/
theorem Consistent.exists_liesBelow {n : Node} (hn : c.Places n) : ∃ ts, c.LiesBelow n ts := by
  cases n with
  | folder r =>
    obtain ⟨ts, hpath, -⟩ := h.exists_titles hn
    obtain ⟨us, hus⟩ := h.exists_nodeAt? hpath
    exact ⟨us, r.parent, rfl, hus⟩
  | item r =>
    -- A folder that holds an item is there itself, so it has titles.
    obtain ⟨hitem, hsome⟩ := hn
    obtain ⟨p, hparent⟩ := Option.isSome_iff_exists.1 hsome
    obtain ⟨path, hpath⟩ := Option.isSome_iff_exists.1 (h.item_parent hitem hparent)
    obtain ⟨us, hus⟩ := h.exists_nodeAt? hpath
    exact ⟨us, p, hparent, hus⟩

/-- Below the root all nodes are listed, each indented by the titles that it lies below. -/
theorem Consistent.mem_lists_root {es : List Listed} (hes : c.Lists 0 rootId es) {e : Listed} :
    e ∈ es ↔ c.Places e.node ∧ ∃ ts, c.LiesBelow e.node ts ∧ e.depth = ts.length := by
  rw [h.mem_lists hes (nodeAt?_nil c)]
  simp only [List.nil_append, Nat.zero_add]

end

/-! ## The order of lines -/

theorem orderBefore_iff_lt (m n : Option Nat) : orderBefore m n = true ↔ m < n := by
  cases m with
  | none => cases n <;> simp [orderBefore]
  | some m => cases n <;> simp [orderBefore]

/-- The order of lines is the order of the items they are about. -/
theorem lineBefore_iff_precedes (r s : StoredItem) :
    lineBefore r.item.label.line s.item.label.line = true ↔
      (Node.item r).Precedes (.item s) := by
  rw [lineBefore_iff, orderBefore_iff_lt]
  rfl

/-- The items of a folder are listed by position and title. -/
theorem pairwise_listedItems (c : Catalog) (p : NodeId) :
    (c.listedItems p).Pairwise fun r s => (Node.item r).Precedes (.item s) := by
  refine (List.pairwise_mergeSort ?_ ?_ _).imp fun hrs => (lineBefore_iff_precedes _ _).1 hrs
  · intro a b c
    exact lineBefore_trans _ _ _
  · intro a b
    exact lineBefore_total _ _

section

variable {c : Catalog} (h : c.Consistent)

include h

/-- The folders of a folder are listed by title, and their titles differ. -/
theorem Consistent.pairwise_foldersIn {ts : List String} {p : NodeId} (hp : c.nodeAt? ts = some p) :
    (c.foldersIn p).Pairwise fun r s => (Node.folder r).Precedes (.folder s) := by
  have htitles : c.subtitles ts = (c.foldersIn p).map (·.folder.title) := by
    rw [subtitles, hp]
    rfl
  -- Titles that are in order and all different are strictly in order.
  have hsorted := sorted_subtitles c ts
  have hnodup := h.nodup_subtitles ts
  rw [htitles, List.pairwise_map] at hsorted
  rw [htitles, List.Nodup, List.pairwise_map] at hnodup
  refine (hsorted.and hnodup).imp ?_
  rintro r s ⟨hle, hne⟩
  exact Std.lt_of_le_of_ne hle hne

/-- What lies right below some titles does not lie further down. -/
theorem Consistent.parent?_ne {n m : Node} {ts us : List String} {t : String}
    (hn : c.LiesBelow n ts) (hm : c.LiesBelow m (ts ++ t :: us)) : n.parent? ≠ m.parent? := by
  intro hsame
  have hlength := congrArg List.length (h.liesBelow_inj hn hm hsame)
  rw [List.length_append, List.length_cons] at hlength
  omega

/-- No node is listed twice, and the nodes of one folder are listed in order. -/
theorem Consistent.pairwise_lists {depth : Nat} {p : NodeId} {es : List Listed}
    (hes : c.Lists depth p es) {ts : List String} (hp : c.nodeAt? ts = some p) :
    es.Pairwise fun a b => a.node.parent? = b.node.parent? →
      a.node.Precedes b.node ∧ a.node ≠ b.node := by
  induction hes generalizing ts with
  | @descend depth p block hlists ih =>
    -- Two nodes with one parent lie below the same titles, and these tell the blocks apart.
    have hhere {r : StoredFolder} (hr : r ∈ c.foldersIn p) : c.LiesBelow (.folder r) ts := by
      obtain ⟨-, rfl⟩ := h.mem_foldersIn.1 hr
      exact ⟨r.parent, rfl, hp⟩
    have hchild {r : StoredFolder} (hr : r ∈ c.foldersIn p) :
        c.nodeAt? (ts ++ [r.folder.title]) = some r.id := by
      obtain ⟨hfolder, rfl⟩ := h.mem_foldersIn.1 hr
      exact h.nodeAt?_child hp hfolder
    have hbelow {r : StoredFolder} (hr : r ∈ c.foldersIn p) {e : Listed} (he : e ∈ block r) :
        ∃ us, c.LiesBelow e.node (ts ++ r.folder.title :: us) := by
      obtain ⟨-, us, hlies, -⟩ := (h.mem_lists (hlists r hr) (hchild hr)).1 he
      exact ⟨us, by rwa [List.append_assoc] at hlies⟩
    rw [listBelow, List.pairwise_append, List.pairwise_flatMap, List.pairwise_map]
    refine ⟨⟨?_, ?_⟩, ?_, ?_⟩
    · -- A folder and what lies below it.
      intro r hr
      refine List.pairwise_cons.2 ⟨?_, ih r hr (hchild hr)⟩
      intro e he hsame
      obtain ⟨us, hlies⟩ := hbelow hr he
      exact absurd hsame (h.parent?_ne (hhere hr) hlies)
    · -- Two folders and what lies below them.
      refine (h.pairwise_foldersIn hp).imp_of_mem ?_
      intro r s hr hs hlt a ha b hb hsame
      have htitle : r.folder.title ≠ s.folder.title := by
        intro heq
        have hself : r.folder.title < s.folder.title := hlt
        rw [heq] at hself
        exact String.lt_irrefl _ hself
      rcases List.mem_cons.1 ha with rfl | ha
      · rcases List.mem_cons.1 hb with rfl | hb
        · refine ⟨hlt, fun heq => htitle ?_⟩
          rw [Node.folder.inj heq]
        · obtain ⟨us, hlies⟩ := hbelow hs hb
          exact absurd hsame (h.parent?_ne (hhere hr) hlies)
      · obtain ⟨us, hlies⟩ := hbelow hr ha
        rcases List.mem_cons.1 hb with rfl | hb
        · exact absurd hsame.symm (h.parent?_ne (hhere hs) hlies)
        · -- Both lie further down, below folders with different titles.
          obtain ⟨vs, hlies'⟩ := hbelow hs hb
          have htitles := List.append_cancel_left (h.liesBelow_inj hlies hlies' hsame)
          exact absurd (List.cons.inj htitles).1 htitle
    · -- Two items.
      have hnodup : (c.listedItems p).Nodup :=
        (List.mergeSort_perm _ _).nodup_iff.2 (h.nodup_itemsIn p)
      refine ((pairwise_listedItems c p).and hnodup).imp ?_
      rintro r s ⟨hprecedes, hne⟩ -
      exact ⟨hprecedes, fun heq => hne (Node.item.inj heq)⟩
    · -- A folder or what lies below it, and an item.
      intro a ha b hb hsame
      obtain ⟨r, hr, ha⟩ := List.mem_flatMap.1 ha
      obtain ⟨s, hs, rfl⟩ := List.mem_map.1 hb
      rcases List.mem_cons.1 ha with rfl | ha
      · exact ⟨trivial, fun heq => nomatch heq⟩
      · obtain ⟨us, hlies⟩ := hbelow hr ha
        have hitem : c.LiesBelow (.item s) ts := ⟨p, (h.mem_listedItems.1 hs).2, hp⟩
        exact absurd hsame.symm (h.parent?_ne hitem hlies)

end

/-! ## Blocks -/

section

variable {depth : Nat} {parent : NodeId} {es fs : List Listed}

/-- What is in a block stays in it whatever was listed before. -/
theorem InBlock.append {before : List Listed} {e : Listed} (h : InBlock depth parent before e)
    (front : List Listed) : InBlock depth parent (front ++ before) e := by
  rcases h with hhere | ⟨k, r, above, between, rfl, hrest⟩
  · exact .inl hhere
  · exact .inr ⟨k, r, front ++ above, between, (List.append_assoc ..).symm, hrest⟩

theorem nested_of_forall (h : ∀ e ∈ es, e.depth = depth ∧ e.node.parent? = some parent) :
    Nested depth parent es := by
  rintro before e after rfl
  exact .inl (h e (by simp))

/-- Two nested lists after each other are nested. -/
theorem Nested.append (hes : Nested depth parent es) (hfs : Nested depth parent fs) :
    Nested depth parent (es ++ fs) := by
  intro before e after heq
  rcases List.append_eq_append_iff.1 heq with ⟨middle, rfl, hmiddle⟩ | ⟨middle, rfl, hmiddle⟩
  · exact (hfs middle e after hmiddle).append es
  · -- The node is the first one after the cut, or it stands before it.
    cases middle with
    | nil =>
      have hfirst := hfs [] e after hmiddle.symm
      simpa using hfirst.append before
    | cons d middle =>
      obtain ⟨rfl, -⟩ := List.cons.inj hmiddle
      exact hes before e middle rfl

theorem nested_flatMap {rs : List StoredFolder} {f : StoredFolder → List Listed}
    (h : ∀ r ∈ rs, Nested depth parent (f r)) : Nested depth parent (rs.flatMap f) := by
  induction rs with
  | nil => exact nested_of_forall (by simp)
  | cons r rs ih =>
    rw [List.flatMap_cons]
    exact (h r (by simp)).append (ih fun s hs => h s (List.mem_cons_of_mem r hs))

/-- The line of a folder opens a block for what lies below it. -/
theorem Nested.cons_folder {r : StoredFolder} (hes : Nested (depth + 1) r.id es)
    (hdeep : ∀ e ∈ es, depth < e.depth) :
    Nested depth r.parent (⟨depth, .folder r⟩ :: es) := by
  intro before e after heq
  cases before with
  | nil =>
    obtain ⟨rfl, -⟩ := List.cons.inj heq
    exact .inl ⟨rfl, rfl⟩
  | cons d before =>
    obtain ⟨rfl, rfl⟩ := List.cons.inj heq
    rcases hes before e after rfl with ⟨hdepth, hparent⟩ | ⟨k, s, above, between, rfl, hrest⟩
    · -- All lines since that of the folder are indented further than it.
      refine .inr ⟨depth, r, [], before, rfl, hdepth, hparent, ?_⟩
      intro b hb
      exact hdeep b (List.mem_append_left _ hb)
    · exact .inr ⟨k, s, _ :: above, between, rfl, hrest⟩

end

section

variable {c : Catalog} (h : c.Consistent)

include h

/-- Among the lines below a node each one lies in the block of its own parent. -/
theorem Consistent.nested_lists {depth : Nat} {p : NodeId} {es : List Listed}
    (hes : c.Lists depth p es) {ts : List String} (hp : c.nodeAt? ts = some p) :
    Nested depth p es := by
  induction hes generalizing ts with
  | @descend depth p block hlists ih =>
    -- The block of a node is one block after the other of its folders, and then its items.
    refine (nested_flatMap ?_).append (nested_of_forall ?_)
    · intro r hr
      obtain ⟨hfolder, rfl⟩ := h.mem_foldersIn.1 hr
      have hchild := h.nodeAt?_child hp hfolder
      refine (ih r hr hchild).cons_folder ?_
      intro e he
      obtain ⟨-, us, -, hdepth⟩ := (h.mem_lists (hlists r hr) hchild).1 he
      omega
    · intro e he
      obtain ⟨r, hr, rfl⟩ := List.mem_map.1 he
      exact ⟨rfl, (h.mem_listedItems.1 hr).2⟩

end

/-! ## All nodes -/

section

variable {β : Type} {t : Std.ExtTreeMap NodeId β} {key : β → NodeId}
  (hkey : ∀ {i r}, t[i]? = some r → key r = i)

include hkey

/-- What a table holds is found by its key. -/
theorem mem_values_iff {r : β} : r ∈ t.values ↔ t[key r]? = some r := by
  rw [values_eq_map_toList, List.mem_map]
  constructor
  · rintro ⟨⟨i, s⟩, hs, rfl⟩
    have hs : t[i]? = some s := Std.ExtTreeMap.mem_toList_iff_getElem?_eq_some.1 hs
    rw [hkey hs]
    exact hs
  · intro hr
    exact ⟨(key r, r), Std.ExtTreeMap.mem_toList_iff_getElem?_eq_some.2 hr, rfl⟩

theorem nodup_values : t.values.Nodup := by
  rw [values_eq_map_toList]
  refine List.Nodup.map_on ?_ ?_
  · rintro ⟨i, r⟩ hr ⟨j, s⟩ hs hrs
    obtain rfl : r = s := hrs
    have hi := hkey (Std.ExtTreeMap.mem_toList_iff_getElem?_eq_some.1 hr)
    have hj := hkey (Std.ExtTreeMap.mem_toList_iff_getElem?_eq_some.1 hs)
    rw [← hi, ← hj]
  · exact nodup_toList t

end

/-- All folders, and all items that are placed. -/
def placedNodes (c : Catalog) : List Node :=
  c.folders.map .folder ++ (c.items.filter (·.parent.isSome)).map .item

section

variable {c : Catalog} (h : c.Consistent)

include h

/-- The nodes that are placed are the folders and the items that have a parent. -/
theorem Consistent.mem_placedNodes {n : Node} : n ∈ c.placedNodes ↔ c.Places n := by
  rw [placedNodes, List.mem_append]
  -- Folders and items are in different tables, each of them under its id.
  cases n with
  | folder r =>
    have hmem : r ∈ c.folders ↔ c.folder? r.id = some r :=
      mem_values_iff fun hr => (h.folder_id hr).1
    simp [Places, hmem]
  | item r =>
    have hmem : r ∈ c.items ↔ c.item? r.id = some r :=
      mem_values_iff fun hr => h.item_id hr
    simp [Places, hmem]

/-- No node is among them twice. -/
theorem Consistent.nodup_placedNodes : c.placedNodes.Nodup := by
  have hfolders : c.folders.Nodup := nodup_values fun hr => (h.folder_id hr).1
  have hitems : c.items.Nodup := nodup_values fun hr => h.item_id hr
  refine List.nodup_append.2 ⟨?_, ?_, ?_⟩
  · exact hfolders.map fun r s hrs => Node.folder.inj hrs
  · exact (hitems.filter _).map fun r s hrs => Node.item.inj hrs
  · intro n hn m hm hnm
    obtain ⟨r, -, rfl⟩ := List.mem_map.1 hn
    obtain ⟨s, -, rfl⟩ := List.mem_map.1 hm
    cases hnm

/-- Going down from the root lists each folder and each placed item once. -/
theorem Consistent.lists_perm {es : List Listed} (hes : c.Lists 0 rootId es) :
    (es.map (·.node)).Perm c.placedNodes := by
  have hnodup : (es.map (·.node)).Nodup := by
    -- A node that is met twice would have one parent both times.
    rw [List.Nodup, List.pairwise_map]
    refine (h.pairwise_lists hes (nodeAt?_nil c)).imp ?_
    intro a b hab heq
    exact (hab (congrArg Node.parent? heq)).2 heq
  refine (List.perm_ext_iff_of_nodup hnodup h.nodup_placedNodes).2 ?_
  intro n
  rw [h.mem_placedNodes, List.mem_map]
  constructor
  · rintro ⟨e, he, rfl⟩
    exact ((h.mem_lists_root hes).1 he).1
  · intro hn
    obtain ⟨ts, hts⟩ := h.exists_liesBelow hn
    exact ⟨⟨ts.length, n⟩, (h.mem_lists_root hes).2 ⟨hn, ts, hts, rfl⟩, rfl⟩

end

/--
**An outline lists each node once.**  In every state that requests can lead to, going down from the
root comes to an end and lists one sequence of nodes, and the outline has a line for each of them, its
title behind two blanks for each folder above it.  These nodes are the folders and the items that have a parent, each of them once, and no canonical
item.  Each stands in the block of the node above it, and its line is indented by the number of
folders above it, whose titles its ancestors spell.  Of two nodes of one folder the one that comes
first in the order of titles, or of positions and titles, is listed first.
-/
theorem outline_lists_each_node_once (rs : List Request) :
    ∃ es, (∀ fs, (run rs empty).Lists 0 rootId fs ↔ fs = es) ∧
      (run rs empty).outline = String.join (es.map fun e =>
        String.ofList (List.replicate (2 * e.depth) ' ') ++ e.node.text) ∧
      (es.map (·.node)).Perm
        ((run rs empty).folders.map Node.folder ++
          ((run rs empty).items.filter (·.parent.isSome)).map Node.item) ∧
      Nested 0 rootId es ∧
      (∀ e ∈ es, ∃ p ts, e.node.parent? = some p ∧ (run rs empty).Spells p ts ∧
        e.depth = ts.length) ∧
      es.Pairwise fun a b => a.node.parent? = b.node.parent? → a.node.Precedes b.node := by
  have h := consistent_empty.run rs
  have hroot := nodeAt?_nil (run rs empty)
  -- This is the budget that an outline is written with.
  have hdeep : (run rs empty).folderCount <
      ([] : List String).length + ((run rs empty).folderCount + 1) := by
    simp
  obtain ⟨es, hes, hlines⟩ := h.exists_lists hroot hdeep 0
  refine ⟨es, ?_, ?_, h.lists_perm hes, h.nested_lists hes hroot, ?_, ?_⟩
  · intro fs
    constructor
    · intro hfs
      exact hfs.unique hes
    · rintro rfl
      exact hes
  · rw [outline, outlineLines, hlines, List.map_map]
    exact congrArg String.join (List.map_congr_left fun e _ => e.text_line)
  · intro e he
    obtain ⟨-, ts, ⟨p, hparent, hts⟩, hdepth⟩ := (h.mem_lists_root hes).1 he
    exact ⟨p, ts, hparent, h.spells_of_nodeAt? hts, hdepth⟩
  · exact (h.pairwise_lists hes hroot).imp fun hab hsame => (hab hsame).1

end MediaShelves.Catalog
