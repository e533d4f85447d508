/-!
# TOML values

What a TOML document means, and the trees that a document builds up line by line.  A tree remembers
how each of its tables came about, because a table is defined in one way and at one place only.
-/

namespace MediaShelves.Toml

/-! ## Values -/

/-- The value of a document or a part of it. -/
inductive Value where
  | string (s : String)
  | integer (n : Int)
  | boolean (b : Bool)
  /-- A number with a fraction or an exponent, as it is written. -/
  | float (text : String)
  /-- A date, a time or both, as they are written. -/
  | dateTime (text : String)
  | array (items : List Value)
  | table (entries : List (String × Value))
deriving Repr

/-! ## Trees -/

/-- How a table came about. -/
inductive Definition where
  /-- By its own header, or between braces. -/
  | explicit
  /-- As part of the header of another table. -/
  | implied
  /-- As part of a dotted key. -/
  | dotted
deriving Repr, DecidableEq

/-- A part of a document that is being read. -/
inductive Node where
  /-- A value that nothing can be added to. -/
  | leaf (v : Value)
  | table (definition : Definition) (entries : List (String × Node))
  /-- The tables of repeated headers, the last one first. -/
  | tables (items : List (List (String × Node)))
deriving Repr

/-- The entries of a table that is being read. -/
abbrev Entries := List (String × Node)

/-- Replaces the node under a key, or adds it at the end. -/
def Entries.set (key : String) (n : Node) : Entries → Entries
  | [] => [(key, n)]
  | (k, m) :: rest => if k = key then (k, n) :: rest else (k, m) :: Entries.set key n rest

/--
Changes the table at the end of a path.  Tables on the way are created as `created` tells; a dotted
path does not go through tables that have a definition of their own.
-/
def Entries.change (created : Definition) (edit : Definition → Entries → Option Entries) :
    (path : List String) → Definition → Entries → Option Entries
  | [], definition, entries => edit definition entries
  | key :: path, _, entries =>
    match entries.lookup key with
    | none =>
      (Entries.change created edit path created []).map fun inner =>
        Entries.set key (.table created inner) entries
    | some (.leaf _) => none
    | some (.tables []) => none
    | some (.tables (item :: items)) =>
      (Entries.change created edit path .explicit item).map fun item =>
        Entries.set key (.tables (item :: items)) entries
    | some (.table definition inner) =>
      if created = .dotted ∧ definition = .explicit then none
      else
        (Entries.change created edit path definition inner).map fun inner =>
          Entries.set key (.table definition inner) entries

/-- Adds the entry of a key that may be dotted. -/
def Entries.assign (path : List String) (key : String) (v : Value) (entries : Entries) :
    Option Entries :=
  Entries.change .dotted
    (fun definition entries =>
      -- A dotted key ends in a dotted table, and only there.
      if decide (definition = .dotted) == path.isEmpty then none
      else if (entries.lookup key).isSome then none
      else some (Entries.set key (.leaf v) entries))
    path .explicit entries

/-- Defines the table of a header. -/
def Entries.openTable (path : List String) (key : String) (root : Entries) : Option Entries :=
  Entries.change .implied
    (fun _ entries =>
      match entries.lookup key with
      | none => some (Entries.set key (.table .explicit []) entries)
      -- A table that other headers only implied may still get its own.
      | some (.table .implied inner) => some (Entries.set key (.table .explicit inner) entries)
      | _ => none)
    path .explicit root

/-- Adds a table for a repeated header. -/
def Entries.openItem (path : List String) (key : String) (root : Entries) : Option Entries :=
  Entries.change .implied
    (fun _ entries =>
      match entries.lookup key with
      | none => some (Entries.set key (.tables [[]]) entries)
      | some (.tables items) => some (Entries.set key (.tables ([] :: items)) entries)
      | _ => none)
    path .explicit root

/-- Adds the entry of a key below the header at hand. -/
def Entries.assignBelow (header path : List String) (key : String) (v : Value) (root : Entries) :
    Option Entries :=
  Entries.change .implied (fun _ entries => entries.assign path key v) header .explicit root

mutual

/-- The value that a finished node means. -/
def Node.value : Node → Value
  | .leaf v => v
  | .table _ entries => .table (Node.entryValues entries)
  | .tables items => .array (Node.itemValues items).reverse

/-- The values of the entries of a table. -/
def Node.entryValues : List (String × Node) → List (String × Value)
  | [] => []
  | (key, n) :: rest => (key, n.value) :: Node.entryValues rest

/-- The values of repeated tables. -/
def Node.itemValues : List (List (String × Node)) → List Value
  | [] => []
  | item :: rest => .table (Node.entryValues item) :: Node.itemValues rest

end

end MediaShelves.Toml
