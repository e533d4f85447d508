import MediaShelves.Shelves

/-!
# Cached shelves

Shelves with a memory of the trails that were opened.  A trail that brings nothing new to its
folders is answered from memory; every other trail goes through to the shelves behind.
-/

namespace MediaShelves

/-- Shelves with a memory of the trails that were opened. -/
structure Cached (σ : Type) where
  inner : σ
  /-- The last folders of trails, by the paths of the trails. -/
  known : Keyed NodeId
  /-- How many trails were answered from memory. -/
  hits : Nat

namespace Cached

/-- Shelves with a memory that is still empty. -/
def ofShelves {σ : Type} (s : σ) : Cached σ :=
  ⟨s, Keyed.empty, 0⟩

variable {σ : Type} [Shelves σ]

/-- The answer from memory, for a trail of bare folders. -/
def fromMemory? (s : Cached σ) (t : Trail) : Option NodeId :=
  if t.all Folder.isBare then s.known.find? (Trail.path t) else none

/-- Opens a trail, from memory if that is possible. -/
def openTrail (t : Trail) (s : Cached σ) : Option NodeId × Cached σ :=
  match s.fromMemory? t with
  | some id => (some id, { s with hits := s.hits + 1 })
  | none =>
    match Shelves.openTrail t s.inner with
    | (some id, inner) => (some id, { s with inner, known := s.known.insert (Trail.path t) id })
    | (none, inner) => (none, { s with inner })

instance : Shelves (Cached σ) where
  openTrail := openTrail
  place x folder hint s :=
    let (id, inner) := Shelves.place x folder hint s.inner
    (id, { s with inner })
  revise x s :=
    let (id, inner) := Shelves.revise x s.inner
    (id, { s with inner })
  placed? s := Shelves.placed? s.inner
  canonical? s := Shelves.canonical? s.inner

end Cached

end MediaShelves
