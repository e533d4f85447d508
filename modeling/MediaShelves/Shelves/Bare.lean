import MediaShelves.Shelves

/-!
# Bare shelves

Shelves that take everything but tell nothing about what is on them.
-/

namespace MediaShelves

/-- Shelves that do not tell what is on them. -/
structure Bare (σ : Type) where
  inner : σ

instance {σ : Type} [Shelves σ] : Shelves (Bare σ) where
  openTrail t s :=
    let (id, inner) := Shelves.openTrail t s.inner
    (id, ⟨inner⟩)
  place x folder hint s :=
    let (id, inner) := Shelves.place x folder hint s.inner
    (id, ⟨inner⟩)
  revise x s :=
    let (id, inner) := Shelves.revise x s.inner
    (id, ⟨inner⟩)

end MediaShelves
