import MediaShelves.Shelves

/-!
# Refusing shelves

Shelves that refuse some items: an item that is refused leaves no trace.
-/

namespace MediaShelves

/-- Shelves that refuse the items that a test tells. -/
structure Refusing (σ : Type) where
  inner : σ
  refuses : MediaItem → Bool

instance {σ : Type} [Shelves σ] : Shelves (Refusing σ) where
  openTrail t s :=
    let (id, inner) := Shelves.openTrail t s.inner
    (id, { s with inner })
  place x folder hint s :=
    if s.refuses x then (none, s)
    else
      let (id, inner) := Shelves.place x folder hint s.inner
      (id, { s with inner })
  revise x s :=
    let (id, inner) := Shelves.revise x s.inner
    (id, { s with inner })
  placed? s := Shelves.placed? s.inner
  canonical? s := Shelves.canonical? s.inner

end MediaShelves
