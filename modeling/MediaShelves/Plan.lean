import MediaShelves.Origin

/-!
# Plans

A plan is data: the placements of one item, in the order in which they are carried out.
-/

namespace MediaShelves

/-- One item below one trail. -/
structure Placement where
  item : MediaItem
  trail : Trail
  /-- The class that the last folder takes on if it has none of its own yet. -/
  hint : Option String
deriving DecidableEq, Repr

/-- Placements in the order in which they are carried out. -/
abbrev Plan := List Placement

namespace Plan

/-- A plan that stands only under a condition. -/
def when (condition : Bool) (plan : Plan) : Plan :=
  if condition then plan else []

end Plan

end MediaShelves
