import MediaShelves.ConfigError
import MediaShelves.Plan

/-!
# Shelves

What a plan needs of the place where it is carried out: trails are opened and items are placed.
-/

namespace MediaShelves

/-- Something that plans can be carried out on. -/
class Shelves (σ : Type) where
  /-- Makes sure that the folders of a trail exist; gives the last one, if there is any. -/
  openTrail : Trail → σ → Option NodeId × σ
  /-- Puts an item into a folder; gives the id of what was added, or nothing if nothing was. -/
  place : (x : MediaItem) → (folder : NodeId) → (hint : Option String) → σ → Option NodeId × σ
  /-- Changes the title, the class and the metadata of an item that exists. -/
  revise : MediaItem → σ → Option NodeId × σ
  /-- The item in a folder that is in the way of another copy. -/
  placed? : σ → MediaItem → NodeId → Option NodeId := fun _ _ _ => none
  /-- The canonical item of a location. -/
  canonical? : σ → String → Option MediaItem := fun _ _ => none

section

variable {σ : Type} [Shelves σ]

/-- Carries out one placement. -/
def Placement.carryOut (p : Placement) (s : σ) : Option NodeId × σ :=
  match Shelves.openTrail p.trail s with
  | (some folder, s) => Shelves.place p.item folder p.hint s
  | (none, s) => (none, s)

/-- Carries out a plan; gives the ids of what was added. -/
def Plan.carryOut : Plan → σ → List NodeId × σ
  | [], s => ([], s)
  | p :: rest, s =>
    let (id, s) := p.carryOut s
    let (ids, s) := Plan.carryOut rest s
    (id.toList ++ ids, s)

/-- Carries out a plan unless the configuration has an error. -/
def carryOutPlan (plan : Except ConfigError Plan) (s : σ) :
    Except ConfigError (List NodeId) × σ :=
  match plan with
  | .ok plan =>
    let (ids, s) := plan.carryOut s
    (.ok ids, s)
  | .error e => (.error e, s)

end

end MediaShelves
