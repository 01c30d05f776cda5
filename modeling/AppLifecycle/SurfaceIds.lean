import AppLifecycle.Handle

/-!
# Persistent ids of surfaces

An application keeps the id of a window and presents it again after a restart. The table pairs
ids with surfaces, one to one. An id that the table issues itself is made of a prefix and a
number that grows with each one; numbers whose id is taken are skipped.
-/

namespace AppLifecycle

/-- Which surface goes by which id. -/
structure SurfaceIds where
  /-- What issued ids start with. -/
  stem : String
  /-- The number issued last. Each number up to it was issued by a call or skipped as a call had
  handed its id in, so a counter of 64 bits holds it as long as there have been fewer than 2^64
  calls. -/
  issued : Nat
  bySurface : KeyMap SurfaceHandle SurfaceId
  byId : KeyMap SurfaceId SurfaceHandle
  deriving DecidableEq

namespace SurfaceIds

/-- A table that has issued nothing yet. -/
def withStem (stem : String) : SurfaceIds where
  stem := stem
  issued := 0
  bySurface := ∅
  byId := ∅

/-- The usual table. -/
def empty : SurfaceIds :=
  withStem "surface"

instance : Inhabited SurfaceIds := ⟨empty⟩

/-- The id that carries a number. -/
def numbered (ids : SurfaceIds) (number : Nat) : SurfaceId :=
  ⟨ids.stem ++ "-" ++ toString number⟩

/-- The first number after `number` whose id is free, among that many and the one after. -/
def firstFree (ids : SurfaceIds) (number : Nat) : Nat → Nat
  | 0 => number + 1
  | tries + 1 =>
      if ids.byId.contains (ids.numbered (number + 1)) then ids.firstFree (number + 1) tries
      else number + 1

/-- The id of a surface. A surface without one gets the next free id; of so many numbers as
there are ids in use, and one more, one is free. -/
def idFor (surface : SurfaceHandle) (ids : SurfaceIds) : SurfaceIds × SurfaceId :=
  match ids.bySurface.find? surface with
  | some id => (ids, id)
  | none =>
      let number := ids.firstFree ids.issued ids.byId.size
      let id := ids.numbered number
      ({ ids with
          issued := number
          bySurface := ids.bySurface.insert surface id
          byId := ids.byId.insert id surface },
        id)

/-- The surface that goes by an id. -/
def surfaceFor? (ids : SurfaceIds) (id : SurfaceId) : Option SurfaceHandle :=
  ids.byId.find? id

/-- Frees the id of a surface. -/
def forget (surface : SurfaceHandle) (ids : SurfaceIds) : SurfaceIds :=
  match ids.bySurface.find? surface with
  | some id =>
      { ids with
        bySurface := ids.bySurface.erase surface
        byId := ids.byId.erase id }
  | none => ids

/-- Gives an id to a surface. The surface's former id is freed, and another surface that went by
the id is left without one. -/
def associate (id : SurfaceId) (surface : SurfaceHandle) (ids : SurfaceIds) : SurfaceIds :=
  let freed := ids.forget surface
  let unnamed :=
    match freed.byId.find? id with
    | some former => freed.bySurface.erase former
    | none => freed.bySurface
  { freed with
    bySurface := unnamed.insert surface id
    byId := freed.byId.insert id surface }

end SurfaceIds

end AppLifecycle
