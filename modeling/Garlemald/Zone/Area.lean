import Garlemald.Common.Math
import Garlemald.Library.Truncation
import Mathlib.Data.List.AList

/-!
The body of an area: the table of its actors, and a grid of cells that hold their ids.
Coordinates and distances are exact rationals.
-/

namespace Garlemald.Zone

open Library Common

def BOUNDING_GRID_SIZE : ℤ := 50
def AREA_MIN : ℤ := -5000
def AREA_MAX : ℤ := 5000
def NUM_X_BLOCKS : ℤ := (AREA_MAX - AREA_MIN) / BOUNDING_GRID_SIZE
def NUM_Y_BLOCKS : ℤ := (AREA_MAX - AREA_MIN) / BOUNDING_GRID_SIZE
def HALF_WIDTH : ℤ := NUM_X_BLOCKS / 2
def HALF_HEIGHT : ℤ := NUM_Y_BLOCKS / 2

inductive ActorKind where
  | other
  | player
  | npc
  | battleNpc
  | ally
  | pet
deriving DecidableEq

abbrev Cell := ℤ × ℤ

structure StoredActor where
  actorId : UInt32
  kind : ActorKind
  position : Vector3 ℚ
  grid : Cell
  isAlive : Bool
deriving DecidableEq

inductive AreaEvent where
  | actorAdded (areaId actorId : UInt32)
  | actorRemoved (areaId actorId : UInt32)
  | actorMoved (areaId actorId : UInt32) (oldGrid newGrid : Cell)
deriving DecidableEq

structure AreaCore where
  actorId : UInt32
  isIsolated : Bool
  actors : AList fun _ : UInt32 => StoredActor
  grid : ℕ → List UInt32

def asI32 (q : ℚ) : ℤ := max (-2 ^ 31) (min (truncate q) (2 ^ 31 - 1))

/-- A result of arithmetic in 32 bits: a checked build stops where another wraps. -/
def i32 (checked : Bool) (result : ℤ) : Option ℤ :=
  if -2 ^ 31 ≤ result ∧ result ≤ 2 ^ 31 - 1 then some result
  else if checked then none else some (result.bmod (2 ^ 32))

def inclusive (low high : ℤ) : List ℤ :=
  (List.range (high + 1 - low).toNat).map fun i : ℕ => low + i

namespace AreaCore

def new (actorId : UInt32) (isIsolated : Bool) : AreaCore where
  actorId := actorId
  isIsolated := isIsolated
  actors := ∅
  grid := fun _ => []

/-- The sums are far from the bounds of 32 bits. -/
def posToGrid (x z : ℚ) : Cell :=
  let gx := (asI32 x).tdiv BOUNDING_GRID_SIZE + HALF_WIDTH
  let gy := (asI32 z).tdiv BOUNDING_GRID_SIZE + HALF_HEIGHT
  (max 0 (min gx (NUM_X_BLOCKS - 1)), max 0 (min gy (NUM_Y_BLOCKS - 1)))

def gridIndex (cell : Cell) : ℕ := (cell.2 * NUM_X_BLOCKS + cell.1).toNat

def cell (core : AreaCore) (c : Cell) : List UInt32 := core.grid (gridIndex c)

def setCell (core : AreaCore) (c : Cell) (ids : List UInt32) : AreaCore :=
  { core with grid := Function.update core.grid (gridIndex c) ids }

def addActor (core : AreaCore) (given : StoredActor) : AreaCore × List AreaEvent :=
  let cell := posToGrid given.position.x given.position.z
  let actor := { given with grid := cell }
  let stored := { core with actors := core.actors.insert actor.actorId actor }
  let push (core : AreaCore) : AreaCore × List AreaEvent :=
    (core.setCell cell (core.cell cell ++ [actor.actorId]),
      [.actorAdded core.actorId actor.actorId])
  match core.actors.lookup actor.actorId with
  | none => push stored
  | some prev =>
      if prev.grid ≠ cell ∧ actor.actorId ∈ stored.cell prev.grid then
        push (stored.setCell prev.grid ((stored.cell prev.grid).erase actor.actorId))
      else (stored, [])

def removeActor (core : AreaCore) (actorId : UInt32) : AreaCore × List AreaEvent × Bool :=
  match core.actors.lookup actorId with
  | none => (core, [], false)
  | some prev =>
      let erased := { core with actors := core.actors.erase actorId }
      (erased.setCell prev.grid ((erased.cell prev.grid).erase actorId),
        [.actorRemoved core.actorId actorId], true)

def updateActorPosition (core : AreaCore) (actorId : UInt32) (newPosition : Vector3 ℚ) :
    AreaCore × List AreaEvent :=
  match core.actors.lookup actorId with
  | none => (core, [])
  | some actor =>
      let newCell := posToGrid newPosition.x newPosition.z
      let oldCell := actor.grid
      let moved := { core with
        actors := core.actors.insert actorId
          { actor with position := newPosition, grid := newCell } }
      if newCell = oldCell then (moved, [])
      else
        let left := moved.setCell oldCell ((moved.cell oldCell).erase actorId)
        (left.setCell newCell (left.cell newCell ++ [actorId]),
          [.actorMoved core.actorId actorId oldCell newCell])

def setActorAlive (core : AreaCore) (actorId : UInt32) (isAlive : Bool) : AreaCore :=
  match core.actors.lookup actorId with
  | none => core
  | some actor =>
      { core with actors := core.actors.insert actorId { actor with isAlive := isAlive } }

def clear (core : AreaCore) : AreaCore :=
  { core with
    actors := ∅
    grid := fun _ => [] }

def cellsBetween (xMin xMax yMin yMax : ℤ) : List Cell :=
  (inclusive yMin yMax).flatMap fun y => (inclusive xMin xMax).map fun x => (x, y)

def collected (core : AreaCore) (excludeActorId : Option UInt32) (id : UInt32) :
    Option StoredActor :=
  if some id = excludeActorId then none
  else
    (core.actors.lookup id).filter fun a => !(core.isIsolated && a.kind == .player)

def gather (core : AreaCore) (excludeActorId : Option UInt32) (cells : List Cell) :
    List StoredActor :=
  cells.flatMap fun c => (core.cell c).filterMap (core.collected excludeActorId)

/-- Nothing where the build stops at an overflow. -/
def collectActorsInCells (core : AreaCore) (checked : Bool) (gx gy radiusCells : ℤ)
    (excludeActorId : Option UInt32) : Option (List StoredActor) := do
  let yMin ← i32 checked (gy - radiusCells)
  let yMax ← i32 checked (gy + radiusCells)
  let xMin ← i32 checked (gx - radiusCells)
  let xMax ← i32 checked (gx + radiusCells)
  some (core.gather excludeActorId (cellsBetween (max xMin 0) (min xMax (NUM_X_BLOCKS - 1))
    (max yMin 0) (min yMax (NUM_Y_BLOCKS - 1))))

def radiusCells (checkDistance : ℚ) : ℤ := max (asI32 ⌈checkDistance / 50⌉) 0

def actorsAround (core : AreaCore) (checked : Bool) (centerActorId : UInt32)
    (checkDistance : ℚ) : Option (List StoredActor) :=
  match core.actors.lookup centerActorId with
  | none => some []
  | some center =>
      core.collectActorsInCells checked center.grid.1 center.grid.2
        (radiusCells checkDistance) (some centerActorId)

end AreaCore

theorem mem_inclusive {low high x : ℤ} : x ∈ inclusive low high ↔ low ≤ x ∧ x ≤ high := by
  rw [inclusive, List.mem_map]
  constructor
  · rintro ⟨i, member, rfl⟩
    rw [List.mem_range] at member
    omega
  · intro within
    refine ⟨(x - low).toNat, ?_, by omega⟩
    rw [List.mem_range]
    omega

theorem nodup_inclusive (low high : ℤ) : (inclusive low high).Nodup := by
  refine List.Nodup.map ?_ List.nodup_range
  intro i j same
  simpa using same

namespace AreaCore

theorem mem_cellsBetween {xMin xMax yMin yMax : ℤ} {c : Cell} :
    c ∈ cellsBetween xMin xMax yMin yMax ↔
      (xMin ≤ c.1 ∧ c.1 ≤ xMax) ∧ yMin ≤ c.2 ∧ c.2 ≤ yMax := by
  obtain ⟨x, y⟩ := c
  simp only [cellsBetween, List.mem_flatMap, List.mem_map, mem_inclusive, Prod.mk.injEq]
  constructor
  · rintro ⟨y', inY, x', inX, rfl, rfl⟩
    exact ⟨inX, inY⟩
  · rintro ⟨inX, inY⟩
    exact ⟨y, inY, x, inX, rfl, rfl⟩

theorem nodup_cellsBetween (xMin xMax yMin yMax : ℤ) :
    (cellsBetween xMin xMax yMin yMax).Nodup := by
  rw [cellsBetween, List.nodup_flatMap]
  constructor
  · intro y _
    refine (nodup_inclusive xMin xMax).map ?_
    intro x x' same
    exact congrArg Prod.fst same
  · refine (nodup_inclusive yMin yMax).imp ?_
    intro y y' other c inRow inRow'
    obtain ⟨x, _, rfl⟩ := List.mem_map.mp inRow
    obtain ⟨x', _, same⟩ := List.mem_map.mp inRow'
    exact other (congrArg Prod.snd same).symm

def InBounds (c : Cell) : Prop :=
  (0 ≤ c.1 ∧ c.1 < NUM_X_BLOCKS) ∧ 0 ≤ c.2 ∧ c.2 < NUM_Y_BLOCKS

theorem posToGrid_inBounds (x z : ℚ) : InBounds (posToGrid x z) := by
  have blocks : 0 < NUM_X_BLOCKS ∧ 0 < NUM_Y_BLOCKS := by decide
  unfold InBounds posToGrid
  dsimp only
  omega

theorem gridIndex_injective {c c' : Cell} (h : InBounds c) (h' : InBounds c')
    (same : gridIndex c = gridIndex c') : c = c' := by
  have blocks : NUM_X_BLOCKS = 200 := by decide
  unfold InBounds at h h'
  unfold gridIndex at same
  rw [blocks] at h h' same
  exact Prod.ext (by omega) (by omega)

theorem cell_setCell {core : AreaCore} {c c' : Cell} (h : InBounds c) (h' : InBounds c')
    (ids : List UInt32) :
    (core.setCell c ids).cell c' = if c' = c then ids else core.cell c' := by
  by_cases same : c' = c
  · rw [if_pos same, same]
    exact Function.update_self _ _ _
  · have other : gridIndex c' ≠ gridIndex c := fun index => same (gridIndex_injective h' h index)
    rw [if_neg same]
    exact Function.update_of_ne other _ _

/-- Each cell holds once the ids that are placed in it, and no others. -/
def Holds (core : AreaCore) (placed : UInt32 → Option Cell) : Prop :=
  ∀ c, InBounds c → ∀ id, (core.cell c).count id = if placed id = some c then 1 else 0

theorem Holds.push {core : AreaCore} {placed : UInt32 → Option Cell} (h : core.Holds placed)
    {id : UInt32} (absent : placed id = none) {c : Cell} (within : InBounds c) :
    (core.setCell c (core.cell c ++ [id])).Holds (Function.update placed id (some c)) := by
  intro c' within' id'
  rw [cell_setCell within within']
  by_cases sameId : id' = id
  · subst sameId
    rw [Function.update_self]
    have before : ∀ c, InBounds c → (core.cell c).count id' = 0 := by
      intro c inside
      rw [h c inside, absent]
      rfl
    by_cases sameCell : c' = c
    · simp [sameCell, before c within]
    · simp [sameCell, Ne.symm sameCell, before c' within']
  · rw [Function.update_of_ne sameId, ← h c' within']
    by_cases sameCell : c' = c
    · rw [if_pos sameCell, List.count_append, sameCell]
      simp [Ne.symm sameId]
    · rw [if_neg sameCell]

theorem Holds.erase {core : AreaCore} {placed : UInt32 → Option Cell} (h : core.Holds placed)
    {id : UInt32} {c : Cell} (present : placed id = some c) (within : InBounds c) :
    (core.setCell c ((core.cell c).erase id)).Holds (Function.update placed id none) := by
  intro c' within' id'
  rw [cell_setCell within within']
  by_cases sameId : id' = id
  · subst sameId
    rw [Function.update_self]
    by_cases sameCell : c' = c
    · simp [sameCell, h c within, present]
    · simp [sameCell, Ne.symm sameCell, h c' within', present]
  · rw [Function.update_of_ne sameId, ← h c' within']
    by_cases sameCell : c' = c
    · rw [if_pos sameCell, List.count_erase_of_ne sameId, sameCell]
    · rw [if_neg sameCell]

end AreaCore

end Garlemald.Zone
