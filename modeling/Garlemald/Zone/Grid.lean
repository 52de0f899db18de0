import Garlemald.Library.Runs
import Garlemald.Zone.Area

/-!
The table and the grid of an area over its whole life, and what a query for the actors
around another one finds.
-/

namespace Garlemald.Zone

open Library Common

inductive AreaOperation where
  | addActor (actor : StoredActor)
  | updateActorPosition (actorId : UInt32) (newPosition : Vector3 ℚ)
  | setActorAlive (actorId : UInt32) (isAlive : Bool)
  | removeActor (actorId : UInt32)
  | clear

namespace AreaCore

def step (core : AreaCore) : AreaOperation → Option AreaCore
  | .addActor actor => some (core.addActor actor).1
  | .updateActorPosition actorId newPosition =>
      some (core.updateActorPosition actorId newPosition).1
  | .setActorAlive actorId isAlive => some (core.setActorAlive actorId isAlive)
  | .removeActor actorId => some (core.removeActor actorId).1
  | .clear => some core.clear

def placed (core : AreaCore) (id : UInt32) : Option Cell := (core.actors.lookup id).map (·.grid)

/-- The table and the grid agree, on the cells that the positions of the actors give. -/
structure Sorted (core : AreaCore) : Prop where
  rows : ∀ id a, core.actors.lookup id = some a →
    a.actorId = id ∧ a.grid = posToGrid a.position.x a.position.z
  cells : core.Holds core.placed

variable {core : AreaCore}

theorem Sorted.inBounds (h : core.Sorted) {id : UInt32} {a : StoredActor}
    (stored : core.actors.lookup id = some a) : InBounds a.grid := by
  rw [(h.rows id a stored).2]
  exact posToGrid_inBounds _ _

theorem sorted_insert {core core' : AreaCore} (h : core.Sorted) {a : StoredActor}
    (rows : core'.actors = core.actors.insert a.actorId a)
    (row : a.grid = posToGrid a.position.x a.position.z)
    (cells : core'.Holds (Function.update core.placed a.actorId (some a.grid))) :
    core'.Sorted := by
  constructor
  · intro id a' stored
    rw [rows] at stored
    by_cases same : id = a.actorId
    · rw [same, AList.lookup_insert] at stored
      cases stored
      exact ⟨same.symm, row⟩
    · rw [AList.lookup_insert_ne same] at stored
      exact h.rows id a' stored
  · have places : core'.placed = Function.update core.placed a.actorId (some a.grid) := by
      funext id
      rw [placed, rows]
      by_cases same : id = a.actorId
      · rw [same, AList.lookup_insert, Function.update_self]
        rfl
      · rw [AList.lookup_insert_ne same, Function.update_of_ne same, placed]
    rw [places]
    exact cells

theorem Sorted.holds {core core' : AreaCore} (h : core.Sorted) (same : core'.grid = core.grid) :
    core'.Holds core.placed := by
  intro c within id
  rw [cell, same]
  exact h.cells c within id

theorem Sorted.holds_same {core core' : AreaCore} (h : core.Sorted)
    (same : core'.grid = core.grid) {id : UInt32} {c : Cell} (there : core.placed id = some c) :
    core'.Holds (Function.update core.placed id (some c)) := by
  rw [← there, Function.update_eq_self]
  exact h.holds same

theorem Sorted.holds_moved {core stored : AreaCore} (h : core.Sorted)
    (same : stored.grid = core.grid) {id : UInt32} {old new : Cell}
    (there : core.placed id = some old) (withinOld : InBounds old) (withinNew : InBounds new) :
    let left := stored.setCell old ((stored.cell old).erase id)
    (left.setCell new (left.cell new ++ [id])).Holds
      (Function.update core.placed id (some new)) := by
  have erased := (h.holds same).erase there withinOld
  have pushed := erased.push (Function.update_self id none core.placed) withinNew
  rw [Function.update_idem] at pushed
  exact pushed

theorem addActor_sorted (h : core.Sorted) (given : StoredActor) :
    (core.addActor given).1.Sorted := by
  let actor : StoredActor :=
    { given with grid := posToGrid given.position.x given.position.z }
  have row : actor.grid = posToGrid actor.position.x actor.position.z := rfl
  have within : InBounds actor.grid := posToGrid_inBounds given.position.x given.position.z
  have kept : ∀ core' : AreaCore, core'.actors = core.actors.insert actor.actorId actor →
      core'.Holds (Function.update core.placed actor.actorId (some actor.grid)) → core'.Sorted :=
    fun core' rows cells => sorted_insert h rows row cells
  unfold addActor
  dsimp only
  cases found : core.actors.lookup given.actorId with
  | none =>
      have absent : core.placed actor.actorId = none := by
        rw [placed, found]
        rfl
      apply kept _ rfl
      exact Holds.push (h.holds rfl) absent within
  | some prev =>
      have there : core.placed actor.actorId = some prev.grid := by
        rw [placed, found]
        rfl
      dsimp only
      split
      · apply kept _ rfl
        apply h.holds_moved _ there (h.inBounds found) within
        rfl
      · next stays =>
          have once := h.cells prev.grid (h.inBounds found) actor.actorId
          rw [if_pos there] at once
          have held : actor.actorId ∈ core.cell prev.grid :=
            List.count_pos_iff.mp (by rw [once]; exact Nat.one_pos)
          have same : prev.grid = actor.grid := by
            by_contra other
            exact stays ⟨other, held⟩
          apply kept _ rfl
          rw [← same]
          exact h.holds_same rfl there

theorem updateActorPosition_sorted (h : core.Sorted) (actorId : UInt32) (newPosition : Vector3 ℚ) :
    (core.updateActorPosition actorId newPosition).1.Sorted := by
  unfold updateActorPosition
  cases found : core.actors.lookup actorId with
  | none => exact h
  | some prev =>
      obtain ⟨key, _⟩ := h.rows actorId prev found
      let actor : StoredActor :=
        { prev with
          position := newPosition
          grid := posToGrid newPosition.x newPosition.z }
      have row : actor.grid = posToGrid actor.position.x actor.position.z := rfl
      have within : InBounds actor.grid := posToGrid_inBounds newPosition.x newPosition.z
      have there : core.placed actorId = some prev.grid := by
        rw [placed, found]
        rfl
      have kept : ∀ core' : AreaCore, core'.actors = core.actors.insert actorId actor →
          core'.Holds (Function.update core.placed actorId (some actor.grid)) →
            core'.Sorted := by
        intro core' rows cells
        rw [← key] at rows cells
        exact sorted_insert h rows row cells
      dsimp only
      split
      · next same =>
          apply kept _ rfl
          have stays : actor.grid = prev.grid := same
          rw [stays]
          exact h.holds_same rfl there
      · apply kept _ rfl
        apply h.holds_moved _ there (h.inBounds found) within
        rfl

theorem setActorAlive_sorted (h : core.Sorted) (actorId : UInt32) (isAlive : Bool) :
    (core.setActorAlive actorId isAlive).Sorted := by
  unfold setActorAlive
  cases found : core.actors.lookup actorId with
  | none => exact h
  | some actor =>
      obtain ⟨key, row⟩ := h.rows actorId actor found
      have there : core.placed actorId = some actor.grid := by
        rw [placed, found]
        rfl
      let changed : StoredActor := { actor with isAlive := isAlive }
      have changedRow : changed.grid = posToGrid changed.position.x changed.position.z := row
      subst key
      exact sorted_insert h rfl changedRow (h.holds_same rfl there)

theorem removeActor_sorted (h : core.Sorted) (actorId : UInt32) :
    (core.removeActor actorId).1.Sorted := by
  unfold removeActor
  cases found : core.actors.lookup actorId with
  | none => exact h
  | some prev =>
      have there : core.placed actorId = some prev.grid := by
        rw [placed, found]
        rfl
      let erased : AreaCore := { core with actors := core.actors.erase actorId }
      have cells : (erased.setCell prev.grid ((erased.cell prev.grid).erase actorId)).Holds
          (Function.update core.placed actorId none) :=
        Holds.erase (h.holds rfl) there (h.inBounds found)
      constructor
      · intro id a stored
        have lookup : (core.actors.erase actorId).lookup id = some a := stored
        by_cases same : id = actorId
        · rw [same, AList.lookup_erase] at lookup
          cases lookup
        · rw [AList.lookup_erase_ne same] at lookup
          exact h.rows id a lookup
      · have places : (erased.setCell prev.grid ((erased.cell prev.grid).erase actorId)).placed =
            Function.update core.placed actorId none := by
          funext id
          show ((core.actors.erase actorId).lookup id).map (·.grid) = _
          by_cases same : id = actorId
          · rw [same, AList.lookup_erase, Function.update_self]
            rfl
          · rw [AList.lookup_erase_ne same, Function.update_of_ne same, placed]
        rw [← places] at cells
        exact cells

theorem empty_sorted (core : AreaCore) (rows : core.actors = ∅) (cells : core.grid = fun _ => []) :
    core.Sorted := by
  constructor
  · intro id a stored
    rw [rows, AList.lookup_empty] at stored
    cases stored
  · intro c _ id
    rw [cell, cells, placed, rows, AList.lookup_empty]
    rfl

theorem step_sorted (core : AreaCore) (op : AreaOperation) (core' : AreaCore) (h : core.Sorted)
    (taken : step core op = some core') : core'.Sorted := by
  cases op with
  | addActor actor =>
      cases Option.some.inj taken
      exact addActor_sorted h actor
  | updateActorPosition actorId newPosition =>
      cases Option.some.inj taken
      exact updateActorPosition_sorted h actorId newPosition
  | setActorAlive actorId isAlive =>
      cases Option.some.inj taken
      exact setActorAlive_sorted h actorId isAlive
  | removeActor actorId =>
      cases Option.some.inj taken
      exact removeActor_sorted h actorId
  | clear =>
      cases Option.some.inj taken
      exact empty_sorted _ rfl rfl

end AreaCore

end Garlemald.Zone
