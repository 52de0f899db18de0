import Garlemald.Zone.Grid

/-!
Queries around an actor. The cell of a position moves by no more cells than the position
does by whole sizes of a cell, so the square of cells that is searched holds all that is
near, as long as its bounds are numbers of 32 bits.
-/

namespace Garlemald.Zone

open Library Common

theorem asI32_le_add {q q' : ℚ} {k : ℤ} (nonneg : 0 ≤ k) (h : q ≤ q' + k) :
    asI32 q ≤ asI32 q' + k :=
  clamp_le_add nonneg (truncate_le_add nonneg h)

theorem axis_le_add {q q' : ℚ} {k : ℤ} (half blocks : ℤ) (nonneg : 0 ≤ k)
    (h : q ≤ q' + (k * BOUNDING_GRID_SIZE : ℤ)) :
    max 0 (min ((asI32 q).tdiv BOUNDING_GRID_SIZE + half) (blocks - 1)) ≤
      max 0 (min ((asI32 q').tdiv BOUNDING_GRID_SIZE + half) (blocks - 1)) + k := by
  have positive : 0 < BOUNDING_GRID_SIZE := by decide
  have steps := tdiv_le_add positive nonneg (asI32_le_add (mul_nonneg nonneg positive.le) h)
  exact clamp_le_add nonneg (by omega)

theorem asI32_intCast (n : ℤ) : asI32 n = max (-2 ^ 31) (min n (2 ^ 31 - 1)) := by
  have whole : truncate (n : ℚ) = n := by
    unfold truncate
    split
    · exact Int.floor_intCast n
    · exact Int.ceil_intCast n
  rw [asI32, whole]

namespace AreaCore

theorem radiusCells_eq {d : ℚ} (nonneg : 0 ≤ d) :
    radiusCells d = min ⌈d / 50⌉ (2 ^ 31 - 1) := by
  have up : 0 ≤ ⌈d / 50⌉ := Int.ceil_nonneg (by positivity)
  rw [radiusCells, asI32_intCast]
  omega

theorem axis_near {q q' d : ℚ} {half blocks : ℤ} (few : 0 < blocks ∧ blocks < 2 ^ 31)
    (nonneg : 0 ≤ d) (near : |q - q'| ≤ d) :
    |max 0 (min ((asI32 q).tdiv BOUNDING_GRID_SIZE + half) (blocks - 1)) -
      max 0 (min ((asI32 q').tdiv BOUNDING_GRID_SIZE + half) (blocks - 1))| ≤ radiusCells d := by
  have up : 0 ≤ ⌈d / 50⌉ := Int.ceil_nonneg (by positivity)
  rw [radiusCells_eq nonneg]
  by_cases small : ⌈d / 50⌉ ≤ 2 ^ 31 - 1
  · have reach : d ≤ (⌈d / 50⌉ * BOUNDING_GRID_SIZE : ℤ) := by
      have ceil := Int.le_ceil (d / 50)
      rw [BOUNDING_GRID_SIZE]
      push_cast
      linarith
    obtain ⟨left, right⟩ := abs_le.mp near
    have forth : q ≤ q' + (⌈d / 50⌉ * BOUNDING_GRID_SIZE : ℤ) := by linarith
    have back : q' ≤ q + (⌈d / 50⌉ * BOUNDING_GRID_SIZE : ℤ) := by linarith
    have moves := axis_le_add half blocks up forth
    have returns := axis_le_add half blocks up back
    rw [min_eq_left small, abs_le]
    omega
  · have large : 2 ^ 31 - 1 ≤ ⌈d / 50⌉ := by omega
    rw [min_eq_right large, abs_le]
    omega

theorem posToGrid_near {x z x' z' d : ℚ} (nonneg : 0 ≤ d) (nearX : |x - x'| ≤ d)
    (nearZ : |z - z'| ≤ d) :
    |(posToGrid x z).1 - (posToGrid x' z').1| ≤ radiusCells d ∧
      |(posToGrid x z).2 - (posToGrid x' z').2| ≤ radiusCells d :=
  ⟨axis_near (by decide) nonneg nearX, axis_near (by decide) nonneg nearZ⟩

/-- The cells that a search goes through when its bounds are numbers of 32 bits. -/
def square (gx gy radius : ℤ) : List Cell :=
  cellsBetween (max (gx - radius) 0) (min (gx + radius) (NUM_X_BLOCKS - 1))
    (max (gy - radius) 0) (min (gy + radius) (NUM_Y_BLOCKS - 1))

variable {core : AreaCore} {c : Cell} {a : StoredActor}

theorem mem_square {gx gy radius : ℤ} (within : InBounds c) (nearX : |gx - c.1| ≤ radius)
    (nearY : |gy - c.2| ≤ radius) : c ∈ square gx gy radius := by
  rw [abs_le] at nearX nearY
  unfold InBounds at within
  rw [square, mem_cellsBetween]
  omega

theorem square_inBounds {gx gy radius : ℤ} (h : c ∈ square gx gy radius) : InBounds c := by
  rw [square, mem_cellsBetween] at h
  unfold InBounds
  omega

theorem i32_fits {checked : Bool} {result : ℤ} (low : -2 ^ 31 ≤ result)
    (high : result ≤ 2 ^ 31 - 1) : i32 checked result = some result := if_pos ⟨low, high⟩

theorem i32_overflows {checked : Bool} {result : ℤ} (high : 2 ^ 31 - 1 < result)
    (sum : result < 2 ^ 32) :
    i32 checked result = if checked then none else some (result - 2 ^ 32) := by
  have wraps : result.bmod (2 ^ 32) = result - 2 ^ 32 := by
    rw [Int.bmod_def]
    omega
  rw [i32, if_neg (by omega), wraps]

def Fits (gx gy radius : ℤ) : Prop := gx + radius ≤ 2 ^ 31 - 1 ∧ gy + radius ≤ 2 ^ 31 - 1

theorem collect_fits (checked : Bool) (within : InBounds c) {radius : ℤ} (nonneg : 0 ≤ radius)
    (fits : Fits c.1 c.2 radius) (exclude : Option UInt32) :
    core.collectActorsInCells checked c.1 c.2 radius exclude =
      some (core.gather exclude (square c.1 c.2 radius)) := by
  unfold InBounds at within
  obtain ⟨fitsX, fitsY⟩ := fits
  rw [collectActorsInCells, i32_fits (by omega) (by omega), i32_fits (by omega) fitsY,
    i32_fits (by omega) (by omega), i32_fits (by omega) fitsX]
  rfl

theorem inclusive_empty {low high : ℤ} (below : high < low) : inclusive low high = [] := by
  rw [inclusive, Int.toNat_of_nonpos (by omega)]
  rfl

theorem cellsBetween_empty {xMin xMax yMin yMax : ℤ} (below : xMax < xMin ∨ yMax < yMin) :
    cellsBetween xMin xMax yMin yMax = [] := by
  rw [cellsBetween]
  rcases below with noX | noY
  · rw [inclusive_empty noX]
    exact List.flatMap_eq_nil_iff.mpr fun _ _ => rfl
  · rw [inclusive_empty noY]
    rfl

theorem collect_overflows (checked : Bool) (within : InBounds c) {radius : ℤ}
    (nonneg : 0 ≤ radius) (small : radius ≤ 2 ^ 31 - 1) (exceeds : ¬ Fits c.1 c.2 radius)
    (exclude : Option UInt32) :
    core.collectActorsInCells checked c.1 c.2 radius exclude =
      if checked then none else some [] := by
  have blocks : NUM_X_BLOCKS = 200 ∧ NUM_Y_BLOCKS = 200 := by decide
  unfold InBounds at within
  unfold Fits at exceeds
  rw [collectActorsInCells, i32_fits (by omega) (by omega)]
  by_cases fitsY : c.2 + radius ≤ 2 ^ 31 - 1
  · have highX : 2 ^ 31 - 1 < c.1 + radius := by omega
    rw [i32_fits (by omega) fitsY, i32_fits (by omega) (by omega),
      i32_overflows highX (by omega)]
    cases checked with
    | true => rfl
    | false =>
        have none := @cellsBetween_empty (max (c.1 - radius) 0)
          (min (c.1 + radius - 2 ^ 32) (NUM_X_BLOCKS - 1)) (max (c.2 - radius) 0)
          (min (c.2 + radius) (NUM_Y_BLOCKS - 1)) (by omega)
        exact congrArg (fun cells => some (core.gather exclude cells)) none
  · rw [i32_overflows (by omega) (by omega), i32_fits (by omega) (by omega)]
    cases checked with
    | true => rfl
    | false =>
        have none : ∀ xMax, cellsBetween (max (c.1 - radius) 0) xMax (max (c.2 - radius) 0)
            (min (c.2 + radius - 2 ^ 32) (NUM_Y_BLOCKS - 1)) = [] :=
          fun xMax => cellsBetween_empty (by omega)
        by_cases fitsX : c.1 + radius ≤ 2 ^ 31 - 1
        · rw [i32_fits (by omega) fitsX]
          exact congrArg (fun cells => some (core.gather exclude cells)) (none _)
        · rw [i32_overflows (by omega) (by omega)]
          exact congrArg (fun cells => some (core.gather exclude cells)) (none _)

theorem collected_some {exclude : Option UInt32}
    {id : UInt32} : core.collected exclude id = some a ↔
      some id ≠ exclude ∧ core.actors.lookup id = some a ∧
        ¬ (core.isIsolated = true ∧ a.kind = .player) := by
  unfold collected
  by_cases excluded : some id = exclude
  · simp [excluded]
  · rw [if_neg excluded, Option.filter_eq_some_iff]
    simp [excluded, imp_iff_not_or]

theorem mem_gather {exclude : Option UInt32} {cells : List Cell} : a ∈ core.gather exclude cells ↔
      ∃ c ∈ cells, ∃ id ∈ core.cell c, core.collected exclude id = some a := by
  simp only [gather, List.mem_flatMap, List.mem_filterMap]

theorem Sorted.nodup_cell (h : core.Sorted) (within : InBounds c) : (core.cell c).Nodup := by
  rw [List.nodup_iff_count_le_one]
  intro id
  rw [h.cells c within id]
  split <;> omega

theorem Sorted.mem_cell (h : core.Sorted) (within : InBounds c) {id : UInt32} :
    id ∈ core.cell c ↔ core.placed id = some c := by
  rw [← List.count_pos_iff, h.cells c within id]
  split <;> simp_all

theorem gather_nodup (h : core.Sorted) (exclude : Option UInt32) {cells : List Cell}
    (distinct : cells.Nodup) (within : ∀ c ∈ cells, InBounds c) :
    ((core.gather exclude cells).map (·.actorId)).Nodup := by
  have named : ∀ ids : List UInt32,
      ((ids.filterMap (core.collected exclude)).map (·.actorId)).Sublist ids := by
    intro ids
    induction ids with
    | nil => exact List.Sublist.refl _
    | cons id ids ih =>
        rw [List.filterMap_cons]
        cases found : core.collected exclude id with
        | none => exact ih.cons id
        | some a =>
            have key := (h.rows id a (collected_some.mp found).2.1).1
            rw [List.map_cons, key]
            exact ih.cons_cons id
  have names : ∀ c ∈ cells,
      (((core.cell c).filterMap (core.collected exclude)).map (·.actorId)).Sublist
        (core.cell c) := fun c _ => named _
  rw [gather, List.map_flatMap, List.nodup_flatMap]
  constructor
  · exact fun c member => (h.nodup_cell (within c member)).sublist (names c member)
  · refine distinct.imp_of_mem ?_
    intro c c' member member' other id inOne inOther
    have here := (h.mem_cell (within c member)).mp ((names c member).mem inOne)
    have there := (h.mem_cell (within c' member')).mp ((names c' member').mem inOther)
    rw [here] at there
    exact other (Option.some.inj there)

/-- The actors that a query is to find around another. -/
def Wanted (core : AreaCore) (centerActorId : UInt32) (center : StoredActor) (d : ℚ)
    (a : StoredActor) : Prop :=
  a.actorId ≠ centerActorId ∧ core.actors.lookup a.actorId = some a ∧
    ¬ (core.isIsolated = true ∧ a.kind = .player) ∧
    |a.position.x - center.position.x| ≤ d ∧ |a.position.z - center.position.z| ≤ d

def FindsAll (core : AreaCore) (checked : Bool) (centerActorId : UInt32)
    (center : StoredActor) (d : ℚ) : Prop :=
  ∃ found, core.actorsAround checked centerActorId d = some found ∧
    (found.map (·.actorId)).Nodup ∧ ∀ a, core.Wanted centerActorId center d a → a ∈ found

theorem radiusCells_bounds (d : ℚ) : 0 ≤ radiusCells d ∧ radiusCells d ≤ 2 ^ 31 - 1 := by
  unfold radiusCells asI32
  omega

theorem wanted_gathered (h : core.Sorted) {centerActorId : UInt32} {center : StoredActor}
    (stored : core.actors.lookup centerActorId = some center) {d : ℚ} (nonneg : 0 ≤ d)
    (wanted : core.Wanted centerActorId center d a) :
    a ∈ core.gather (some centerActorId)
      (square center.grid.1 center.grid.2 (radiusCells d)) := by
  obtain ⟨other, row, apart, nearX, nearZ⟩ := wanted
  rw [abs_sub_comm] at nearX nearZ
  obtain ⟨cellX, cellZ⟩ := posToGrid_near nonneg nearX nearZ
  rw [← (h.rows _ _ stored).2, ← (h.rows _ _ row).2] at cellX cellZ
  have within := h.inBounds row
  have there : core.placed a.actorId = some a.grid := by rw [placed, row]; rfl
  refine mem_gather.mpr ⟨a.grid, mem_square within cellX cellZ, a.actorId, ?_, ?_⟩
  · exact (h.mem_cell within).mpr there
  · exact collected_some.mpr ⟨fun same => other (Option.some.inj same), row, apart⟩

theorem findsAll_iff (h : core.Sorted) (checked : Bool) {centerActorId : UInt32}
    {center : StoredActor} (stored : core.actors.lookup centerActorId = some center) {d : ℚ}
    (nonneg : 0 ≤ d) :
    core.FindsAll checked centerActorId center d ↔
      Fits center.grid.1 center.grid.2 (radiusCells d) ∨
        (checked = false ∧ ∀ a, ¬ core.Wanted centerActorId center d a) := by
  have within := h.inBounds stored
  obtain ⟨low, high⟩ := radiusCells_bounds d
  have query : core.actorsAround checked centerActorId d =
      core.collectActorsInCells checked center.grid.1 center.grid.2 (radiusCells d)
        (some centerActorId) := by rw [actorsAround, stored]
  by_cases fits : Fits center.grid.1 center.grid.2 (radiusCells d)
  · refine iff_of_true ⟨_, query.trans (collect_fits checked within low fits _), ?_, ?_⟩ (.inl fits)
    · apply gather_nodup h _ (nodup_cellsBetween _ _ _ _)
      exact fun c member => square_inBounds member
    · exact fun a wanted => wanted_gathered h stored nonneg wanted
  · rw [FindsAll, query, collect_overflows checked within low high fits, or_iff_right fits]
    cases checked with
    | true => simp
    | false =>
        constructor
        · rintro ⟨found, result, _, complete⟩
          cases Option.some.inj result
          exact ⟨rfl, fun a wanted => List.not_mem_nil (complete a wanted)⟩
        · rintro ⟨_, alone⟩
          exact ⟨[], rfl, List.nodup_nil, fun a wanted => absurd wanted (alone a)⟩

/-- Queries around the actors of an area return what they are to find exactly when the
bounds of the search fit 32 bits, or nothing is to be found and the build is not checked. -/
def Searched (checked : Bool) (core : AreaCore) : Prop :=
  ∀ centerActorId center d, core.actors.lookup centerActorId = some center → 0 ≤ d →
    (core.FindsAll checked centerActorId center d ↔
      Fits center.grid.1 center.grid.2 (radiusCells d) ∨
        (checked = false ∧ ∀ a, ¬ core.Wanted centerActorId center d a))

/-- Throughout the life of an area its table and its grid agree, and its queries return
what they are to find as far as their bounds fit. -/
theorem grid_sound (actorId : UInt32) (isIsolated checked : Bool) (ops : List AreaOperation) :
    Always step (fun core => core.Sorted ∧ core.Searched checked) (.new actorId isIsolated)
      ops := by
  have sorted : Always step Sorted (.new actorId isIsolated) ops :=
    always_of_step step_sorted (empty_sorted _ rfl rfl) ops
  apply sorted.mono
  exact fun core h => ⟨h, fun _ _ _ stored nonneg => findsAll_iff h checked stored nonneg⟩

def player : StoredActor := ⟨1, .player, ⟨0, 0, 0⟩, (100, 100), true⟩
def wolf : StoredActor := ⟨2, .battleNpc, ⟨10, 0, 0⟩, (100, 100), true⟩
def twoActors : AreaCore := (((new 100 false).addActor player).1.addActor wolf).1

theorem wolf_not_found :
    ¬ Always step (fun core => core.Sorted ∧
        ∀ centerActorId center d, core.actors.lookup centerActorId = some center → 0 ≤ d →
          core.FindsAll false centerActorId center d)
      (.new 100 false) [.addActor player, .addActor wolf] := by
  intro held
  have finds := ((held.2 _ rfl).2 _ rfl).2
  have wanted : twoActors.Wanted 1 player 200000000000 wolf := by
    refine ⟨by decide, ?_, by decide, ?_, ?_⟩
    all_goals with_unfolding_all decide
  have nothing : twoActors.actorsAround false 1 200000000000 = some [] := by
    with_unfolding_all decide
  obtain ⟨found, result, _, complete⟩ :=
    finds 1 player 200000000000 (by decide) (by norm_num)
  have empty : found = [] := Option.some.inj (result.symm.trans nothing)
  have member := complete wolf wanted
  rw [empty] at member
  cases member

end AreaCore

end Garlemald.Zone
