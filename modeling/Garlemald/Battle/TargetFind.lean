import Garlemald.Battle.Controller
import Garlemald.Zone.Nearby

/-!
The targets of an area of effect. Candidates are gathered around the target, whichever position the
area lies around, so that a circle around the owner misses those that are near the owner only.
-/

namespace Garlemald.Battle

open Library Common Zone

/-! ### Flags -/

namespace ValidTarget

def SELF : UInt16 := 0x0001
def SELF_ONLY : UInt16 := 0x0002
def PARTY : UInt16 := 0x0004
def PARTY_ONLY : UInt16 := 0x0008
def ALLY : UInt16 := 0x0010
def ALLY_ONLY : UInt16 := 0x0020
def NPC : UInt16 := 0x0040
def NPC_ONLY : UInt16 := 0x0080
def ENEMY : UInt16 := 0x0100
def ENEMY_ONLY : UInt16 := 0x0200
def CORPSE : UInt16 := 0x1000
def CORPSE_ONLY : UInt16 := 0x2000
def MAIN_TARGET_PARTY : UInt16 := 0x4000
def MAIN_TARGET_PARTY_ONLY : UInt16 := 0x8000

def intersects (a b : UInt16) : Bool := a &&& b != 0

end ValidTarget

inductive TargetFindAOEType where
  | none
  | circle
  | cone
  | box
deriving DecidableEq

inductive TargetFindAOETarget where
  | target
  | self
deriving DecidableEq

structure TargetView extends ActorView ℚ where
  isStatic : Bool
  partyId : UInt64
  zoneId : UInt32
  isUpdatesLocked : Bool

structure TargetFind where
  owner : TargetView
  mainTarget : TargetView
  validTarget : UInt16
  aoeType : TargetFindAOEType
  aoeTarget : TargetFindAOETarget
  aoeTargetPosition : Vector3 ℚ
  aoeTargetRotation : ℚ
  maxDistance : ℚ
  minDistance : ℚ
  width : ℚ
  height : ℚ
  aoeRotateAngle : ℚ
  coneAngle : ℚ
  param : ℚ
  targets : List TargetView

structure Trigonometry where
  sin : ℚ → ℚ
  cos : ℚ → ℚ

namespace TargetFind

variable (tf : TargetFind)

/-! ### Shapes -/

def isWithinCircle (target : TargetView) : Bool :=
  let dx := target.position.x - tf.aoeTargetPosition.x
  let dz := target.position.z - tf.aoeTargetPosition.z
  let distSq := dx * dx + dz * dz
  let maxSq := tf.maxDistance * tf.maxDistance
  let minSq := tf.minDistance * tf.minDistance
  let yOk := |tf.owner.position.y - target.position.y| ≤ tf.height / 2
  distSq ≤ maxSq ∧ minSq ≤ distSq ∧ yOk

def isWithinCone (target : TargetView) : Bool :=
  let dx := target.position.x - tf.aoeTargetPosition.x
  let dz := target.position.z - tf.aoeTargetPosition.z
  let angleTo := F32.atan2 dx dz
  let diff := F32.remEuclid (angleTo - tf.aoeTargetRotation) TAU
  let gap := min diff (TAU - diff)
  tf.isWithinCircle target && decide (gap ≤ tf.coneAngle / 2)

def isWithinBox (trig : Trigonometry) (target : TargetView) : Bool :=
  let vx := target.position.x - tf.aoeTargetPosition.x
  let vz := target.position.z - tf.aoeTargetPosition.z
  let sin := trig.sin tf.aoeTargetRotation
  let cos := trig.cos tf.aoeTargetRotation
  let relX := vx * cos - vz * sin
  let relZ := vx * sin + vz * cos
  let halfW := tf.width / 2
  let halfH := tf.height / 2
  let yDiff := |tf.owner.position.y - target.position.y|
  relX ≥ -halfW ∧ relX ≤ halfW ∧ relZ ≥ tf.minDistance ∧ relZ ≤ tf.maxDistance ∧ yDiff ≤ halfH

/-! ### The filter -/

/-- The checks of the flags, none of which may turn a target away. -/
def passesFilter (target : TargetView) : Bool :=
  let has := ValidTarget.intersects tf.validTarget
  let isSelf := target.actorId == tf.owner.actorId
  let isAlly := target.allegiance == tf.owner.allegiance
  let inSameParty := tf.owner.partyId != 0 && target.partyId == tf.owner.partyId
  let inMainParty := tf.mainTarget.partyId != 0 && target.partyId == tf.mainTarget.partyId
  !(!has ValidTarget.CORPSE && !target.isAlive) &&
  !(has ValidTarget.CORPSE_ONLY && target.isAlive) &&
  !(!has ValidTarget.SELF && isSelf) &&
  !(has ValidTarget.SELF_ONLY && !isSelf) &&
  !(!has ValidTarget.ALLY && isAlly && !isSelf) &&
  !(has ValidTarget.ALLY_ONLY && !isAlly) &&
  !(!has ValidTarget.ENEMY && !isAlly) &&
  !(has ValidTarget.ENEMY_ONLY && isAlly) &&
  !(!has ValidTarget.PARTY && inSameParty) &&
  !(has ValidTarget.PARTY_ONLY && !inSameParty) &&
  !(!has ValidTarget.NPC && target.isStatic) &&
  !(has ValidTarget.NPC_ONLY && !target.isStatic) &&
  !target.isUpdatesLocked &&
  target.zoneId == tf.owner.zoneId &&
  !(tf.validTarget == ValidTarget.SELF && tf.aoeType == .none && !isSelf) &&
  !(!has ValidTarget.MAIN_TARGET_PARTY && inMainParty && !isSelf) &&
  !(has ValidTarget.MAIN_TARGET_PARTY_ONLY && !inMainParty)

def withinArea (trig : Trigonometry) (target : TargetView) : Bool :=
  tf.param != -1 && match tf.aoeType with
    | .none => tf.targets.isEmpty
    | .circle => tf.isWithinCircle target
    | .cone => tf.isWithinCone target
    | .box => tf.isWithinBox trig target

def canTarget (trig : Trigonometry) (target : TargetView) (ignoreAoe : Bool) : Bool :=
  !(tf.targets.any (·.actorId == target.actorId)) && tf.passesFilter target &&
    (ignoreAoe || tf.withinArea trig target)

/-! ### The search -/

def addTarget (trig : Trigonometry) (target : TargetView) : TargetFind :=
  if tf.canTarget trig target false then { tf with targets := tf.targets ++ [target] } else tf

def addAllInRange (trig : Trigonometry) (target : TargetView) (around : List TargetView) :
    TargetFind :=
  around.foldl
    (fun tf actor => if actor.actorId = target.actorId then tf else tf.addTarget trig actor) tf

def origin (target : TargetView) : TargetFindAOETarget → TargetView
  | .self => tf.owner
  | .target => target

/-- The search before its first target. -/
def aimed (target : TargetView) (flags : UInt16) (aoeTarget : TargetFindAOETarget) : TargetFind :=
  { tf with
    targets := []
    validTarget := flags
    aoeTarget := aoeTarget
    aoeTargetPosition := (tf.origin target aoeTarget).position
    aoeTargetRotation := (tf.origin target aoeTarget).rotation + tf.aoeRotateAngle * PI }

/-- The arena answers who is around an actor; `none` is its panic. -/
def findWithinArea (trig : Trigonometry) (target : TargetView) (flags : UInt16)
    (aoeTarget : TargetFindAOETarget) (around : UInt32 → ℚ → Option (List TargetView)) :
    Option TargetFind :=
  let tf := (tf.aimed target flags aoeTarget).addTarget trig target
  if tf.aoeType = .none then some tf
  else (around target.actorId tf.maxDistance).map (tf.addAllInRange trig target)

end TargetFind

/-! ### The arenas -/

def storedToView (a : StoredActor) (zoneId : UInt32) : TargetView where
  actorId := a.actorId
  position := a.position
  rotation := 0
  isAlive := a.isAlive
  isStatic := a.kind == .npc
  allegiance := match a.kind with
    | .player => 1
    | .npc | .other => 0
    | .battleNpc | .pet => 2
    | .ally => 3
  partyId := 0
  zoneId := zoneId
  isUpdatesLocked := false

def zoneActorsAround (checked : Bool) (core : AreaCore) (center : UInt32) (radius : ℚ) :
    Option (List TargetView) :=
  (core.actorsAround checked center radius).map (·.map (storedToView · core.actorId))

/-- A map of views by their ids, in some order. -/
structure ViewMap where
  views : List TargetView
  once : (views.map (·.actorId)).Nodup

namespace ViewMap

variable (map : ViewMap)

def get (actorId : UInt32) : Option TargetView := map.views.find? (·.actorId == actorId)

def near (origin v : TargetView) (radius : ℚ) : Bool :=
  let dx := v.position.x - origin.position.x
  let dz := v.position.z - origin.position.z
  dx * dx + dz * dz ≤ radius * radius

def actorsAround (center : UInt32) (radius : ℚ) : Option (List TargetView) :=
  match map.get center with
  | none => some []
  | some origin => some (map.views.filter (near origin · radius))

end ViewMap

/-! ### What a search is to find -/

def ids (views : List TargetView) : List UInt32 := views.map fun v => v.actorId

structure TargetFind.InCircle (tf : TargetFind) (center v : TargetView) : Prop where
  outer : (v.position.x - center.position.x) ^ 2 + (v.position.z - center.position.z) ^ 2 ≤
    tf.maxDistance ^ 2
  inner : tf.minDistance ^ 2 ≤
    (v.position.x - center.position.x) ^ 2 + (v.position.z - center.position.z) ^ 2
  level : |tf.owner.position.y - v.position.y| ≤ tf.height / 2

/-- What passes the filter and lies in the circle around the owner or the target. The parameter -1
turns every target away. -/
structure TargetFind.Qualifies (tf : TargetFind) (target : TargetView) (flags : UInt16)
    (aoeTarget : TargetFindAOETarget) (v : TargetView) : Prop where
  valid : (tf.aimed target flags aoeTarget).passesFilter v = true
  param : tf.param ≠ -1
  circle : tf.InCircle (tf.origin target aoeTarget) v

/-- The targets found are those that qualify among the contents of an arena, each once. -/
structure Exact (contents qualifies : TargetView → Prop) (found : List TargetView) : Prop where
  once : (ids found).Nodup
  mem_iff : ∀ v, v ∈ found ↔ contents v ∧ qualifies v

def InZone (core : AreaCore) (v : TargetView) : Prop :=
  ∃ a, core.actors.lookup v.actorId = some a ∧ storedToView a core.actorId = v

/-- A query around an actor comes by the cell of another, and does not leave it out as a player
who is kept apart. -/
def Searches (core : AreaCore) (centerActorId : UInt32) (d : ℚ) (a : StoredActor) : Prop :=
  ¬ (core.isIsolated = true ∧ a.kind = .player) ∧
    ∃ center, core.actors.lookup centerActorId = some center ∧
      AreaCore.Fits center.grid.1 center.grid.2 (AreaCore.radiusCells d) ∧
      |center.grid.1 - a.grid.1| ≤ AreaCore.radiusCells d ∧
      |center.grid.2 - a.grid.2| ≤ AreaCore.radiusCells d

/-- A query around an actor does not overflow where overflows are checked. -/
def Returns (core : AreaCore) (checked : Bool) (centerActorId : UInt32) (d : ℚ) : Prop :=
  checked = true → ∀ center, core.actors.lookup centerActorId = some center →
    AreaCore.Fits center.grid.1 center.grid.2 (AreaCore.radiusCells d)

structure ZoneComplete (tf : TargetFind) (checked : Bool) (core : AreaCore) (target : TargetView)
    (flags : UInt16) (aoeTarget : TargetFindAOETarget) : Prop where
  returns : Returns core checked target.actorId tf.maxDistance
  own : tf.Qualifies target flags aoeTarget target → InZone core target
  others : ∀ a, core.actors.lookup a.actorId = some a →
    tf.Qualifies target flags aoeTarget (storedToView a core.actorId) →
      storedToView a core.actorId = target ∨
        a.actorId ≠ target.actorId ∧ Searches core target.actorId tf.maxDistance a

structure MapComplete (tf : TargetFind) (map : ViewMap) (target : TargetView) (flags : UInt16)
    (aoeTarget : TargetFindAOETarget) : Prop where
  own : tf.Qualifies target flags aoeTarget target → target ∈ map.views
  others : ∀ v ∈ map.views, tf.Qualifies target flags aoeTarget v →
    v = target ∨ v.actorId ≠ target.actorId ∧
      ∃ center, map.get target.actorId = some center ∧
        (v.position.x - center.position.x) ^ 2 + (v.position.z - center.position.z) ^ 2 ≤
          tf.maxDistance ^ 2

namespace TargetFind

variable {tf : TargetFind} (trig : Trigonometry)

/-! ### The search, actor by actor -/

theorem canTarget_circle (circle : tf.aoeType = .circle) (found : List TargetView)
    (v : TargetView) : ({ tf with targets := found }).canTarget trig v false = true ↔
      v.actorId ∉ ids found ∧
        (tf.passesFilter v = true ∧ tf.withinArea trig v = true) := by
  have filter : ({ tf with targets := found }).passesFilter v = tf.passesFilter v := rfl
  have area : ({ tf with targets := found }).withinArea trig v = tf.withinArea trig v := by
    simp only [withinArea, circle, isWithinCircle]
  rw [canTarget, filter, area, Bool.false_or, Bool.and_eq_true, Bool.and_eq_true,
    Bool.not_eq_true', List.any_eq_false, ids, List.mem_map, and_assoc]
  simp only [beq_iff_eq, not_exists, not_and]

theorem addTarget_circle (circle : tf.aoeType = .circle) (found : List TargetView)
    (v : TargetView) [Decidable (v.actorId ∉ ids found ∧
      (tf.passesFilter v = true ∧ tf.withinArea trig v = true))] :
    ({ tf with targets := found }).addTarget trig v =
      if v.actorId ∉ ids found ∧
        (tf.passesFilter v = true ∧ tf.withinArea trig v = true) then
        { tf with targets := found ++ [v] }
      else { tf with targets := found } := by
  rw [addTarget]
  exact if_congr (canTarget_circle trig circle found v) rfl rfl

theorem addAllInRange_circle (circle : tf.aoeType = .circle) (target : TargetView)
    {around : List TargetView}
    (keyed : ∀ v ∈ around, ∀ w ∈ around, v.actorId = w.actorId → v = w)
    {found : List TargetView} (once : (ids found).Nodup) :
    (ids (({ tf with targets := found }).addAllInRange trig target around).targets).Nodup ∧
      ∀ v, v ∈ (({ tf with targets := found }).addAllInRange trig target around).targets ↔
        v ∈ found ∨ v ∈ around ∧ v.actorId ≠ target.actorId ∧ v.actorId ∉ ids found ∧
          (tf.passesFilter v = true ∧ tf.withinArea trig v = true) := by
  classical
  induction around generalizing found with
  | nil => exact ⟨once, fun v => by simp [addAllInRange]⟩
  | cons actor around ih =>
      have later := fun v member w member' =>
        keyed v (List.mem_cons_of_mem actor member) w (List.mem_cons_of_mem actor member')
      unfold addAllInRange at ih ⊢
      rw [List.foldl_cons]
      by_cases own : actor.actorId = target.actorId
      · obtain ⟨distinct, members⟩ := ih later once
        rw [if_pos own]
        refine ⟨distinct, fun v => (members v).trans (or_congr_right ?_)⟩
        rw [List.mem_cons, or_and_right, or_iff_right]
        intro first
        obtain ⟨rfl, other, _⟩ := first
        exact other own
      · rw [if_neg own, addTarget_circle trig circle]
        by_cases added : actor.actorId ∉ ids found ∧
            (tf.passesFilter actor = true ∧ tf.withinArea trig actor = true)
        · have joined : ids (found ++ [actor]) = ids found ++ [actor.actorId] := List.map_append
          have once' : (ids (found ++ [actor])).Nodup := by
            rw [joined]
            exact once.append (List.nodup_singleton _)
              (List.disjoint_singleton.mpr added.1)
          obtain ⟨distinct, members⟩ := ih later once'
          rw [if_pos added]
          refine ⟨distinct, fun v => ?_⟩
          rw [members v, joined, List.mem_append, List.mem_singleton, List.mem_append,
            List.mem_singleton, List.mem_cons]
          constructor
          · intro either
            rcases either with (before | rfl) | ⟨member, other, fresh, fits⟩
            · exact .inl before
            · exact .inr ⟨.inl rfl, own, added⟩
            · exact .inr ⟨.inr member, other, fun before => fresh (.inl before), fits⟩
          · intro either
            rcases either with before | ⟨rfl | member, other, fresh, fits⟩
            · exact .inl (.inl before)
            · exact .inl (.inr rfl)
            · by_cases same : v.actorId = actor.actorId
              · exact .inl (.inr (keyed v (List.mem_cons_of_mem actor member) actor
                  (List.mem_cons_self ..) same))
              · exact .inr ⟨member, other, fun before => before.elim fresh same, fits⟩
        · obtain ⟨distinct, members⟩ := ih later once
          rw [if_neg added]
          refine ⟨distinct, fun v => (members v).trans (or_congr_right ?_)⟩
          rw [List.mem_cons, or_and_right, or_iff_right]
          intro first
          obtain ⟨rfl, _, joins⟩ := first
          exact added joins

theorem qualifies_iff (circle : tf.aoeType = .circle) (target : TargetView) (flags : UInt16)
    (aoeTarget : TargetFindAOETarget) (v : TargetView) : tf.Qualifies target flags aoeTarget v ↔
      (tf.aimed target flags aoeTarget).passesFilter v = true ∧
        (tf.aimed target flags aoeTarget).withinArea trig v = true := by
  have shape : (tf.aimed target flags aoeTarget).withinArea trig v =
      (tf.param != -1 && (tf.aimed target flags aoeTarget).isWithinCircle v) := by
    simp only [withinArea, aimed, circle]
  have round : (tf.aimed target flags aoeTarget).isWithinCircle v = true ↔
      tf.InCircle (tf.origin target aoeTarget) v := by
    rw [isWithinCircle, decide_eq_true_eq, ← sq, ← sq, ← sq, ← sq]
    exact ⟨fun c => ⟨c.1, c.2.1, c.2.2⟩, fun c => ⟨c.outer, c.inner, c.level⟩⟩
  rw [shape, Bool.and_eq_true, bne_iff_ne, round]
  exact ⟨fun q => ⟨q.valid, q.param, q.circle⟩, fun q => ⟨q.1, q.2.1, q.2.2⟩⟩

theorem search_exact_iff (circle : tf.aoeType = .circle) (target : TargetView) (flags : UInt16)
    (aoeTarget : TargetFindAOETarget) {contents : TargetView → Prop} {around : List TargetView}
    (keyed : ∀ v ∈ around, ∀ w ∈ around, v.actorId = w.actorId → v = w)
    (inside : ∀ v ∈ around, contents v) :
    Exact contents (tf.Qualifies target flags aoeTarget)
        (((tf.aimed target flags aoeTarget).addTarget trig target).addAllInRange trig target
          around).targets ↔
      (tf.Qualifies target flags aoeTarget target → contents target) ∧
        ∀ v, contents v → tf.Qualifies target flags aoeTarget v →
          v = target ∨ v.actorId ≠ target.actorId ∧ v ∈ around := by
  classical
  have round : (tf.aimed target flags aoeTarget).aoeType = .circle := circle
  have fits := qualifies_iff trig circle target flags aoeTarget
  have first := addTarget_circle trig round [] target
  have start : ∃ found, (tf.aimed target flags aoeTarget).addTarget trig target =
      { tf.aimed target flags aoeTarget with targets := found } ∧ (ids found).Nodup ∧
      (∀ v, v ∈ found ↔ v = target ∧ tf.Qualifies target flags aoeTarget target) := by
    have same : { tf.aimed target flags aoeTarget with targets := [] } =
        tf.aimed target flags aoeTarget := rfl
    rw [same] at first
    by_cases own : tf.Qualifies target flags aoeTarget target
    · rw [if_pos ⟨List.not_mem_nil, (fits target).mp own⟩] at first
      refine ⟨[target], first, List.nodup_singleton _, fun v => ?_⟩
      rw [List.mem_singleton, and_iff_left own]
    · rw [if_neg fun both => own ((fits target).mpr both.2)] at first
      exact ⟨[], first, List.nodup_nil, fun v => iff_of_false List.not_mem_nil fun q => own q.2⟩
  obtain ⟨found, started, once, members⟩ := start
  obtain ⟨distinct, all⟩ := addAllInRange_circle trig round target keyed once
  rw [started]
  constructor
  · intro exactly
    refine ⟨fun own => ?_, fun v among own => ?_⟩
    · have found := (all target).mpr (.inl ((members target).mpr ⟨rfl, own⟩))
      exact ((exactly.mem_iff target).mp found).1
    · rcases (all v).mp ((exactly.mem_iff v).mpr ⟨among, own⟩) with before | added
      · exact .inl ((members v).mp before).1
      · exact .inr ⟨added.2.1, added.1⟩
  · intro complete
    obtain ⟨known, rest⟩ := complete
    refine ⟨distinct, fun v => ?_⟩
    rw [all v, members v, ← fits]
    constructor
    · intro either
      rcases either with ⟨rfl, own⟩ | added
      · exact ⟨known own, own⟩
      · exact ⟨inside v added.1, added.2.2.2⟩
    · intro own
      rcases rest v own.1 own.2 with rfl | other
      · exact .inl ⟨rfl, own.2⟩
      · refine .inr ⟨other.2, other.1, fun before => ?_, own.2⟩
        obtain ⟨w, among, same⟩ := List.mem_map.mp before
        rw [((members w).mp among).1] at same
        exact other.1 same.symm

end TargetFind

/-! ### Who is around -/

theorem mem_square_iff {gx gy radius : ℤ} {c : Cell} :
    c ∈ AreaCore.square gx gy radius ↔
      AreaCore.InBounds c ∧ |gx - c.1| ≤ radius ∧ |gy - c.2| ≤ radius := by
  constructor
  · intro among
    have within := AreaCore.square_inBounds among
    rw [AreaCore.square, AreaCore.mem_cellsBetween] at among
    refine ⟨within, ?_⟩
    rw [abs_le, abs_le]
    omega
  · exact fun near => AreaCore.mem_square near.1 near.2.1 near.2.2

section Zone

variable {core : AreaCore} {checked : Bool} {center : UInt32} {d : ℚ}

theorem actorsAround_none (sorted : core.Sorted) (stops : ¬ Returns core checked center d) :
    core.actorsAround checked center d = none := by
  obtain ⟨checks, stops⟩ := Classical.not_imp.mp stops
  obtain ⟨c, stops⟩ := not_forall.mp stops
  obtain ⟨stored, exceeds⟩ := Classical.not_imp.mp stops
  have bounds := AreaCore.radiusCells_bounds d
  rw [AreaCore.actorsAround, stored]
  dsimp only
  rw [AreaCore.collect_overflows checked (sorted.inBounds stored) bounds.1 bounds.2 exceeds,
    if_pos checks]

theorem actorsAround_some (sorted : core.Sorted) (returns : Returns core checked center d) :
    ∃ found, core.actorsAround checked center d = some found ∧
      ∀ a, a ∈ found ↔ core.actors.lookup a.actorId = some a ∧ a.actorId ≠ center ∧
        Searches core center d a := by
  rw [AreaCore.actorsAround]
  cases stored : core.actors.lookup center with
  | none =>
      refine ⟨[], rfl, fun a => iff_of_false List.not_mem_nil fun around => ?_⟩
      obtain ⟨_, _, _, c, known, _⟩ := around
      rw [stored] at known
      cases known
  | some c =>
      have bounds := AreaCore.radiusCells_bounds d
      have within := sorted.inBounds stored
      dsimp only
      by_cases fits : AreaCore.Fits c.grid.1 c.grid.2 (AreaCore.radiusCells d)
      · refine ⟨_, AreaCore.collect_fits checked within bounds.1 fits (some center), fun a => ?_⟩
        rw [AreaCore.mem_gather]
        constructor
        · intro gathered
          obtain ⟨cell, among, id, there, collected⟩ := gathered
          obtain ⟨other, row, apart⟩ := AreaCore.collected_some.mp collected
          obtain ⟨inside, nearX, nearY⟩ := mem_square_iff.mp among
          have key := (sorted.rows id a row).1
          have placed := (sorted.mem_cell inside).mp there
          rw [AreaCore.placed, row] at placed
          have same : a.grid = cell := Option.some.inj placed
          subst key same
          exact ⟨row, fun own => other (congrArg some own), apart, c, stored, fits, nearX, nearY⟩
        · intro around
          obtain ⟨row, other, apart, c', known, _, nearX, nearY⟩ := around
          rw [stored] at known
          cases known
          have inside := sorted.inBounds row
          have placed : core.placed a.actorId = some a.grid := by rw [AreaCore.placed, row]; rfl
          refine ⟨a.grid, mem_square_iff.mpr ⟨inside, nearX, nearY⟩, a.actorId,
            (sorted.mem_cell inside).mpr placed, AreaCore.collected_some.mpr ⟨?_, row, apart⟩⟩
          exact fun own => other (Option.some.inj own)
      · have silent : checked = false := by
          cases checked with
          | false => rfl
          | true => exact absurd (returns rfl c stored) fits
        rw [AreaCore.collect_overflows checked within bounds.1 bounds.2 fits, silent,
          if_neg Bool.false_ne_true]
        refine ⟨[], rfl, fun a => iff_of_false List.not_mem_nil fun around => ?_⟩
        obtain ⟨_, _, _, c', known, fits', _⟩ := around
        rw [stored] at known
        cases known
        exact fits fits'

end Zone

theorem ViewMap.actorsAround_some (map : ViewMap) (center : UInt32) (d : ℚ) :
    ∃ found, map.actorsAround center d = some found ∧
      ∀ v, v ∈ found ↔ v ∈ map.views ∧ ∃ origin, map.get center = some origin ∧
        (v.position.x - origin.position.x) ^ 2 + (v.position.z - origin.position.z) ^ 2 ≤
          d ^ 2 := by
  rw [actorsAround]
  cases map.get center with
  | none => exact ⟨[], rfl, fun v => iff_of_false List.not_mem_nil (by simp)⟩
  | some origin =>
      refine ⟨_, rfl, fun v => ?_⟩
      rw [List.mem_filter, near, decide_eq_true_eq, ← sq, ← sq, ← sq]
      simp only [Option.some.injEq, exists_eq_left']

theorem ViewMap.eq_of_id {map : ViewMap} {v w : TargetView} (hv : v ∈ map.views)
    (hw : w ∈ map.views) (same : v.actorId = w.actorId) : v = w :=
  List.inj_on_of_nodup_map map.once hv hw same

namespace TargetFind

variable {tf : TargetFind} (trig : Trigonometry)

theorem findWithinArea_circle (circle : tf.aoeType = .circle) (target : TargetView)
    (flags : UInt16) (aoeTarget : TargetFindAOETarget)
    (around : UInt32 → ℚ → Option (List TargetView)) :
    tf.findWithinArea trig target flags aoeTarget around =
      (around target.actorId tf.maxDistance).map
        (((tf.aimed target flags aoeTarget).addTarget trig target).addAllInRange trig target) := by
  have same : ((tf.aimed target flags aoeTarget).addTarget trig target).aoeType = tf.aoeType ∧
      ((tf.aimed target flags aoeTarget).addTarget trig target).maxDistance = tf.maxDistance := by
    rw [addTarget]
    split <;> exact ⟨rfl, rfl⟩
  rw [findWithinArea, same.1, same.2, circle, if_neg (by decide)]

theorem zone_exact_iff (circle : tf.aoeType = .circle) {core : AreaCore} (sorted : core.Sorted)
    (checked : Bool) (target : TargetView) (flags : UInt16) (aoeTarget : TargetFindAOETarget) :
    (∃ found, tf.findWithinArea trig target flags aoeTarget (zoneActorsAround checked core) =
        some found ∧ Exact (InZone core) (tf.Qualifies target flags aoeTarget) found.targets) ↔
      ZoneComplete tf checked core target flags aoeTarget := by
  rw [findWithinArea_circle trig circle]
  by_cases returns : Returns core checked target.actorId tf.maxDistance
  · obtain ⟨found, query, members⟩ := actorsAround_some sorted returns
    have known (a : StoredActor) (among : a ∈ found) :
        core.actors.lookup a.actorId = some a := ((members a).mp among).1
    have keyed : ∀ v ∈ found.map (storedToView · core.actorId),
        ∀ w ∈ found.map (storedToView · core.actorId), v.actorId = w.actorId → v = w := by
      intro v hv w hw same
      obtain ⟨a, ha, rfl⟩ := List.mem_map.mp hv
      obtain ⟨b, hb, rfl⟩ := List.mem_map.mp hw
      have row := known a ha
      have row' := known b hb
      change a.actorId = b.actorId at same
      rw [same, row'] at row
      rw [Option.some.inj row]
    have inside : ∀ v ∈ found.map (storedToView · core.actorId), InZone core v := by
      intro v hv
      obtain ⟨a, ha, rfl⟩ := List.mem_map.mp hv
      exact ⟨a, known a ha, rfl⟩
    have search := search_exact_iff trig circle target flags aoeTarget keyed inside
    rw [zoneActorsAround, query]
    simp only [Option.map_some, Option.some.injEq, exists_eq_left']
    rw [search]
    constructor
    · intro complete
      refine ⟨returns, complete.1, fun a row own => ?_⟩
      refine (complete.2 _ ⟨a, row, rfl⟩ own).imp_right fun other => ⟨other.1, ?_⟩
      obtain ⟨b, among, same⟩ := List.mem_map.mp other.2
      have id : b.actorId = a.actorId := congrArg (fun v : TargetView => v.actorId) same
      have row' := known b among
      rw [id, row] at row'
      cases Option.some.inj row'
      exact ((members a).mp among).2.2
    · intro complete
      refine ⟨complete.own, fun v among own => ?_⟩
      obtain ⟨a, row, rfl⟩ := among
      refine (complete.others a row own).imp_right fun other => ⟨other.1, ?_⟩
      exact List.mem_map_of_mem ((members a).mpr ⟨row, other⟩)
  · rw [zoneActorsAround, actorsAround_none sorted returns]
    exact iff_of_false (fun done => by cases done.choose_spec.1) fun all => returns all.returns

theorem map_exact_iff (circle : tf.aoeType = .circle) (map : ViewMap) (target : TargetView)
    (flags : UInt16) (aoeTarget : TargetFindAOETarget) :
    (∃ found, tf.findWithinArea trig target flags aoeTarget map.actorsAround = some found ∧
        Exact (· ∈ map.views) (tf.Qualifies target flags aoeTarget) found.targets) ↔
      MapComplete tf map target flags aoeTarget := by
  obtain ⟨found, query, members⟩ := map.actorsAround_some target.actorId tf.maxDistance
  have inside : ∀ v ∈ found, v ∈ map.views := fun v among => ((members v).mp among).1
  have keyed : ∀ v ∈ found, ∀ w ∈ found, v.actorId = w.actorId → v = w :=
    fun v hv w hw => ViewMap.eq_of_id (inside v hv) (inside w hw)
  have search := search_exact_iff trig circle target flags aoeTarget keyed inside
  rw [findWithinArea_circle trig circle, query]
  simp only [Option.map_some, Option.some.injEq, exists_eq_left']
  rw [search]
  constructor
  · intro complete
    refine ⟨complete.1, fun v among own => ?_⟩
    exact (complete.2 v among own).imp_right fun other => ⟨other.1, ((members v).mp other.2).2⟩
  · intro complete
    refine ⟨complete.own, fun v among own => ?_⟩
    exact (complete.others v among own).imp_right fun other =>
      ⟨other.1, (members v).mpr ⟨among, other.2⟩⟩

/-- A search in a circle finds what it is to find, in a zone or in a map of views, exactly if the
target is itself of the arena or does not qualify, and all others that qualify are around it. -/
theorem area_targets_exact_iff (circle : tf.aoeType = .circle) {zoneId : UInt32}
    {isIsolated : Bool} {ops : List AreaOperation} {core : AreaCore}
    (ran : run AreaCore.step (.new zoneId isIsolated) ops = some core) (checked : Bool)
    (map : ViewMap) (target : TargetView) (flags : UInt16) (aoeTarget : TargetFindAOETarget) :
    ((∃ found, tf.findWithinArea trig target flags aoeTarget (zoneActorsAround checked core) =
        some found ∧ Exact (InZone core) (tf.Qualifies target flags aoeTarget) found.targets) ↔
      ZoneComplete tf checked core target flags aoeTarget) ∧
    ((∃ found, tf.findWithinArea trig target flags aoeTarget map.actorsAround = some found ∧
        Exact (· ∈ map.views) (tf.Qualifies target flags aoeTarget) found.targets) ↔
      MapComplete tf map target flags aoeTarget) := by
  have sorted : core.Sorted := by
    have always := always_of_step AreaCore.step_sorted
      (AreaCore.empty_sorted (.new zoneId isIsolated) rfl rfl) ops
    exact always_iff_reached.mp always ops List.prefix_rfl core ran
  exact ⟨zone_exact_iff trig circle sorted checked target flags aoeTarget,
    map_exact_iff trig circle map target flags aoeTarget⟩

/-! ### A circle around the owner -/

def player : StoredActor := ⟨1, .player, ⟨0, 0, 0⟩, (100, 100), true⟩
def nearWolf : StoredActor := ⟨3, .battleNpc, ⟨5, 0, 0⟩, (100, 100), true⟩
def farWolf : StoredActor := ⟨2, .battleNpc, ⟨200, 0, 0⟩, (104, 100), true⟩

def meadow : AreaCore :=
  ((((AreaCore.new 100 false).addActor player).1.addActor nearWolf).1.addActor farWolf).1

def meadowViews : ViewMap :=
  ⟨[storedToView player 100, storedToView nearWolf 100, storedToView farWolf 100], by decide⟩

def burst : TargetFind where
  owner := storedToView player 100
  mainTarget := storedToView player 100
  validTarget := ValidTarget.ENEMY
  aoeType := .circle
  aoeTarget := .self
  aoeTargetPosition := ⟨0, 0, 0⟩
  aoeTargetRotation := 0
  maxDistance := 10
  minDistance := 0
  width := 0
  height := 10
  aoeRotateAngle := 0
  coneAngle := 0
  param := 0
  targets := []

def flat : Trigonometry := ⟨fun _ => 0, fun _ => 1⟩

theorem area_targets_exact_iff_meadow :
    ((∃ found, burst.findWithinArea flat (storedToView nearWolf 100) ValidTarget.ENEMY .self
          (zoneActorsAround true meadow) = some found ∧
        Exact (InZone meadow) (burst.Qualifies (storedToView nearWolf 100) ValidTarget.ENEMY .self)
          found.targets) ↔
      ZoneComplete burst true meadow (storedToView nearWolf 100) ValidTarget.ENEMY .self) ∧
    ((∃ found, burst.findWithinArea flat (storedToView nearWolf 100) ValidTarget.ENEMY .self
          meadowViews.actorsAround = some found ∧
        Exact (· ∈ meadowViews.views)
          (burst.Qualifies (storedToView nearWolf 100) ValidTarget.ENEMY .self) found.targets) ↔
      MapComplete burst meadowViews (storedToView nearWolf 100) ValidTarget.ENEMY .self) :=
  area_targets_exact_iff flat rfl
    (show run AreaCore.step (.new 100 false)
      [.addActor player, .addActor nearWolf, .addActor farWolf] = some meadow from rfl)
    true meadowViews _ _ _

/-- The far wolf is the target of a burst around the player, and the near one is not found. -/
theorem nearWolf_not_found :
    run AreaCore.step (.new 100 false)
        [.addActor player, .addActor nearWolf, .addActor farWolf] = some meadow ∧
      ¬ (∃ found, burst.findWithinArea flat (storedToView farWolf 100) ValidTarget.ENEMY .self
          (zoneActorsAround true meadow) = some found ∧
        Exact (InZone meadow) (burst.Qualifies (storedToView farWolf 100) ValidTarget.ENEMY .self)
          found.targets) ∧
      ¬ (∃ found, burst.findWithinArea flat (storedToView farWolf 100) ValidTarget.ENEMY .self
          meadowViews.actorsAround = some found ∧
        Exact (· ∈ meadowViews.views)
          (burst.Qualifies (storedToView farWolf 100) ValidTarget.ENEMY .self) found.targets) := by
  have near : burst.Qualifies (storedToView farWolf 100) ValidTarget.ENEMY .self
      (storedToView nearWolf 100) := by
    refine ⟨by decide, by decide, ⟨?_, ?_, ?_⟩⟩
    all_goals with_unfolding_all decide
  refine ⟨rfl, fun claimed => ?_, fun claimed => ?_⟩
  · obtain ⟨found, done, exactly⟩ := claimed
    have stored : InZone meadow (storedToView nearWolf 100) := ⟨nearWolf, by decide, rfl⟩
    have there := (exactly.mem_iff _).mpr ⟨stored, near⟩
    have none_found : (burst.findWithinArea flat (storedToView farWolf 100) ValidTarget.ENEMY .self
        (zoneActorsAround true meadow)).map (fun found => found.targets.length) = some 0 := by
      with_unfolding_all decide
    rw [done, Option.map_some, Option.some.injEq, List.length_eq_zero_iff] at none_found
    rw [none_found] at there
    cases there
  · obtain ⟨found, done, exactly⟩ := claimed
    have there := (exactly.mem_iff _).mpr ⟨by simp [meadowViews], near⟩
    have none_found : (burst.findWithinArea flat (storedToView farWolf 100) ValidTarget.ENEMY .self
        meadowViews.actorsAround).map (fun found => found.targets.length) = some 0 := by
      with_unfolding_all decide
    rw [done, Option.map_some, Option.some.injEq, List.length_eq_zero_iff] at none_found
    rw [none_found] at there
    cases there

end TargetFind

end Garlemald.Battle
