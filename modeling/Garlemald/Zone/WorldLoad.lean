import Garlemald.Library.Runs
import Garlemald.Zone.Location

/-!
The world loads of a session. A warp is a task that waits several times before its latch and its
bundle are out; what it is held back by is the latch of the login alone.
-/

namespace Garlemald.Zone

open Library Common

/-- Where a session is going. -/
structure Destination where
  zoneId : UInt32
  place : Place
  spawnType : UInt8
  position : Vector3 ℚ
  rotation : ℚ
deriving DecidableEq

inductive WarpKind where
  | zoneChange
  | content
deriving DecidableEq

structure Warp where
  kind : WarpKind
  zoneId : UInt32
  privateArea : Option Text
  privateAreaType : UInt32
  spawnType : UInt8
  position : Vector3 ℚ
  rotation : ℚ

inductive Recipe where
  | wipe
  | deferred
  | flush
deriving DecidableEq

/-- The zones that are hosted, and the map of regions and boundaries. -/
structure Realm where
  atlas : Atlas
  zones : UInt32 → Option Zone

namespace Realm

variable (realm : Realm)

def hosts (zoneId : UInt32) : Bool := (realm.zones zoneId).isSome

def region (zoneId default : UInt32) : UInt32 :=
  if realm.hosts zoneId then realm.atlas.regionId zoneId else default

def sameRegion (oldZoneId zoneId : UInt32) : Bool :=
  realm.region oldZoneId 0 = realm.region zoneId 0xFFFF

/-- A content area is no private area, and a private area that is not there is none. -/
def place (w : Warp) : Place :=
  match w.kind with
  | .content => none
  | .zoneChange => (realm.zones w.zoneId).bind fun zone =>
      zone.route (w.privateArea.map (·, w.privateAreaType))

def destination (w : Warp) : Destination :=
  ⟨w.zoneId, realm.place w, w.spawnType, w.position, w.rotation⟩

def usesWipeReloadRecipe (oldZoneId : UInt32) (oldPrivateArea : Option Text) (w : Warp) : Bool :=
  oldZoneId = w.zoneId ||
    realm.sameRegion oldZoneId w.zoneId && oldPrivateArea.isNone && w.privateArea.isNone &&
      (realm.atlas.seamlessPartnerZones (realm.region w.zoneId 0xFFFF) oldZoneId).contains w.zoneId

def recipe (oldZoneId : UInt32) (oldPrivateArea : Option Text) (w : Warp) : Recipe :=
  match w.kind with
  | .content => .wipe
  | .zoneChange =>
      if realm.usesWipeReloadRecipe oldZoneId oldPrivateArea w then .wipe
      else if realm.sameRegion oldZoneId w.zoneId then .deferred
      else .flush

end Realm

/-- What a warp does next: look at the latch of the login, move the player, note the warp in the
session, send the latch, park the bundle or send it. -/
inductive Stage where
  | check
  | move (oldZoneId : UInt32) (oldPrivateArea : Option Text)
  | mark (recipe : Recipe)
  | latch (recipe : Recipe)
  | park
  | bundle
deriving DecidableEq

/-- A warp under way; it may have been held back before, as a whole or its bundle. -/
structure Task where
  warp : Warp
  held : Bool
  stage : Stage

structure PendingZoneIn where
  fireAtUnixMs : ℕ
  load : ℕ
  warp : Warp

structure Bundle where
  load : ℕ
  held : Bool
  aimedAt : Destination
  shown : Destination

/-- A session and the warps on it. Every warp has a number, that of its load; beside stand the
loads that went out since the last acknowledgement, and what became of the parked warps. -/
structure Loading where
  destination : Destination
  deferWarpsUntilZoneInAck : Bool
  deferredLoginWarp : Option (ℕ × Warp)
  reloadInFlight : Bool
  pendingZoneIn : Option PendingZoneIn
  tasks : ℕ → Option Task
  next : ℕ
  inFlight : List ℕ
  latches : List ℕ
  bundles : List Bundle
  everParked : List ℕ
  replaced : List ℕ
  applied : List ℕ

inductive LoadOp where
  | warp (w : Warp)
  | advance (load : ℕ) (client : Bool) (nowUnixMs : ℕ)
  | tick (nowUnixMs : ℕ)
  | ack

def RETAIL_ZONE_CHANGE_GAP_MS : ℕ := 6000

variable {oldPrivateArea : Option Text}

namespace Loading

/-- A session whose login bundle is out, as load 0. -/
def login (destination : Destination) : Loading where
  destination := destination
  deferWarpsUntilZoneInAck := true
  deferredLoginWarp := none
  reloadInFlight := false
  pendingZoneIn := none
  tasks := fun _ => none
  next := 1
  inFlight := [0]
  latches := []
  bundles := [⟨0, false, destination, destination⟩]
  everParked := []
  replaced := []
  applied := []

variable (realm : Realm) (s : Loading)

def put (load : ℕ) (task : Option Task) : Loading :=
  { s with tasks := Function.update s.tasks load task }

def sent (load : ℕ) : List ℕ := if load ∈ s.inFlight then s.inFlight else s.inFlight ++ [load]

/-- The last warp that is parked stands for the others. -/
def parkWarp (load : ℕ) (w : Warp) : Loading :=
  { s.put load none with
    deferredLoginWarp := some (load, w)
    everParked := s.everParked ++ [load]
    replaced := s.replaced ++ s.deferredLoginWarp.toList.map Prod.fst }

def advance (load : ℕ) (t : Task) (client : Bool) (nowUnixMs : ℕ) : Loading :=
  match t.stage with
  | .check =>
      if t.warp.kind = .zoneChange ∧ s.deferWarpsUntilZoneInAck = true then s.parkWarp load t.warp
      else
        s.put load (some { t with
          stage := .move s.destination.zoneId (s.destination.place.map Prod.fst) })
  | .move oldZoneId oldPrivateArea =>
      { s.put load (some { t with
          stage := .mark (realm.recipe oldZoneId oldPrivateArea t.warp) }) with
        destination :=
          if realm.hosts t.warp.zoneId then
            { realm.destination t.warp with spawnType := s.destination.spawnType }
          else s.destination }
  | .mark recipe =>
      { s.put load (some { t with stage := .latch recipe }) with
        destination := { s.destination with spawnType := t.warp.spawnType }
        reloadInFlight := s.reloadInFlight || recipe = .wipe }
  | .latch recipe =>
      if client then
        { s.put load (some { t with stage := if recipe = .deferred then .park else .bundle }) with
          inFlight := s.sent load
          latches := s.latches ++ [load] }
      else s.put load none
  | .park =>
      { s.put load none with
        pendingZoneIn := some ⟨nowUnixMs + RETAIL_ZONE_CHANGE_GAP_MS, load, t.warp⟩ }
  | .bundle =>
      if client && realm.hosts s.destination.zoneId then
        { s.put load none with
          inFlight := s.sent load
          bundles := s.bundles ++ [⟨load, t.held, realm.destination t.warp, s.destination⟩] }
      else s.put load none

def step (s : Loading) : LoadOp → Loading
  | .warp w => { s.put s.next (some ⟨w, false, .check⟩) with next := s.next + 1 }
  | .advance load client nowUnixMs =>
      match s.tasks load with
      | none => s
      | some t => s.advance realm load t client nowUnixMs
  | .tick nowUnixMs =>
      match s.pendingZoneIn with
      | none => s
      | some p =>
          if p.fireAtUnixMs ≤ nowUnixMs then
            { s.put p.load (some ⟨p.warp, true, .bundle⟩) with pendingZoneIn := none }
          else s
  | .ack =>
      let acked := { s with
        deferWarpsUntilZoneInAck := false
        deferredLoginWarp := none
        reloadInFlight := false
        inFlight := [] }
      match s.deferredLoginWarp with
      | none => acked
      | some (load, w) =>
          { acked.put load (some ⟨w, true, .check⟩) with applied := s.applied ++ [load] }

/-- One load at a time goes unacknowledged, with one latch and one bundle; what was held back goes
out for where the session is, and a parked warp waits for the acknowledgement, was replaced by a
later one, or was taken up once. -/
structure OneLoad (s : Loading) : Prop where
  single : s.inFlight.length ≤ 1
  latches : s.latches.Nodup
  bundles : (s.bundles.map Bundle.load).Nodup
  aimed : ∀ b ∈ s.bundles, b.held = true → b.aimedAt = b.shown
  waits : s.deferredLoginWarp.isSome = true → s.deferWarpsUntilZoneInAck = true
  parked : ∀ load ∈ s.everParked,
    (∃ w, s.deferredLoginWarp = some (load, w)) ∨ load ∈ s.replaced ∨ load ∈ s.applied
  applied : s.applied.Nodup

/-- No load waits for its acknowledgement, no bundle is parked and no other warp is under way. -/
def Idle (s : Loading) : Prop :=
  s.inFlight = [] ∧ s.pendingZoneIn = none ∧
    ∀ load t, s.tasks load = some t → t.stage = .check

/-- The condition on an event: a warp that is not parked comes when nothing is under way, and one
that was parked, or whose bundle will be, goes to a zone that is hosted. -/
def Fits (s : Loading) : LoadOp → Prop
  | .advance load _ _ => ∀ t, s.tasks load = some t → t.stage = .check →
      t.warp.kind = .content ∨ s.deferWarpsUntilZoneInAck = false →
        s.Idle ∧ (t.held = true ∨ realm.sameRegion s.destination.zoneId t.warp.zoneId = true →
          realm.hosts t.warp.zoneId = true)
  | _ => True

def Holds (s : Loading) (k : ℕ) : Prop :=
  (∃ t, s.tasks k = some t) ∨ (∃ p, s.pendingZoneIn = some p ∧ p.load = k) ∨
    ∃ w, s.deferredLoginWarp = some (k, w)

/-- Every number stands in one place, and its latch and its bundle go out once. -/
structure Numbered (s : Loading) : Prop where
  below : ∀ k, s.Holds k → k < s.next
  bundled : ∀ b ∈ s.bundles, b.load < s.next ∧ ¬ s.Holds b.load
  latched : ∀ k ∈ s.latches, k < s.next ∧
    (∀ t, s.tasks k = some t → t.stage = .park ∨ t.stage = .bundle) ∧
      ∀ w, s.deferredLoginWarp ≠ some (k, w)
  pendingApart : ∀ p, s.pendingZoneIn = some p → s.tasks p.load = none
  deferredApart : ∀ k w, s.deferredLoginWarp = some (k, w) → s.tasks k = none ∧
    ∀ p, s.pendingZoneIn = some p → p.load ≠ k
  latches : s.latches.Nodup
  bundles : (s.bundles.map Bundle.load).Nodup

/-- A number whose warp has begun and is not over. -/
def Busy (s : Loading) (k : ℕ) : Prop :=
  (∃ t, s.tasks k = some t ∧ t.stage ≠ .check) ∨ ∃ p, s.pendingZoneIn = some p ∧ p.load = k

/-- One warp is under way, and nothing else is unacknowledged. -/
structure Lone (s : Loading) : Prop where
  alone : ∀ j k, s.Busy j → s.Busy k → j = k
  flight : ∀ j ∈ s.inFlight, ∀ k, s.Busy k → j = k
  single : s.inFlight.length ≤ 1

/-- What is under way goes where the session goes, if it is held back on its way. -/
def Aims (t : Task) : Prop :=
  match t.stage with
  | .check => True
  | .move oldZoneId _ => t.held = true ∨ realm.sameRegion oldZoneId t.warp.zoneId = true →
      realm.hosts t.warp.zoneId = true
  | .mark recipe => t.held = true ∨ recipe = .deferred →
      s.destination = { realm.destination t.warp with spawnType := s.destination.spawnType }
  | .latch recipe => t.held = true ∨ recipe = .deferred → s.destination = realm.destination t.warp
  | .park => s.destination = realm.destination t.warp
  | .bundle => t.held = true → s.destination = realm.destination t.warp

structure Aimed : Prop where
  tasks : ∀ k t, s.tasks k = some t → s.Aims realm t
  pending : ∀ p, s.pendingZoneIn = some p → s.destination = realm.destination p.warp
  bundles : ∀ b ∈ s.bundles, b.held = true → b.aimedAt = b.shown

structure Kept (s : Loading) : Prop where
  waits : s.deferredLoginWarp.isSome = true → s.deferWarpsUntilZoneInAck = true
  parked : ∀ load ∈ s.everParked,
    (∃ w, s.deferredLoginWarp = some (load, w)) ∨ load ∈ s.replaced ∨ load ∈ s.applied
  unapplied : s.deferWarpsUntilZoneInAck = true → s.applied = []
  applied : s.applied.Nodup

variable {realm : Realm} {s : Loading} {k : ℕ} {t t' : Task}

theorem tasks_put (s : Loading) (k j : ℕ) (o : Option Task) :
    (s.put k o).tasks j = if j = k then o else s.tasks j := by
  by_cases same : j = k
  · subst same
    rw [if_pos rfl]
    exact Function.update_self _ _ _
  · rw [if_neg same]
    exact Function.update_of_ne same _ _

variable {o : Option Task}

theorem Holds.of_put {j : ℕ} (there : s.tasks k = some t) (holds : (s.put k o).Holds j) :
    s.Holds j := by
  rcases holds with ⟨u, found⟩ | pending | parked
  · rw [tasks_put] at found
    split at found
    · rename_i same
      exact .inl ⟨t, same ▸ there⟩
    · exact .inl ⟨u, found⟩
  · exact .inr (.inl pending)
  · exact .inr (.inr parked)

theorem Numbered.put (held : s.Numbered) (there : s.tasks k = some t) {o : Option Task}
    (onward : ∀ t', o = some t' → t.stage = .park ∨ t.stage = .bundle →
      t'.stage = .park ∨ t'.stage = .bundle) : (s.put k o).Numbered where
  below j holds := held.below j (holds.of_put there)
  bundled b inside := ⟨(held.bundled b inside).1,
    fun holds => (held.bundled b inside).2 (holds.of_put there)⟩
  latched j inside := by
    obtain ⟨below, late, undeferred⟩ := held.latched j inside
    refine ⟨below, fun u found => ?_, undeferred⟩
    rw [tasks_put] at found
    split at found
    · rename_i same
      exact onward u found (late t (same ▸ there))
    · exact late u found
  pendingApart p pending := by
    have absent := held.pendingApart p pending
    rw [tasks_put, if_neg, absent]
    intro same
    rw [same, there] at absent
    cases absent
  deferredApart j w parked := by
    obtain ⟨absent, other⟩ := held.deferredApart j w parked
    refine ⟨?_, other⟩
    rw [tasks_put, if_neg, absent]
    intro same
    rw [same, there] at absent
    cases absent
  latches := held.latches
  bundles := held.bundles

theorem Numbered.ended (held : s.Numbered) (there : s.tasks k = some t) : (s.put k none).Numbered :=
  held.put there fun _ nothing => by cases nothing

theorem Numbered.onward (held : s.Numbered) (there : s.tasks k = some t)
    (early : ¬ (t.stage = .park ∨ t.stage = .bundle)) (t' : Task) :
    (s.put k (some t')).Numbered :=
  held.put there fun _ _ late => absurd late early

theorem Numbered.not_pending (held : s.Numbered) (there : s.tasks k = some t) {p : PendingZoneIn}
    (pending : s.pendingZoneIn = some p) : p.load ≠ k := by
  intro same
  have absent := held.pendingApart p pending
  rw [same, there] at absent
  cases absent

theorem Numbered.not_deferred (held : s.Numbered) (there : s.tasks k = some t) (w : Warp) :
    s.deferredLoginWarp ≠ some (k, w) := by
  intro parked
  have absent := (held.deferredApart k w parked).1
  rw [there] at absent
  cases absent

theorem busy_put {j : ℕ} (other : j ≠ k) :
    (s.put k o).Busy j ↔ s.Busy j := by
  unfold Busy
  rw [tasks_put, if_neg other]
  rfl

theorem Lone.mono {s' : Loading} (held : s.Lone) (busy : ∀ j, s'.Busy j → s.Busy j)
    (flight : s'.inFlight = s.inFlight) : s'.Lone := by
  refine ⟨fun i j busyI busyJ => held.alone i j (busy i busyI) (busy j busyJ),
    fun i inside j busyJ => ?_, ?_⟩
  · rw [flight] at inside
    exact held.flight i inside j (busy j busyJ)
  · rw [flight]
    exact held.single

theorem Lone.put (held : s.Lone) (busy : s.Busy k) (o : Option Task) : (s.put k o).Lone := by
  refine held.mono (fun j after => ?_) rfl
  by_cases same : j = k
  · rw [same]
    exact busy
  · exact (busy_put same).mp after

theorem Lone.send (held : s.Lone) (busy : s.Busy k) (o : Option Task) :
    Lone { s.put k o with inFlight := s.sent k } := by
  have onward := held.put busy o
  have mine : ∀ j, (s.put k o).Busy j → j = k := by
    intro j after
    by_cases same : j = k
    · exact same
    · exact held.alone j k ((busy_put same).mp after) busy
  unfold sent
  split
  · exact onward
  · have empty : s.inFlight = [] := by
      rcases flying : s.inFlight with _ | ⟨j, rest⟩
      · rfl
      · have same := held.flight j (by rw [flying]; exact List.mem_cons_self) k busy
        rename_i outside
        rw [flying, same] at outside
        exact absurd List.mem_cons_self outside
    rw [empty]
    refine ⟨onward.alone, fun j inside i busyI => ?_, le_rfl⟩
    rw [List.mem_singleton.mp inside]
    exact (mine i busyI).symm

theorem Lone.others (held : s.Lone) (busy : s.Busy k) {j : ℕ} {u : Task}
    (found : s.tasks j = some u) (other : j ≠ k) : u.stage = .check := by
  by_contra late
  exact other (held.alone j k (.inl ⟨u, found, late⟩) busy)

theorem Lone.unparked (held : s.Lone) (numbered : s.Numbered) (there : s.tasks k = some t)
    (late : t.stage ≠ .check) : s.pendingZoneIn = none := by
  cases pending : s.pendingZoneIn with
  | none => rfl
  | some p =>
      have same := held.alone p.load k (.inr ⟨p, pending, rfl⟩) (.inl ⟨t, there, late⟩)
      exact absurd same (numbered.not_pending there pending)

theorem Aimed.put (held : s.Aimed realm) (lone : s.Lone) (numbered : s.Numbered)
    (there : s.tasks k = some t) (late : t.stage ≠ .check) {destination : Destination}
    (aims : ∀ t', o = some t' → Aims realm { s.put k o with destination := destination } t') :
    Aimed realm { s.put k o with destination := destination } where
  tasks j u found := by
    replace found := (tasks_put s k j o).symm.trans found
    by_cases same : j = k
    · rw [if_pos same] at found
      exact aims u found
    · rw [if_neg same] at found
      have waits := lone.others (.inl ⟨t, there, late⟩) found same
      unfold Aims
      rw [waits]
      trivial
  pending p parked := by
    have unparked := lone.unparked numbered there late
    exact absurd (unparked.symm.trans parked) (by simp)
  bundles := held.bundles

structure Good (realm : Realm) (s : Loading) : Prop where
  numbered : s.Numbered
  lone : s.Lone
  aimed : s.Aimed realm
  kept : s.Kept

theorem Numbered.beside (held : s.Numbered) (destination : Destination) (defer reload : Bool)
    (inFlight everParked replaced applied : List ℕ) :
    Numbered { s with
      destination := destination, deferWarpsUntilZoneInAck := defer, reloadInFlight := reload,
      inFlight := inFlight, everParked := everParked, replaced := replaced, applied := applied } :=
  ⟨held.below, held.bundled, held.latched, held.pendingApart, held.deferredApart, held.latches,
    held.bundles⟩

theorem Kept.beside (held : s.Kept) (destination : Destination) (reload : Bool)
    (pending : Option PendingZoneIn) (tasks : ℕ → Option Task) (next : ℕ)
    (inFlight latches : List ℕ) (bundles : List Bundle) :
    Kept { s with
      destination := destination, reloadInFlight := reload, pendingZoneIn := pending,
      tasks := tasks, next := next, inFlight := inFlight, latches := latches,
      bundles := bundles } :=
  ⟨held.waits, held.parked, held.unapplied, held.applied⟩

theorem good_parkWarp (held : s.Good realm) (there : s.tasks k = some t)
    (waits : t.stage = .check) (defers : s.deferWarpsUntilZoneInAck = true) :
    (s.parkWarp k t.warp).Good realm := by
  have base := held.numbered.ended there
  refine ⟨⟨fun j holds => ?_, fun b inside => ?_, fun j inside => ?_, base.pendingApart,
    fun j w parked => ?_, held.numbered.latches, held.numbered.bundles⟩, ?_, ⟨?_, ?_, ?_⟩,
    ⟨fun _ => defers, fun load inside => ?_, held.kept.unapplied, held.kept.applied⟩⟩
  · rcases holds with task | pending | ⟨w, parked⟩
    · exact base.below j (.inl task)
    · exact base.below j (.inr (.inl pending))
    · cases parked
      exact held.numbered.below k (.inl ⟨t, there⟩)
  · refine ⟨(held.numbered.bundled b inside).1, fun holds => ?_⟩
    rcases holds with task | pending | ⟨w, parked⟩
    · exact (base.bundled b inside).2 (.inl task)
    · exact (base.bundled b inside).2 (.inr (.inl pending))
    · have same : k = b.load := congrArg Prod.fst (Option.some.inj parked)
      exact (held.numbered.bundled b inside).2 (.inl ⟨t, same ▸ there⟩)
  · obtain ⟨below, late, _⟩ := base.latched j inside
    refine ⟨below, late, fun w parked => ?_⟩
    have same : k = j := congrArg Prod.fst (Option.some.inj parked)
    rcases (held.numbered.latched j inside).2.1 t (same ▸ there) with parks | bundles
    · rw [waits] at parks
      cases parks
    · rw [waits] at bundles
      cases bundles
  · have same : k = j := congrArg Prod.fst (Option.some.inj parked)
    subst same
    exact ⟨(tasks_put s k k none).trans (if_pos rfl),
      fun p pending => held.numbered.not_pending there pending⟩
  · refine held.lone.mono (fun j after => ?_) rfl
    rcases after with ⟨u, found, late⟩ | pending
    · replace found := (tasks_put s k j none).symm.trans found
      split at found
      · cases found
      · exact .inl ⟨u, found, late⟩
    · exact .inr pending
  · intro j u found
    replace found := (tasks_put s k j none).symm.trans found
    split at found
    · cases found
    · exact held.aimed.tasks j u found
  · exact held.aimed.pending
  · exact held.aimed.bundles
  · rcases List.mem_append.mp inside with before | new
    · rcases held.kept.parked load before with ⟨w, now⟩ | replaced | applied
      · refine .inr (.inl (List.mem_append_right _ ?_))
        rw [now]
        exact List.mem_singleton_self _
      · exact .inr (.inl (List.mem_append_left _ replaced))
      · exact .inr (.inr applied)
    · rw [List.mem_singleton.mp new]
      exact .inl ⟨t.warp, rfl⟩

theorem good_begin (held : s.Good realm) (there : s.tasks k = some t) (idle : s.Idle)
    (waits : t.stage = .check)
    (hosted : t.held = true ∨ realm.sameRegion s.destination.zoneId t.warp.zoneId = true →
      realm.hosts t.warp.zoneId = true) {oldPrivateArea : Option Text} :
    (s.put k (some { t with stage := .move s.destination.zoneId oldPrivateArea })).Good realm := by
  obtain ⟨landed, unparked, idle⟩ := idle
  have only : ∀ j, (s.put k (some { t with
      stage := .move s.destination.zoneId oldPrivateArea })).Busy j → j = k := by
    intro j after
    by_contra other
    rcases (busy_put other).mp after with ⟨u, found, late⟩ | ⟨p, pending, _⟩
    · exact late (idle j u found)
    · rw [unparked] at pending
      cases pending
  refine ⟨held.numbered.onward there (by simp [waits]) _, ⟨fun i j busyI busyJ => ?_,
    fun i inside => ?_, ?_⟩, ⟨fun j u found => ?_, held.aimed.pending, held.aimed.bundles⟩,
    held.kept.beside _ _ _ _ _ _ _ _⟩
  · rw [only i busyI, only j busyJ]
  · replace inside : i ∈ s.inFlight := inside
    rw [landed] at inside
    cases inside
  · exact held.lone.single
  · rw [tasks_put] at found
    split at found
    · cases found
      exact hosted
    · exact held.aimed.tasks j u found

end Loading

theorem Realm.sameRegion_of_deferred {realm : Realm} {oldZoneId : UInt32} {w : Warp}
    (parks : realm.recipe oldZoneId oldPrivateArea w = .deferred) :
    realm.sameRegion oldZoneId w.zoneId = true := by
  unfold recipe at parks
  split at parks
  · cases parks
  · split at parks
    · cases parks
    · split at parks
      · assumption
      · cases parks

namespace Loading

variable {realm : Realm} {s : Loading} {k : ℕ} {t t' : Task}

theorem good_move (held : s.Good realm) (there : s.tasks k = some t) {oldZoneId : UInt32}
    (stage : t.stage = .move oldZoneId oldPrivateArea) :
    Good realm { s.put k (some { t with
        stage := .mark (realm.recipe oldZoneId oldPrivateArea t.warp) }) with
      destination :=
        if realm.hosts t.warp.zoneId then
          { realm.destination t.warp with spawnType := s.destination.spawnType }
        else s.destination } := by
  have late : t.stage ≠ .check := by rw [stage]; exact Stage.noConfusion
  have busy : s.Busy k := .inl ⟨t, there, late⟩
  have lone := held.lone.put busy (some { t with
    stage := .mark (realm.recipe oldZoneId oldPrivateArea t.warp) })
  have numbered := held.numbered.onward there (by simp [stage]) { t with
    stage := .mark (realm.recipe oldZoneId oldPrivateArea t.warp) }
  refine ⟨numbered.beside _ _ _ _ _ _ _, lone.mono (fun _ => id) rfl, ?_,
    held.kept.beside _ _ _ _ _ _ _ _⟩
  refine held.aimed.put held.lone held.numbered there late fun t' new => ?_
  cases new
  intro owes
  have hosted := held.aimed.tasks k t there
  rw [Aims, stage] at hosted
  have there := hosted (owes.imp_right Realm.sameRegion_of_deferred)
  rw [if_pos there]

theorem good_mark (held : s.Good realm) (there : s.tasks k = some t) {recipe : Recipe}
    (stage : t.stage = .mark recipe) :
    Good realm { s.put k (some { t with stage := .latch recipe }) with
      destination := { s.destination with spawnType := t.warp.spawnType }
      reloadInFlight := s.reloadInFlight || recipe = .wipe } := by
  have late : t.stage ≠ .check := by rw [stage]; exact Stage.noConfusion
  have busy : s.Busy k := .inl ⟨t, there, late⟩
  have lone := held.lone.put busy (some { t with stage := .latch recipe })
  have numbered := held.numbered.onward there (by simp [stage]) { t with stage := .latch recipe }
  have aimed : Aimed realm { s.put k (some { t with stage := .latch recipe }) with
      destination := { s.destination with spawnType := t.warp.spawnType } } :=
    held.aimed.put held.lone held.numbered there late fun t' new => by
      cases new
      intro owes
      have arrived := held.aimed.tasks k t there
      rw [Aims, stage] at arrived
      rw [arrived owes]
      rfl
  exact ⟨numbered.beside _ _ _ _ _ _ _, lone.mono (fun _ => id) rfl,
    ⟨aimed.tasks, aimed.pending, aimed.bundles⟩, held.kept.beside _ _ _ _ _ _ _ _⟩

theorem good_finish (held : s.Good realm) (there : s.tasks k = some t) (late : t.stage ≠ .check) :
    (s.put k none).Good realm :=
  ⟨held.numbered.ended there,
    held.lone.put (.inl ⟨t, there, late⟩) none,
    held.aimed.put held.lone held.numbered there late (fun _ nothing => by cases nothing),
    held.kept.beside _ _ _ _ _ _ _ _⟩

theorem good_latch (held : s.Good realm) (there : s.tasks k = some t) {recipe : Recipe}
    (stage : t.stage = .latch recipe) :
    Good realm { s.put k (some { t with
        stage := if recipe = .deferred then .park else .bundle }) with
      inFlight := s.sent k
      latches := s.latches ++ [k] } := by
  have late : t.stage ≠ .check := by rw [stage]; exact Stage.noConfusion
  have busy : s.Busy k := .inl ⟨t, there, late⟩
  have past : ∀ t' : Task, some { t with
      stage := if recipe = Recipe.deferred then Stage.park else .bundle } = some t' →
      t'.stage = .park ∨ t'.stage = .bundle := by
    intro t' new
    cases new
    by_cases parks : recipe = .deferred
    · exact .inl (if_pos parks)
    · exact .inr (if_neg parks)
  have numbered := held.numbered.put there fun t' new _ => past t' new
  have first : k ∉ s.latches := by
    intro inside
    rcases (held.numbered.latched k inside).2.1 t there with parks | bundles
    · rw [stage] at parks
      cases parks
    · rw [stage] at bundles
      cases bundles
  refine ⟨⟨numbered.below, numbered.bundled, fun j inside => ?_, numbered.pendingApart,
    numbered.deferredApart, ?_, numbered.bundles⟩, ?_, ⟨?_, ?_, held.aimed.bundles⟩,
    held.kept.beside _ _ _ _ _ _ _ _⟩
  · rcases List.mem_append.mp inside with before | new
    · exact numbered.latched j before
    · rw [List.mem_singleton.mp new]
      refine ⟨held.numbered.below k (.inl ⟨t, there⟩), fun u found => ?_,
        fun w parked => absurd parked (held.numbered.not_deferred there w)⟩
      replace found := (tasks_put s k k _).symm.trans found
      rw [if_pos rfl] at found
      exact past u found
  · rw [List.nodup_append]
    refine ⟨held.numbered.latches, List.nodup_singleton k, fun a inside b new same => ?_⟩
    rw [same, List.mem_singleton.mp new] at inside
    exact first inside
  · have sends := held.lone.send busy (some { t with
      stage := if recipe = .deferred then .park else .bundle })
    exact sends.mono (fun _ => id) rfl
  · have aimed : Aimed realm { s.put k (some { t with
        stage := if recipe = .deferred then .park else .bundle }) with
        destination := s.destination } :=
      held.aimed.put held.lone held.numbered there late fun t' new => by
        cases new
        have arrived := held.aimed.tasks k t there
        rw [Aims, stage] at arrived
        by_cases parks : recipe = .deferred
        · rw [Aims, if_pos parks]
          exact arrived (.inr parks)
        · rw [Aims, if_neg parks]
          exact fun again => arrived (.inl again)
    exact aimed.tasks
  · exact held.aimed.pending

theorem good_park (held : s.Good realm) (there : s.tasks k = some t) (stage : t.stage = .park)
    (fireAtUnixMs : ℕ) :
    Good realm { s.put k none with pendingZoneIn := some ⟨fireAtUnixMs, k, t.warp⟩ } := by
  have late : t.stage ≠ .check := by rw [stage]; exact Stage.noConfusion
  have busy : s.Busy k := .inl ⟨t, there, late⟩
  have base := held.numbered.ended there
  have mine : s.Holds k := .inl ⟨t, there⟩
  have was : ∀ j, Holds { s.put k none with
      pendingZoneIn := some ⟨fireAtUnixMs, k, t.warp⟩ } j → s.Holds j := by
    intro j holds
    rcases holds with task | ⟨p, pending, rfl⟩ | parked
    · exact Holds.of_put there (.inl task)
    · cases pending
      exact mine
    · exact .inr (.inr parked)
  refine ⟨⟨fun j holds => held.numbered.below j (was j holds), fun b inside =>
    ⟨(held.numbered.bundled b inside).1, fun holds => (held.numbered.bundled b inside).2
      (was _ holds)⟩, base.latched, fun p pending => ?_, fun j w parked => ?_, base.latches,
    base.bundles⟩, ?_, ⟨?_, fun p pending => ?_, held.aimed.bundles⟩,
    held.kept.beside _ _ _ _ _ _ _ _⟩
  · cases pending
    exact (tasks_put s k k none).trans (if_pos rfl)
  · refine ⟨(base.deferredApart j w parked).1, fun p pending same => ?_⟩
    cases pending
    cases same
    exact held.numbered.not_deferred there w parked
  · refine held.lone.mono (fun j after => ?_) rfl
    rcases after with ⟨u, found, waits⟩ | ⟨p, pending, rfl⟩
    · replace found := (tasks_put s k j none).symm.trans found
      split at found
      · cases found
      · exact .inl ⟨u, found, waits⟩
    · cases pending
      exact busy
  · exact (good_finish held there late).aimed.tasks
  · cases pending
    have arrived := held.aimed.tasks k t there
    rw [Aims, stage] at arrived
    exact arrived

theorem good_bundle (held : s.Good realm) (there : s.tasks k = some t)
    (stage : t.stage = .bundle) :
    Good realm { s.put k none with
      inFlight := s.sent k
      bundles := s.bundles ++ [⟨k, t.held, realm.destination t.warp, s.destination⟩] } := by
  have late : t.stage ≠ .check := by rw [stage]; exact Stage.noConfusion
  have busy : s.Busy k := .inl ⟨t, there, late⟩
  have base := held.numbered.ended there
  have mine : s.Holds k := .inl ⟨t, there⟩
  refine ⟨⟨base.below, fun b inside => ?_, base.latched, base.pendingApart, base.deferredApart,
    base.latches, ?_⟩, ?_, ⟨?_, held.aimed.pending, fun b inside again => ?_⟩,
    held.kept.beside _ _ _ _ _ _ _ _⟩
  · rcases List.mem_append.mp inside with before | new
    · exact base.bundled b before
    · cases List.mem_singleton.mp new
      refine ⟨held.numbered.below k mine, fun holds => ?_⟩
      rcases holds with ⟨u, found⟩ | ⟨p, pending, same⟩ | ⟨w, parked⟩
      · replace found := (tasks_put s k k none).symm.trans found
        rw [if_pos rfl] at found
        cases found
      · exact held.numbered.not_pending there pending same
      · exact held.numbered.not_deferred there w parked
  · rw [List.map_append, List.nodup_append]
    refine ⟨held.numbered.bundles, List.nodup_singleton k, fun a inside b new same => ?_⟩
    obtain ⟨before, sent, rfl⟩ := List.mem_map.mp inside
    rw [List.mem_singleton.mp new] at same
    exact (held.numbered.bundled before sent).2 (same ▸ mine)
  · exact (held.lone.send busy none).mono (fun _ => id) rfl
  · exact (good_finish held there late).aimed.tasks
  · rcases List.mem_append.mp inside with before | new
    · exact held.aimed.bundles b before again
    · cases List.mem_singleton.mp new
      have arrived := held.aimed.tasks k t there
      rw [Aims, stage] at arrived
      exact (arrived again).symm

theorem good_advance (held : s.Good realm) (there : s.tasks k = some t) {client : Bool}
    {nowUnixMs : ℕ} (fits : s.Fits realm (.advance k client nowUnixMs)) :
    (s.advance realm k t client nowUnixMs).Good realm := by
  unfold advance
  cases stage : t.stage with
  | check =>
      simp only
      split
      · rename_i waits
        exact good_parkWarp held there stage waits.2
      · rename_i free
        have onward : t.warp.kind = .content ∨ s.deferWarpsUntilZoneInAck = false := by
          cases kind : t.warp.kind with
          | content => exact .inl rfl
          | zoneChange => exact .inr (Bool.eq_false_iff.mpr fun set => free ⟨kind, set⟩)
        obtain ⟨idle, hosted⟩ := fits t there stage onward
        exact good_begin held there idle stage hosted
  | move oldZoneId oldPrivateArea => exact good_move held there stage
  | mark recipe => exact good_mark held there stage
  | latch recipe =>
      simp only
      split
      · exact good_latch held there stage
      · exact good_finish held there (by rw [stage]; exact Stage.noConfusion)
  | park => exact good_park held there stage _
  | bundle =>
      simp only
      split
      · exact good_bundle held there stage
      · exact good_finish held there (by rw [stage]; exact Stage.noConfusion)

theorem Numbered.start (held : s.Numbered) (w : Warp) (again : Bool) (free : ¬ s.Holds k)
    (below : k < s.next) (unbundled : ∀ b ∈ s.bundles, b.load ≠ k) (unlatched : k ∉ s.latches) :
    (s.put k (some ⟨w, again, .check⟩)).Numbered := by
  have was : ∀ j, (s.put k (some ⟨w, again, .check⟩)).Holds j → j = k ∨ s.Holds j := by
    intro j holds
    by_cases same : j = k
    · exact .inl same
    · refine .inr ?_
      unfold Holds at holds
      rw [tasks_put, if_neg same] at holds
      exact holds
  refine ⟨fun j holds => ?_, fun b inside => ⟨(held.bundled b inside).1, fun holds => ?_⟩,
    fun j inside => ?_, fun p pending => ?_, fun j w' parked => ?_, held.latches, held.bundles⟩
  · rcases was j holds with same | before
    · exact same ▸ below
    · exact held.below j before
  · rcases was b.load holds with same | before
    · exact unbundled b inside same
    · exact (held.bundled b inside).2 before
  · obtain ⟨early, late, undeferred⟩ := held.latched j inside
    refine ⟨early, fun u found => ?_, undeferred⟩
    have other : j ≠ k := fun same => unlatched (same ▸ inside)
    rw [tasks_put, if_neg other] at found
    exact late u found
  · have other : p.load ≠ k := fun same => free (.inr (.inl ⟨p, pending, same⟩))
    rw [tasks_put, if_neg other]
    exact held.pendingApart p pending
  · have other : j ≠ k := fun same => free (.inr (.inr ⟨w', same ▸ parked⟩))
    rw [tasks_put, if_neg other]
    exact held.deferredApart j w' parked

theorem busy_start {w : Warp} {again : Bool} {j : ℕ} (free : ¬ s.Holds k)
    (busy : (s.put k (some ⟨w, again, .check⟩)).Busy j) : s.Busy j := by
  by_cases same : j = k
  · subst same
    rcases busy with ⟨u, found, late⟩ | pending
    · rw [tasks_put, if_pos rfl] at found
      cases found
      exact absurd rfl late
    · exact absurd (.inr (.inl pending)) free
  · exact (busy_put same).mp busy

theorem Aimed.start (held : s.Aimed realm) (k : ℕ) (w : Warp) (again : Bool) :
    Aimed realm (s.put k (some ⟨w, again, .check⟩)) := by
  refine ⟨fun j u found => ?_, held.pending, held.bundles⟩
  rw [tasks_put] at found
  split at found
  · cases found
    trivial
  · exact held.tasks j u found

theorem good_warp (held : s.Good realm) (w : Warp) :
    Good realm { s.put s.next (some ⟨w, false, .check⟩) with next := s.next + 1 } := by
  have free : ¬ s.Holds s.next := fun holds => lt_irrefl _ (held.numbered.below _ holds)
  have more : Numbered { s with next := s.next + 1 } :=
    ⟨fun j holds => (held.numbered.below j holds).trans (Nat.lt_succ_self _),
      fun b inside => ⟨(held.numbered.bundled b inside).1.trans (Nat.lt_succ_self _),
        (held.numbered.bundled b inside).2⟩,
      fun j inside => ⟨(held.numbered.latched j inside).1.trans (Nat.lt_succ_self _),
        (held.numbered.latched j inside).2⟩,
      held.numbered.pendingApart, held.numbered.deferredApart, held.numbered.latches,
      held.numbered.bundles⟩
  have numbered := more.start w false free (Nat.lt_succ_self _)
    (fun b inside same => (held.numbered.bundled b inside).1.ne same)
    (fun inside => lt_irrefl _ (held.numbered.latched _ inside).1)
  have aimed : Aimed realm (s.put s.next (some ⟨w, false, .check⟩)) :=
    held.aimed.start _ w false
  exact ⟨numbered.beside _ _ _ _ _ _ _, held.lone.mono (fun j after => busy_start free after) rfl,
    ⟨aimed.tasks, aimed.pending, aimed.bundles⟩, held.kept.beside _ _ _ _ _ _ _ _⟩

theorem good_due (held : s.Good realm) {p : PendingZoneIn} (parked : s.pendingZoneIn = some p) :
    Good realm { s.put p.load (some ⟨p.warp, true, .bundle⟩) with pendingZoneIn := none } := by
  have busy : s.Busy p.load := .inr ⟨p, parked, rfl⟩
  have mine : s.Holds p.load := .inr (.inl ⟨p, parked, rfl⟩)
  have was : ∀ j, Holds { s.put p.load (some ⟨p.warp, true, .bundle⟩) with
      pendingZoneIn := none } j → s.Holds j := by
    intro j holds
    rcases holds with ⟨u, found⟩ | ⟨q, nothing, _⟩ | deferred
    · replace found := (tasks_put s p.load j _).symm.trans found
      split at found
      · rename_i same
        exact same ▸ mine
      · exact .inl ⟨u, found⟩
    · cases nothing
    · exact .inr (.inr deferred)
  refine ⟨⟨fun j holds => held.numbered.below j (was j holds),
    fun b inside => ⟨(held.numbered.bundled b inside).1,
      fun holds => (held.numbered.bundled b inside).2 (was _ holds)⟩,
    fun j inside => ?_, fun q nothing => (by cases nothing), fun j w deferred => ?_,
    held.numbered.latches, held.numbered.bundles⟩, ?_,
    ⟨fun j u found => ?_, fun q nothing => (by cases nothing), held.aimed.bundles⟩,
    held.kept.beside _ _ _ _ _ _ _ _⟩
  · obtain ⟨early, late, undeferred⟩ := held.numbered.latched j inside
    refine ⟨early, fun u found => ?_, undeferred⟩
    replace found := (tasks_put s p.load j _).symm.trans found
    split at found
    · cases found
      exact .inr rfl
    · exact late u found
  · obtain ⟨absent, other⟩ := held.numbered.deferredApart j w deferred
    refine ⟨(tasks_put s p.load j _).trans ?_, fun q nothing => by cases nothing⟩
    rw [if_neg fun same => other p parked same.symm, absent]
  · refine held.lone.mono (fun j after => ?_) rfl
    rcases after with ⟨u, found, late⟩ | ⟨q, nothing, _⟩
    · replace found := (tasks_put s p.load j _).symm.trans found
      split at found
      · rename_i same
        exact same ▸ busy
      · exact .inl ⟨u, found, late⟩
    · cases nothing
  · replace found := (tasks_put s p.load j _).symm.trans found
    split at found
    · cases found
      exact fun _ => held.aimed.pending p parked
    · exact held.aimed.tasks j u found

theorem good_ack (held : s.Good realm) : (s.step realm .ack).Good realm := by
  have rest : ∀ j, Holds { s with
      deferWarpsUntilZoneInAck := false, deferredLoginWarp := none, reloadInFlight := false,
      inFlight := [] } j → s.Holds j := by
    intro j holds
    rcases holds with task | pending | ⟨w, nothing⟩
    · exact .inl task
    · exact .inr (.inl pending)
    · cases nothing
  have numbered : Numbered { s with
      deferWarpsUntilZoneInAck := false, deferredLoginWarp := none, reloadInFlight := false,
      inFlight := [] } :=
    ⟨fun j holds => held.numbered.below j (rest j holds),
      fun b inside => ⟨(held.numbered.bundled b inside).1,
        fun holds => (held.numbered.bundled b inside).2 (rest _ holds)⟩,
      fun j inside => ⟨(held.numbered.latched j inside).1, (held.numbered.latched j inside).2.1,
        fun w nothing => by cases nothing⟩,
      held.numbered.pendingApart, fun j w nothing => (by cases nothing), held.numbered.latches,
      held.numbered.bundles⟩
  have lone : Lone { s with
      deferWarpsUntilZoneInAck := false, deferredLoginWarp := none, reloadInFlight := false,
      inFlight := [] } :=
    ⟨held.lone.alone, fun j inside => (by cases inside), Nat.zero_le _⟩
  have aimed : Aimed realm { s with
      deferWarpsUntilZoneInAck := false, deferredLoginWarp := none, reloadInFlight := false,
      inFlight := [] } :=
    ⟨held.aimed.tasks, held.aimed.pending, held.aimed.bundles⟩
  cases parked : s.deferredLoginWarp with
  | none =>
      rw [step, parked]
      refine ⟨numbered, lone, aimed, ⟨fun nothing => ?_, fun load inside => ?_, fun nothing => ?_,
        held.kept.applied⟩⟩
      · cases nothing
      · rcases held.kept.parked load inside with ⟨w, now⟩ | settled
        · rw [parked] at now
          cases now
        · exact .inr settled
      · cases nothing
  | some entry =>
      obtain ⟨load, w⟩ := entry
      have mine : s.Holds load := .inr (.inr ⟨w, parked⟩)
      obtain ⟨absent, other⟩ := held.numbered.deferredApart load w parked
      have fresh := held.kept.unapplied (held.kept.waits (by rw [parked]; rfl))
      have free : ¬ Holds { s with
          deferWarpsUntilZoneInAck := false, deferredLoginWarp := none, reloadInFlight := false,
          inFlight := [] } load := by
        intro holds
        rcases holds with ⟨u, found⟩ | ⟨p, pending, same⟩ | ⟨w', nothing⟩
        · rw [absent] at found
          cases found
        · exact other p pending same
        · cases nothing
      have begun := numbered.start w true free (held.numbered.below load mine)
        (fun b inside same => (held.numbered.bundled b inside).2 (same ▸ mine))
        (fun inside => (held.numbered.latched load inside).2.2 w parked)
      have aims := aimed.start load w true
      rw [step, parked]
      refine ⟨begun.beside _ _ _ _ _ _ _, lone.mono (fun j after => busy_start free after) rfl,
        ⟨aims.tasks, aims.pending, aims.bundles⟩, ⟨fun nothing => ?_, fun n inside => ?_,
        fun nothing => ?_, ?_⟩⟩
      · cases nothing
      · rcases held.kept.parked n inside with ⟨w', now⟩ | replaced | applied
        · rw [parked] at now
          cases now
          exact .inr (.inr (List.mem_append_right _ (List.mem_singleton_self _)))
        · exact .inr (.inl replaced)
        · exact .inr (.inr (List.mem_append_left _ applied))
      · cases nothing
      · rw [fresh]
        exact List.nodup_singleton load

theorem good_step (held : s.Good realm) {op : LoadOp} (fits : s.Fits realm op) :
    (s.step realm op).Good realm := by
  cases op with
  | warp w => exact good_warp held w
  | advance load client nowUnixMs =>
      simp only [step]
      cases there : s.tasks load with
      | none => exact held
      | some t => exact good_advance held there fits
  | tick nowUnixMs =>
      simp only [step]
      cases parked : s.pendingZoneIn with
      | none => exact held
      | some p =>
          simp only
          split
          · exact good_due held parked
          · exact held
  | ack => exact good_ack held

theorem Good.oneLoad (held : s.Good realm) : s.OneLoad :=
  ⟨held.lone.single, held.numbered.latches, held.numbered.bundles, held.aimed.bundles,
    held.kept.waits, held.kept.parked, held.kept.applied⟩

theorem good_login (destination : Destination) : (login destination).Good realm := by
  have free : ∀ j, ¬ (login destination).Holds j := by
    rintro j (⟨t, found⟩ | ⟨p, pending, _⟩ | ⟨w, parked⟩)
    · cases found
    · cases pending
    · cases parked
  have idle : ∀ j, ¬ (login destination).Busy j := by
    rintro j (⟨t, found, _⟩ | ⟨p, pending, _⟩)
    · cases found
    · cases pending
  refine ⟨⟨fun j holds => absurd holds (free j), fun b inside => ⟨?_, free _⟩,
    fun j inside => (by cases inside), fun p pending => (by cases pending),
    fun j w parked => (by cases parked), List.nodup_nil, List.nodup_singleton 0⟩,
    ⟨fun j _ busy => absurd busy (idle j), fun _ _ j busy => absurd busy (idle j), le_rfl⟩,
    ⟨fun j t found => (by cases found), fun p pending => (by cases pending),
      fun b inside again => ?_⟩,
    ⟨fun _ => rfl, fun load inside => (by cases inside), fun _ => rfl, List.nodup_nil⟩⟩
  · cases List.mem_singleton.mp inside
    exact Nat.one_pos
  · cases List.mem_singleton.mp inside
    cases again

/-- In a run whose events all meet their condition a session has one load in flight at most. -/
theorem one_load (realm : Realm) (destination : Destination) {ops : List LoadOp}
    (fits : EachStep (fun s op => some (step realm s op)) (Fits realm) (login destination) ops) :
    Always (fun s op => some (step realm s op)) OneLoad (login destination) ops := by
  have held := always_of_eachStep (I := Good realm)
    (fun _ _ _ good meets done => Option.some.inj done ▸ good_step good meets)
    (good_login destination) fits
  exact held.mono fun _ good => good.oneLoad

/-- Two zones of one region without a boundary between them. -/
def harbour : Realm where
  atlas := ⟨1, fun _ => 101, fun _ => []⟩
  zones := fun zoneId =>
    if zoneId = 128 ∨ zoneId = 133 then
      some ⟨⟨.new zoneId false, AreaCore.empty_sorted _ rfl rfl⟩, fun _ => none⟩
    else none

def onDeck : Destination := ⟨128, none, 1, ⟨0, 0, 0⟩, 0⟩

def warpTo (zoneId : UInt32) : Warp := ⟨.zoneChange, zoneId, none, 0, 2, ⟨0, 0, 0⟩, 0⟩

/-- A warp of the login window is parked, taken up after the acknowledgement, and its bundle is
parked and sent. -/
theorem one_load_parked : Always (fun s op => some (step harbour s op)) OneLoad (login onDeck)
    [.warp (warpTo 133), .advance 1 true 0, .ack, .advance 1 true 0, .advance 1 true 0,
      .advance 1 true 0, .advance 1 true 0, .advance 1 true 0, .tick 6000,
      .advance 1 true 6000, .ack] := by
  apply one_load
  rintro _ ⟨⟩
  refine ⟨trivial, ?_⟩
  rintro _ ⟨⟩
  constructor
  · rintro t ⟨⟩ _ (content | unset)
    · cases content
    · cases unset
  rintro _ ⟨⟩
  refine ⟨trivial, ?_⟩
  rintro _ ⟨⟩
  constructor
  · rintro t ⟨⟩ _ _
    refine ⟨⟨rfl, rfl, fun j u found => ?_⟩, fun _ => by decide⟩
    by_cases same : j = 1
    · subst same
      cases found
      rfl
    · replace found := (Function.update_of_ne same _ _).symm.trans found
      replace found := (Function.update_of_ne same _ _).symm.trans found
      replace found := (Function.update_of_ne same _ _).symm.trans found
      cases found
  iterate 4
    rintro _ ⟨⟩
    constructor
    · rintro t ⟨⟩ ⟨⟩
  rintro _ ⟨⟩
  refine ⟨trivial, ?_⟩
  rintro _ ⟨⟩
  constructor
  · rintro t ⟨⟩ ⟨⟩
  rintro _ ⟨⟩
  exact ⟨trivial, trivial⟩

/-- Nothing holds a second warp back while the client loads for the first. -/
theorem two_loads : ∃ s, run (fun s op => some (step harbour s op)) (login onDeck)
    (.ack :: .warp (warpTo 128) :: List.replicate 5 (.advance 1 true 0) ++
      .warp (warpTo 128) :: List.replicate 5 (.advance 2 true 0)) = some s ∧ ¬ s.OneLoad := by
  have both : (run (fun s op => some (step harbour s op)) (login onDeck)
      (.ack :: .warp (warpTo 128) :: List.replicate 5 (.advance 1 true 0) ++
        .warp (warpTo 128) :: List.replicate 5 (.advance 2 true 0))).map (·.inFlight) =
          some [1, 2] := by
    decide
  obtain ⟨s, reached, two⟩ := Option.map_eq_some_iff.mp both
  refine ⟨s, reached, fun held => ?_⟩
  have single := held.single
  rw [two] at single
  exact absurd single (by decide)

end Loading
end Garlemald.Zone
