import Garlemald.Library.Runs
import Garlemald.Library.Utf8
import Mathlib.Data.List.Sort
import Mathlib.Data.Nat.Digits.Defs

/-!
The director of a content, its members and those of them who are players. A removal goes by the
flag that its caller gives for the actor, and nothing asks whether the director has ended before a
member joins.
-/

namespace Garlemald.Content

open Library

/-- A set of ids in their order. -/
structure IdSet where
  ids : List UInt32
  once : ids.Nodup

namespace IdSet

instance : Membership UInt32 IdSet := ⟨fun s id => id ∈ s.ids⟩

instance (id : UInt32) (s : IdSet) : Decidable (id ∈ s) := inferInstanceAs (Decidable (id ∈ s.ids))

def empty : IdSet := ⟨[], .nil⟩

def insert (s : IdSet) (id : UInt32) : IdSet :=
  if absent : id ∉ s then
    { ids := s.ids.orderedInsert (· ≤ ·) id
      once := (List.perm_orderedInsert _ id s.ids).nodup_iff.mpr (s.once.cons absent) }
  else s

def remove (s : IdSet) (id : UInt32) : IdSet := ⟨s.ids.erase id, s.once.erase id⟩

variable {s : IdSet} {id other : UInt32}

@[simp] theorem not_mem_empty : id ∉ empty := List.not_mem_nil

@[simp] theorem mem_insert : other ∈ s.insert id ↔ other = id ∨ other ∈ s := by
  rw [insert]
  split
  · exact List.mem_orderedInsert _
  · next present =>
      rw [not_not] at present
      exact ⟨.inr, fun either => either.elim (fun same => same ▸ present) fun among => among⟩

@[simp] theorem mem_remove : other ∈ s.remove id ↔ other ≠ id ∧ other ∈ s :=
  s.once.mem_erase_iff

end IdSet

/-! ### Names -/

def lastSegment (path : Text) : Text := (path.reverse.takeWhile (· ≠ '/')).reverse

/-- `skip` characters of a replaced needle are still to be passed over. -/
def replaceFrom (needle replacement : Text) : ℕ → Text → Text
  | _, [] => []
  | skip + 1, _ :: rest => replaceFrom needle replacement skip rest
  | 0, c :: rest =>
      if needle.isPrefixOf (c :: rest) then
        replacement ++ replaceFrom needle replacement (needle.length - 1) rest
      else c :: replaceFrom needle replacement 0 rest

def abbreviations : List (String × String) :=
  [("Field", "Fld"), ("Dungeon", "Dgn"), ("Town", "Twn"), ("Battle", "Btl"), ("Test", "Tes"),
    ("Event", "Evt"), ("Ship", "Shp"), ("Office", "Ofc")]

def abbreviateZoneName (name : Text) : Text :=
  abbreviations.foldl (fun name a => replaceFrom a.1.toList a.2.toList 0 name) name

def lowercaseFirst : Text → Text
  | [] => []
  | c :: rest => c.toLower :: rest

/-- The text in front of a byte; `none` is the panic of a cut inside a character. -/
def truncate : ℕ → Text → Option Text
  | 0, _ => some []
  | _ + 1, [] => some []
  | cap + 1, c :: rest =>
      if c.utf8Size ≤ cap + 1 then (truncate (cap + 1 - c.utf8Size) rest).map (c :: ·) else none

def padded (width : ℕ) (digits : Text) : Text :=
  List.replicate (width - digits.length) '0' ++ digits

def alphabet63 : Text := "0123456789abcdefghijklmnopqrstuvwxyzABCDEFGHIJKLMNOPQRSTUVWXYZ_".toList

def toBase63 (n : UInt32) : Text :=
  if n = 0 then ['0'] else (Nat.digits 63 n.toNat).reverse.map (alphabet63.getD · '0')

/-! ### The director -/

inductive DirectorEvent where
  | directorStarted (directorId zoneId : UInt32) (classPath className actorName : Text)
      (spawnImmediate : Bool)
  | directorEnded (directorId zoneId : UInt32)
  | mainCoroutine (directorId : UInt32)
  | memberAdded (directorId actorId : UInt32) (isPlayer : Bool)
  | memberRemoved (directorId actorId : UInt32) (isPlayer : Bool)

structure Director where
  directorId : UInt32
  zoneId : UInt32
  actorId : UInt32
  classPath : Text
  className : Text
  actorName : Text := []
  isCreated : Bool := false
  isDeleted : Bool := false
  isDeleting : Bool := false
  members : IdSet := .empty
  playerMembers : IdSet := .empty

def encodeDirectorActorId (zoneId localId : UInt32) : UInt32 :=
  ((6 : UInt32) <<< 28) ||| ((zoneId &&& 0x1FF) <<< 19) ||| ((localId + 2) &&& 0x7FFFF)

namespace Director

def new (id zoneId : UInt32) (directorScriptPath : Text) : Director where
  directorId := id
  zoneId := zoneId
  actorId := encodeDirectorActorId zoneId id
  classPath := directorScriptPath
  className := lastSegment directorScriptPath

variable (d : Director)

/-- The class name is cut to what the zone name leaves of twenty bytes. -/
def generateActorName (zoneName : Text) : Option Director :=
  let className := lowercaseFirst d.className
  let zoneName := lowercaseFirst (abbreviateZoneName zoneName)
  let cap := 20 - (utf8 zoneName).length
  let cut := if cap < (utf8 className).length then truncate cap className else some className
  let zoneDigits := (Nat.toDigits 16 d.zoneId.toNat).map Char.toUpper
  cut.map fun className =>
    { d with
      actorName := className ++ ['_'] ++ zoneName ++ ['_'] ++ toBase63 d.directorId ++ ['@'] ++
        padded 3 zoneDigits ++ padded 2 ['0'] }

/-- `none` is a panic. -/
def start (classPath : Option Text) (spawnImmediate : Bool) :
    Option (Director × List DirectorEvent) := do
  let d := match classPath with
    | some path => { d with classPath := path, className := lastSegment path }
    | none => d
  let d ← d.generateActorName ("field".toList ++ padded 5 (Nat.toDigits 10 d.zoneId.toNat))
  let d := { d with isCreated := true }
  return (d, [.directorStarted d.actorId d.zoneId d.classPath d.className d.actorName
    spawnImmediate, .mainCoroutine d.actorId])

/-- The members leave in their order. -/
def endDirector : Director × List DirectorEvent :=
  if d.isDeleted then (d, [])
  else
    let removed (id : UInt32) : DirectorEvent := .memberRemoved d.actorId id (id ∈ d.playerMembers)
    ({ d with
        isDeleting := true
        members := .empty
        playerMembers := .empty
        isDeleted := true },
      d.members.ids.map removed ++ [.directorEnded d.actorId d.zoneId])

def addMember (actorId : UInt32) (isPlayer : Bool) : Director × List DirectorEvent :=
  if actorId ∈ d.members then (d, [])
  else
    ({ d with
        members := d.members.insert actorId
        playerMembers := if isPlayer then d.playerMembers.insert actorId else d.playerMembers },
      [.memberAdded d.actorId actorId isPlayer])

/-- The players lose the actor only where the caller says that it is one. -/
def without (actorId : UInt32) (isPlayer : Bool) : Director :=
  { d with
    members := d.members.remove actorId
    playerMembers := if isPlayer then d.playerMembers.remove actorId else d.playerMembers }

def removeMember (actorId : UInt32) (isPlayer : Bool) : Director × List DirectorEvent :=
  let left := d.without actorId isPlayer
  if actorId ∉ d.members then (left, [])
  else
    let removed : DirectorEvent := .memberRemoved d.actorId actorId isPlayer
    if left.playerMembers.ids.isEmpty && !left.isDeleting then
      (left.endDirector.1, removed :: left.endDirector.2)
    else (left, [removed])

end Director

/-! ### Runs -/

inductive DirectorCall where
  | addMember (actorId : UInt32) (isPlayer : Bool)
  | removeMember (actorId : UInt32) (isPlayer : Bool)
  | start (classPath : Option Text) (spawnImmediate : Bool)
  | endDirector

structure Directed where
  director : Director
  events : List DirectorEvent := []

namespace Director

def call (d : Director) : DirectorCall → Option (Director × List DirectorEvent)
  | .addMember actorId isPlayer => some (d.addMember actorId isPlayer)
  | .removeMember actorId isPlayer => some (d.removeMember actorId isPlayer)
  | .start classPath spawnImmediate => d.start classPath spawnImmediate
  | .endDirector => some d.endDirector

end Director

inductive Turn where
  | joins (isPlayer : Bool)
  | leaves (isPlayer : Bool)

def DirectorEvent.turn (actorId : UInt32) : DirectorEvent → Option Turn
  | .memberAdded _ id isPlayer => if id = actorId then some (.joins isPlayer) else none
  | .memberRemoved _ id isPlayer => if id = actorId then some (.leaves isPlayer) else none
  | _ => none

def DirectorEvent.isEnded : DirectorEvent → Bool
  | .directorEnded .. => true
  | _ => false

/-- From the flag that an actor has joined with and not left since, to that behind its next turn.
An actor leaves once for each time that it joins, with the flag that it has joined with. -/
def Turn.follow : Option Bool → Turn → Option (Option Bool)
  | _, .joins isPlayer => some (some isPlayer)
  | some joined, .leaves isPlayer => if isPlayer = joined then some none else none
  | none, .leaves _ => none

namespace Directed

def step (s : Directed) (c : DirectorCall) : Option Directed :=
  (s.director.call c).map fun r => ⟨r.1, s.events ++ r.2⟩

def turns (s : Directed) (actorId : UInt32) : List Turn :=
  s.events.filterMap (DirectorEvent.turn actorId)

/-- What is to hold of the members and of the events. -/
structure Sound (s : Directed) : Prop where
  subset : ∀ id ∈ s.director.playerMembers, id ∈ s.director.members
  matched : ∀ actorId, (run Turn.follow none (s.turns actorId)).isSome
  once : s.events.countP DirectorEvent.isEnded ≤ 1
  ended : s.director.isDeleted = true ↔ 0 < s.events.countP DirectorEvent.isEnded
  emptied : s.director.isDeleted = true → ∀ id, id ∉ s.director.members

end Directed

namespace Director

/-- The call removes the last player. -/
def LosesLastPlayer (d : Director) : DirectorCall → Prop
  | .removeMember actorId _ => actorId ∈ d.members ∧ ∀ id, id ∈ d.playerMembers ↔ id = actorId
  | _ => False

def LeavesNoPlayer (d : Director) : DirectorCall → Prop
  | .removeMember actorId _ => actorId ∈ d.members ∧ ∀ id ∈ d.playerMembers, id = actorId
  | _ => False

/-- A member leaves as what it has joined as, and none joins after the end. -/
def Fits (d : Director) : DirectorCall → Prop
  | .addMember _ _ => d.isDeleted = false
  | .removeMember actorId isPlayer => actorId ∈ d.members →
      (isPlayer = true ↔ actorId ∈ d.playerMembers)
  | .start _ _ => True
  | .endDirector => True

end Director

/-- A director ends when it is told to or by a call of a kind, and only then. -/
def Directed.EndsBy (kind : Director → DirectorCall → Prop) (s : Directed) (c : DirectorCall) :
    Prop :=
  s.director.isDeleted = false → ∀ s', s.step c = some s' →
    (s'.director.isDeleted = true ↔ c = .endDirector ∨ kind s.director c)

/-! ### What the calls keep -/

namespace Director

variable (d : Director)

/-- What the turns of an actor have come to: the flag of a member. -/
def standing (actorId : UInt32) : Option Bool :=
  if actorId ∈ d.members then some (decide (actorId ∈ d.playerMembers)) else none

theorem endDirector_turns (active : d.isDeleted = false) (actorId : UInt32) :
    d.endDirector.2.filterMap (DirectorEvent.turn actorId) =
      if actorId ∈ d.members then [.leaves (actorId ∈ d.playerMembers)] else [] := by
  have removals (ids : List UInt32) (once : ids.Nodup) :
      (ids.map fun id => DirectorEvent.memberRemoved d.actorId id (id ∈ d.playerMembers)).filterMap
        (DirectorEvent.turn actorId) =
          if actorId ∈ ids then [.leaves (actorId ∈ d.playerMembers)] else [] := by
    induction ids with
    | nil => rfl
    | cons id ids ih =>
        obtain ⟨fresh, once⟩ := List.nodup_cons.mp once
        rw [List.map_cons, List.filterMap_cons, DirectorEvent.turn]
        by_cases own : id = actorId
        · subst own
          rw [if_pos rfl, ih once, if_neg fresh, if_pos (List.mem_cons_self ..)]
        · rw [if_neg own, ih once]
          exact if_congr (by simp [Ne.symm own]) rfl rfl
  rw [endDirector, active, if_neg Bool.false_ne_true]
  dsimp only
  rw [List.filterMap_append, removals _ d.members.once]
  exact List.append_nil _

theorem endDirector_ended (active : d.isDeleted = false) :
    d.endDirector.2.countP DirectorEvent.isEnded = 1 := by
  have quiet (ids : List UInt32) : (ids.map fun id => DirectorEvent.memberRemoved d.actorId id
      (id ∈ d.playerMembers)).countP DirectorEvent.isEnded = 0 := by
    rw [List.countP_eq_zero]
    intro e member
    obtain ⟨id, _, rfl⟩ := List.mem_map.mp member
    exact Bool.false_ne_true
  rw [endDirector, active, if_neg Bool.false_ne_true]
  dsimp only
  rw [List.countP_append, quiet]
  rfl

end Director

namespace Directed

/-- What holds of a run as long as its calls meet the condition. -/
structure Kept (s : Directed) : Prop where
  deleting : s.director.isDeleting = s.director.isDeleted
  subset : ∀ id ∈ s.director.playerMembers, id ∈ s.director.members
  follows : ∀ actorId, run Turn.follow none (s.turns actorId) = some (s.director.standing actorId)
  ended : s.events.countP DirectorEvent.isEnded = if s.director.isDeleted then 1 else 0
  emptied : s.director.isDeleted = true → ∀ id, id ∉ s.director.members

variable {s s' : Directed}

theorem Kept.sound (kept : s.Kept) : s.Sound where
  subset := kept.subset
  matched actorId := by
    rw [kept.follows]
    rfl
  once := by
    rw [kept.ended]
    split <;> decide
  ended := by
    rw [kept.ended]
    split <;> simp_all
  emptied := kept.emptied

theorem Kept.follow (kept : s.Kept) (d : Director) (events : List DirectorEvent)
    (actorId : UInt32) :
    run Turn.follow none (turns ⟨d, s.events ++ events⟩ actorId) =
      run Turn.follow (s.director.standing actorId)
        (events.filterMap (DirectorEvent.turn actorId)) := by
  have before := kept.follows actorId
  rw [run] at before
  rw [turns, List.filterMap_append, run, List.foldlM_append]
  exact (congrArg (· >>= _) before)

theorem kept_new (id zoneId : UInt32) (path : Text) : Kept ⟨Director.new id zoneId path, []⟩ where
  deleting := rfl
  subset _ among := absurd among IdSet.not_mem_empty
  follows _ := rfl
  ended := rfl
  emptied _ _ := IdSet.not_mem_empty

end Directed

namespace Directed

variable {s s' : Directed}

theorem Kept.quiet (kept : s.Kept) {d : Director} {events : List DirectorEvent}
    (deleting : d.isDeleting = s.director.isDeleting) (deleted : d.isDeleted = s.director.isDeleted)
    (members : ∀ id, id ∈ d.members ↔ id ∈ s.director.members)
    (players : ∀ id, id ∈ d.playerMembers ↔ id ∈ s.director.playerMembers)
    (silent : ∀ e ∈ events, e.isEnded = false ∧ ∀ actorId, e.turn actorId = none) :
    Kept ⟨d, s.events ++ events⟩ where
  deleting := by
    change d.isDeleting = d.isDeleted
    rw [deleting, deleted, kept.deleting]
  subset id among := (members id).mpr (kept.subset id ((players id).mp among))
  follows actorId := by
    have none_of : events.filterMap (DirectorEvent.turn actorId) = [] :=
      List.filterMap_eq_nil_iff.mpr fun e member => (silent e member).2 actorId
    rw [kept.follow, none_of]
    change some _ = some _
    simp only [Director.standing, members, players]
  ended := by
    have none_of : events.countP DirectorEvent.isEnded = 0 :=
      List.countP_eq_zero.mpr fun e member => by simp [(silent e member).1]
    change (s.events ++ events).countP _ = if d.isDeleted then 1 else 0
    rw [List.countP_append, none_of, add_zero, kept.ended, deleted]
  emptied gone id among :=
    kept.emptied (deleted.symm.trans gone) id ((members id).mp among)

theorem generateActorName_spec {d d' : Director} {zoneName : Text}
    (made : d.generateActorName zoneName = some d') :
    ∃ name, d' = { d with actorName := name } := by
  obtain ⟨className, _, renamed⟩ := Option.map_eq_some_iff.mp made
  exact ⟨_, renamed.symm⟩

theorem start_spec {d : Director} {classPath : Option Text} {spawnImmediate : Bool}
    {r : Director × List DirectorEvent} (started : d.start classPath spawnImmediate = some r) :
    (∃ path className name, r.1 = { d with
      classPath := path, className := className, actorName := name, isCreated := true }) ∧
      ∀ e ∈ r.2, e.isEnded = false ∧ ∀ actorId, e.turn actorId = none := by
  unfold Director.start at started
  obtain ⟨named, made, same⟩ := Option.bind_eq_some_iff.mp started
  obtain ⟨name, renamed⟩ := generateActorName_spec made
  cases same
  refine ⟨?_, by simp [DirectorEvent.isEnded, DirectorEvent.turn]⟩
  cases classPath with
  | none => exact ⟨_, _, name, by rw [renamed]⟩
  | some path => exact ⟨path, lastSegment path, name, by rw [renamed]⟩

theorem Kept.endDirector (kept : s.Kept) :
    Kept ⟨s.director.endDirector.1, s.events ++ s.director.endDirector.2⟩ := by
  cases active : s.director.isDeleted with
  | true =>
      have idle : s.director.endDirector = (s.director, []) := by
        rw [Director.endDirector, active, if_pos rfl]
      rw [idle, List.append_nil]
      exact kept
  | false =>
      have turns := s.director.endDirector_turns active
      have ended := s.director.endDirector_ended active
      have after : s.director.endDirector.1 = { s.director with
          isDeleting := true, members := .empty, playerMembers := .empty, isDeleted := true } := by
        rw [Director.endDirector, active, if_neg Bool.false_ne_true]
      rw [after]
      refine ⟨rfl, fun id among => absurd among IdSet.not_mem_empty, fun actorId => ?_, ?_,
        fun _ _ => IdSet.not_mem_empty⟩
      · rw [kept.follow, turns, Director.standing]
        split
        · simp only [run, List.foldlM_cons, List.foldlM_nil, Turn.follow, if_true]
          rfl
        · rfl
      · rw [List.countP_append, kept.ended, active, ended]
        rfl

theorem Kept.addMember (kept : s.Kept) (active : s.director.isDeleted = false) (actorId : UInt32)
    (isPlayer : Bool) :
    Kept ⟨(s.director.addMember actorId isPlayer).1,
      s.events ++ (s.director.addMember actorId isPlayer).2⟩ := by
  rw [Director.addMember]
  split
  · rw [List.append_nil]
    exact kept
  · next absent =>
      have noPlayer : actorId ∉ s.director.playerMembers := mt (kept.subset actorId) absent
      refine ⟨kept.deleting, fun id among => ?_, fun other => ?_, ?_, fun gone => ?_⟩
      · cases isPlayer with
        | true =>
            have before := (IdSet.mem_insert.mp among).imp_right (kept.subset id)
            exact IdSet.mem_insert.mpr before
        | false => exact IdSet.mem_insert.mpr (.inr (kept.subset id among))
      · rw [kept.follow, List.filterMap_cons, DirectorEvent.turn, Director.standing,
          Director.standing]
        by_cases own : actorId = other
        · subst own
          rw [if_pos rfl, if_neg absent, if_pos (IdSet.mem_insert.mpr (.inl rfl))]
          cases isPlayer <;> simp [run, Turn.follow, noPlayer]
        · rw [if_neg own]
          cases isPlayer <;> simp [run, Ne.symm own]
      · change (s.events ++ [_]).countP _ = if s.director.isDeleted then 1 else 0
        rw [List.countP_append, kept.ended]
        rfl
      · exact absurd (active.symm.trans gone) Bool.false_ne_true

variable {actorId : UInt32} {isPlayer : Bool}

theorem mem_playersLeft {d : Director} (flag : isPlayer = true ↔ actorId ∈ d.playerMembers)
    (id : UInt32) :
    id ∈ (d.without actorId isPlayer).playerMembers ↔ id ≠ actorId ∧ id ∈ d.playerMembers := by
  cases isPlayer with
  | true => exact IdSet.mem_remove
  | false =>
      have noPlayer : actorId ∉ d.playerMembers := fun among => Bool.false_ne_true (flag.mpr among)
      exact ⟨fun among => ⟨fun same => noPlayer (same ▸ among), among⟩, And.right⟩

theorem Kept.leaves (kept : s.Kept) (present : actorId ∈ s.director.members)
    (flag : isPlayer = true ↔ actorId ∈ s.director.playerMembers) :
    Kept ⟨s.director.without actorId isPlayer,
      s.events ++ [.memberRemoved s.director.actorId actorId isPlayer]⟩ := by
  have players := mem_playersLeft flag
  have sameFlag : isPlayer = decide (actorId ∈ s.director.playerMembers) := by
    rw [Bool.eq_iff_iff, flag, decide_eq_true_iff]
  refine ⟨kept.deleting, fun id among => ?_, fun other => ?_, ?_, fun gone => ?_⟩
  · obtain ⟨apart, player⟩ := (players id).mp among
    exact IdSet.mem_remove.mpr ⟨apart, kept.subset id player⟩
  · rw [kept.follow, List.filterMap_cons, DirectorEvent.turn, Director.standing,
      Director.standing]
    have among : other ∈ (s.director.without actorId isPlayer).members ↔
        other ≠ actorId ∧ other ∈ s.director.members := IdSet.mem_remove
    by_cases own : actorId = other
    · subst own
      rw [if_pos rfl, if_pos present, ← sameFlag, if_neg fun both => (among.mp both).1 rfl]
      simp [run, Turn.follow]
    · rw [if_neg own]
      simp [run, among, players, Ne.symm own]
  · change (s.events ++ [_]).countP _ = if s.director.isDeleted then 1 else 0
    rw [List.countP_append, kept.ended]
    rfl
  · exact absurd present (kept.emptied gone actorId)

theorem Kept.leavesNot (kept : s.Kept) (absent : actorId ∉ s.director.members) (isPlayer : Bool) :
    Kept ⟨s.director.without actorId isPlayer, s.events ++ []⟩ := by
  have noPlayer : actorId ∉ s.director.playerMembers := mt (kept.subset actorId) absent
  refine kept.quiet (d := s.director.without actorId isPlayer) rfl rfl ?_ ?_ ?_
  · intro id
    exact IdSet.mem_remove.trans (and_iff_right_of_imp fun among same => absent (same ▸ among))
  · intro id
    cases isPlayer with
    | true =>
        exact IdSet.mem_remove.trans
          (and_iff_right_of_imp fun among same => noPlayer (same ▸ among))
    | false => exact Iff.rfl
  · intro e member
    exact absurd member List.not_mem_nil

theorem Kept.removeMember (kept : s.Kept)
    (fits : s.director.Fits (.removeMember actorId isPlayer)) :
    Kept ⟨(s.director.removeMember actorId isPlayer).1,
      s.events ++ (s.director.removeMember actorId isPlayer).2⟩ := by
  rw [Director.removeMember]
  by_cases present : actorId ∈ s.director.members
  · have left := kept.leaves present (fits present)
    rw [if_neg (not_not.mpr present)]
    dsimp only
    split
    · have ended := left.endDirector
      rw [List.append_assoc] at ended
      exact ended
    · exact left
  · rw [if_pos present]
    exact kept.leavesNot present isPlayer

theorem Kept.step (kept : s.Kept) {c : DirectorCall} (fits : s.director.Fits c)
    (taken : s.step c = some s') : s'.Kept := by
  obtain ⟨r, called, rfl⟩ := Option.map_eq_some_iff.mp taken
  cases c with
  | addMember actorId isPlayer =>
      cases called
      exact kept.addMember fits actorId isPlayer
  | removeMember actorId isPlayer =>
      cases called
      exact kept.removeMember fits
  | start classPath spawnImmediate =>
      obtain ⟨⟨path, className, name, same⟩, silent⟩ := start_spec called
      refine kept.quiet ?_ ?_ ?_ ?_ silent
      all_goals simp [same]
  | endDirector =>
      cases called
      exact kept.endDirector

end Directed

/-! ### When a run is as it should be -/

namespace Director

variable (d : Director) {actorId : UInt32} {isPlayer : Bool}

theorem addMember_deleted : (d.addMember actorId isPlayer).1.isDeleted = d.isDeleted := by
  rw [addMember]
  split
  · rfl
  · rfl

theorem removeMember_absent (absent : actorId ∉ d.members) :
    d.removeMember actorId isPlayer = (d.without actorId isPlayer, []) := by
  rw [removeMember, if_pos absent]

variable {d} in
theorem removeMember_deleted (active : d.isDeleted = false) (still : d.isDeleting = false)
    (present : actorId ∈ d.members) :
    (d.removeMember actorId isPlayer).1.isDeleted = true ↔
      ∀ id, id ∉ (d.without actorId isPlayer).playerMembers := by
  have empty : (d.without actorId isPlayer).playerMembers.ids.isEmpty = true ↔
      ∀ id, id ∉ (d.without actorId isPlayer).playerMembers := by
    rw [List.isEmpty_iff, List.eq_nil_iff_forall_not_mem]
    exact Iff.rfl
  have running : (d.without actorId isPlayer).isDeleted = false := active
  have ended : (d.without actorId isPlayer).endDirector.1.isDeleted = true := by
    rw [endDirector, running, if_neg Bool.false_ne_true]
  have pending : (d.without actorId isPlayer).isDeleting = false := still
  rw [removeMember, if_neg (not_not.mpr present), ← empty]
  dsimp only
  rw [pending, Bool.not_false, Bool.and_true]
  split
  · next noPlayer => exact iff_of_true ended noPlayer
  · next players =>
      refine iff_of_false (fun gone => ?_) players
      exact Bool.false_ne_true (active.symm.trans gone)

theorem removeMember_events (present : actorId ∈ d.members) :
    ∃ events, (d.removeMember actorId isPlayer).2 =
      .memberRemoved d.actorId actorId isPlayer :: events := by
  rw [removeMember, if_neg (not_not.mpr present)]
  dsimp only
  split
  · exact ⟨_, rfl⟩
  · exact ⟨_, rfl⟩

theorem removeMember_stays (present : actorId ∈ d.members) {id : UInt32}
    (player : id ∈ (d.without actorId isPlayer).playerMembers) :
    (d.removeMember actorId isPlayer).1 = d.without actorId isPlayer := by
  have filled : (d.without actorId isPlayer).playerMembers.ids.isEmpty = false := by
    rw [List.isEmpty_eq_false_iff]
    exact List.ne_nil_of_mem player
  rw [removeMember, if_neg (not_not.mpr present)]
  dsimp only
  rw [filled, Bool.false_and, if_neg Bool.false_ne_true]

end Director

namespace Directed

variable {s s' : Directed}

variable {actorId : UInt32} {isPlayer : Bool}

theorem step_addMember (kept : s.Kept) (taken : s.step (.addMember actorId isPlayer) = some s') :
    s'.Sound ∧ s.EndsBy Director.LeavesNoPlayer (.addMember actorId isPlayer) ↔
      s.director.Fits (.addMember actorId isPlayer) := by
  cases taken
  constructor
  · intro held
    obtain ⟨sound, _⟩ := held
    rw [Director.Fits, ← Bool.not_eq_true]
    intro gone
    have absent := kept.emptied gone actorId
    apply sound.emptied (s.director.addMember_deleted.trans gone) actorId
    rw [Director.addMember, if_neg absent]
    exact IdSet.mem_insert.mpr (.inl rfl)
  · intro fits
    refine ⟨(kept.addMember fits actorId isPlayer).sound, fun active t taken => ?_⟩
    cases taken
    refine iff_of_false (fun gone => ?_) (by simp [Director.LeavesNoPlayer])
    rw [Director.addMember_deleted, active] at gone
    exact Bool.false_ne_true gone

theorem flag_of_sound (kept : s.Kept) (present : actorId ∈ s.director.members)
    (sound : Sound ⟨(s.director.removeMember actorId isPlayer).1,
      s.events ++ (s.director.removeMember actorId isPlayer).2⟩) :
    isPlayer = true ↔ actorId ∈ s.director.playerMembers := by
  constructor
  · intro flag
    subst flag
    by_contra noPlayer
    obtain ⟨later, events⟩ := s.director.removeMember_events present
    have matched := sound.matched actorId
    rw [kept.follow, events, Director.standing, if_pos present, decide_eq_false noPlayer,
      List.filterMap_cons, DirectorEvent.turn, if_pos rfl] at matched
    contradiction
  · intro player
    cases isPlayer with
    | true => rfl
    | false =>
        have left : actorId ∈ (s.director.without actorId false).playerMembers := player
        have stays := s.director.removeMember_stays present left
        have still := sound.subset actorId
        rw [stays] at still
        have among : actorId ∈ s.director.members.remove actorId := still left
        exact absurd rfl (IdSet.mem_remove.mp among).1

theorem step_removeMember (kept : s.Kept)
    (taken : s.step (.removeMember actorId isPlayer) = some s') :
    s'.Sound ∧ s.EndsBy Director.LeavesNoPlayer (.removeMember actorId isPlayer) ↔
      s.director.Fits (.removeMember actorId isPlayer) := by
  cases taken
  constructor
  · intro held present
    exact flag_of_sound kept present held.1
  · intro fits
    refine ⟨(kept.removeMember fits).sound, fun active t taken => ?_⟩
    cases taken
    by_cases present : actorId ∈ s.director.members
    · have flag := fits present
      refine (Director.removeMember_deleted active (kept.deleting.trans active) present).trans ?_
      constructor
      · intro gone
        refine .inr ⟨present, fun id among => ?_⟩
        by_contra apart
        exact gone id ((mem_playersLeft flag id).mpr ⟨apart, among⟩)
      · intro either id among
        obtain ⟨apart, player⟩ := (mem_playersLeft flag id).mp among
        cases either with
        | inl same => cases same
        | inr last => exact apart (last.2 id player)
    · refine iff_of_false (fun gone => ?_) (by simp [Director.LeavesNoPlayer, present])
      change (s.director.removeMember actorId isPlayer).1.isDeleted = true at gone
      rw [Director.removeMember_absent _ present] at gone
      exact Bool.false_ne_true (active.symm.trans gone)

theorem step_exact {c : DirectorCall} (kept : s.Kept) (taken : s.step c = some s') :
    s'.Sound ∧ s.EndsBy Director.LeavesNoPlayer c ↔ s.director.Fits c := by
  cases c with
  | addMember actorId isPlayer => exact step_addMember kept taken
  | removeMember actorId isPlayer => exact step_removeMember kept taken
  | start classPath spawnImmediate =>
      refine iff_of_true ⟨(kept.step (c := .start classPath spawnImmediate) trivial taken).sound,
        fun active t taken => ?_⟩ trivial
      obtain ⟨r, called, rfl⟩ := Option.map_eq_some_iff.mp taken
      obtain ⟨path, className, name, same⟩ := (start_spec called).1
      refine iff_of_false (fun gone => ?_) (by simp [Director.LeavesNoPlayer])
      rw [same] at gone
      exact Bool.false_ne_true (active.symm.trans gone)
  | endDirector =>
      refine iff_of_true ⟨(kept.step (c := .endDirector) trivial taken).sound,
        fun active t taken => ?_⟩ trivial
      cases taken
      refine iff_of_true ?_ (.inl rfl)
      change s.director.endDirector.1.isDeleted = true
      rw [Director.endDirector, active, if_neg Bool.false_ne_true]

/-- A run of a director keeps its members and ends in time exactly if every member leaves as what
it has joined as and none joins after the end. -/
theorem director_membership_iff (id zoneId : UInt32) (path : Text) (calls : List DirectorCall) :
    Always step Sound ⟨.new id zoneId path, []⟩ calls ∧
        EachStep step (EndsBy Director.LeavesNoPlayer) ⟨.new id zoneId path, []⟩ calls ↔
      EachStep step (fun s c => s.director.Fits c) ⟨.new id zoneId path, []⟩ calls := by
  apply always_and_eachStep_iff (I := Kept)
  · intro s c s' kept _ taken
    exact step_exact kept taken
  · intro s c s' kept _ fits taken
    exact kept.step fits taken
  · exact kept_new id zoneId path
  · exact (kept_new id zoneId path).sound

/-- A monster leaves before a player has joined, and the content is over; a player leaves as a
monster and stays among the players; a monster joins what is over. -/
theorem ends_without_players :
    ¬ EachStep step (EndsBy Director.LosesLastPlayer) ⟨.new 1 100 [], []⟩
        [.addMember 7 false, .removeMember 7 false] ∧
      ¬ Always step Sound ⟨.new 1 100 [], []⟩ [.addMember 7 true, .removeMember 7 false] ∧
      ¬ Always step Sound ⟨.new 1 100 [], []⟩ [.endDirector, .addMember 7 false] := by
  refine ⟨fun inTime => ?_, fun sound => ?_, fun sound => ?_⟩
  · obtain ⟨_, inTime⟩ := inTime _ rfl
    obtain ⟨inTime, _⟩ := inTime _ rfl
    cases (inTime rfl _ rfl).mp rfl with
    | inl same => cases same
    | inr last => exact IdSet.not_mem_empty ((last.2 7).mpr rfl)
  · have last := (sound.2 _ rfl).2 _ rfl
    exact absurd (last.subset 7 (by decide)) (by decide)
  · have last := (sound.2 _ rfl).2 _ rfl
    exact last.emptied rfl 7 (by decide)

end Directed

end Garlemald.Content
