import Garlemald.Library.Runs
import Garlemald.World.LinkshellRows
import Garlemald.World.Managers

/-!
The linkshell cache over the stored linkshells. An operation writes the rows first
and the two maps of the cache behind them; nothing takes back a row that was written
before a later query failed.
-/

namespace Garlemald.World
open Library
open Function (update)

structure LinkshellState where
  manager : LinkshellManager := {}
  nextGroupId : UInt64 := 0xA0000000
  rows : LinkshellRows

inductive LinkshellOperation where
  | create (name : Text) (crest : UInt16) (master : UInt32)
  | delete (name : Text)
  | rename (currentName newName : Text)
  | changeCrest (lsName : Text) (crest : UInt16)
  | changeMaster (lsName : Text) (master : UInt32)
  | getOrLoad (name : Text)
  | addMember (lsId : UInt64) (charaId : UInt32) (rank : UInt8)
  | removeMember (lsId : UInt64) (charaId : UInt32)
  | changeRank (lsId : UInt64) (charaId : UInt32) (rank : UInt8)

structure LinkshellEvent where
  operation : LinkshellOperation
  fails : LinkshellQuery → Bool

namespace LinkshellState
open LinkshellManager

variable (others : Database LinkshellRows)

def edited (st : LinkshellState) : Option Unit × LinkshellManager × LinkshellRows →
    Bool × LinkshellState
  | (result, manager, rows) => (result.isSome, { st with manager, rows })

def found : Option (Option Linkshell) × LinkshellManager × UInt64 × LinkshellRows →
    Bool × LinkshellState
  | (result, manager, nextGroupId, rows) => (result.isSome, { manager, nextGroupId, rows })

/-- A linkshell is not deleted, renamed or given another master: those requests succeed
without an effect. -/
def perform (e : LinkshellEvent) (st : LinkshellState) : Bool × LinkshellState :=
  let db := LinkshellRows.storage others e.fails
  match e.operation with
  | .create name crest master =>
      found (createLinkshell db st.manager st.nextGroupId name crest master st.rows)
  | .delete _ => (true, st)
  | .rename _ _ => (true, st)
  | .changeCrest lsName crest => st.edited (changeLinkshellCrest db st.manager lsName crest st.rows)
  | .changeMaster _ _ => (true, st)
  | .getOrLoad name => found (getOrLoadLinkshell db st.manager st.nextGroupId name st.rows)
  | .addMember lsId charaId rank =>
      st.edited (LinkshellManager.addMember db st.manager lsId charaId rank st.rows)
  | .removeMember lsId charaId =>
      st.edited (LinkshellManager.removeMember db st.manager lsId charaId st.rows)
  | .changeRank lsId charaId rank =>
      st.edited (LinkshellManager.changeRank db st.manager lsId charaId rank st.rows)

def step (st : LinkshellState) (e : LinkshellEvent) : Option LinkshellState :=
  some (perform others e st).2

structure Matches (rows : LinkshellRows) (id : UInt64) (ls : Linkshell) : Prop where
  dbId : ls.dbId = id
  row : ∃ row, rows.linkshells.get id.toNat = some row ∧ row.name = ls.name ∧
    row.crestIcon = ls.crest ∧ row.master = ls.master
  members : ls.members.Perm (rows.roster id)

/-- Every cached linkshell is the stored one, and the two maps name the same linkshells. -/
structure Agrees (st : LinkshellState) : Prop where
  cached : ∀ id ls, st.manager.cache id = some ls → Matches st.rows id ls
  indexed : ∀ name id, st.manager.byName name = some id ↔
    ∃ ls, st.manager.cache id = some ls ∧ ls.name = name

def FailsClean (st : LinkshellState) (e : LinkshellEvent) : Prop :=
  (perform others e st).1 = false →
    (perform others e st).2.manager = st.manager ∧ (perform others e st).2.rows = st.rows

def Sound (st : LinkshellState) (e : LinkshellEvent) : Prop :=
  Agrees (perform others e st).2 ∧ FailsClean others st e

/-- A row that is created gets its master, under an id without other members, and a
roster that cannot be read is empty. -/
def Whole (st : LinkshellState) (e : LinkshellEvent) : Prop :=
  match e.operation with
  | .create name _ master =>
      st.rows.Accepts name → e.fails .createLinkshell = false →
        e.fails .linkshellAddPlayer = false ∧
          ∀ m ∈ st.rows.roster st.rows.nextId, m.characterId = master
  | .getOrLoad name =>
      ∀ key row, st.manager.byName name = none → e.fails .getLinkshellByName = false →
        st.rows.byName name = some (key, row) → e.fails .getLsMembers = true →
          st.rows.roster (UInt64.ofNat key) = []
  | _ => True

variable {name : Text} {members : List LinkshellMember}

section
variable {st : LinkshellState} {rows rows' : LinkshellRows} {id : UInt64} {ls : Linkshell}

theorem Matches.of_roster (h : Matches rows id ls) (same : rows'.linkshells = rows.linkshells)
    (stored : members.Perm (rows'.roster id)) :
    Matches rows' id { ls with members } where
  dbId := h.dbId
  row := by
    rw [same]
    exact h.row
  members := stored

theorem Matches.of_other (h : Matches rows id ls) (same : rows'.linkshells = rows.linkshells)
    (kept : ∀ m, m ∈ rows'.roster id ↔ m ∈ rows.roster id) : Matches rows' id ls := by
  apply h.of_roster same
  have held := LinkshellRows.perm_roster.mp h.members
  exact LinkshellRows.perm_roster.mpr ⟨held.1, fun m => (held.2 m).trans (kept m).symm⟩

theorem Matches.addMember (h : Matches rows id ls) (charaId : UInt32) (rank : UInt8) :
    Matches (rows.addPlayer id charaId rank) id { ls with
      members := ls.members.filter (·.characterId ≠ charaId) ++ [⟨charaId, id, rank⟩] } := by
  apply h.of_roster (LinkshellRows.linkshells_addPlayer rows id charaId rank)
  obtain ⟨once, held⟩ := LinkshellRows.perm_roster.mp h.members
  apply LinkshellRows.perm_roster.mpr
  constructor
  · rw [List.map_append, List.map_singleton, List.nodup_append_comm, List.singleton_append,
      List.nodup_cons]
    refine ⟨?_, (List.filter_sublist.map _).nodup once⟩
    simp
  · intro m
    rw [LinkshellRows.mem_addPlayer, List.mem_append, List.mem_filter, List.mem_singleton, held m]
    by_cases here : m.characterId = charaId
    · rw [if_pos ⟨rfl, here⟩]
      obtain ⟨chara, linkshell, given⟩ := m
      obtain rfl : chara = charaId := here
      simp
    · rw [if_neg fun hit => here hit.2]
      have other : m ≠ ⟨charaId, id, rank⟩ := fun same => here (by rw [same])
      simp [here, other]

theorem Matches.removeMember (h : Matches rows id ls) (charaId : UInt32) :
    Matches (rows.removePlayer id charaId) id
      { ls with members := ls.members.filter (·.characterId ≠ charaId) } := by
  apply h.of_roster (LinkshellRows.linkshells_removePlayer rows id charaId)
  obtain ⟨once, held⟩ := LinkshellRows.perm_roster.mp h.members
  apply LinkshellRows.perm_roster.mpr
  refine ⟨(List.filter_sublist.map _).nodup once, fun m => ?_⟩
  rw [LinkshellRows.mem_removePlayer, List.mem_filter, held m]
  simp [and_comm]

theorem setRank_eq_map {charaId : UInt32} {rank : UInt8}
    (once : (members.map (·.characterId)).Nodup) :
    setRank charaId rank members =
      members.map fun m => if m.characterId = charaId then { m with rank } else m := by
  induction members with
  | nil => rfl
  | cons first members ih =>
      obtain ⟨fresh, once⟩ := List.nodup_cons.mp once
      rw [setRank, List.map_cons]
      by_cases here : first.characterId = charaId
      · rw [if_pos here, if_pos here]
        have others : ∀ m ∈ members, m.characterId ≠ charaId := fun m listed same =>
          fresh (List.mem_map.mpr ⟨m, listed, same.trans here.symm⟩)
        rw [List.map_congr_left fun m listed => if_neg (others m listed), List.map_id']
      · rw [if_neg here, if_neg here, ih once]

theorem Matches.changeRank (h : Matches rows id ls) (charaId : UInt32) (rank : UInt8) :
    Matches (rows.setRank id charaId rank) id
      { ls with members := setRank charaId rank ls.members } := by
  apply h.of_roster (LinkshellRows.linkshells_setRank rows id charaId rank)
  obtain ⟨once, held⟩ := LinkshellRows.perm_roster.mp h.members
  apply LinkshellRows.perm_roster.mpr
  rw [setRank_eq_map once]
  constructor
  · have same : ((ls.members.map fun m =>
        if m.characterId = charaId then { m with rank } else m).map (·.characterId)) =
        ls.members.map (·.characterId) := by
      rw [List.map_map]
      apply List.map_congr_left
      intro m _
      rw [Function.comp_apply]
      split <;> rfl
    rw [same]
    exact once
  · intro m
    rw [LinkshellRows.mem_setRank, List.mem_map]
    by_cases here : m.characterId = charaId
    · rw [if_pos ⟨rfl, here⟩]
      constructor
      · intro changed
        obtain ⟨old, listed, rfl⟩ := changed
        have stored := (held old).mp listed
        by_cases hit : old.characterId = charaId
        · rw [if_pos hit]
          exact ⟨(LinkshellRows.mem_roster.mp stored).1, rfl, old, stored, hit⟩
        · rw [if_neg hit] at here
          exact absurd here hit
      · intro changed
        obtain ⟨linkshell, given, old, stored, hit⟩ := changed
        refine ⟨old, (held old).mpr stored, ?_⟩
        rw [if_pos hit]
        obtain ⟨chara, lsId, former⟩ := m
        obtain rfl : lsId = id := linkshell
        obtain rfl : former = rank := given
        obtain rfl : old.linkshellId = lsId := (LinkshellRows.mem_roster.mp stored).1
        obtain rfl : chara = charaId := here
        rw [hit]
    · rw [if_neg fun hit => here hit.2, ← held m]
      constructor
      · intro changed
        obtain ⟨old, listed, rfl⟩ := changed
        by_cases hit : old.characterId = charaId
        · rw [if_pos hit] at here
          exact absurd hit here
        · rw [if_neg hit]
          exact listed
      · intro listed
        exact ⟨m, listed, if_neg here⟩

theorem Matches.changeCrest (h : Matches rows id ls) (crest : UInt16) :
    Matches (rows.changeCrest id crest) id { ls with crest } where
  dbId := h.dbId
  row := by
    obtain ⟨row, stored, named, _, led⟩ := h.row
    refine ⟨{ row with crestIcon := crest }, ?_, named, rfl, led⟩
    rw [LinkshellRows.changeCrest, AutoTable.get_update, stored]
    simp
  members := h.members

theorem Matches.changeCrest_other {target : UInt64} (h : Matches rows id ls) (other : id ≠ target)
    (crest : UInt16) : Matches (rows.changeCrest target crest) id ls where
  dbId := h.dbId
  row := by
    obtain ⟨row, stored, same⟩ := h.row
    refine ⟨row, ?_, same⟩
    have misses : ¬ id.toNat = target.toNat := fun same => other (UInt64.toNat_inj.mp same)
    rw [LinkshellRows.changeCrest, AutoTable.get_update, stored]
    simp [misses]
  members := h.members

theorem Agrees.edit (h : Agrees st) {target : UInt64} {f : Linkshell → Linkshell}
    (changed : ∀ ls, Matches st.rows target ls → Matches rows' target (f ls))
    (kept : ∀ id ls, id ≠ target → Matches st.rows id ls → Matches rows' id ls)
    (named : ∀ ls, (f ls).name = ls.name) :
    Agrees { st with
      manager := { st.manager with
        cache := update st.manager.cache target ((st.manager.cache target).map f) }
      rows := rows' } where
  cached id ls found := by
    dsimp only at found
    by_cases here : id = target
    · subst here
      rw [Function.update_self, Option.map_eq_some_iff] at found
      obtain ⟨old, found, rfl⟩ := found
      exact changed old (h.cached id old found)
    · rw [Function.update_of_ne here] at found
      exact kept id ls here (h.cached id ls found)
  indexed name id := by
    rw [h.indexed]
    dsimp only
    by_cases here : id = target
    · subst here
      simp [named]
    · rw [Function.update_of_ne here]

def enter (st : LinkshellState) (ls : Linkshell) (rows : LinkshellRows) : LinkshellState where
  manager := {
    cache := update st.manager.cache ls.dbId (some ls)
    byName := update st.manager.byName ls.name (some ls.dbId) }
  nextGroupId := st.nextGroupId + 1
  rows := rows

theorem Agrees.enter (h : Agrees st)
    (absent : st.manager.cache ls.dbId = none) (unnamed : st.manager.byName ls.name = none)
    (fresh : Matches rows' ls.dbId ls)
    (kept : ∀ id other, st.manager.cache id = some other → Matches st.rows id other →
      Matches rows' id other) :
    Agrees (st.enter ls rows') where
  cached id other found := by
    dsimp only [LinkshellState.enter] at found
    by_cases here : id = ls.dbId
    · subst here
      rw [Function.update_self, Option.some.injEq] at found
      rw [← found]
      exact fresh
    · rw [Function.update_of_ne here] at found
      exact kept id other found (h.cached id other found)
  indexed name id := by
    dsimp only [LinkshellState.enter]
    by_cases named : name = ls.name
    · subst named
      rw [Function.update_self, Option.some.injEq]
      constructor
      · intro same
        subst same
        exact ⟨ls, by rw [Function.update_self], rfl⟩
      · intro cached
        obtain ⟨other, cached, named⟩ := cached
        by_contra elsewhere
        rw [Function.update_of_ne (Ne.symm elsewhere)] at cached
        have indexed := (h.indexed ls.name id).mpr ⟨other, cached, named⟩
        rw [unnamed] at indexed
        cases indexed
    · rw [Function.update_of_ne named, h.indexed]
      by_cases here : id = ls.dbId
      · subst here
        rw [Function.update_self, absent]
        simp [Ne.symm named]
      · rw [Function.update_of_ne here]

theorem Agrees.nameTaken (h : Agrees st) (indexed : st.manager.byName name = some id) :
    st.rows.nameTaken name = true := by
  obtain ⟨ls, cached, named⟩ := (h.indexed name id).mp indexed
  obtain ⟨row, stored, same, _⟩ := (h.cached id ls cached).row
  exact LinkshellRows.nameTaken_iff.mpr ⟨id.toNat, row, stored, same.trans named⟩

theorem Agrees.absent_of_get (h : Agrees st) (unstored : st.rows.linkshells.get id.toNat = none) :
    st.manager.cache id = none := by
  cases cached : st.manager.cache id with
  | none => rfl
  | some ls =>
      obtain ⟨row, stored, _⟩ := (h.cached id ls cached).row
      rw [unstored] at stored
      cases stored

theorem Agrees.getLinkshell (h : Agrees st) :
    st.manager.getLinkshell name = none ↔ st.manager.byName name = none := by
  rw [LinkshellManager.getLinkshell]
  cases indexed : st.manager.byName name with
  | none => simp
  | some id =>
      obtain ⟨ls, cached, _⟩ := (h.indexed name id).mp indexed
      simp [cached]

end

section
variable {others} {st st' : LinkshellState} {fails : LinkshellQuery → Bool}
  {operation : LinkshellOperation}

theorem refused {e : LinkshellEvent} (h : Agrees st) (same : perform others e st = (false, st)) :
    Sound others st e := by
  rw [Sound, FailsClean, same]
  exact ⟨h, fun _ => ⟨rfl, rfl⟩⟩

theorem succeeded {e : LinkshellEvent} (h : Agrees st') (same : perform others e st = (true, st')) :
    Sound others st e := by
  rw [Sound, FailsClean, same]
  exact ⟨h, fun failed => nomatch failed⟩

theorem edit_sound {e : LinkshellEvent} (broken : Bool) (edit : LinkshellRows → LinkshellRows)
    (target : UInt64) (f : Linkshell → Linkshell) (h : Agrees st)
    (performed : perform others e st = if broken then (false, st) else (true, { st with
      manager := { st.manager with
        cache := update st.manager.cache target ((st.manager.cache target).map f) }
      rows := edit st.rows }))
    (changed : ∀ ls, Matches st.rows target ls → Matches (edit st.rows) target (f ls))
    (kept : ∀ id ls, id ≠ target → Matches st.rows id ls → Matches (edit st.rows) id ls)
    (named : ∀ ls, (f ls).name = ls.name) :
    Sound others st e := by
  cases broken with
  | true => exact refused h performed
  | false => exact succeeded (h.edit changed kept named) performed

theorem addMember_sound (h : Agrees st) (lsId : UInt64) (charaId : UInt32) (rank : UInt8) :
    Sound others st ⟨.addMember lsId charaId rank, fails⟩ := by
  refine edit_sound (fails .linkshellAddPlayer) (·.addPlayer lsId charaId rank) lsId
    (fun ls => { ls with members := ls.members.filter (·.characterId ≠ charaId) ++
      [⟨charaId, lsId, rank⟩] })
    h ?_ (fun ls same => same.addMember charaId rank) ?_ fun _ => rfl
  · simp only [perform, LinkshellManager.addMember, LinkshellRows.storage, LinkshellRows.write]
    cases fails .linkshellAddPlayer <;> rfl
  · intro id ls other same
    apply same.of_other (LinkshellRows.linkshells_addPlayer _ _ _ _)
    intro m
    rw [LinkshellRows.mem_addPlayer, if_neg fun hit => other hit.1]

theorem removeMember_sound (h : Agrees st) (lsId : UInt64) (charaId : UInt32) :
    Sound others st ⟨.removeMember lsId charaId, fails⟩ := by
  refine edit_sound (fails .linkshellRemovePlayer) (·.removePlayer lsId charaId) lsId
    (fun ls => { ls with members := ls.members.filter (·.characterId ≠ charaId) })
    h ?_ (fun ls same => same.removeMember charaId) ?_ fun _ => rfl
  · simp only [perform, LinkshellManager.removeMember, LinkshellRows.storage, LinkshellRows.write]
    cases fails .linkshellRemovePlayer <;> rfl
  · intro id ls other same
    apply same.of_other (LinkshellRows.linkshells_removePlayer _ _ _)
    intro m
    rw [LinkshellRows.mem_removePlayer, and_iff_right fun hit => other hit.1]

theorem changeRank_sound (h : Agrees st) (lsId : UInt64) (charaId : UInt32) (rank : UInt8) :
    Sound others st ⟨.changeRank lsId charaId rank, fails⟩ := by
  refine edit_sound (fails .linkshellChangeRank) (·.setRank lsId charaId rank) lsId
    (fun ls => { ls with members := setRank charaId rank ls.members })
    h ?_ (fun ls same => same.changeRank charaId rank) ?_ fun _ => rfl
  · simp only [perform, LinkshellManager.changeRank, LinkshellRows.storage, LinkshellRows.write]
    cases fails .linkshellChangeRank <;> rfl
  · intro id ls other same
    apply same.of_other (LinkshellRows.linkshells_setRank _ _ _ _)
    intro m
    rw [LinkshellRows.mem_setRank, if_neg fun hit => other hit.1]

theorem changeCrest_sound (h : Agrees st) (lsName : Text) (crest : UInt16) :
    Sound others st ⟨.changeCrest lsName crest, fails⟩ := by
  cases indexed : st.manager.byName lsName with
  | none =>
      apply succeeded h
      simp only [perform, changeLinkshellCrest, indexed]
      rfl
  | some lsId =>
      refine edit_sound (fails .changeLinkshellCrest) (·.changeCrest lsId crest) lsId
        (fun ls => { ls with crest }) h ?_ (fun ls same => same.changeCrest crest)
        (fun id ls other same => same.changeCrest_other other crest) fun _ => rfl
      simp only [perform, changeLinkshellCrest, indexed, LinkshellRows.storage, LinkshellRows.write]
      cases fails .changeLinkshellCrest <;> rfl

theorem nextId_toNat {rows : LinkshellRows} (accepted : rows.Accepts name) :
    rows.nextId.toNat = rows.linkshells.last + 1 := by
  have room := accepted.1
  exact UInt64.toNat_ofNat_of_lt' (Nat.lt_trans room (by decide))

variable {row : LinkshellRow}

theorem get_insert {rows : LinkshellRows} (accepted : rows.Accepts row.name) :
    (rows.insert row accepted).linkshells.get rows.nextId.toNat = some row := by
  rw [nextId_toNat accepted]
  exact AutoTable.get_push_self rows.linkshells row

theorem Matches.insert {rows : LinkshellRows} {id : UInt64} {ls : Linkshell}
    (h : Matches rows id ls) (accepted : rows.Accepts row.name) :
    Matches (rows.insert row accepted) id ls where
  dbId := h.dbId
  row := by
    obtain ⟨old, stored, same⟩ := h.row
    exact ⟨old, AutoTable.get_push_of_some stored row, same⟩
  members := h.members

theorem matches_created {rows : LinkshellRows} {ls : Linkshell} (accepted : rows.Accepts row.name)
    (dbId : ls.dbId = rows.nextId) (name : ls.name = row.name) (crest : ls.crest = row.crestIcon)
    (master : ls.master = row.master)
    (members : ls.members = [⟨row.master, rows.nextId, Linkshell.rankMaster⟩]) :
    Matches ((rows.insert row accepted).addPlayer rows.nextId row.master Linkshell.rankMaster)
        rows.nextId ls ↔
      ∀ m ∈ rows.roster rows.nextId, m.characterId = row.master := by
  have stored : ∀ m, m ∈ ((rows.insert row accepted).addPlayer rows.nextId row.master
      Linkshell.rankMaster).roster rows.nextId ↔
      if m.characterId = row.master then
        m.linkshellId = rows.nextId ∧ m.rank = Linkshell.rankMaster
      else m ∈ rows.roster rows.nextId := by
    intro m
    rw [LinkshellRows.mem_addPlayer]
    simp only [true_and]
    rfl
  constructor
  · intro h m listed
    by_contra other
    have held := (LinkshellRows.perm_roster.mp h.members).2 m
    rw [stored, if_neg other, members, List.mem_singleton] at held
    exact other (congrArg LinkshellMember.characterId (held.mpr listed))
  · intro alone
    refine ⟨dbId, ⟨row, get_insert accepted, name.symm, crest.symm, master.symm⟩, ?_⟩
    rw [LinkshellRows.perm_roster, members]
    refine ⟨List.nodup_singleton _, fun m => ?_⟩
    rw [List.mem_singleton, stored]
    by_cases led : m.characterId = row.master
    · rw [if_pos led]
      obtain ⟨chara, lsId, rank⟩ := m
      obtain rfl : chara = row.master := led
      simp
    · rw [if_neg led]
      constructor
      · intro same
        exact absurd (congrArg LinkshellMember.characterId same) led
      · intro listed
        exact absurd (alone m listed) led

abbrev newRow (name : Text) (crest : UInt16) (master : UInt32) : LinkshellRow :=
  ⟨name, crest, master, Linkshell.rankMaster⟩

def newLinkshell (st : LinkshellState) (name : Text) (crest : UInt16) (master : UInt32) :
    Linkshell :=
  { Linkshell.new st.rows.nextId st.nextGroupId name crest master Linkshell.rankMaster with
    members := [⟨master, st.rows.nextId, Linkshell.rankMaster⟩] }

theorem perform_created (crest : UInt16) (master : UInt32) (accepted : st.rows.Accepts name)
    (works : fails .createLinkshell = false) :
    perform others ⟨.create name crest master, fails⟩ st =
      if fails .linkshellAddPlayer then
        (false, { st with rows := st.rows.insert (newRow name crest master) accepted })
      else (true, st.enter (st.newLinkshell name crest master)
        ((st.rows.insert (newRow name crest master) accepted).addPlayer st.rows.nextId master
          Linkshell.rankMaster)) := by
  have given : st.rows.nextId ≠ 0 := by
    intro zero
    have value := nextId_toNat accepted
    rw [zero] at value
    exact absurd value (Nat.succ_ne_zero _).symm
  simp only [perform, createLinkshell, LinkshellRows.storage, LinkshellRows.write, accepted, works]
  simp only [dif_pos, if_neg given, Bool.false_eq_true, if_false]
  cases fails .linkshellAddPlayer <;> rfl

theorem created_sound_iff (h : Agrees st) (crest : UInt16) (master : UInt32)
    (accepted : st.rows.Accepts name) (works : fails .createLinkshell = false) :
    Sound others st ⟨.create name crest master, fails⟩ ↔
      Whole st ⟨.create name crest master, fails⟩ := by
  have performed := @perform_created others name st fails crest master accepted works
  cases broken : fails .linkshellAddPlayer with
  | true =>
      rw [broken, if_pos rfl] at performed
      apply iff_of_false
      · intro sound
        have clean := sound.2
        rw [FailsClean, performed] at clean
        have kept := congrArg (fun rows => rows.linkshells.last) (clean rfl).2
        exact absurd kept (Nat.succ_ne_self _)
      · intro whole
        have added := (whole accepted works).1
        exact Bool.false_ne_true (added.symm.trans broken)
  | false =>
      rw [broken, if_neg Bool.false_ne_true] at performed
      have stored := @matches_created (newRow name crest master) st.rows
        (st.newLinkshell name crest master) accepted rfl rfl rfl rfl rfl
      constructor
      · intro sound _ _
        refine ⟨broken, stored.mp ?_⟩
        have agrees := sound.1
        rw [performed] at agrees
        exact agrees.cached st.rows.nextId _ (Function.update_self _ _ _)
      · intro whole
        have alone := (whole accepted works).2
        have uncached : st.manager.cache st.rows.nextId = none := by
          apply h.absent_of_get
          rw [nextId_toNat accepted]
          exact AutoTable.get_last_succ _
        have unnamed : st.manager.byName name = none := by
          rw [Option.eq_none_iff_forall_ne_some]
          intro id indexed
          exact accepted.2 (h.nameTaken indexed)
        have kept : ∀ id ls, st.manager.cache id = some ls → Matches st.rows id ls →
            Matches ((st.rows.insert (newRow name crest master) accepted).addPlayer
              st.rows.nextId master Linkshell.rankMaster) id ls := by
          intro id ls cached same
          have other : id ≠ st.rows.nextId := by
            intro here
            rw [here, uncached] at cached
            cases cached
          apply (same.insert accepted).of_other (LinkshellRows.linkshells_addPlayer _ _ _ _)
          intro m
          rw [LinkshellRows.mem_addPlayer, if_neg fun hit => other hit.1]
        exact succeeded (h.enter uncached unnamed (stored.mpr alone) kept) performed

theorem create_sound_iff (h : Agrees st) (name : Text) (crest : UInt16) (master : UInt32) :
    Sound others st ⟨.create name crest master, fails⟩ ↔
      Whole st ⟨.create name crest master, fails⟩ := by
  by_cases accepted : st.rows.Accepts name
  · cases broken : fails .createLinkshell with
    | true =>
        have kept : perform others ⟨.create name crest master, fails⟩ st = (false, st) := by
          simp [perform, createLinkshell, LinkshellRows.storage, broken, found]
        exact iff_of_true (refused h kept) fun _ works => by simp [broken] at works
    | false => exact created_sound_iff h crest master accepted broken
  · have kept : perform others ⟨.create name crest master, fails⟩ st = (false, st) := by
      simp [perform, createLinkshell, LinkshellRows.storage, accepted, found]
    exact iff_of_true (refused h kept) fun taken => absurd taken accepted

theorem matches_loaded {rows : LinkshellRows} {key : Nat} {groupId : UInt64}
    (stored : rows.byName name = some (key, row)) :
    Matches rows (UInt64.ofNat key)
        { Linkshell.new (UInt64.ofNat key) groupId row.name row.crestIcon row.master
            Linkshell.rankMaster with members } ↔
      members.Perm (rows.roster (UInt64.ofNat key)) := by
  constructor
  · intro h
    exact h.members
  · intro same
    refine ⟨rfl, ⟨row, ?_, rfl, rfl, rfl⟩, same⟩
    rw [LinkshellRows.toNat_of_byName stored]
    exact (LinkshellRows.byName_some stored).1

def loaded (st : LinkshellState) (key : Nat) (row : LinkshellRow) (unread : Bool) : Linkshell :=
  { Linkshell.new (UInt64.ofNat key) st.nextGroupId row.name row.crestIcon row.master
      Linkshell.rankMaster with
    members := if unread then [] else st.rows.roster (UInt64.ofNat key) }

theorem perform_loaded (uncached : st.manager.getLinkshell name = none) :
    perform others ⟨.getOrLoad name, fails⟩ st =
      if fails .getLinkshellByName then (false, { st with nextGroupId := st.nextGroupId + 1 })
      else match st.rows.byName name with
        | none => (true, { st with nextGroupId := st.nextGroupId + 1 })
        | some (key, row) =>
            (true, st.enter (st.loaded key row (fails .getLsMembers)) st.rows) := by
  simp only [perform, getOrLoadLinkshell, uncached, LinkshellRows.storage, LinkshellRows.ask]
  cases fails .getLinkshellByName with
  | true => rfl
  | false =>
      cases st.rows.byName name with
      | none => rfl
      | some read =>
          cases broken : fails .getLsMembers <;> simp [found, enter, loaded, Linkshell.new]

theorem loaded_sound_iff {name : Text} {key : Nat} {row : LinkshellRow} (h : Agrees st)
    (unindexed : st.manager.byName name = none) (works : fails .getLinkshellByName = false)
    (read : st.rows.byName name = some (key, row))
    (performed : perform others ⟨.getOrLoad name, fails⟩ st =
      (true, st.enter (st.loaded key row (fails .getLsMembers)) st.rows)) :
    Sound others st ⟨.getOrLoad name, fails⟩ ↔ Whole st ⟨.getOrLoad name, fails⟩ := by
  have same : row.name = name := (LinkshellRows.byName_some read).2
  have stored := @matches_loaded name (if fails .getLsMembers then []
    else st.rows.roster (UInt64.ofNat key)) row st.rows key st.nextGroupId read
  constructor
  · intro sound key' row' _ _ read' unread
    have agrees := sound.1
    rw [performed] at agrees
    have held := stored.mp (agrees.cached (UInt64.ofNat key) _ (Function.update_self _ _ _))
    have one : key = key' := congrArg Prod.fst (Option.some.inj (read.symm.trans read'))
    rw [if_pos unread, one] at held
    exact held.symm.eq_nil
  · intro whole
    have uncached : st.manager.cache (UInt64.ofNat key) = none := by
      cases cached : st.manager.cache (UInt64.ofNat key) with
      | none => rfl
      | some ls =>
          obtain ⟨row', found, named, _⟩ := (h.cached _ ls cached).row
          rw [LinkshellRows.toNat_of_byName read, (LinkshellRows.byName_some read).1] at found
          have here : ls.name = name := by rw [← named, ← Option.some.inj found, same]
          rw [(h.indexed name _).mpr ⟨ls, cached, here⟩] at unindexed
          cases unindexed
    have unnamed : st.manager.byName (st.loaded key row (fails .getLsMembers)).name = none :=
      (congrArg st.manager.byName same).trans unindexed
    refine succeeded (h.enter uncached unnamed (stored.mpr ?_) fun _ _ _ kept => kept) performed
    split
    · next unread => rw [whole key row unindexed works read unread]
    · exact List.Perm.refl _

theorem getOrLoad_sound_iff (h : Agrees st) (name : Text) :
    Sound others st ⟨.getOrLoad name, fails⟩ ↔ Whole st ⟨.getOrLoad name, fails⟩ := by
  cases cached : st.manager.getLinkshell name with
  | some ls =>
      have kept : perform others ⟨.getOrLoad name, fails⟩ st = (true, st) := by
        simp only [perform, getOrLoadLinkshell, cached]
        rfl
      apply iff_of_true (succeeded h kept)
      intro key row unindexed
      rw [h.getLinkshell.mpr unindexed] at cached
      cases cached
  | none =>
      have performed := @perform_loaded others name st fails cached
      have unindexed := h.getLinkshell.mp cached
      have same : Agrees { st with nextGroupId := st.nextGroupId + 1 } := ⟨h.cached, h.indexed⟩
      cases broken : fails .getLinkshellByName with
      | true =>
          rw [broken, if_pos rfl] at performed
          rw [Sound, FailsClean, performed]
          refine iff_of_true ⟨same, fun _ => ⟨rfl, rfl⟩⟩ fun key row _ works => ?_
          exact absurd (broken.symm.trans works) (by decide)
      | false =>
          rw [broken, if_neg Bool.false_ne_true] at performed
          cases read : st.rows.byName name with
          | none =>
              rw [read] at performed
              refine iff_of_true (succeeded same performed) fun key row _ _ stored => ?_
              rw [read] at stored
              cases stored
          | some found =>
              obtain ⟨key, row⟩ := found
              rw [read] at performed
              exact loaded_sound_iff h unindexed broken read performed

theorem sound_iff_whole (h : Agrees st) (e : LinkshellEvent) :
    Sound others st e ↔ Whole st e := by
  obtain ⟨operation, fails⟩ := e
  cases operation with
  | create name crest master => exact create_sound_iff h name crest master
  | delete name => exact iff_of_true (succeeded h rfl) trivial
  | rename currentName newName => exact iff_of_true (succeeded h rfl) trivial
  | changeCrest lsName crest => exact iff_of_true (changeCrest_sound h lsName crest) trivial
  | changeMaster lsName master => exact iff_of_true (succeeded h rfl) trivial
  | getOrLoad name => exact getOrLoad_sound_iff h name
  | addMember lsId charaId rank => exact iff_of_true (addMember_sound h lsId charaId rank) trivial
  | removeMember lsId charaId => exact iff_of_true (removeMember_sound h lsId charaId) trivial
  | changeRank lsId charaId rank => exact iff_of_true (changeRank_sound h lsId charaId rank) trivial

theorem agrees_empty (nextGroupId : UInt64) (rows : LinkshellRows) :
    Agrees ⟨{}, nextGroupId, rows⟩ where
  cached _ _ found := nomatch found
  indexed _ _ := iff_of_false (fun found => nomatch found) fun found => nomatch found.choose_spec.1

end

/-- From an empty cache, the cache agrees with the rows at every point and a failed
operation changes nothing exactly when every operation of the run is whole. -/
theorem cache_agrees (others : Database LinkshellRows) (nextGroupId : UInt64)
    (rows : LinkshellRows) (es : List LinkshellEvent) :
    (Always (step others) Agrees ⟨{}, nextGroupId, rows⟩ es ∧
        EachStep (step others) (FailsClean others) ⟨{}, nextGroupId, rows⟩ es) ↔
      EachStep (step others) Whole ⟨{}, nextGroupId, rows⟩ es := by
  apply always_and_eachStep_iff (I := fun _ => True)
  · intro st e st' _ agrees taken
    cases taken
    exact sound_iff_whole agrees e
  · exact fun _ _ _ _ _ _ _ => trivial
  · trivial
  · exact agrees_empty nextGroupId rows

def halfMade : LinkshellEvent where
  operation := .create ['A'] 0 1
  fails query := query = .linkshellAddPlayer

theorem half_made_stays :
    ¬ (Always (step (.unavailable _)) Agrees ⟨{}, 0xA0000000, .empty⟩ [halfMade] ∧
        EachStep (step (.unavailable _)) (FailsClean (.unavailable _))
          ⟨{}, 0xA0000000, .empty⟩ [halfMade]) := by
  intro sound
  have clean := (sound.2 _ rfl).1 rfl
  have stored := congrArg (fun rows => rows.linkshells.last) clean.2
  exact absurd stored (by decide)

end LinkshellState
end Garlemald.World
