import Garlemald.Content.Director
import Garlemald.Packets.GroupSync

/-!
The party that scripts put together in a session, and its registrations with the client. A client
takes an id of a group once, so each composition goes out under an id of its own, which is made of
the number of changes of the roster so far.
-/

namespace Garlemald.Quest

open Library Common Packets

/-- What is kept of the party in a session; the leader is not in the roster. -/
structure PartySession where
  id : UInt32
  leaderActorId : UInt32
  transientPartyMembers : List UInt32 := []
  partyGroupOrdinal : UInt32 := 0

/-- What is found when the packets are made; of an actor the name and the id of the name. -/
structure Scene where
  registry : UInt32 → Option (Text × UInt32)
  client : Bool
  locationCode : UInt64
  sequenceId : UInt64
  clock : ℕ → UInt32

def rowForActor (actorId : UInt32) (displayName : Text) (displayNameId : UInt32) (isSelf : Bool) :
    GroupMember :=
  if displayName = [] then
    { actorId, localizedName := displayNameId.toInt32, unknown2 := 0, flag1 := !isSelf,
      isOnline := true, name := [] }
  else
    { actorId, localizedName := -1, unknown2 := 0, flag1 := !isSelf, isOnline := true,
      name := displayName }

/-- A member that is not in the registry has a name made of its id. -/
def rowForMember (registry : UInt32 → Option (Text × UInt32)) (mid : UInt32) : GroupMember :=
  match registry mid with
  | some (displayName, displayNameId) => rowForActor mid displayName displayNameId false
  | none =>
      rowForActor mid
        ("bnpc_".toList ++ Content.padded 8 ((Nat.toDigits 16 mid.toNat).map Char.toUpper)) 0 false

/-- A registration of the party: `changes` counts the changes of the roster before it. -/
structure Registration where
  changes : ℕ
  members : List GroupMember
  groupIndex : UInt64
  packets : Option (List SubPacket)

def Registration.composition (registration : Registration) : List UInt32 :=
  registration.members.map (·.actorId)

/-- What happens to the party in a session; the leader is in the registry or not. -/
inductive PartyEvent where
  | addMember (registered : Bool) (memberActorId : UInt32)
  | emitTrio (scene : Scene)
  | zoneIn (scene : Scene) (actorName : Text) (displayNameId : UInt32)
  | contentFinished

namespace PartySession

variable (session : PartySession)

def applyPartyAddMemberRoster (registered : Bool) (memberActorId : UInt32) : PartySession :=
  if session.leaderActorId = 0 ∨ memberActorId = 0 then session
  else if registered = false then session
  else if memberActorId ∈ session.transientPartyMembers then session
  else
    { session with
      transientPartyMembers := session.transientPartyMembers ++ [memberActorId]
      partyGroupOrdinal := session.partyGroupOrdinal + 1 }

def applyContentFinished : PartySession :=
  if session.transientPartyMembers ≠ [] then
    { session with
      transientPartyMembers := []
      partyGroupOrdinal := session.partyGroupOrdinal + 1 }
  else session

def step : PartyEvent → PartySession
  | .addMember registered memberActorId =>
      session.applyPartyAddMemberRoster registered memberActorId
  | .contentFinished => session.applyContentFinished
  | _ => session

def register (changes : ℕ) (scene : Scene) (members : List GroupMember) : Registration where
  changes
  members
  groupIndex :=
    partyGroupIndex session.leaderActorId members.length session.partyGroupOrdinal
  packets := (partyGroupTrio scene.clock session.leaderActorId scene.locationCode scene.sequenceId
    session.partyGroupOrdinal members).map (·.map (·.setTargetId session.id))

def emitPartyGroupTrio (changes : ℕ) (scene : Scene) : Option Registration := do
  let (leaderName, _) ← scene.registry session.leaderActorId
  let members := rowForActor session.leaderActorId leaderName 0 true ::
    session.transientPartyMembers.map (rowForMember scene.registry)
  if scene.client then some (session.register changes scene members) else none

/-- The party in the packets for an arrival in a zone leaves the leader out of the roster. -/
def zoneInPartyGroup (changes : ℕ) (scene : Scene) (actorName : Text) (displayNameId : UInt32) :
    Registration :=
  session.register changes scene
    (rowForActor session.leaderActorId actorName displayNameId true ::
      (session.transientPartyMembers.filter (· ≠ session.leaderActorId)).map
        (rowForMember scene.registry))

def sends (changes : ℕ) : PartyEvent → Option Registration
  | .emitTrio scene => session.emitPartyGroupTrio changes scene
  | .zoneIn scene actorName displayNameId =>
      some (session.zoneInPartyGroup changes scene actorName displayNameId)
  | _ => none

def changes (event : PartyEvent) : Bool :=
  (session.step event).transientPartyMembers ≠ session.transientPartyMembers

def registrations : ℕ → PartySession → List PartyEvent → List Registration
  | _, _, [] => []
  | n, session, event :: events =>
      (session.sends n event).toList ++
        registrations (n + (session.changes event).toNat) (session.step event) events

def changeCount : PartySession → List PartyEvent → ℕ
  | _, [] => 0
  | session, event :: events =>
      (session.changes event).toNat + changeCount (session.step event) events

end PartySession

def Fresh (one two : Registration) : Prop :=
  one.composition ≠ two.composition → one.groupIndex ≠ two.groupIndex

/-- If there is more than the leader in both, and the changes of the roster between them are a
multiple of 2 ^ 16, or none, then the composition is the same. -/
def Apart (one two : Registration) : Prop :=
  1 < one.members.length → 1 < two.members.length →
    one.changes % 2 ^ 16 = two.changes % 2 ^ 16 → one.composition = two.composition

section Ids

/-- The id of a party of one is the leader's under a mark; of more, the leader's with the last 16
bits of the number behind it. -/
theorem toNat_partyGroupIndex (leader : UInt32) (count : ℕ) (ordinal : UInt32) :
    (partyGroupIndex leader count ordinal).toNat =
      if count ≤ 1 then 2 ^ 63 + leader.toNat
      else 2 ^ 63 + (leader.toNat * 2 ^ 16 + ordinal.toNat % 2 ^ 16) := by
  have small := leader.toNat_lt
  have low : ordinal.toNat % 2 ^ 16 < 2 ^ 16 := Nat.mod_lt _ (by decide)
  have marked {n : ℕ} (under : n < 2 ^ 63) : PARTY_GROUP_ID_FLAG.toNat ||| n = 2 ^ 63 + n := by
    have joined := Nat.two_pow_add_eq_or_of_lt under 1
    rw [Nat.mul_one] at joined
    exact joined.symm
  have shifted : (leader.toUInt64 <<< 16).toNat = 2 ^ 16 * leader.toNat := by
    rw [UInt64.toNat_shiftLeft, UInt32.toNat_toUInt64, Nat.shiftLeft_eq, Nat.mul_comm]
    exact Nat.mod_eq_of_lt (by
      have sixteen : (16 : UInt64).toNat % 64 = 16 := rfl
      rw [sixteen]
      omega)
  have masked : (ordinal &&& 0xFFFF).toUInt64.toNat = ordinal.toNat % 2 ^ 16 := by
    rw [UInt32.toNat_toUInt64, UInt32.toNat_and]
    exact Nat.and_two_pow_sub_one_eq_mod ordinal.toNat 16
  rw [partyGroupIndex]
  split
  · rw [UInt64.toNat_or, UInt32.toNat_toUInt64, marked (by omega)]
  · rw [UInt64.toNat_or, UInt64.toNat_or, shifted, masked, Nat.or_assoc,
      ← Nat.two_pow_add_eq_or_of_lt low, marked (by omega), Nat.mul_comm leader.toNat]

theorem partyGroupIndex_eq_iff (leader : UInt32) (count count' changes changes' : ℕ)
    (known : 1 < count ∨ 1 < count' → leader ≠ 0) :
    partyGroupIndex leader count (.ofNat changes) =
        partyGroupIndex leader count' (.ofNat changes') ↔
      (count ≤ 1 ∧ count' ≤ 1) ∨
        (1 < count ∧ 1 < count' ∧ changes % 2 ^ 16 = changes' % 2 ^ 16) := by
  have positive (more : 1 < count ∨ 1 < count') : 0 < leader.toNat := by
    have := known more
    rw [Nat.pos_iff_ne_zero]
    intro zero
    exact this (UInt32.toNat_inj.mp zero)
  have wraps (n : ℕ) : (UInt32.ofNat n).toNat % 2 ^ 16 = n % 2 ^ 16 := by
    rw [UInt32.toNat_ofNat', Nat.mod_mod_of_dvd _ (by decide)]
  rw [← UInt64.toNat_inj, toNat_partyGroupIndex, toNat_partyGroupIndex, wraps, wraps]
  by_cases one : count ≤ 1
  · by_cases two : count' ≤ 1
    · simp [one, two]
    · have := positive (.inr (not_le.mp two))
      simp only [one, two, if_true, if_false, and_false, false_or]
      omega
  · by_cases two : count' ≤ 1
    · have := positive (.inl (not_le.mp one))
      simp only [one, two, if_true, if_false, false_or, and_true]
      omega
    · simp only [one, two, if_false, false_and, false_or]
      omega

end Ids

/-- A registration goes out under the id of its number, and is read in full where it has no more
than eight members. -/
structure Numbered (leader : UInt32) (registration : Registration) : Prop where
  index : registration.groupIndex =
    partyGroupIndex leader registration.members.length (.ofNat registration.changes)
  led : ∃ others, registration.composition = leader :: others
  known : 1 < registration.members.length → leader ≠ 0
  sent : ∃ packets, registration.packets = some packets ∧
    (readGroup memberFormats packets).map (·.groupIndex) = some registration.groupIndex ∧
    (Complete memberFormats MemberEntry.of packets registration.members ↔
      registration.members.length ≤ 8)

theorem readGroup_target {ω : Type} (formats : Formats ω) (packets : List SubPacket)
    (target : UInt32) :
    readGroup formats (packets.map (·.setTargetId target)) = readGroup formats packets := by
  match packets with
  | [] => rfl
  | [_] => rfl
  | header :: start :: rest =>
      have members : received formats.decode (rest.map (·.setTargetId target)).dropLast =
          received formats.decode rest.dropLast := by
        rw [received, received, ← List.map_dropLast, List.mapM_map]
        rfl
      simp only [List.map_cons, readGroup, List.getLast?_map, members]
      cases rest.getLast? <;> rfl

namespace PartySession

variable {session : PartySession} {n : ℕ}

theorem register_numbered (numbered : session.partyGroupOrdinal = .ofNat n) (scene : Scene)
    {leaderRow : GroupMember} {rows : List GroupMember}
    (led : leaderRow.actorId = session.leaderActorId)
    (known : rows ≠ [] → session.leaderActorId ≠ 0) :
    Numbered session.leaderActorId (session.register n scene (leaderRow :: rows)) where
  index := by
    rw [register, numbered]
  led := ⟨rows.map (·.actorId), by rw [Registration.composition, register, List.map_cons, led]⟩
  known more := by
    apply known
    rintro rfl
    exact absurd more (by simp [register])
  sent := by
    obtain ⟨packets, built, marked, complete⟩ := partyTrio_complete_iff scene.clock
      session.leaderActorId scene.locationCode scene.sequenceId session.partyGroupOrdinal
      (leaderRow :: rows)
    refine ⟨packets.map (·.setTargetId session.id), by rw [register, built]; rfl, ?_⟩
    rw [Complete, readGroup_target]
    exact ⟨marked, complete⟩

/-- The ordinal is the number of the changes so far, and without a leader there is no roster. -/
structure Counts (n : ℕ) (session : PartySession) : Prop where
  numbered : session.partyGroupOrdinal = .ofNat n
  known : session.transientPartyMembers ≠ [] → session.leaderActorId ≠ 0

theorem actorId_rowForActor (actorId : UInt32) (displayName : Text) (displayNameId : UInt32)
    (isSelf : Bool) : (rowForActor actorId displayName displayNameId isSelf).actorId = actorId := by
  rw [rowForActor]
  split <;> rfl

theorem actorId_rowForMember (registry : UInt32 → Option (Text × UInt32)) (mid : UInt32) :
    (rowForMember registry mid).actorId = mid := by
  rw [rowForMember]
  split <;> exact actorId_rowForActor _ _ _ _

variable {registration : Registration} {event : PartyEvent}

theorem sends_cases (sent : session.sends n event = some registration) :
    ∃ scene leaderRow, ∃ others : List UInt32, leaderRow.actorId = session.leaderActorId ∧
      registration =
        session.register n scene (leaderRow :: others.map (rowForMember scene.registry)) ∧
      (others = session.transientPartyMembers ∨
        others = session.transientPartyMembers.filter (· ≠ session.leaderActorId)) := by
  cases event with
  | addMember => cases sent
  | contentFinished => cases sent
  | emitTrio scene =>
      obtain ⟨⟨leaderName, _⟩, _, rest⟩ := Option.bind_eq_some_iff.mp sent
      dsimp only at rest
      split at rest
      · cases rest
        exact ⟨scene, _, _, actorId_rowForActor _ _ _ _, rfl, .inl rfl⟩
      · cases rest
  | zoneIn scene actorName displayNameId =>
      cases sent
      exact ⟨scene, _, _, actorId_rowForActor _ _ _ _, rfl, .inr rfl⟩

theorem Counts.sends (counts : Counts n session)
    (sent : session.sends n event = some registration) :
    Numbered session.leaderActorId registration := by
  obtain ⟨scene, leaderRow, others, led, rfl, roster⟩ := sends_cases sent
  refine register_numbered counts.numbered scene led ?_
  intro some_rows
  apply counts.known
  intro nobody
  apply some_rows
  obtain rfl | rfl := roster
  · rw [nobody]
    rfl
  · rw [nobody]
    rfl

theorem step_cases (session : PartySession) (event : PartyEvent) :
    (session.changes event = false ∧ session.step event = session) ∨
    (session.changes event = true ∧ ∃ members,
      session.step event = { session with
        transientPartyMembers := members
        partyGroupOrdinal := session.partyGroupOrdinal + 1 } ∧
      (members ≠ [] → session.leaderActorId ≠ 0)) := by
  have kept (same : session.step event = session) :
      session.changes event = false ∧ session.step event = session := by
    refine ⟨?_, same⟩
    rw [changes, same]
    simp
  cases event with
  | addMember registered memberActorId =>
      by_cases none_known : session.leaderActorId = 0 ∨ memberActorId = 0
      · exact .inl (kept (by rw [step, applyPartyAddMemberRoster, if_pos none_known]))
      · by_cases absent : registered = false
        · exact .inl (kept (by
            rw [step, applyPartyAddMemberRoster, if_neg none_known, if_pos absent]))
        · by_cases present : memberActorId ∈ session.transientPartyMembers
          · exact .inl (kept (by
              rw [step, applyPartyAddMemberRoster, if_neg none_known, if_neg absent,
                if_pos present]))
          · have joined : session.step (.addMember registered memberActorId) = { session with
                transientPartyMembers := session.transientPartyMembers ++ [memberActorId]
                partyGroupOrdinal := session.partyGroupOrdinal + 1 } := by
              rw [step, applyPartyAddMemberRoster, if_neg none_known, if_neg absent,
                if_neg present]
            refine .inr ⟨?_, _, joined, fun _ => (not_or.mp none_known).1⟩
            rw [changes, joined]
            simp
  | contentFinished =>
      by_cases some_there : session.transientPartyMembers ≠ []
      · have cleared : session.step .contentFinished = { session with
            transientPartyMembers := []
            partyGroupOrdinal := session.partyGroupOrdinal + 1 } := by
          rw [step, applyContentFinished, if_pos some_there]
        refine .inr ⟨?_, [], cleared, fun impossible => absurd rfl impossible⟩
        rw [changes, cleared]
        simpa using some_there.symm
      · exact .inl (kept (by rw [step, applyContentFinished, if_neg some_there]))
  | emitTrio scene => exact .inl (kept rfl)
  | zoneIn scene actorName displayNameId => exact .inl (kept rfl)

theorem step_leader (session : PartySession) (event : PartyEvent) :
    (session.step event).leaderActorId = session.leaderActorId := by
  obtain ⟨_, same⟩ | ⟨_, members, same, _⟩ := session.step_cases event
  · rw [same]
  · rw [same]

theorem Counts.step (counts : Counts n session) (event : PartyEvent) :
    Counts (n + (session.changes event).toNat) (session.step event) := by
  obtain ⟨unchanged, same⟩ | ⟨changed, members, same, known⟩ := session.step_cases event
  · rw [unchanged, same]
    exact counts
  · rw [changed, same]
    refine ⟨?_, known⟩
    dsimp only [Bool.toNat_true]
    rw [counts.numbered, UInt32.ofNat_add]
    rfl

theorem registrations_numbered (counts : Counts n session) (events : List PartyEvent) :
    ∀ registration ∈ registrations n session events,
      Numbered session.leaderActorId registration := by
  induction events generalizing n session with
  | nil =>
      intro registration inside
      cases inside
  | cons event events ih =>
      intro registration inside
      obtain now | later := List.mem_append.mp inside
      · exact counts.sends (Option.mem_toList.mp now)
      · rw [← step_leader session event]
        exact ih (counts.step event) registration later

theorem changes_of_sends (sent : session.sends n event = some registration) :
    registration.changes = n := by
  obtain ⟨_, _, _, _, rfl, _⟩ := sends_cases sent
  rfl

theorem composition_of_sends (outside : session.leaderActorId ∉ session.transientPartyMembers)
    (sent : session.sends n event = some registration) :
    registration.composition = session.leaderActorId :: session.transientPartyMembers := by
  obtain ⟨scene, leaderRow, others, led, rfl, roster⟩ := sends_cases sent
  have everyone : others = session.transientPartyMembers := by
    obtain rfl | rfl := roster
    · rfl
    · rw [List.filter_eq_self]
      intro mid inside
      rw [decide_eq_true_eq]
      rintro rfl
      exact outside inside
  have listed : (others.map (rowForMember scene.registry)).map (·.actorId) = others := by
    rw [List.map_map]
    exact List.map_id'' (fun mid => actorId_rowForMember scene.registry mid) _
  rw [Registration.composition, register, List.map_cons, listed, led, everyone]

theorem registrations_window (events : List PartyEvent) :
    ∀ registration ∈ registrations n session events,
      n ≤ registration.changes ∧ registration.changes ≤ n + changeCount session events := by
  induction events generalizing n session with
  | nil =>
      intro registration inside
      cases inside
  | cons event events ih =>
      intro registration inside
      rw [changeCount]
      obtain now | later := List.mem_append.mp inside
      · have := changes_of_sends (Option.mem_toList.mp now)
        omega
      · have := ih registration later
        omega

theorem outside_step
    (stranger : ∀ registered, event ≠ .addMember registered session.leaderActorId)
    (outside : session.leaderActorId ∉ session.transientPartyMembers) :
    (session.step event).leaderActorId ∉ (session.step event).transientPartyMembers := by
  rw [step_leader]
  cases event with
  | addMember registered memberActorId =>
      have other : session.leaderActorId ≠ memberActorId := by
        rintro same
        exact stranger registered (by rw [same])
      simp only [step, applyPartyAddMemberRoster]
      split_ifs
      · exact outside
      · exact outside
      · exact outside
      · simp [outside, other]
  | contentFinished =>
      simp only [step, applyContentFinished]
      split_ifs
      · exact List.not_mem_nil
      · exact outside
  | emitTrio scene => exact outside
  | zoneIn scene actorName displayNameId => exact outside

theorem composition_first (outside : session.leaderActorId ∉ session.transientPartyMembers)
    (events : List PartyEvent)
    (strangers : ∀ registered, .addMember registered session.leaderActorId ∉ events) :
    ∀ registration ∈ registrations n session events, registration.changes = n →
      registration.composition = session.leaderActorId :: session.transientPartyMembers := by
  induction events generalizing session with
  | nil =>
      intro registration inside
      cases inside
  | cons event events ih =>
      intro registration inside first
      obtain now | later := List.mem_append.mp inside
      · exact composition_of_sends outside (Option.mem_toList.mp now)
      · obtain ⟨unchanged, same⟩ | ⟨changed, _⟩ := session.step_cases event
        · rw [unchanged, same] at later
          exact ih outside (fun registered inside => strangers registered (.tail _ inside))
            registration later first
        · have later_changes := (registrations_window events registration later).1
          rw [changed, Bool.toNat_true] at later_changes
          omega

theorem registrations_settled (outside : session.leaderActorId ∉ session.transientPartyMembers)
    (events : List PartyEvent)
    (strangers : ∀ registered, .addMember registered session.leaderActorId ∉ events) :
    (registrations n session events).Pairwise fun one two =>
      one.changes = two.changes → one.composition = two.composition := by
  induction events generalizing n session with
  | nil => exact List.Pairwise.nil
  | cons event events ih =>
      have later_strangers (registered : Bool) :
          .addMember registered session.leaderActorId ∉ events :=
        fun inside => strangers registered (.tail _ inside)
      rw [registrations, List.pairwise_append]
      refine ⟨?_, ?_, ?_⟩
      · cases session.sends n event with
        | none => exact List.Pairwise.nil
        | some registration => exact List.pairwise_singleton _ _
      · refine ih (outside_step (fun registered same => ?_) outside) ?_
        · exact strangers registered (by rw [same]; exact List.mem_cons_self)
        · rw [step_leader]
          exact later_strangers
      · intro one now two later same
        have number := changes_of_sends (Option.mem_toList.mp now)
        rw [composition_of_sends outside (Option.mem_toList.mp now)]
        refine (composition_first (n := n) outside (event :: events) strangers two ?_ ?_).symm
        · exact List.mem_append_right _ later
        · rw [← same, number]

theorem registrations_apart (outside : session.leaderActorId ∉ session.transientPartyMembers)
    (events : List PartyEvent)
    (strangers : ∀ registered, .addMember registered session.leaderActorId ∉ events)
    (few : changeCount session events < 2 ^ 16) :
    (registrations n session events).Pairwise Apart := by
  refine (registrations_settled outside events strangers).imp_of_mem ?_
  intro one two first second settled _ _ congruent
  have := registrations_window events one first
  have := registrations_window events two second
  exact settled (by omega)

end PartySession

theorem fresh_iff_apart {leader : UInt32} {one two : Registration} (first : Numbered leader one)
    (second : Numbered leader two) : Fresh one two ↔ Apart one two := by
  have alone {registration : Registration} (numbered : Numbered leader registration)
      (few : registration.members.length ≤ 1) : registration.composition = [leader] := by
    obtain ⟨others, led⟩ := numbered.led
    have length := congrArg List.length led
    rw [Registration.composition, List.length_map, List.length_cons] at length
    have : others = [] := List.eq_nil_of_length_eq_zero (by omega)
    rw [led, this]
  have ids := partyGroupIndex_eq_iff leader one.members.length two.members.length one.changes
    two.changes fun more => more.elim first.known second.known
  rw [← first.index, ← second.index] at ids
  constructor
  · intro fresh many many' congruent
    by_contra differ
    exact fresh differ (ids.mpr (.inr ⟨many, many', congruent⟩))
  · intro apart differ same
    obtain ⟨few, few'⟩ | ⟨many, many', congruent⟩ := ids.mp same
    · exact differ ((alone first few).trans (alone second few').symm)
    · exact differ (apart many many' congruent)

section Session

open PartySession

/-- Each of the three senders has one packet of eight members, so that a group is read in full
exactly where it has no more. The ids of a session are fresh exactly where no two parties of
several members differ under one number of changes modulo 2 ^ 16; that is so where the leader is
never added to its own party and the roster changes fewer than 2 ^ 16 times. -/
theorem group_registration_exact (clock : ℕ → UInt32) (sourceActorId : UInt32)
    (locationCode sequenceId : UInt64) (members : List GroupMember) (id leaderActorId : UInt32)
    (events : List PartyEvent) :
    (∃ packets,
      buildContentGroupTrio clock sourceActorId locationCode sequenceId members = some packets ∧
        (Complete contentFormats GroupMember.actorId packets members ↔ members.length ≤ 8)) ∧
    (∀ registration ∈ registrations 0 { id, leaderActorId } events, ∃ packets,
      registration.packets = some packets ∧
        (readGroup memberFormats packets).map (·.groupIndex) = some registration.groupIndex ∧
        (Complete memberFormats MemberEntry.of packets registration.members ↔
          registration.members.length ≤ 8)) ∧
    ((registrations 0 { id, leaderActorId } events).Pairwise Fresh ↔
      (registrations 0 { id, leaderActorId } events).Pairwise Apart) ∧
    ((∀ registered, .addMember registered leaderActorId ∉ events) →
      changeCount { id, leaderActorId } events < 2 ^ 16 →
      (registrations 0 { id, leaderActorId } events).Pairwise Fresh) := by
  refine ⟨contentTrio_complete_iff clock sourceActorId locationCode sequenceId members, ?_⟩
  have counts : Counts 0 { id, leaderActorId } := ⟨rfl, fun impossible => absurd rfl impossible⟩
  have numbered := registrations_numbered counts events
  have exact_ids : (registrations 0 { id, leaderActorId } events).Pairwise Fresh ↔
      (registrations 0 { id, leaderActorId } events).Pairwise Apart := by
    constructor
    · intro fresh
      exact fresh.imp_of_mem fun first second =>
        (fresh_iff_apart (numbered _ first) (numbered _ second)).mp
    · intro apart
      exact apart.imp_of_mem fun first second =>
        (fresh_iff_apart (numbered _ first) (numbered _ second)).mpr
  refine ⟨fun registration inside => (numbered registration inside).sent, exact_ids, ?_⟩
  intro strangers few
  exact exact_ids.mpr (registrations_apart List.not_mem_nil events strangers few)

def named : Scene where
  registry _ := some ("Ally".toList, 0)
  client := true
  locationCode := 0
  sequenceId := 0
  clock _ := 0

theorem group_registration_exact_grown :
    (registrations 0 { id := 1, leaderActorId := 1 } [.emitTrio named, .addMember true 7,
      .emitTrio named]).Pairwise Fresh :=
  (group_registration_exact (fun _ => 0) 0 0 0 [] 1 1 _).2.2.2 (by simp) (by decide)

/-- The ninth member is announced and never sent. A leader in its own party is listed twice where
a member joins and once in a new zone, under one id. -/
theorem ninth_unsent_and_leader_twice :
    (∃ packets, buildContentGroupTrio (fun _ => 0) 1 0 0
        (List.replicate 9 (rowForActor 7 [] 0 false)) = some packets ∧
      ¬ Complete contentFormats GroupMember.actorId packets
        (List.replicate 9 (rowForActor 7 [] 0 false))) ∧
    ¬ (registrations 0 { id := 1, leaderActorId := 1 } [.addMember true 7, .addMember true 1,
      .emitTrio named, .zoneIn named "Ally".toList 0]).Pairwise Fresh := by
  constructor
  · obtain ⟨packets, built, complete⟩ := contentTrio_complete_iff (fun _ => 0) 1 0 0
      (List.replicate 9 (rowForActor 7 [] 0 false))
    refine ⟨packets, built, ?_⟩
    rw [complete, List.length_replicate]
    decide
  · intro fresh
    let grown : PartySession :=
      { id := 1, leaderActorId := 1, transientPartyMembers := [7, 1], partyGroupOrdinal := 2 }
    have twins : Fresh
        (grown.register 2 named (rowForActor 1 "Ally".toList 0 true ::
          grown.transientPartyMembers.map (rowForMember named.registry)))
        (grown.zoneInPartyGroup 2 named "Ally".toList 0) :=
      (List.pairwise_cons.mp fresh).1 _ (.head _)
    exact twins (by decide) rfl

end Session

end Garlemald.Quest
