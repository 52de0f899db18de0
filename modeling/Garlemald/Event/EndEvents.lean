import Garlemald.Library.Hoist
import Garlemald.Library.Table
import Mathlib.Data.Nat.Find
import Mathlib.Data.Option.Basic

/-!
The order in which the commands of a script are applied. A player that leaves for another area while
an event is still open never completes the arrival, so an end of an event that a script has queued
behind a warp of its player is moved to right before the first warp of that player.
-/

namespace Garlemald.Events

open Library Library.Hoist

/-- The commands that the order tells apart. The fields it does not read are of the type `φ`. -/
inductive LuaCommand (φ : Type) where
  | endEvent (playerId : UInt32) (fields : φ)
  | doZoneChange (playerId : UInt32) (fields : φ)
  | doZoneChangeContent (playerId : UInt32) (fields : φ)
  | warpToPublicArea (playerId : UInt32) (fields : φ)
  | warpToPrivateArea (playerId : UInt32) (fields : φ)
  | other (fields : φ)
deriving DecidableEq, Repr

variable {φ : Type}

def warpFamilyPlayer : LuaCommand φ → Option UInt32
  | .doZoneChange playerId _ | .doZoneChangeContent playerId _ | .warpToPublicArea playerId _
  | .warpToPrivateArea playerId _ => some playerId
  | _ => none

def endEventPlayer : LuaCommand φ → Option UInt32
  | .endEvent playerId _ => some playerId
  | _ => none

def noteWarp (first : Table UInt32 ℕ) (entry : LuaCommand φ × ℕ) : Table UInt32 ℕ :=
  match warpFamilyPlayer entry.1 with
  | none => first
  | some playerId =>
      match first.lookup playerId with
      | some _ => first
      | none => first.insert playerId entry.2

def firstWarpIdx (batch : List (LuaCommand φ)) : Table UInt32 ℕ :=
  batch.zipIdx.foldl noteWarp ∅

/-- With the places stands whether one was noted. -/
def noteEndEvent (first : Table UInt32 ℕ) (found : Table ℕ (List ℕ) × Bool)
    (entry : LuaCommand φ × ℕ) : Table ℕ (List ℕ) × Bool :=
  match (endEventPlayer entry.1).bind first.lookup with
  | none => found
  | some warpIdx =>
      if warpIdx < entry.2 then
        (found.1.insert warpIdx ((found.1.lookup warpIdx).getD [] ++ [entry.2]), true)
      else found

def hoistedBefore (first : Table UInt32 ℕ) (batch : List (LuaCommand φ)) :
    Table ℕ (List ℕ) × Bool :=
  batch.zipIdx.foldl (noteEndEvent first) (∅, false)

def hoistEndEventsBeforeWarps (batch : List (LuaCommand φ)) : List (LuaCommand φ) :=
  let first := firstWarpIdx batch
  if first.entries.isEmpty then batch
  else
    let (before, anyMisordered) := hoistedBefore first batch
    if anyMisordered then drain (fun i => (before.lookup i).getD []) batch else batch

section Places

variable {batch : List (LuaCommand φ)}

def FirstWarp (batch : List (LuaCommand φ)) (playerId : UInt32) (w : ℕ) : Prop :=
  batch[w]?.bind warpFamilyPlayer = some playerId ∧
    ∀ i < w, batch[i]?.bind warpFamilyPlayer ≠ some playerId

/-- At `j` an event of a player ends whose first warp is before it, at `w`. -/
def Misplaced (batch : List (LuaCommand φ)) (w j : ℕ) : Prop :=
  ∃ playerId, FirstWarp batch playerId w ∧ w < j ∧
    batch[j]?.bind endEventPlayer = some playerId

private theorem lookup_noteWarps (playerId : UInt32) (first : Table UInt32 ℕ) (k : ℕ) :
    ((batch.zipIdx k).foldl noteWarp first).lookup playerId = (first.lookup playerId).or
      ((batch.findIdx? fun cmd => decide (warpFamilyPlayer cmd = some playerId)).map (· + k)) := by
  induction batch generalizing first k with
  | nil => simp
  | cons cmd batch ih =>
      have later : (fun i : ℕ => i + (k + 1)) = (fun i => i + k) ∘ fun i => i + 1 := by
        funext i
        simp only [Function.comp_apply]
        omega
      rw [List.zipIdx_cons, List.foldl_cons, ih, List.findIdx?_cons, later, ← Option.map_map]
      cases warps : warpFamilyPlayer cmd with
      | none => simp [noteWarp, warps]
      | some other =>
          by_cases same : other = playerId
          · subst same
            cases known : first.lookup other with
            | none => simp [noteWarp, warps, known]
            | some w => simp [noteWarp, warps, known]
          · have apart : (some other = some playerId) = False := by simp [same]
            have unchanged : (noteWarp first (cmd, k)).lookup playerId = first.lookup playerId := by
              cases known : first.lookup other with
              | none =>
                  simp only [noteWarp, warps, known]
                  exact AList.lookup_insert_ne (Ne.symm same)
              | some w => simp only [noteWarp, warps, known]
            rw [unchanged]
            simp [apart]

theorem lookup_firstWarpIdx {playerId : UInt32} {w : ℕ} :
    (firstWarpIdx batch).lookup playerId = some w ↔ FirstWarp batch playerId w := by
  rw [firstWarpIdx, lookup_noteWarps]
  have plain : (fun i : ℕ => i + 0) = id := rfl
  rw [AList.lookup_empty, Option.none_or, plain, Option.map_id, id,
    List.findIdx?_eq_some_iff_getElem]
  constructor
  · intro ⟨inside, here, before⟩
    refine ⟨?_, fun i less => ?_⟩
    · rw [List.getElem?_eq_getElem inside]
      exact of_decide_eq_true here
    · rw [List.getElem?_eq_getElem (less.trans inside)]
      have other := before i less
      simpa using other
  · intro ⟨here, before⟩
    obtain ⟨cmd, read, warps⟩ := Option.bind_eq_some_iff.mp here
    obtain ⟨inside, entry⟩ := List.getElem?_eq_some_iff.mp read
    refine ⟨inside, by simpa [entry] using warps, fun i less => ?_⟩
    have other := before i less
    rw [List.getElem?_eq_getElem (less.trans inside)] at other
    simpa using other

/-- Where the entry at a place goes, if it is the end of an event behind a warp of its player. -/
def target (first : Table UInt32 ℕ) (batch : List (LuaCommand φ)) (j : ℕ) : Option ℕ :=
  ((batch[j]?.bind endEventPlayer).bind first.lookup).filter fun w => decide (w < j)

theorem target_eq_some {j w : ℕ} :
    target (firstWarpIdx batch) batch j = some w ↔ Misplaced batch w j := by
  rw [target, Option.filter_eq_some_iff, Option.bind_eq_some_iff]
  constructor
  · intro ⟨⟨playerId, ends, first⟩, before⟩
    exact ⟨playerId, lookup_firstWarpIdx.mp first, of_decide_eq_true before, ends⟩
  · intro ⟨playerId, first, before, ends⟩
    exact ⟨⟨playerId, ends, lookup_firstWarpIdx.mpr first⟩, decide_eq_true before⟩

theorem warp_not_endEvent {cmd : LuaCommand φ} {playerId : UInt32}
    (warps : warpFamilyPlayer cmd = some playerId) : endEventPlayer cmd = none := by
  cases cmd with
  | endEvent _ _ => cases warps
  | doZoneChange _ _ | doZoneChangeContent _ _ | warpToPublicArea _ _ | warpToPrivateArea _ _
  | other _ => rfl

theorem forward_target : Forward (target (firstWarpIdx batch) batch) := by
  intro j w moved
  obtain ⟨playerId, first, before, _⟩ := target_eq_some.mp moved
  obtain ⟨cmd, read, warps⟩ := Option.bind_eq_some_iff.mp first.1
  refine ⟨before, ?_⟩
  rw [target, read, Option.bind_some, warp_not_endEvent warps]
  rfl

private theorem target_append {first : Table UInt32 ℕ} {cmd : LuaCommand φ} {j : ℕ}
    (inside : j < batch.length) : target first (batch ++ [cmd]) j = target first batch j := by
  rw [target, List.getElem?_append_left inside, target]

private theorem target_last (first : Table UInt32 ℕ) (cmd : LuaCommand φ) :
    target first (batch ++ [cmd]) batch.length =
      ((endEventPlayer cmd).bind first.lookup).filter fun w => decide (w < batch.length) := by
  rw [target, List.getElem?_concat_length, Option.bind_some]

private theorem ahead_append (first : Table UInt32 ℕ) (cmd : LuaCommand φ) (w : ℕ) :
    ahead (batch ++ [cmd]).length (target first (batch ++ [cmd])) w =
      ahead batch.length (target first batch) w ++
        if target first (batch ++ [cmd]) batch.length = some w then [batch.length] else [] := by
  rw [List.length_append, List.length_singleton, ahead, List.range_succ, List.filter_append,
    List.filter_singleton]
  congr 1
  · apply List.filter_congr
    intro j member
    rw [target_append (List.mem_range.mp member)]
  · by_cases here : target first (batch ++ [cmd]) batch.length = some w
    · simp [here]
    · simp [here]

private theorem noteEndEvent_spec (first : Table UInt32 ℕ) (found : Table ℕ (List ℕ) × Bool)
    (cmd : LuaCommand φ) {i : ℕ} {goal : Option ℕ}
    (goes : ((endEventPlayer cmd).bind first.lookup).filter (fun w => decide (w < i)) = goal) :
    (∀ w, (((noteEndEvent first found (cmd, i)).1).lookup w).getD [] =
        (found.1.lookup w).getD [] ++ if goal = some w then [i] else []) ∧
      ((noteEndEvent first found (cmd, i)).2 = true ↔ found.2 = true ∨ goal ≠ none) := by
  subst goes
  cases warp : (endEventPlayer cmd).bind first.lookup with
  | none => simp [noteEndEvent, warp]
  | some warpIdx =>
      by_cases late : warpIdx < i
      · refine ⟨fun w => ?_, by simp [noteEndEvent, warp, late]⟩
        simp only [noteEndEvent, warp, if_pos late]
        by_cases here : w = warpIdx
        · subst here
          simp [late]
        · rw [AList.lookup_insert_ne here]
          simp [Ne.symm here]
      · have kept : noteEndEvent first found (cmd, i) = found := by simp [noteEndEvent, warp, late]
        rw [kept, Option.filter_some, if_neg (by simpa using late)]
        simp

theorem hoistedBefore_spec (batch : List (LuaCommand φ)) (first : Table UInt32 ℕ) :
    (∀ w, (((hoistedBefore first batch).1).lookup w).getD [] =
        ahead batch.length (target first batch) w) ∧
      ((hoistedBefore first batch).2 = true ↔
        ∃ j < batch.length, target first batch j ≠ none) := by
  induction batch using List.reverseRecOn with
  | nil => exact ⟨fun w => rfl, by simp [hoistedBefore]⟩
  | append_singleton batch cmd ih =>
      obtain ⟨before, any⟩ := ih
      have last : hoistedBefore first (batch ++ [cmd]) =
          noteEndEvent first (hoistedBefore first batch) (cmd, batch.length) := by
        rw [hoistedBefore, List.zipIdx_append, List.foldl_append]
        simp [hoistedBefore]
      obtain ⟨entries, flag⟩ :=
        noteEndEvent_spec first (hoistedBefore first batch) cmd (target_last first cmd).symm
      rw [last]
      refine ⟨fun w => ?_, flag.trans ?_⟩
      · rw [entries w, before w, ahead_append]
      · rw [any, List.length_append, List.length_singleton]
        constructor
        · intro some_moved
          cases some_moved with
          | inl earlier =>
              obtain ⟨j, inside, moved⟩ := earlier
              exact ⟨j, by omega, by rwa [target_append inside]⟩
          | inr moved => exact ⟨batch.length, by omega, moved⟩
        · intro ⟨j, inside, moved⟩
          by_cases earlier : j < batch.length
          · exact .inl ⟨j, earlier, by rwa [target_append earlier] at moved⟩
          · have same : j = batch.length := by omega
            subst same
            exact .inr moved

/-- The commands come out in the order of their places in which each misplaced end of an event
goes before the first warp of its player. -/
theorem hoistEndEventsBeforeWarps_eq (batch : List (LuaCommand φ)) :
    hoistEndEventsBeforeWarps batch =
      (order batch.length (target (firstWarpIdx batch) batch)).filterMap fun j => batch[j]? := by
  obtain ⟨before, any⟩ := hoistedBefore_spec batch (firstWarpIdx batch)
  have untouched (still : ∀ j < batch.length, target (firstWarpIdx batch) batch j = none) :
      batch = (order batch.length (target (firstWarpIdx batch) batch)).filterMap
        fun j => batch[j]? := by
    rw [order_still still, filterMap_range]
  simp only [hoistEndEventsBeforeWarps]
  split
  · rename_i none_warps
    refine untouched fun j _ => ?_
    have empty : (firstWarpIdx batch) = ∅ := AList.ext (List.isEmpty_iff.mp none_warps)
    rw [target, empty]
    cases batch[j]?.bind endEventPlayer with
    | none => rfl
    | some _ => rfl
  · split
    · rw [funext before]
      exact drain_eq forward_target
    · rename_i none_misordered
      refine untouched fun j inside => ?_
      by_contra moved
      exact none_misordered (any.mpr ⟨j, inside, moved⟩)

end Places

/-- `out` is `batch` read at the places of `order`, which is the given order but for the ends of
events that are misplaced. -/
structure Reordered (batch out : List (LuaCommand φ)) (order : List ℕ) : Prop where
  reads : out.map some = order.map fun j => batch[j]?
  whole : order.Perm (List.range batch.length)
  kept : order.Pairwise fun i j =>
    (∀ w, ¬Misplaced batch w i) → (∀ w, ¬Misplaced batch w j) → i < j
  moved : ∀ playerId w, FirstWarp batch playerId w → ∃ front ends back,
    order = front ++ (ends ++ w :: back) ∧ ends.Pairwise (· < ·) ∧
      ∀ j, j ∈ ends ↔ Misplaced batch w j

/-- No event of a player ends behind a warp of that player. -/
def EndsFirst (batch : List (LuaCommand φ)) : Prop :=
  batch.Pairwise fun a b => ∀ playerId, warpFamilyPlayer a = some playerId →
    endEventPlayer b ≠ some playerId

theorem reordered_hoist (batch : List (LuaCommand φ)) :
    Reordered batch (hoistEndEventsBeforeWarps batch)
      (order batch.length (target (firstWarpIdx batch) batch)) where
  reads := by
    rw [hoistEndEventsBeforeWarps_eq]
    refine map_some_filterMap fun j member => ?_
    have inside := (mem_order forward_target).mp member
    rw [List.getElem?_eq_getElem inside]
    rfl
  whole := perm_order forward_target
  kept := by
    have stays {j : ℕ} (fixed : ∀ w, ¬Misplaced batch w j) {i : ℕ}
        (member : j ∈ block batch.length (target (firstWarpIdx batch) batch) i) : j = i := by
      cases (mem_block.mp member).2 with
      | inl same => exact same
      | inr goes => exact absurd (target_eq_some.mp goes.2) (fixed i)
    refine pairwise_order (fun w _ => ⟨?_, ?_⟩) ?_
    · refine List.pairwise_of_forall_mem_list fun i member j _ fixed _ => ?_
      exact absurd (target_eq_some.mp (mem_ahead.mp member).2) (fixed w)
    · intro i member fixed
      exact absurd (target_eq_some.mp (mem_ahead.mp member).2) (fixed w)
    · intro i i' less j member j' member' fixed fixed'
      rw [stays fixed member, stays fixed' member']
      exact less
  moved := by
    intro playerId w first
    obtain ⟨cmd, read, warps⟩ := Option.bind_eq_some_iff.mp first.1
    have fixed : target (firstWarpIdx batch) batch w = none := by
      rw [target, read, Option.bind_some, warp_not_endEvent warps]
      rfl
    obtain ⟨inside, _⟩ := List.getElem?_eq_some_iff.mp read
    obtain ⟨front, back, split⟩ := order_at inside fixed
    refine ⟨front, _, back, split, List.pairwise_lt_range.filter _, fun j => ?_⟩
    rw [mem_ahead, target_eq_some]
    constructor
    · intro goes
      exact goes.2
    · intro misplaced
      refine ⟨?_, misplaced⟩
      obtain ⟨_, _, _, ends⟩ := misplaced
      obtain ⟨cmd', read', _⟩ := Option.bind_eq_some_iff.mp ends
      exact (List.getElem?_eq_some_iff.mp read').1

theorem firstWarp_of_warp {batch : List (LuaCommand φ)} {playerId : UInt32} {i : ℕ}
    (warps : batch[i]?.bind warpFamilyPlayer = some playerId) :
    ∃ w ≤ i, FirstWarp batch playerId w := by
  have some_warp : ∃ w, batch[w]?.bind warpFamilyPlayer = some playerId := ⟨i, warps⟩
  exact ⟨Nat.find some_warp, Nat.find_min' some_warp warps, Nat.find_spec some_warp,
    fun _ less => Nat.find_min some_warp less⟩

theorem endsFirst_hoist (batch : List (LuaCommand φ)) :
    EndsFirst (hoistEndEventsBeforeWarps batch) := by
  rw [hoistEndEventsBeforeWarps_eq]
  refine List.pairwise_filterMap.mpr ?_
  -- an entry that moves is the end of an event, so it is no warp
  have no_warp {i w : ℕ} (goes : target (firstWarpIdx batch) batch i = some w)
      {a : LuaCommand φ} (read : batch[i]? = some a) {playerId : UInt32} :
      warpFamilyPlayer a ≠ some playerId := by
    intro warps
    obtain ⟨_, _, _, ends⟩ := target_eq_some.mp goes
    rw [read, Option.bind_some, warp_not_endEvent warps] at ends
    cases ends
  refine pairwise_order (fun w _ => ⟨?_, ?_⟩) ?_
  · refine List.pairwise_of_forall_mem_list fun i member j _ a read b _ playerId warps => ?_
    exact absurd warps (no_warp (mem_ahead.mp member).2 read)
  · intro i member a read b _ playerId warps
    exact absurd warps (no_warp (mem_ahead.mp member).2 read)
  · intro i i' less j member j' member' a read b read' playerId warps ends
    cases (mem_block.mp member).2 with
    | inr goes => exact no_warp goes.2 read warps
    | inl same =>
        subst same
        have warp_here : batch[j]?.bind warpFamilyPlayer = some playerId := by
          rw [read, Option.bind_some, warps]
        have end_here : batch[j']?.bind endEventPlayer = some playerId := by
          rw [read', Option.bind_some, ends]
        obtain ⟨fixed, place⟩ := mem_block.mp member'
        cases place with
        | inl stays =>
            subst stays
            obtain ⟨w, early, first⟩ := firstWarp_of_warp warp_here
            have goes := target_eq_some.mpr ⟨playerId, first, by omega, end_here⟩
            rw [fixed] at goes
            cases goes
        | inr goes =>
            obtain ⟨other, first, _, ends_other⟩ := target_eq_some.mp goes.2
            rw [end_here] at ends_other
            cases ends_other
            exact first.2 j less warp_here

theorem endsFirst_iff {batch : List (LuaCommand φ)} :
    EndsFirst batch ↔ ∀ w j, ¬Misplaced batch w j := by
  rw [EndsFirst, List.pairwise_iff_getElem]
  constructor
  · intro ordered w j ⟨playerId, first, before, ends⟩
    obtain ⟨a, read, warps⟩ := Option.bind_eq_some_iff.mp first.1
    obtain ⟨b, read', ends'⟩ := Option.bind_eq_some_iff.mp ends
    obtain ⟨inside, rfl⟩ := List.getElem?_eq_some_iff.mp read
    obtain ⟨inside', rfl⟩ := List.getElem?_eq_some_iff.mp read'
    exact ordered w j inside inside' before playerId warps ends'
  · intro none_misplaced i j inside inside' less playerId warps ends
    have warp_here : batch[i]?.bind warpFamilyPlayer = some playerId := by
      rw [List.getElem?_eq_getElem inside, Option.bind_some, warps]
    obtain ⟨w, early, first⟩ := firstWarp_of_warp warp_here
    refine none_misplaced w j ⟨playerId, first, by omega, ?_⟩
    rw [List.getElem?_eq_getElem inside', Option.bind_some, ends]

theorem hoist_of_endsFirst {batch : List (LuaCommand φ)} (ordered : EndsFirst batch) :
    hoistEndEventsBeforeWarps batch = batch := by
  rw [hoistEndEventsBeforeWarps_eq, order_still, filterMap_range]
  intro j _
  cases goes : target (firstWarpIdx batch) batch j with
  | none => rfl
  | some w => exact absurd (target_eq_some.mp goes) (endsFirst_iff.mp ordered w j)

theorem Reordered.perm {batch out : List (LuaCommand φ)} {places : List ℕ}
    (h : Reordered batch out places) : out.Perm batch := by
  have again : (List.range batch.length).map (fun j => batch[j]?) = batch.map some := by
    rw [← map_some_filterMap, filterMap_range]
    intro j member
    rw [List.getElem?_eq_getElem (List.mem_range.mp member)]
    rfl
  have same : (out.map some).Perm (batch.map some) := by
    rw [h.reads, ← again]
    exact h.whole.map _
  exact (List.map_perm_map_iff (Option.some_injective _)).mp same

/-- No command is lost or doubled, no event of a player ends behind a warp of that player, only the
ends that were behind their first warp have moved, to right before it and in their order, a batch
in which there are none stays as it is, and a second pass changes nothing. -/
theorem hoistEndEventsBeforeWarps_minimal (batch : List (LuaCommand φ)) :
    (hoistEndEventsBeforeWarps batch).Perm batch ∧
      EndsFirst (hoistEndEventsBeforeWarps batch) ∧
      (∃ places, Reordered batch (hoistEndEventsBeforeWarps batch) places) ∧
      ((∀ w j, ¬Misplaced batch w j) → hoistEndEventsBeforeWarps batch = batch) ∧
      hoistEndEventsBeforeWarps (hoistEndEventsBeforeWarps batch) =
        hoistEndEventsBeforeWarps batch :=
  ⟨(reordered_hoist batch).perm, endsFirst_hoist batch, ⟨_, reordered_hoist batch⟩,
    fun still => hoist_of_endsFirst (endsFirst_iff.mpr still),
    hoist_of_endsFirst (endsFirst_hoist batch)⟩

example : hoistEndEventsBeforeWarps [.doZoneChange 13 'a', .warpToPublicArea 14 'b',
    .endEvent 14 'c', .other 'd', .endEvent 13 'e'] =
      [.endEvent 13 'e', .doZoneChange 13 'a', .endEvent 14 'c', .warpToPublicArea 14 'b',
        .other 'd'] := by decide

end Garlemald.Events
