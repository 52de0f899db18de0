import Garlemald.Battle.Disengage
import Mathlib.Data.List.Induction
import Mathlib.Data.List.Nodup

/-!
The hate over a history of operations: who is hated most, what each target's total is made of, and
which operation makes a target one to be chosen. The order in which the map yields its entries is
left open.
-/

namespace Garlemald.Battle

inductive HateOperation where
  | addBaseHate (target : UInt32)
  | updateHate (target : UInt32) (damage : Int32)
  | setActive (target : UInt32) (active : Bool)
  | clearHate (target : Option UInt32)

namespace HateOperation

def apply (hate : HateContainer) : HateOperation → HateContainer
  | addBaseHate target => hate.addBaseHate target
  | updateHate target damage => hate.updateHate target damage
  | setActive target active => hate.setActive target active
  | clearHate target => hate.clearHate target

def clears (target : UInt32) : HateOperation → Bool
  | clearHate none => true
  | clearHate (some cleared) => cleared == target
  | _ => false

def tracks (target : UInt32) : HateOperation → Bool
  | addBaseHate tracked | updateHate tracked _ => tracked == target
  | _ => false

def damageTo (target : UInt32) : HateOperation → ℕ
  | updateHate hit damage => if hit = target then damage.toInt.toNat else 0
  | _ => 0

/-- What has been done since the target was last cleared. -/
def sinceCleared (target : UInt32) (done : List HateOperation) : List HateOperation :=
  (done.reverse.takeWhile fun operation => !operation.clears target).reverse

/-- The updates of a target since it was last cleared, without a limit. -/
def enmity (target : UInt32) (done : List HateOperation) : ℕ :=
  ((sinceCleared target done).map (damageTo target)).sum

def after (done : List HateOperation) : HateContainer := done.foldl apply []

end HateOperation

open HateOperation

namespace HateContainer

/-- Nobody, if no entry is active; else the active entry with the most enmity, and of several with
as much the one with the lowest id. -/
def IsMostHated (hate : HateContainer) : Option UInt32 → Prop
  | none => ∀ e ∈ hate, e.isActive = false
  | some actorId => ∃ e ∈ hate, e.actorId = actorId ∧ e.isActive = true ∧
      ∀ other ∈ hate, other.isActive = true → other.cumulativeEnmity < e.cumulativeEnmity ∨
        other.cumulativeEnmity = e.cumulativeEnmity ∧ e.actorId ≤ other.actorId

/-- The entries belong to different actors, and each has the total of its target: the base hate of
one, which the first operation on the target adds, and the updates. -/
structure Tallied (done : List HateOperation) (hate : HateContainer) : Prop where
  distinct : (hate.map (·.actorId)).Nodup
  tracked : ∀ target,
    (∃ e ∈ hate, e.actorId = target) ↔ ∃ o ∈ sinceCleared target done, o.tracks target = true
  total : ∀ e ∈ hate, e.cumulativeEnmity.toNat = min (1 + enmity e.actorId done) (2 ^ 32 - 1)

structure Sound (done : List HateOperation) (hate : HateContainer) : Prop
    extends Tallied done hate where
  hated : ∀ order, List.Perm order hate → hate.IsMostHated (mostHated order)
  eligible : ∀ target damage, done.getLast? = some (.updateHate target damage) →
    ∃ e ∈ hate, e.actorId = target ∧ e.isActive = true

/-! ### The most hated -/

def better : Option HateEntry → HateEntry → Option HateEntry
  | none, e => some e
  | some best, e => if hatedMore e best then some e else some best

theorem hatedMore_iff (a b : HateEntry) : hatedMore a b = true ↔
    b.cumulativeEnmity.toNat < a.cumulativeEnmity.toNat ∨
      a.cumulativeEnmity.toNat = b.cumulativeEnmity.toNat ∧ a.actorId.toNat < b.actorId.toNat := by
  simp [hatedMore, UInt32.lt_iff_toNat_lt, UInt32.toNat_inj]

theorem foldl_better (es : List HateEntry) (first : HateEntry) :
    ∃ best, es.foldl better (some first) = some best ∧ best ∈ first :: es ∧
      ∀ e ∈ first :: es, hatedMore e best = false := by
  induction es generalizing first with
  | nil =>
      refine ⟨first, rfl, .head _, fun e alone => ?_⟩
      rw [List.mem_singleton.mp alone, ← Bool.not_eq_true, hatedMore_iff]
      omega
  | cons next es ih =>
      cases ahead : hatedMore next first with
      | true =>
          obtain ⟨best, found, inside, most⟩ := ih next
          refine ⟨best, ?_, .tail _ inside, List.forall_mem_cons.mpr ⟨?_, most⟩⟩
          · rw [List.foldl_cons, better, ahead]
            exact found
          · rw [← Bool.not_eq_true, hatedMore_iff]
            have kept := most next (.head _)
            rw [← Bool.not_eq_true, hatedMore_iff] at kept
            rw [hatedMore_iff] at ahead
            omega
      | false =>
          obtain ⟨best, found, inside, most⟩ := ih first
          have behind : hatedMore next best = false := by
            have kept := most first (.head _)
            rw [← Bool.not_eq_true, hatedMore_iff] at kept ahead ⊢
            omega
          refine ⟨best, ?_, ?_, ?_⟩
          · rw [List.foldl_cons, better, ahead]
            exact found
          · rcases List.mem_cons.mp inside with rfl | later
            · exact .head _
            · exact .tail _ (.tail _ later)
          · intro e listed
            rcases List.mem_cons.mp listed with rfl | later
            · exact most e (.head _)
            · rcases List.mem_cons.mp later with rfl | last
              · exact behind
              · exact most e (.tail _ last)

theorem isMostHated_of_perm {order hate : HateContainer} (same : List.Perm order hate) :
    hate.IsMostHated (mostHated order) := by
  have chosen : mostHated order =
      ((order.filter (·.isActive)).foldl better none).map (·.actorId) := by
    rw [mostHated]
    congr 2
    funext best e
    cases best <;> rfl
  have active {e : HateEntry} : e ∈ order.filter (·.isActive) ↔ e ∈ hate ∧ e.isActive = true := by
    rw [List.mem_filter, same.mem_iff]
  rw [chosen]
  cases listed : order.filter (·.isActive) with
  | nil =>
      intro e inside
      rw [listed] at active
      rw [← Bool.not_eq_true]
      intro live
      exact absurd (active.mpr ⟨inside, live⟩) List.not_mem_nil
  | cons first rest =>
      obtain ⟨best, found, inside, most⟩ := foldl_better rest first
      rw [listed] at active
      rw [List.foldl_cons, better, found]
      refine ⟨best, (active.mp inside).1, rfl, (active.mp inside).2, fun other known live => ?_⟩
      have least := most other (active.mpr ⟨known, live⟩)
      rw [← Bool.not_eq_true, hatedMore_iff] at least
      rw [UInt32.lt_iff_toNat_lt, UInt32.le_iff_toNat_le, ← UInt32.toNat_inj]
      omega

end HateContainer

/-! ### The totals -/

namespace HateOperation

variable {target : UInt32} {done : List HateOperation}

theorem after_concat (operation : HateOperation) :
    after (done ++ [operation]) = operation.apply (after done) :=
  List.foldl_concat ..

theorem sinceCleared_concat (operation : HateOperation) :
    sinceCleared target (done ++ [operation]) =
      if operation.clears target then [] else sinceCleared target done ++ [operation] := by
  rw [sinceCleared, List.reverse_concat, List.takeWhile_cons]
  cases operation.clears target with
  | true => rfl
  | false => exact List.reverse_cons

theorem tracked_concat {operation : HateOperation} (keeps : operation.clears target = false) :
    (∃ o ∈ sinceCleared target (done ++ [operation]), o.tracks target = true) ↔
      (∃ o ∈ sinceCleared target done, o.tracks target = true) ∨
        operation.tracks target = true := by
  rw [sinceCleared_concat, if_neg (by rw [keeps]; exact Bool.false_ne_true)]
  simp [or_and_right, exists_or]

theorem enmity_concat (operation : HateOperation) :
    enmity target (done ++ [operation]) =
      if operation.clears target then 0 else enmity target done + operation.damageTo target := by
  rw [enmity, sinceCleared_concat]
  split
  · rfl
  · rw [List.map_append, List.sum_append, enmity]
    rfl

theorem enmity_untracked
    (untracked : ¬∃ o ∈ sinceCleared target done, o.tracks target = true) :
    enmity target done = 0 := by
  apply List.sum_eq_zero
  intro amount listed
  obtain ⟨o, inside, rfl⟩ := List.mem_map.mp listed
  cases o with
  | updateHate hit damage =>
      refine if_neg fun same => untracked ⟨_, inside, ?_⟩
      exact beq_iff_eq.mpr same
  | _ => rfl

end HateOperation

namespace HateContainer

variable {hate : HateContainer} {done : List HateOperation} {target : UInt32}

theorem tallied_new : Tallied [] [] where
  distinct := .nil
  tracked _ := by simp [sinceCleared]
  total _ inside := by cases inside

theorem toNat_saturatingAdd (a b : UInt32) :
    (saturatingAdd a b).toNat = min (a.toNat + b.toNat) (2 ^ 32 - 1) := by
  rw [saturatingAdd]
  split
  · rename_i fits
    rw [UInt32.toNat_add, Nat.mod_eq_of_lt fits]
    omega
  · rw [UInt32.toNat_ofNat_of_lt' (by decide)]
    omega

theorem toNat_gain (damage : Int32) : (max damage 0).toUInt32.toNat = damage.toInt.toNat := by
  change (if damage ≤ 0 then 0 else damage).toUInt32.toNat = _
  split
  · rename_i below
    rw [Int32.le_iff_toInt_le] at below
    exact (Int.toNat_of_nonpos below).symm
  · rename_i above
    rw [Int32.le_iff_toInt_le, not_le] at above
    exact Int32.toNat_toUInt32_of_le (Int32.le_iff_toInt_le.mpr above.le)

namespace Tallied

theorem addBaseHate (tallied : Tallied done hate) (target : UInt32) :
    Tallied (done ++ [.addBaseHate target]) (hate.addBaseHate target) := by
  have same (other : UInt32) :
      enmity other (done ++ [.addBaseHate target]) = enmity other done :=
    enmity_concat _
  have tracks (other : UInt32) :
      (∃ o ∈ sinceCleared other (done ++ [.addBaseHate target]), o.tracks other = true) ↔
        (∃ e ∈ hate, e.actorId = other) ∨ target = other := by
    rw [tracked_concat rfl, tallied.tracked, HateOperation.tracks, beq_iff_eq]
  rw [HateContainer.addBaseHate]
  split
  · rename_i there
    obtain ⟨e, inside, known⟩ := List.any_eq_true.mp there
    refine ⟨tallied.distinct, fun other => ?_, fun e inside => ?_⟩
    · rw [tracks]
      refine ⟨.inl, fun either => either.elim id ?_⟩
      rintro rfl
      exact ⟨e, inside, beq_iff_eq.mp known⟩
    · rw [same]
      exact tallied.total e inside
  · rename_i absent
    have fresh : ∀ e ∈ hate, e.actorId ≠ target := fun e inside known =>
      absent (List.any_eq_true.mpr ⟨e, inside, beq_iff_eq.mpr known⟩)
    refine ⟨?_, fun other => ?_, ?_⟩
    · rw [List.map_append, List.nodup_append]
      refine ⟨tallied.distinct, List.pairwise_singleton _ _, fun id listed new only => ?_⟩
      obtain ⟨e, inside, rfl⟩ := List.mem_map.mp listed
      rw [List.mem_singleton.mp only]
      exact fresh e inside
    · rw [tracks]
      simp [or_and_right, exists_or, HateEntry.new]
    · intro e inside
      rw [same]
      rcases List.mem_append.mp inside with old | new
      · exact tallied.total e old
      · obtain rfl := List.mem_singleton.mp new
        have none_yet : enmity target done = 0 := by
          apply enmity_untracked
          rw [← tallied.tracked]
          rintro ⟨e, listed, known⟩
          exact fresh e listed known
        rw [HateEntry.new, none_yet]
        rfl

theorem map {f : HateEntry → HateEntry} {operation : HateOperation}
    (distinct : (hate.map (·.actorId)).Nodup)
    (tracked : ∀ other, (∃ e ∈ hate, e.actorId = other) ↔
      (∃ o ∈ sinceCleared other done, o.tracks other = true) ∨ operation.tracks other = true)
    (total : ∀ e ∈ hate, e.cumulativeEnmity.toNat = min (1 + enmity e.actorId done) (2 ^ 32 - 1))
    (keeps : ∀ other, operation.clears other = false) (own : ∀ e, (f e).actorId = e.actorId)
    (gains : ∀ e, (f e).cumulativeEnmity.toNat =
      min (e.cumulativeEnmity.toNat + operation.damageTo e.actorId) (2 ^ 32 - 1)) :
    Tallied (done ++ [operation]) (hate.map f) := by
  refine ⟨?_, fun other => ?_, fun e inside => ?_⟩
  · have same : (·.actorId) ∘ f = (·.actorId) := funext own
    rw [List.map_map, same]
    exact distinct
  · rw [tracked_concat (keeps other), ← tracked]
    simp only [List.mem_map, exists_exists_and_eq_and, own]
  · obtain ⟨e, old, rfl⟩ := List.mem_map.mp inside
    rw [own, enmity_concat, if_neg (by rw [keeps]; exact Bool.false_ne_true), gains, total e old]
    omega

theorem apply (tallied : Tallied done hate) (operation : HateOperation) :
    Tallied (done ++ [operation]) (operation.apply hate) := by
  cases operation with
  | addBaseHate target => exact tallied.addBaseHate target
  | setActive target active =>
      refine map tallied.distinct (fun other => ?_) tallied.total (fun _ => rfl) (fun e => ?_)
        fun e => ?_
      · rw [tallied.tracked]
        exact (or_iff_left Bool.false_ne_true).symm
      · split
        · rfl
        · rfl
      · have bounded := e.cumulativeEnmity.toNat_lt
        have same : (if e.actorId = target then { e with isActive := active } else
            e).cumulativeEnmity = e.cumulativeEnmity := by
          split
          · rfl
          · rfl
        have idle : damageTo e.actorId (.setActive target active) = 0 := rfl
        rw [same, idle]
        omega
  | updateHate target damage =>
      have based := tallied.addBaseHate target
      refine map based.distinct (fun other => ?_) (fun e inside => ?_) (fun _ => rfl) (fun e => ?_)
        fun e => ?_
      · rw [based.tracked, tracked_concat rfl]
        rfl
      · rw [based.total e inside, enmity_concat]
        rfl
      · split
        · rfl
        · rfl
      · rw [damageTo]
        split
        · rename_i hit
          rw [if_pos hit.symm, toNat_saturatingAdd, toNat_gain]
        · rename_i other
          have bounded := e.cumulativeEnmity.toNat_lt
          rw [if_neg (Ne.symm other)]
          omega
  | clearHate target =>
      cases target with
      | none =>
          refine ⟨.nil, fun other => ?_, fun e inside => by cases inside⟩
          have gone : (HateOperation.clearHate none).clears other = true := rfl
          rw [sinceCleared_concat, if_pos gone]
          simp [HateOperation.apply, HateContainer.clearHate]
      | some target =>
          have kept {e : HateEntry} :
              e ∈ hate.clearHate (some target) ↔ e ∈ hate ∧ e.actorId ≠ target := by
            rw [HateContainer.clearHate, List.mem_filter, bne_iff_ne]
          have gone (other : UInt32) :
              (HateOperation.clearHate (some target)).clears other = true ↔ target = other :=
            beq_iff_eq
          refine ⟨tallied.distinct.sublist (List.filter_sublist.map _), fun other => ?_, ?_⟩
          · by_cases cleared : target = other
            · rw [sinceCleared_concat, if_pos ((gone other).mpr cleared)]
              refine iff_of_false ?_ (by simp)
              rintro ⟨e, inside, known⟩
              exact (kept.mp inside).2 (known.trans cleared.symm)
            · have keeps := Bool.eq_false_iff.mpr (mt (gone other).mp cleared)
              rw [tracked_concat keeps, ← tallied.tracked]
              refine Iff.trans ?_ (or_iff_left Bool.false_ne_true).symm
              constructor
              · rintro ⟨e, inside, known⟩
                exact ⟨e, (kept.mp inside).1, known⟩
              · rintro ⟨e, inside, known⟩
                exact ⟨e, kept.mpr ⟨inside, known ▸ Ne.symm cleared⟩, known⟩
          · intro e inside
            obtain ⟨old, other⟩ := kept.mp inside
            rw [enmity_concat, if_neg fun cleared => other ((gone _).mp cleared).symm]
            exact tallied.total e old

end Tallied

theorem tallied_after (done : List HateOperation) : Tallied done (after done) := by
  induction done using List.reverseRecOn with
  | nil => exact tallied_new
  | append_singleton done operation ih =>
      rw [after_concat]
      exact ih.apply operation

theorem updated_active_iff (distinct : (hate.map (·.actorId)).Nodup) (target : UInt32)
    (damage : Int32) :
    (∃ e ∈ hate.updateHate target damage, e.actorId = target ∧ e.isActive = true) ↔
      ∀ e ∈ hate, e.actorId = target → e.isActive = true := by
  have updated : (∃ e ∈ hate.updateHate target damage, e.actorId = target ∧ e.isActive = true) ↔
      ∃ e ∈ hate.addBaseHate target, e.actorId = target ∧ e.isActive = true := by
    rw [updateHate]
    simp only [List.mem_map, exists_exists_and_eq_and]
    refine exists_congr fun e => and_congr_right fun _ => ?_
    split
    · rfl
    · rfl
  rw [updated, addBaseHate]
  split
  · rename_i there
    obtain ⟨own, inside, known⟩ := List.any_eq_true.mp there
    constructor
    · rintro ⟨e, listed, same, live⟩ other old third
      rw [List.inj_on_of_nodup_map distinct old listed (third.trans same.symm)]
      exact live
    · intro live
      exact ⟨own, inside, beq_iff_eq.mp known, live own inside (beq_iff_eq.mp known)⟩
  · rename_i absent
    refine iff_of_true ⟨.new target, List.mem_append_right _ (.head _), rfl, rfl⟩ ?_
    intro e inside known
    exact (absent (List.any_eq_true.mpr ⟨e, inside, beq_iff_eq.mpr known⟩)).elim

/-- Every state of a history is as it should be exactly if no update meets an entry that is not
active. -/
theorem sound_iff_updates_active (done : List HateOperation) :
    (∀ front, front <+: done → Sound front (after front)) ↔
      ∀ front target damage, front ++ [.updateHate target damage] <+: done →
        ∀ e ∈ after front, e.actorId = target → e.isActive = true := by
  have eligible_iff (front : List HateOperation) (target : UInt32) (damage : Int32) :
      (∃ e ∈ after (front ++ [.updateHate target damage]),
          e.actorId = target ∧ e.isActive = true) ↔
        ∀ e ∈ after front, e.actorId = target → e.isActive = true := by
    rw [after_concat]
    exact updated_active_iff (tallied_after front).distinct target damage
  constructor
  · intro sound front target damage pre
    rw [← eligible_iff front target damage]
    exact (sound _ pre).eligible target damage List.getLast?_concat
  · intro active front pre
    refine ⟨tallied_after front, fun order => isMostHated_of_perm, ?_⟩
    intro target damage last
    obtain ⟨before, rfl⟩ := List.getLast?_eq_some_iff.mp last
    exact (eligible_iff before target damage).mpr (active before target damage pre)

theorem deactivated_stays :
    (after [.updateHate 100 5, .setActive 100 false, .updateHate 100 5]).mostHated = none ∧
    ¬∀ front, front <+: [.updateHate 100 5, .setActive 100 false, .updateHate 100 5] →
      Sound front (after front) := by
  refine ⟨by decide, fun sound => ?_⟩
  obtain ⟨e, inside, _, live⟩ := (sound _ List.prefix_rfl).eligible 100 5 rfl
  have idle : ∀ e ∈ after [.updateHate 100 5, .setActive 100 false, .updateHate 100 5],
      e.isActive = false := by decide
  rw [idle e inside] at live
  exact Bool.false_ne_true live

end HateContainer

end Garlemald.Battle
