import Garlemald.Status.Slots
import Mathlib.Algebra.Order.Group.Multiset
import Mathlib.Data.List.Perm.Basic

/-!
Slots and effects as multisets: the filled slots with their end times, and what the
visible effects are to be shown as. Writing a slot exchanges one member of the first,
entering or erasing an effect one of the second.
-/

namespace Garlemald.Status
open Library

variable {μ : Type}

def slot (statusId : UInt16) (expiresAt : UInt32) : Multiset (UInt16 × UInt32) :=
  if statusId = 0 then 0 else {(statusId, expiresAt)}

def Client.filled (client : Client) : Multiset (UInt16 × UInt32) :=
  ((client.status.zip client.statusShownTime).filter fun entry => entry.1 ≠ 0 :
    List (UInt16 × UInt32))

structure Client.Sized (client : Client) : Prop where
  status : client.status.length = maxEffects
  times : client.statusShownTime.length = maxEffects

def StatusEffect.icon (e : StatusEffect μ) : Multiset (UInt16 × UInt32) :=
  if e.hidden then 0 else {(e.statusId, e.wireEndTime)}

def visible (effects : Table UInt32 (StatusEffect μ)) : Multiset (UInt16 × UInt32) :=
  (((Table.values effects).filter fun e => !e.hidden).map fun e => (e.statusId, e.wireEndTime) :
    List (UInt16 × UInt32))

theorem slot_proper {statusId : UInt16} (proper : statusId ≠ 0) (time : UInt32) :
    slot statusId time = {(statusId, time)} := if_neg proper

theorem mem_of_eq_add {shown rest : Multiset (UInt16 × UInt32)} {entry : UInt16 × UInt32}
    (whole : shown = {entry} + rest) : entry ∈ shown := by
  rw [whole]
  exact Multiset.mem_add.mpr (Or.inl (Multiset.mem_singleton_self _))

theorem once_of_add {shown part rest : Multiset (UInt16 × UInt32)} (whole : shown = part + rest)
    (once : (shown.map Prod.fst).Nodup) : (rest.map Prod.fst).Nodup := by
  rw [whole, Multiset.map_add] at once
  exact (Multiset.nodup_add.mp once).2.1

theorem once_cons {a : UInt16} {t : UInt32} {rest : Multiset (UInt16 × UInt32)} :
    (({(a, t)} + rest).map Prod.fst).Nodup ↔ a ∉ rest.map Prod.fst ∧ (rest.map Prod.fst).Nodup := by
  rw [Multiset.singleton_add, Multiset.map_cons, Multiset.nodup_cons]

theorem cancel_once {a : UInt16} {t t' : UInt32} {rest rest' : Multiset (UInt16 × UInt32)}
    (same : {(a, t)} + rest = {(a, t')} + rest')
    (once : (({(a, t')} + rest').map Prod.fst).Nodup) : t = t' ∧ rest = rest' := by
  rw [Multiset.singleton_add] at same once
  rw [Multiset.singleton_add] at same
  rw [Multiset.map_cons, Multiset.nodup_cons] at once
  have member : (a, t) ∈ (a, t') ::ₘ rest' := same ▸ Multiset.mem_cons_self ..
  cases Multiset.mem_cons.mp member with
  | inl equal =>
      rw [equal] at same
      exact ⟨congrArg Prod.snd equal, Multiset.cons_inj_right _ |>.mp same⟩
  | inr later => exact absurd (Multiset.mem_map_of_mem Prod.fst later) once.1

/-! A visible effect with the short id `m` takes the place of `own`, its namesake among what
is shown; `others` are shown besides. -/
section Placing

variable {m o : UInt16} {t time : UInt32} {own others rest : Multiset (UInt16 × UInt32)}

theorem slot_eq_zero : slot m t = 0 ↔ m = 0 := by
  rw [slot]
  split
  · next empty => exact iff_of_true rfl empty
  · next proper => exact iff_of_false (Multiset.singleton_ne_zero _) proper

theorem own_eq_zero (namesake : own = 0 ∨ ∃ t, own = {(m, t)})
    (absent : m ∉ (own + others).map Prod.fst) : own = 0 := by
  cases namesake with
  | inl nothing => exact nothing
  | inr shown =>
      obtain ⟨t, shown⟩ := shown
      rw [shown] at absent
      simp at absent

variable (time) in
theorem placed_hidden (namesake : own = 0 ∨ ∃ t, own = {(m, t)})
    (proper : ∀ entry ∈ own + others, entry.1 ≠ 0) :
    slot m time + (own + others) = others ↔ m = 0 := by
  constructor
  · intro same
    rw [← add_assoc] at same
    have nothing := add_eq_right.mp same
    have counted := congrArg Multiset.card nothing
    rw [Multiset.card_add, Multiset.card_zero] at counted
    exact slot_eq_zero.mp (Multiset.card_eq_zero.mp (Nat.eq_zero_of_add_eq_zero_right counted))
  · intro empty
    have absent : m ∉ (own + others).map Prod.fst := by
      intro member
      obtain ⟨entry, shown, short⟩ := Multiset.mem_map.mp member
      exact proper entry shown (short.trans empty)
    rw [own_eq_zero namesake absent, slot_eq_zero.mpr empty, zero_add, zero_add]

theorem placed_visible (namesake : own = 0 ∨ ∃ t, own = {(m, t)})
    (proper : ∀ entry ∈ own + others, entry.1 ≠ 0) (once : ((own + others).map Prod.fst).Nodup) :
    (slot m time + (own + others) = {(m, time)} + others ∧
      ((slot m time + (own + others)).map Prod.fst).Nodup) ↔
      m ≠ 0 ∧ m ∉ (own + others).map Prod.fst := by
  constructor
  · intro placed
    obtain ⟨same, once'⟩ := placed
    have short : m ≠ 0 := by
      intro empty
      rw [slot_eq_zero.mpr empty, zero_add] at same
      exact proper (m, time) (mem_of_eq_add same) empty
    rw [slot_proper short, once_cons] at once'
    exact ⟨short, once'.1⟩
  · intro fits
    obtain ⟨short, absent⟩ := fits
    rw [slot_proper short, once_cons]
    refine ⟨?_, absent, once⟩
    rw [own_eq_zero namesake absent, zero_add]

theorem overwritten_hidden (namesake : own = 0 ∨ ∃ t, own = {(m, t)})
    (proper : ∀ entry ∈ own + others, entry.1 ≠ 0) (whole : {(o, t)} + rest = own + others) :
    slot m time + rest = others ↔ own = 0 ∧ m = o ∧ time = t := by
  constructor
  · intro same
    cases namesake with
    | inl nothing =>
        rw [nothing, zero_add, ← same] at whole
        have equal := (add_left_inj rest).mp whole
        rw [slot] at equal
        split at equal
        · exact absurd equal (Multiset.singleton_ne_zero _)
        · have pair := Multiset.singleton_inj.mp equal
          exact ⟨nothing, (congrArg Prod.fst pair).symm, (congrArg Prod.snd pair).symm⟩
    | inr shown =>
        obtain ⟨t', shown⟩ := shown
        have short : m ≠ 0 := proper (m, t') (mem_of_eq_add (by rw [shown]))
        rw [slot_proper short] at same
        rw [shown] at whole
        have written := congrArg Multiset.card same
        have before := congrArg Multiset.card whole
        simp only [Multiset.card_add, Multiset.card_singleton] at written before
        omega
  · intro fits
    obtain ⟨nothing, short, ending⟩ := fits
    have shorts : o ≠ 0 := proper (o, t) (mem_of_eq_add whole.symm)
    rw [nothing, zero_add] at whole
    rw [short, ending, slot_proper shorts, whole]

theorem overwritten_visible (namesake : own = 0 ∨ ∃ t, own = {(m, t)})
    (proper : ∀ entry ∈ own + others, entry.1 ≠ 0) (once : ((own + others).map Prod.fst).Nodup)
    (whole : {(o, t)} + rest = own + others) :
    (slot m time + rest = {(m, time)} + others ∧ ((slot m time + rest).map Prod.fst).Nodup) ↔
      ∃ t', own = {(o, t')} := by
  constructor
  · intro placed
    obtain ⟨same, _⟩ := placed
    have short : m ≠ 0 := by
      intro empty
      rw [slot_eq_zero.mpr empty, zero_add] at same
      apply proper (m, time) _ empty
      rw [← whole]
      exact Multiset.mem_add.mpr (Or.inr (mem_of_eq_add same))
    rw [slot_proper short] at same
    rw [(add_right_inj _).mp same] at whole
    exact ⟨t, ((add_left_inj others).mp whole).symm⟩
  · intro shown
    obtain ⟨t', shown⟩ := shown
    have equal : o = m := by
      cases namesake with
      | inl nothing => exact absurd (shown.symm.trans nothing) (Multiset.singleton_ne_zero _)
      | inr mine =>
          obtain ⟨_, mine⟩ := mine
          exact congrArg Prod.fst (Multiset.singleton_inj.mp (shown.symm.trans mine))
    have short : m ≠ 0 := proper (m, t') (mem_of_eq_add (by rw [shown, equal]))
    rw [shown] at whole once
    rw [slot_proper short, (cancel_once whole once).2]
    rw [equal, once_cons] at once
    exact ⟨rfl, once_cons.mpr once⟩

end Placing

theorem end_unique {shown : Multiset (UInt16 × UInt32)} {a : UInt16} {t t' : UInt32}
    (once : (shown.map Prod.fst).Nodup) (first : (a, t) ∈ shown) (second : (a, t') ∈ shown) :
    t = t' := by
  have this := Multiset.cons_erase first
  have that := Multiset.cons_erase second
  rw [← Multiset.singleton_add] at this that
  rw [← that] at once
  exact (cancel_once (this.trans that.symm) once).1

theorem zip_set {α β : Type} (xs : List α) (ys : List β) (i : Nat) (x : α) (y : β) :
    (xs.set i x).zip (ys.set i y) = (xs.zip ys).set i (x, y) := by
  induction xs generalizing ys i with
  | nil => rfl
  | cons a xs ih =>
      cases ys with
      | nil => simp
      | cons b ys =>
          cases i with
          | zero => rfl
          | succ i => simp [ih]

theorem filter_cons_slot (statusId : UInt16) (expiresAt : UInt32)
    (rest : List (UInt16 × UInt32)) :
    ((((statusId, expiresAt) :: rest).filter fun entry => entry.1 ≠ 0 :
      List (UInt16 × UInt32)) : Multiset (UInt16 × UInt32)) =
      slot statusId expiresAt +
        (rest.filter fun entry => entry.1 ≠ 0 : List (UInt16 × UInt32)) := by
  by_cases empty : statusId = 0
  · simp [slot, empty]
  · simp [slot, empty]

namespace Client
variable {client : Client} {statusId : UInt16}

theorem write_filled (sized : client.Sized) {index : Nat} {a : UInt16}
    (here : client.status[index]? = some a) :
    ∃ t rest, client.filled = slot a t + rest ∧ ∀ statusId expiresAt,
      (client.write index statusId expiresAt).filled = slot statusId expiresAt + rest := by
  obtain ⟨insideStatus, value⟩ := List.getElem?_eq_some_iff.mp here
  have insideTimes : index < client.statusShownTime.length := by
    rw [sized.times, ← sized.status]
    exact insideStatus
  have inside : index < (client.status.zip client.statusShownTime).length := by
    rw [List.length_zip]
    omega
  refine ⟨client.statusShownTime[index],
    (((client.status.zip client.statusShownTime).eraseIdx index).filter fun entry => entry.1 ≠ 0 :
      List (UInt16 × UInt32)), ?_, ?_⟩
  · have split := List.getElem_cons_eraseIdx_perm inside
    rw [List.getElem_zip, value] at split
    rw [← filter_cons_slot]
    exact Multiset.coe_eq_coe.mpr (split.symm.filter _)
  · intro statusId expiresAt
    have split := List.set_perm_cons_eraseIdx inside (statusId, expiresAt)
    rw [← filter_cons_slot, filled, write, zip_set]
    exact Multiset.coe_eq_coe.mpr (split.filter _)

theorem Sized.write (sized : client.Sized) (index : Nat) (statusId : UInt16) (expiresAt : UInt32) :
    (client.write index statusId expiresAt).Sized := by
  constructor
  · rw [Client.write, List.length_set, sized.status]
  · rw [Client.write, List.length_set, sized.times]

theorem moving_cases (sized : client.Sized) (old statusId : UInt16) (expiresAt : UInt32) :
    (∃ t rest, client.filled = slot old t + rest ∧
      (client.moving old statusId expiresAt).filled = slot statusId expiresAt + rest) ∨
    (old ∉ client.status ∧ client.moving old statusId expiresAt = client) := by
  rw [moving]
  cases search : client.status.findIdx? (· == old) with
  | none =>
      refine Or.inr ⟨fun member => ?_, rfl⟩
      have missed := List.findIdx?_eq_none_iff.mp search old member
      simp at missed
  | some index =>
      obtain ⟨inside, found, _⟩ := List.findIdx?_eq_some_iff_getElem.mp search
      have here : client.status[index]? = some old := by
        rw [List.getElem?_eq_getElem inside, beq_iff_eq.mp found]
      obtain ⟨t, rest, before, written⟩ := write_filled sized here
      exact Or.inl ⟨t, rest, before, written statusId expiresAt⟩

theorem Sized.moving (sized : client.Sized) (old statusId : UInt16) (expiresAt : UInt32) :
    (client.moving old statusId expiresAt).Sized := by
  rw [Client.moving]
  split
  · exact sized.write ..
  · exact sized

theorem mem_status_iff (sized : client.Sized) (proper : statusId ≠ 0) :
    statusId ∈ client.status ↔ ∃ t, (statusId, t) ∈ client.filled := by
  constructor
  · intro member
    obtain ⟨index, inside, value⟩ := List.getElem_of_mem member
    have times : index < client.statusShownTime.length := by
      rw [sized.times, ← sized.status]
      exact inside
    refine ⟨client.statusShownTime[index], ?_⟩
    rw [filled, Multiset.mem_coe, List.mem_filter]
    refine ⟨?_, by simpa using proper⟩
    apply List.mem_iff_getElem.mpr
    exact ⟨index, by rw [List.length_zip]; omega, by rw [List.getElem_zip, value]⟩
  · intro shown
    obtain ⟨t, member⟩ := shown
    rw [filled, Multiset.mem_coe, List.mem_filter] at member
    exact (List.of_mem_zip member.1).1

theorem filled_proper {time : UInt32} (member : (statusId, time) ∈ client.filled) :
    statusId ≠ 0 := by
  rw [filled, Multiset.mem_coe, List.mem_filter] at member
  simpa using member.2

theorem card_filled_full (sized : client.Sized) (full : 0 ∉ client.status) :
    client.filled.card = maxEffects := by
  have all : ((client.status.zip client.statusShownTime).filter fun entry => entry.1 ≠ 0 :
      List (UInt16 × UInt32)) = client.status.zip client.statusShownTime := by
    apply List.filter_eq_self.mpr
    intro entry member
    have proper : entry.1 ≠ 0 := fun empty => full (empty ▸ (List.of_mem_zip member).1)
    simpa using proper
  rw [filled, all, Multiset.coe_card, List.length_zip, sized.status, sized.times, Nat.min_self]

theorem moving_shown (sized : client.Sized) {old : UInt16} (proper : old ≠ 0) {t : UInt32}
    {rest : Multiset (UInt16 × UInt32)} (shown : client.filled = {(old, t)} + rest)
    (once : (client.filled.map Prod.fst).Nodup) (statusId : UInt16) (expiresAt : UInt32) :
    (client.moving old statusId expiresAt).filled = slot statusId expiresAt + rest := by
  cases client.moving_cases sized old statusId expiresAt with
  | inl written =>
      obtain ⟨t', rest', before, written⟩ := written
      rw [slot_proper proper] at before
      rw [shown] at once
      rw [written, (cancel_once (before.symm.trans shown) once).2]
  | inr missed =>
      exact absurd ((mem_status_iff sized proper).mpr ⟨t, mem_of_eq_add shown⟩) missed.1

theorem moving_empty (sized : client.Sized) (free : client.filled.card < maxEffects)
    (statusId : UInt16) (expiresAt : UInt32) :
    (client.moving 0 statusId expiresAt).filled = slot statusId expiresAt + client.filled := by
  cases client.moving_cases sized 0 statusId expiresAt with
  | inl written =>
      obtain ⟨t, rest, before, written⟩ := written
      rw [slot, if_pos rfl, zero_add] at before
      rw [written, before]
  | inr missed => exact absurd (card_filled_full sized missed.1) (Nat.ne_of_lt free)

theorem moving_absent {old : UInt16} (absent : old ∉ client.status) (statusId : UInt16)
    (expiresAt : UInt32) : client.moving old statusId expiresAt = client := by
  have search : client.status.findIdx? (· == old) = none := by
    rw [List.findIdx?_eq_none_iff]
    intro other member
    rw [beq_eq_false_iff_ne]
    exact fun same => absent (same ▸ member)
  rw [moving, search]

theorem showing_of_mem (taken : statusId ∈ client.status) (expiresAt : UInt32) :
    client.showing statusId expiresAt = client.moving statusId statusId expiresAt := by
  have found : (client.status.findIdx? (· == statusId)).isSome := by
    rw [List.findIdx?_isSome, List.any_eq_true]
    exact ⟨statusId, taken, beq_self_eq_true _⟩
  obtain ⟨index, search⟩ := Option.isSome_iff_exists.mp found
  rw [showing, moving, search]
  rfl

theorem showing_of_not_mem (absent : statusId ∉ client.status) (expiresAt : UInt32) :
    client.showing statusId expiresAt = client.moving 0 statusId expiresAt := by
  have search : client.status.findIdx? (· == statusId) = none := by
    rw [List.findIdx?_eq_none_iff]
    intro other member
    rw [beq_eq_false_iff_ne]
    exact fun same => absent (same ▸ member)
  rw [showing, moving, search, Option.none_or]

end Client

theorem visible_cons {t t' : Table UInt32 (StatusEffect μ)} {id : UInt32} {e : StatusEffect μ}
    (perm : t.entries.Perm (⟨id, e⟩ :: t'.entries)) : visible t = e.icon + visible t' := by
  have values := perm.map fun entry => entry.2
  have shown := (values.filter fun e => !e.hidden).map fun e => (e.statusId, e.wireEndTime)
  rw [visible, Table.values, Multiset.coe_eq_coe.mpr shown]
  cases hidden : e.hidden with
  | true => simp [StatusEffect.icon, hidden, visible, Table.values]
  | false => simp [StatusEffect.icon, hidden, visible, Table.values]

theorem visible_insert (t : Table UInt32 (StatusEffect μ)) (id : UInt32) (n : StatusEffect μ) :
    visible (t.insert id n) = n.icon + visible (t.erase id) :=
  visible_cons (by rw [AList.entries_insert]; rfl)

/-- What the effect under an id is shown as, if there is one. -/
def iconAt (t : Table UInt32 (StatusEffect μ)) (id : UInt32) : Multiset (UInt16 × UInt32) :=
  (t.lookup id).elim 0 StatusEffect.icon

theorem visible_split (t : Table UInt32 (StatusEffect μ)) (id : UInt32) :
    visible t = iconAt t id + visible (t.erase id) := by
  rw [iconAt]
  cases found : t.lookup id with
  | none => rw [Table.erase_absent found, Option.elim_none, zero_add]
  | some e => rw [Option.elim_some, visible_cons (Table.entries_perm_erase found)]

theorem card_visible_le (t : Table UInt32 (StatusEffect μ)) :
    (visible t).card ≤ t.entries.length := by
  rw [visible, Multiset.coe_card, List.length_map]
  apply Nat.le_trans (List.length_filter_le ..)
  rw [Table.values, List.length_map]

theorem mem_visible {t : Table UInt32 (StatusEffect μ)} {statusId : UInt16} {time : UInt32} :
    (statusId, time) ∈ visible t ↔
      ∃ id e, t.lookup id = some e ∧ e.hidden = false ∧ e.statusId = statusId ∧
        e.wireEndTime = time := by
  simp only [visible, Table.values, Multiset.mem_coe, List.mem_map, List.mem_filter,
    Prod.mk.injEq, Bool.not_eq_true']
  constructor
  · intro shown
    obtain ⟨e, ⟨⟨entry, member, same⟩, seen⟩, short, ending⟩ := shown
    refine ⟨entry.1, e, ?_, seen, short, ending⟩
    rw [← same]
    exact AList.mem_lookup_iff.mpr member
  · intro active
    obtain ⟨id, e, found, seen, short, ending⟩ := active
    exact ⟨e, ⟨⟨⟨id, e⟩, AList.mem_lookup_iff.mp found, rfl⟩, seen⟩, short, ending⟩

end Garlemald.Status
