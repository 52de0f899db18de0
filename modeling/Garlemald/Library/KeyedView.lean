import Mathlib.Data.List.Nodup
import Mathlib.Logic.Function.Basic

/-!
A view of a table: the values of its rows under their keys. The view is told which rows were
written and which keys were freed, and shows the table again if it was told enough.
-/

namespace Library

variable {ρ κ ν : Type*} {key : ρ → κ} {shown : ρ → ν} {view : κ → Option ν} {rows rows' : List ρ}

/-- The view has the values of the rows under their keys, and nothing else. -/
def Shows (key : ρ → κ) (shown : ρ → ν) (view : κ → Option ν) (rows : List ρ) : Prop :=
  ∀ k v, view k = some v ↔ ∃ row ∈ rows, key row = k ∧ shown row = v

theorem Shows.of_mem (shows : Shows key shown view rows) {row : ρ} (present : row ∈ rows) :
    view (key row) = some (shown row) :=
  (shows _ _).mpr ⟨row, present, rfl, rfl⟩

theorem Shows.congr (same : ∀ row, row ∈ rows ↔ row ∈ rows') :
    Shows key shown view rows ↔ Shows key shown view rows' := by
  apply forall_congr'
  intro k
  apply forall_congr'
  intro v
  simp only [same]

theorem Shows.keys_nodup (shows : Shows key shown view rows)
    (apart : (rows.map shown).Nodup) : (rows.map key).Nodup := by
  apply List.Nodup.map_on _ apart.of_map
  intro row inside other there same
  apply List.inj_on_of_nodup_map apart inside there
  have first := shows.of_mem inside
  rw [same, shows.of_mem there] at first
  exact (Option.some.inj first).symm

theorem Shows.perm (shows : Shows key shown view rows) (apart : (rows.map shown).Nodup)
    (shows' : Shows key shown view rows') (apart' : (rows'.map shown).Nodup) :
    (rows.map shown).Perm (rows'.map shown) := by
  rw [List.perm_ext_iff_of_nodup apart apart']
  intro v
  rw [List.mem_map, List.mem_map]
  constructor
  · rintro ⟨row, present, same⟩
    obtain ⟨row', present', _, same'⟩ := (shows' _ v).mp ((shows _ v).mpr ⟨row, present, rfl, same⟩)
    exact ⟨row', present', same'⟩
  · rintro ⟨row', present', same'⟩
    obtain ⟨row, present, _, same⟩ := (shows _ v).mp ((shows' _ v).mpr ⟨row', present', rfl, same'⟩)
    exact ⟨row, present, same⟩

variable [DecidableEq κ]

def putRows (key : ρ → κ) (shown : ρ → ν) (view : κ → Option ν) (sent : List ρ) : κ → Option ν :=
  sent.foldl (fun view row => Function.update view (key row) (some (shown row))) view

def freeKeys (view : κ → Option ν) (keys : List κ) : κ → Option ν :=
  keys.foldl (fun view k => Function.update view k none) view

theorem putRows_of_ne {sent : List ρ} {k : κ} (absent : ∀ row ∈ sent, key row ≠ k) :
    putRows key shown view sent k = view k := by
  induction sent generalizing view with
  | nil => rfl
  | cons row sent ih =>
      have later : ∀ other ∈ sent, key other ≠ k :=
        fun other inside => absent other (List.mem_cons_of_mem _ inside)
      rw [putRows, List.foldl_cons]
      refine (ih later).trans ?_
      exact Function.update_of_ne (absent row List.mem_cons_self).symm _ _

theorem putRows_of_mem {sent : List ρ} (distinct : (sent.map key).Nodup) {row : ρ}
    (present : row ∈ sent) : putRows key shown view sent (key row) = some (shown row) := by
  induction sent generalizing view with
  | nil => cases present
  | cons first sent ih =>
      obtain ⟨fresh, others⟩ := List.nodup_cons.mp distinct
      rw [putRows, List.foldl_cons]
      obtain rfl | behind := List.mem_cons.mp present
      · refine (putRows_of_ne ?_).trans (Function.update_self ..)
        intro other inside same
        exact fresh (same ▸ List.mem_map_of_mem inside)
      · exact ih others behind

theorem putRows_free {sent : List ρ} {k : κ} (absent : ∀ row ∈ sent, key row ≠ k) :
    Function.update (putRows key shown view sent) k none =
      putRows key shown (Function.update view k none) sent := by
  induction sent generalizing view with
  | nil => rfl
  | cons row sent ih =>
      have later : ∀ other ∈ sent, key other ≠ k :=
        fun other inside => absent other (List.mem_cons_of_mem _ inside)
      have apart := absent row List.mem_cons_self
      rw [putRows, putRows, List.foldl_cons, List.foldl_cons, Function.update_comm apart.symm]
      exact ih later

/-- What was sent are rows of the table as it is now; what is new in it was sent, and what it lost
was sent over. Then the view shows the table exactly if the keys are distinct. -/
theorem shows_putRows_iff (before : Shows key shown view rows) {sent : List ρ}
    (distinct : sent.Sublist rows') (apart : (rows'.map shown).Nodup)
    (new : ∀ row ∈ rows', row ∈ rows ∨ row ∈ sent)
    (lost : ∀ row ∈ rows, row ∈ rows' ∨ ∃ other ∈ sent, key other = key row) :
    Shows key shown (putRows key shown view sent) rows' ↔ (rows'.map key).Nodup := by
  refine ⟨fun shows => shows.keys_nodup apart, fun keys => ?_⟩
  have sent_keys : (sent.map key).Nodup := (distinct.map key).nodup keys
  intro k v
  by_cases told : ∃ row ∈ sent, key row = k
  · obtain ⟨row, inside, rfl⟩ := told
    rw [putRows_of_mem sent_keys inside]
    constructor
    · intro same
      exact ⟨row, distinct.subset inside, rfl, Option.some.inj same⟩
    · rintro ⟨other, there, same, rfl⟩
      rw [List.inj_on_of_nodup_map keys there (distinct.subset inside) same]
  · have silent : ∀ row ∈ sent, key row ≠ k := fun row inside same => told ⟨row, inside, same⟩
    rw [putRows_of_ne silent, before k v]
    constructor
    · rintro ⟨row, inside, rfl, rfl⟩
      exact ⟨row, (lost row inside).resolve_right told, rfl, rfl⟩
    · rintro ⟨row, inside, rfl, rfl⟩
      exact ⟨row, (new row inside).resolve_right fun there => told ⟨row, there, rfl⟩, rfl, rfl⟩

theorem shows_free (before : Shows key shown view rows) (keys : (rows.map key).Nodup) {row : ρ}
    (present : row ∈ rows) (left : ∀ other, other ∈ rows' ↔ other ∈ rows ∧ other ≠ row) :
    Shows key shown (Function.update view (key row) none) rows' := by
  intro k v
  by_cases here : k = key row
  · subst here
    rw [Function.update_self]
    constructor
    · intro impossible
      cases impossible
    · rintro ⟨other, inside, same, _⟩
      obtain ⟨there, different⟩ := (left other).mp inside
      exact absurd (List.inj_on_of_nodup_map keys there present same) different
  · rw [Function.update_of_ne here, before k v]
    constructor
    · rintro ⟨other, inside, rfl, rfl⟩
      refine ⟨other, (left other).mpr ⟨inside, ?_⟩, rfl, rfl⟩
      rintro rfl
      exact here rfl
    · rintro ⟨other, inside, rfl, rfl⟩
      exact ⟨other, ((left other).mp inside).1, rfl, rfl⟩

end Library
