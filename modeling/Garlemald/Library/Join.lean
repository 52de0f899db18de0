import Mathlib.Data.List.Nodup
import Mathlib.Logic.Function.Basic

/-!
Rows that refer to items by a key, joined with the items. What is seen of a join has no keys in
it: an entry is known by its place, and changes of the items and of the rows are changes at a
place.
-/

namespace Library

variable {ι α β ρ : Type*}

def join (items : ι → Option α) (key : ρ → ι) (view : ρ → α → β) (rows : List ρ) : List (ι × β) :=
  rows.filterMap fun row => (items (key row)).map fun item => (key row, view row item)

/-- Changes the first entry that fits, or puts a fresh one behind all of them. -/
def upsertFirst (fits : β → Bool) (change : β → β) (fresh : β) : List β → List β
  | [] => [fresh]
  | entry :: entries =>
      if fits entry then change entry :: entries
      else entry :: upsertFirst fits change fresh entries

theorem filterMap_keys {choose : ρ → Option β} {key : ρ → ι} {key' : β → ι}
    (same : ∀ row entry, choose row = some entry → key' entry = key row) (rows : List ρ) :
    ((rows.filterMap choose).map key').Sublist (rows.map key) := by
  induction rows with
  | nil => exact List.Sublist.refl _
  | cons row rows ih =>
      rw [List.filterMap_cons]
      cases chosen : choose row with
      | none => exact ih.cons _
      | some entry =>
          rw [List.map_cons, List.map_cons, same row entry chosen]
          exact ih.cons_cons _

section Join

variable {items items' : ι → Option α} {key : ρ → ι} {view : ρ → α → β} {rows : List ρ}

theorem join_congr (same : ∀ row ∈ rows, items' (key row) = items (key row)) :
    join items' key view rows = join items key view rows := by
  apply List.filterMap_congr
  intro row inside
  rw [same row inside]

theorem join_append {row : ρ} {k : ι} {item : α} (here : key row = k)
    (found : items k = some item) :
    join items key view (rows ++ [row]) = join items key view rows ++ [(k, view row item)] := by
  subst here
  rw [join, join, List.filterMap_append, List.filterMap_cons, found]
  rfl

variable [DecidableEq ι]

theorem join_update {k : ι} {f : α → α} {change : β → β}
    (follows : ∀ row item, view row (f item) = change (view row item)) :
    join (Function.update items k ((items k).map f)) key view rows =
      (join items key view rows).map fun entry =>
        if entry.1 = k then (entry.1, change entry.2) else entry := by
  rw [join, join, List.map_filterMap]
  apply List.filterMap_congr
  intro row _
  by_cases here : key row = k
  · subst here
    rw [Function.update_self]
    cases items (key row) <;> simp [follows]
  · rw [Function.update_of_ne here]
    cases items (key row) <;> simp [here]

theorem join_filter (k : ι) :
    join items key view (rows.filter fun row => key row ≠ k) =
      (join items key view rows).filter fun entry => entry.1 ≠ k := by
  rw [join, join, List.filter_filterMap, List.filterMap_filter]
  apply List.filterMap_congr
  intro row _
  by_cases here : key row = k
  · cases items (key row) <;> simp [here, Option.filter]
  · cases items (key row) <;> simp [here, Option.filter]

theorem join_insert {row : ρ} {k : ι} {item : α} (here : key row = k)
    (fresh : ∀ old ∈ rows, key old ≠ k) (chosen : ρ → Bool) :
    join (Function.update items k (some item)) key view ((rows ++ [row]).filter chosen) =
      join items key view (rows.filter chosen) ++
        if chosen row then [(k, view row item)] else [] := by
  have old_rows : join (Function.update items k (some item)) key view (rows.filter chosen) =
      join items key view (rows.filter chosen) := by
    apply join_congr
    intro old inside
    exact Function.update_of_ne (fresh old (List.mem_of_mem_filter inside)) _ _
  rw [List.filter_append]
  by_cases taken : chosen row = true
  · rw [List.filter_cons_of_pos taken, List.filter_nil, if_pos taken, ← old_rows]
    exact join_append here (Function.update_self _ _ _)
  · rw [List.filter_cons_of_neg taken, List.filter_nil, if_neg taken, List.append_nil,
      List.append_nil, old_rows]

omit [DecidableEq ι] in
theorem join_keys (items : ι → Option α) (key : ρ → ι) (view : ρ → α → β) (rows : List ρ) :
    ((join items key view rows).map Prod.fst).Sublist (rows.map key) := by
  apply filterMap_keys
  intro row entry shown
  obtain ⟨_, _, rfl⟩ := Option.map_eq_some_iff.mp shown
  rfl

omit [DecidableEq ι] in
theorem join_map {γ : Type*} (read : β → γ) {read' : ρ → γ}
    (same : ∀ row item, read (view row item) = read' row)
    (resolved : ∀ row ∈ rows, (items (key row)).isSome = true) :
    (join items key view rows).map (fun entry => read entry.2) = rows.map read' := by
  induction rows with
  | nil => rfl
  | cons row rows ih =>
      obtain ⟨item, found⟩ := Option.isSome_iff_exists.mp (resolved row List.mem_cons_self)
      rw [join, List.filterMap_cons, found, List.map_cons]
      refine congrArg₂ List.cons (same row item) ?_
      exact ih fun other later => resolved other (List.mem_cons_of_mem _ later)

end Join

section Places

variable {entries : List (ι × β)} {fits : β → Bool} {change change' : β → β}

theorem map_upsertFirst_fresh {fresh : β} (k : ι)
    (none_fits : entries.find? (fun entry => fits entry.2) = none) :
    (entries ++ [(k, fresh)]).map Prod.snd =
      upsertFirst fits change fresh (entries.map Prod.snd) := by
  induction entries with
  | nil => rfl
  | cons entry entries ih =>
      rw [List.find?_cons] at none_fits
      cases first : fits entry.2 with
      | true => simp [first] at none_fits
      | false =>
          simp only [first] at none_fits
          rw [List.map_cons, upsertFirst, first, List.cons_append, List.map_cons, ih none_fits]
          rfl

theorem upsertFirst_kept {fresh found : β} {k : ι}
    (first : entries.find? (fun entry => fits entry.2) = some (k, found))
    (kept : change found = found) :
    upsertFirst fits change fresh (entries.map Prod.snd) = entries.map Prod.snd := by
  induction entries with
  | nil => cases first
  | cons entry entries ih =>
      rw [List.find?_cons] at first
      rw [List.map_cons, upsertFirst]
      cases matched : fits entry.2 with
      | true =>
          simp only [matched] at first
          cases first
          rw [if_pos rfl, kept]
      | false =>
          simp only [matched] at first
          rw [if_neg (by simp), ih first]

variable [DecidableEq ι]

theorem map_absent {k : ι} (absent : k ∉ entries.map Prod.fst) :
    (entries.map fun entry => if entry.1 = k then (entry.1, change entry.2) else entry) =
      entries := by
  refine (List.map_congr_left fun entry inside => ?_).trans (List.map_id _)
  have present := List.mem_map_of_mem (f := Prod.fst) inside
  have other : entry.1 ≠ k := fun same => absent (same ▸ present)
  rw [if_neg other]
  rfl

theorem map_upsertFirst_found {fresh found : β} {k : ι} (keys : (entries.map Prod.fst).Nodup)
    (first : entries.find? (fun entry => fits entry.2) = some (k, found))
    (agree : change' found = change found) :
    (entries.map fun entry => if entry.1 = k then (entry.1, change' entry.2) else entry).map
        Prod.snd = upsertFirst fits change fresh (entries.map Prod.snd) := by
  induction entries with
  | nil => cases first
  | cons entry entries ih =>
      obtain ⟨apart, keys⟩ := List.nodup_cons.mp keys
      rw [List.find?_cons] at first
      cases matched : fits entry.2 with
      | true =>
          simp only [matched] at first
          cases first
          simp only [List.map_cons, if_true, agree]
          rw [map_absent apart, upsertFirst, if_pos matched]
      | false =>
          simp only [matched] at first
          have behind := List.mem_map_of_mem (f := Prod.fst) (List.mem_of_find?_eq_some first)
          have other : entry.1 ≠ k := fun same => apart (same ▸ behind)
          simp only [List.map_cons, if_neg other]
          rw [upsertFirst, if_neg (by simp [matched]), ih keys first]

theorem map_erase_key {k : ι} (keys : (entries.map Prod.fst).Nodup) :
    (entries.filter fun entry => entry.1 ≠ k).map Prod.snd =
      (entries.map Prod.snd).eraseIdx (entries.findIdx fun entry => entry.1 = k) := by
  induction entries with
  | nil => rfl
  | cons entry entries ih =>
      obtain ⟨apart, keys⟩ := List.nodup_cons.mp keys
      rw [List.findIdx_cons]
      by_cases here : entry.1 = k
      · have rest : entries.filter (fun other => other.1 ≠ k) = entries := by
          rw [List.filter_eq_self]
          intro other inside
          rw [decide_eq_true_eq, ← here]
          intro same
          exact apart (same ▸ List.mem_map_of_mem inside)
        rw [List.filter_cons_of_neg (by simp [here]), rest]
        simp [here]
      · rw [List.filter_cons_of_pos (by simp [here]), List.map_cons, ih keys]
        simp [here]

end Places

end Library
