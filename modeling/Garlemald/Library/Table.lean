import Mathlib.Data.List.AList

/-!
Finite tables with one entry for each key: dropping the entries that fail a test,
and changing every value in place.
-/

namespace Library

/-- A finite map from keys to values. -/
abbrev Table (κ ν : Type) := AList fun _ : κ => ν

namespace Table

variable {κ ν μ : Type}

def retain (keep : κ → ν → Bool) (t : Table κ ν) : Table κ ν :=
  ⟨t.entries.filter fun e => keep e.1 e.2,
    List.Nodup.sublist (List.Sublist.map _ List.filter_sublist) t.nodupKeys⟩

theorem entries_retain (keep : κ → ν → Bool) (t : Table κ ν) :
    (retain keep t).entries = t.entries.filter fun e => keep e.1 e.2 := rfl

def mapValues (f : ν → μ) (t : Table κ ν) : Table κ μ :=
  ⟨t.entries.map fun e => ⟨e.1, f e.2⟩, by
    have keys : (t.entries.map fun e => (⟨e.1, f e.2⟩ : Sigma fun _ : κ => μ)).keys =
        t.entries.keys := by
      simp [List.keys]
    rw [List.NodupKeys, keys]
    exact t.nodupKeys⟩

def values (t : Table κ ν) : List ν := t.entries.map fun e => e.2

theorem values_mapValues (f : ν → μ) (t : Table κ ν) :
    values (mapValues f t) = (values t).map f := by
  simp [values, mapValues]

variable {t : Table κ ν}

theorem retain_all {keep : κ → ν → Bool} (all : ∀ e ∈ t.entries, keep e.1 e.2 = true) :
    retain keep t = t :=
  AList.ext (List.filter_eq_self.mpr all)

theorem mapValues_fixed {f : ν → ν} (fixed : ∀ e ∈ t.entries, f e.2 = e.2) :
    mapValues f t = t := by
  apply AList.ext
  refine (List.map_congr_left fun e member => ?_).trans (List.map_id _)
  rw [fixed e member]
  rfl

variable [DecidableEq κ]

theorem lookup_retain (keep : κ → ν → Bool) (t : Table κ ν) (k : κ) :
    AList.lookup k (retain keep t) = (AList.lookup k t).filter (keep k) := by
  apply Option.ext
  intro v
  have kept : v ∈ AList.lookup k (retain keep t) ↔ v ∈ AList.lookup k t ∧ keep k v = true := by
    rw [AList.mem_lookup_iff, AList.mem_lookup_iff]
    exact List.mem_filter
  rw [← Option.mem_def, kept, Option.mem_def, Option.filter_eq_some_iff]

theorem lookup_mapValues (f : ν → μ) (t : Table κ ν) (k : κ) :
    AList.lookup k (mapValues f t) = (AList.lookup k t).map f :=
  List.dlookup_map₂ (f := fun _ => f) k

theorem erase_absent {k : κ} (absent : t.lookup k = none) : t.erase k = t := by
  apply AList.ext
  apply List.kerase_of_notMem_keys
  exact AList.lookup_eq_none.mp absent

theorem entries_perm_erase {k : κ} {v : ν} (found : t.lookup k = some v) :
    t.entries.Perm (⟨k, v⟩ :: (t.erase k).entries) := by
  have present : k ∈ t.entries.keys := by
    apply AList.lookup_isSome.mp
    rw [found]
    rfl
  obtain ⟨w, front, back, _, whole, rest⟩ := List.exists_of_kerase present
  have same : w = v := by
    have member : (⟨k, w⟩ : Sigma fun _ : κ => ν) ∈ t.entries := by
      rw [whole]
      simp
    have read := AList.mem_lookup_iff.mpr member
    rw [found] at read
    cases read
    rfl
  have kept : (t.erase k).entries = front ++ back := rest
  rw [kept, whole, same]
  exact List.perm_middle

theorem insert_erase (t : Table κ ν) (k : κ) (v : ν) : (t.erase k).insert k v = t.insert k v := by
  apply AList.ext
  have gone := erase_absent (t := t.erase k) (AList.lookup_erase k t)
  rw [AList.entries_insert, AList.entries_insert]
  exact congrArg (List.cons _) (congrArg AList.entries gone)

theorem length_erase_present {k : κ} {v : ν} (found : t.lookup k = some v) :
    (t.erase k).entries.length + 1 = t.entries.length :=
  (entries_perm_erase found).length_eq.symm

theorem length_insert (t : Table κ ν) (k : κ) (v : ν) :
    (t.insert k v).entries.length = t.entries.length + if (t.lookup k).isSome then 0 else 1 := by
  have fresh : (t.insert k v).entries.length = (t.erase k).entries.length + 1 := rfl
  cases found : t.lookup k with
  | none =>
      rw [fresh, erase_absent found]
      rfl
  | some w =>
      rw [fresh, length_erase_present found]
      rfl

theorem lookup_insert_if (t : Table κ ν) (k other : κ) (v : ν) :
    (t.insert k v).lookup other = if other = k then some v else t.lookup other := by
  split
  · next same => rw [same, AList.lookup_insert]
  · next apart => exact AList.lookup_insert_ne apart

theorem lookup_erase_if (t : Table κ ν) (k other : κ) :
    (t.erase k).lookup other = if other = k then none else t.lookup other := by
  split
  · next same => rw [same, AList.lookup_erase]
  · next apart => exact AList.lookup_erase_ne apart

theorem isSome_lookup_insert {k other : κ} {v : ν} :
    ((t.insert k v).lookup other).isSome ↔ other = k ∨ (t.lookup other).isSome := by
  rw [lookup_insert_if]
  split <;> simp [*]

def push (t : Table κ (List ν)) (k : κ) (v : ν) : Table κ (List ν) :=
  t.insert k ((t.lookup k).getD [] ++ [v])

theorem lookup_push (t : Table κ (List ν)) (k other : κ) (v : ν) :
    ((push t k v).lookup other).getD [] =
      (t.lookup other).getD [] ++ if other = k then [v] else [] := by
  rw [push, lookup_insert_if]
  split
  · next same => rw [same, Option.getD_some]
  · rw [List.append_nil]

end Table
end Library
