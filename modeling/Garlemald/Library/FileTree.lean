import Mathlib.Data.List.Forall2

/-!
Trees of folders and files. A path is located component by component; a lookup that takes one entry
of each folder it comes to may miss what lies below another.
-/

namespace Library

inductive FileTree (ν : Type) where
  | file
  | folder (entries : List (ν × FileTree ν))

inductive Component (ν : Type) where
  | rootDir
  | curDir
  | parentDir
  | normal (name : ν)

namespace FileTree

variable {ν : Type}

def names : FileTree ν → List ν
  | file => []
  | folder entries => entries.map (·.1)

def isFolder : FileTree ν → Bool
  | file => false
  | folder _ => true

/-- Where a path leads when its parents are only taken off. -/
def lexical : List ν → List (Component ν) → List ν
  | here, [] => here
  | _, .rootDir :: rest => lexical [] rest
  | here, .curDir :: rest => lexical here rest
  | here, .parentDir :: rest => lexical here.dropLast rest
  | here, .normal name :: rest => lexical (here ++ [name]) rest

variable [DecidableEq ν]

def child (name : ν) : FileTree ν → Option (FileTree ν)
  | file => none
  | folder entries => entries.lookup name

def get : FileTree ν → List ν → Option (FileTree ν)
  | t, [] => some t
  | t, name :: rest => (t.child name).bind (get · rest)

/-- The place that a path names, if there is an entry. -/
def locate (fs : FileTree ν) : List ν → List (Component ν) → Option (List ν)
  | here, [] => if (fs.get here).isSome then some here else none
  | _, .rootDir :: rest => locate fs [] rest
  | here, .curDir :: rest => if (fs.get here).any isFolder then locate fs here rest else none
  | here, .parentDir :: rest =>
      if (fs.get here).any isFolder then locate fs here.dropLast rest else none
  | here, .normal name :: rest => locate fs (here ++ [name]) rest

variable {t fs : FileTree ν}

theorem isSome_child {name : ν} : (t.child name).isSome ↔ name ∈ t.names := by
  cases t with
  | file => simp [child, names]
  | folder entries =>
      rw [child, names]
      induction entries with
      | nil => simp
      | cons e entries ih =>
          obtain ⟨own, below⟩ := e
          rw [List.lookup_cons]
          by_cases same : name = own
          · simp [same]
          · rw [beq_eq_false_iff_ne.mpr same]
            dsimp only
            rw [ih]
            simp [same]

theorem get_append (front back : List ν) :
    t.get (front ++ back) = (t.get front).bind (get · back) := by
  induction front generalizing t with
  | nil => rfl
  | cons name front ih =>
      rw [List.cons_append, get, get]
      cases t.child name with
      | none => rfl
      | some below => exact ih

theorem locate_lexical {here place : List ν} {path : List (Component ν)}
    (found : fs.locate here path = some place) : place = lexical here path := by
  induction path generalizing here with
  | nil => exact (Option.some.inj (Option.ite_none_right_eq_some.mp found).2).symm
  | cons part path ih =>
      cases part with
      | rootDir => exact ih found
      | curDir => exact ih (Option.ite_none_right_eq_some.mp found).2
      | parentDir => exact ih (Option.ite_none_right_eq_some.mp found).2
      | normal name => exact ih found

theorem locate_normal (here rest : List ν) :
    fs.locate here (rest.map .normal) =
      if (fs.get (here ++ rest)).isSome then some (here ++ rest) else none := by
  induction rest generalizing here with
  | nil => simp [locate]
  | cons name rest ih => simp [locate, ih]

/-! ### A walk that takes one entry of each folder -/

section Walk

variable (pick : FileTree ν → ν → Option ν) (Same : ν → ν → Prop)

def walk : FileTree ν → List ν → Option (List ν)
  | _, [] => some []
  | t, name :: rest => do
      let taken ← pick t name
      let below ← t.child taken
      let found ← walk below rest
      return taken :: found

/-- Some entry is the same name by name. -/
def Leads (t : FileTree ν) (path : List ν) : Prop :=
  ∃ found, List.Forall₂ Same found path ∧ (t.get found).isSome

/-- In each folder on the walk from which some entry matches, the entry taken leads to a match. -/
def Unhidden : FileTree ν → List ν → Prop
  | _, [] => True
  | t, name :: rest => ∀ taken ∈ pick t name, ∀ below ∈ t.child taken,
      (t.Leads Same (name :: rest) → below.Leads Same rest) ∧ Unhidden below rest

variable {pick Same}

theorem leads_cons {name : ν} {rest : List ν} : t.Leads Same (name :: rest) ↔
    ∃ own below, Same own name ∧ t.child own = some below ∧ below.Leads Same rest := by
  constructor
  · rintro ⟨found, alike, there⟩
    obtain ⟨own, others, same, later, rfl⟩ := List.forall₂_cons_right_iff.mp alike
    obtain ⟨below, known⟩ := Option.isSome_iff_exists.mp (Option.isSome_of_isSome_bind there)
    rw [get, known] at there
    exact ⟨own, below, same, known, others, later, there⟩
  · rintro ⟨own, below, same, known, found, alike, there⟩
    refine ⟨own :: found, .cons same alike, ?_⟩
    rw [get, known]
    exact there

theorem walk_cons {name taken : ν} {below : FileTree ν} (picked : pick t name = some taken)
    (known : t.child taken = some below) (rest : List ν) :
    walk pick t (name :: rest) = (walk pick below rest).map (taken :: ·) := by
  rw [walk, picked]
  simp only [Option.bind_eq_bind, Option.bind_some, known]
  exact Option.map_eq_bind.symm

/-- What is taken is an entry with the same name, if there is one. -/
structure Picks (pick : FileTree ν → ν → Option ν) (Same : ν → ν → Prop) : Prop where
  same : ∀ t name, ∀ taken ∈ pick t name, Same taken name
  there : ∀ t name, ∀ taken ∈ pick t name, taken ∈ t.names
  complete : ∀ t name, ∀ own ∈ t.names, Same own name → (pick t name).isSome
  literal : ∀ t name, name ∈ t.names → pick t name = some name

theorem walk_found (picks : Picks pick Same) {path found : List ν}
    (walked : walk pick t path = some found) :
    List.Forall₂ Same found path ∧ (t.get found).isSome := by
  induction path generalizing t found with
  | nil =>
      cases walked
      exact ⟨.nil, rfl⟩
  | cons name rest ih =>
      obtain ⟨taken, picked, onward⟩ := Option.bind_eq_some_iff.mp walked
      obtain ⟨below, known, later⟩ := Option.bind_eq_some_iff.mp onward
      obtain ⟨others, walked', same⟩ := Option.bind_eq_some_iff.mp later
      cases same
      obtain ⟨alike, there⟩ := ih walked'
      refine ⟨.cons (picks.same t name taken picked) alike, ?_⟩
      rw [get, known]
      exact there

theorem walk_literal (picks : Picks pick Same) {path : List ν} (there : (t.get path).isSome) :
    walk pick t path = some path := by
  induction path generalizing t with
  | nil => rfl
  | cons name rest ih =>
      obtain ⟨below, known⟩ := Option.isSome_iff_exists.mp (Option.isSome_of_isSome_bind there)
      rw [get, known] at there
      have picked := picks.literal t name (isSome_child.mp (known ▸ rfl))
      rw [walk_cons picked known, ih there]
      rfl

theorem leads_walk_iff (picks : Picks pick Same) (path : List ν) :
    (t.Leads Same path → (walk pick t path).isSome) ↔ Unhidden pick Same t path := by
  induction path generalizing t with
  | nil => exact iff_of_true (fun _ => rfl) trivial
  | cons name rest ih =>
      cases picked : pick t name with
      | none =>
          refine iff_of_true (fun leads => ?_) fun taken impossible => ?_
          · obtain ⟨own, below, same, known, _⟩ := leads_cons.mp leads
            have some_taken := picks.complete t name own (isSome_child.mp (known ▸ rfl)) same
            rw [picked] at some_taken
            cases some_taken
          · rw [picked] at impossible
            cases impossible
      | some taken =>
          obtain ⟨below, known⟩ := Option.isSome_iff_exists.mp
            (isSome_child.mpr (picks.there t name taken picked))
          have up : below.Leads Same rest → t.Leads Same (name :: rest) := fun leads =>
            leads_cons.mpr ⟨taken, below, picks.same t name taken picked, known, leads⟩
          simp only [Unhidden, picked, Option.mem_some_iff, forall_eq', known,
            walk_cons picked known, Option.isSome_map, ← ih]
          constructor
          · intro finds
            refine ⟨fun leads => ?_, fun leads => finds (up leads)⟩
            obtain ⟨found, walked⟩ := Option.isSome_iff_exists.mp (finds leads)
            exact ⟨found, walk_found picks walked⟩
          · intro ⟨shown, finds⟩ leads
            exact finds (shown leads)

end Walk

end FileTree

end Library
