import Garlemald.Library.FileTree
import Garlemald.Library.Utf8
import Mathlib.Data.List.Sort

/-!
Where the scripts are looked for. A builder joins its arguments to a path below the root of the
scripts, which is taken as it stands or else walked in any case of its letters. Parents are resolved
in the former and refused in the latter.
-/

namespace Garlemald.Lua
open Library

abbrev Path := List (Component Text)

def component : Text → Option (Component Text)
  | [] => none
  | ['.'] => none
  | ['.', '.'] => some .parentDir
  | name => some (.normal name)

def components (path : Text) : Path :=
  match path.splitOn '/' with
  | [] => []
  | first :: rest =>
      (if first = [] ∧ rest ≠ [] then [.rootDir]
        else if first = ['.'] then [.curDir]
        else (component first).toList) ++ rest.filterMap component

def eqIgnoreAsciiCase (a b : Text) : Bool := a.map Char.toLower == b.map Char.toLower

def comesFirst : Text → Text → Bool
  | [], _ => true
  | _ :: _, [] => false
  | a :: as, b :: bs => a < b || a = b && comesFirst as bs

/-- The names in a folder that are the wanted one in some case, in order. -/
def caseMatches (folder : FileTree Text) (want : Text) : List Text :=
  (folder.names.filter (eqIgnoreAsciiCase · want)).insertionSort (comesFirst · ·)

def caseInsensitiveLookup (fs : FileTree Text) : List Text → Path → Option (List Text)
  | cur, [] => some cur
  | cur, .normal name :: rest =>
      if (fs.get (cur ++ [name])).isSome then caseInsensitiveLookup fs (cur ++ [name]) rest
      else do
        let folder ← fs.get cur
        let found ← (caseMatches folder name).head?
        caseInsensitiveLookup fs (cur ++ [found]) rest
  | cur, .curDir :: rest => caseInsensitiveLookup fs cur rest
  | _, _ => none

structure PathResolver where
  root : List Text

inductive Script where
  | player
  | zone (zoneName : Text)
  | npc (zoneName className uniqueId : Text)
  | npcInPrivateArea (zoneName areaName : Text) (areaType : UInt32) (className uniqueId : Text)
  | baseClass (classPath : Text)
  | content (contentName : Text)
  | gmCommand (cmd : Text)
  | command (name : Text)
  | battleCommand (folder command : Text)
  | battleCommandDefault (folder : Text)
  | statusEffect (name : Text)
  | statusEffectDefault
  | director (name : Text)
  | quest (questName : Text)

/-- The paths below the root in the order in which a builder tries them. -/
def Script.relatives (toLowercase : Text → Text) : Script → List Text
  | player => ["player.lua".toList]
  | zone zoneName =>
      ["unique/".toList ++ zoneName ++ "/zone.lua".toList,
        "unique/".toList ++ zoneName ++ "/PopulaceStandard/zone.lua".toList]
  | npc zoneName className uniqueId =>
      ["unique/".toList ++ zoneName ++ ['/'] ++ className ++ ['/'] ++ uniqueId ++ ".lua".toList]
  | npcInPrivateArea zoneName areaName areaType className uniqueId =>
      ["unique/".toList ++ zoneName ++ "/privatearea/".toList ++ areaName ++ ['_'] ++
        (toString areaType.toNat).toList ++ ['/'] ++ className ++ ['/'] ++ uniqueId ++
        ".lua".toList]
  | baseClass classPath => ["base/".toList ++ classPath ++ ".lua".toList]
  | content contentName => ["content/".toList ++ contentName ++ ".lua".toList]
  | gmCommand cmd => ["commands/gm/".toList ++ toLowercase cmd ++ ".lua".toList]
  | command name => ["commands/".toList ++ name ++ ".lua".toList]
  | battleCommand folder name =>
      ["commands/".toList ++ folder ++ ['/'] ++ name ++ ".lua".toList]
  | battleCommandDefault folder => ["commands/".toList ++ folder ++ "/default.lua".toList]
  | statusEffect name => ["effects/".toList ++ name ++ ".lua".toList]
  | statusEffectDefault => ["effects/default.lua".toList]
  | director name => ["directors/".toList ++ name ++ ".lua".toList]
  | quest questName =>
      ["quests/".toList ++ questName.take 3 ++ ['/'] ++ questName ++ ".lua".toList]

namespace PathResolver

variable (r : PathResolver) (fs : FileTree Text)

def pathExists (path : Path) : Bool := (fs.locate [] path).isSome

/-- A path from the root of the file system replaces the root of the scripts. -/
def join (rel : Text) : Path :=
  match components rel with
  | .rootDir :: rest => .rootDir :: rest
  | path => r.root.map .normal ++ path

def resolve (rel : Text) : Path :=
  if pathExists fs (r.join rel) then r.join rel
  else
    match caseInsensitiveLookup fs r.root (components rel) with
    | some found => found.map .normal
    | none => r.join rel

/-- The paths that a builder comes to: all but the last are left behind where nothing is there. -/
def tried : List Text → List Text
  | [] => []
  | [rel] => [rel]
  | rel :: others => if pathExists fs (r.resolve fs rel) then [rel] else rel :: tried others

def path (rels : List Text) : Option Path := (r.tried fs rels).getLast?.map (r.resolve fs)

/-- The entries that are a path component by component, but for the case of their letters. -/
def Matching (names found : List Text) : Prop :=
  List.Forall₂ (eqIgnoreAsciiCase · · = true) found names ∧ (fs.get (r.root ++ found)).isSome

/-- What is to hold of the path returned for one below the root. -/
structure Sound (rel : Text) : Prop where
  confined : ∀ place, fs.locate [] (r.resolve fs rel) = some place → r.root <+: place
  found : ∀ names, components rel = names.map .normal →
    (pathExists fs (r.resolve fs rel) ↔ ∃ found, r.Matching fs names found) ∧
    (pathExists fs (r.resolve fs rel) →
      ∃ found, r.Matching fs names found ∧ r.resolve fs rel = (r.root ++ found).map .normal) ∧
    (pathExists fs (r.join rel) → r.resolve fs rel = r.join rel)

def pick (folder : FileTree Text) (name : Text) : Option Text :=
  if (folder.child name).isSome then some name else (caseMatches folder name).head?

/-- The path as it stands is not there, or does not leave the root by its parents. -/
def Inside (rel : Text) : Prop :=
  pathExists fs (r.join rel) → r.root <+: FileTree.lexical [] (r.join rel)

/-- No folder that the lookup takes hides another that leads to a match. -/
def Unhidden (rel : Text) : Prop :=
  ∀ names, components rel = names.map .normal → ∀ scripts ∈ fs.get r.root,
    FileTree.Unhidden pick (eqIgnoreAsciiCase · · = true) scripts names

theorem mem_caseMatches {folder : FileTree Text} {want name : Text} :
    name ∈ caseMatches folder want ↔ name ∈ folder.names ∧ eqIgnoreAsciiCase name want = true := by
  simp [caseMatches]

theorem picks : FileTree.Picks pick (eqIgnoreAsciiCase · · = true) where
  same folder name taken picked := by
    rw [pick] at picked
    split at picked
    · cases picked
      exact beq_self_eq_true _
    · exact (mem_caseMatches.mp (List.mem_of_mem_head? picked)).2
  there folder name taken picked := by
    rw [pick] at picked
    split at picked
    · rename_i there
      cases picked
      exact FileTree.isSome_child.mp there
    · exact (mem_caseMatches.mp (List.mem_of_mem_head? picked)).1
  complete folder name own inside same := by
    rw [pick]
    split
    · rfl
    · rw [List.isSome_head?]
      exact List.ne_nil_of_mem (mem_caseMatches.mpr ⟨inside, same⟩)
  literal folder name inside := if_pos (FileTree.isSome_child.mpr inside)

variable {r fs} {rel : Text}

theorem pathExists_normal (place : List Text) :
    pathExists fs (place.map .normal) = (fs.get place).isSome := by
  rw [pathExists, FileTree.locate_normal, List.nil_append]
  cases fs.get place with
  | none => rfl
  | some there => rfl

theorem lookup_walk {cur : List Text} {folder : FileTree Text} (here : fs.get cur = some folder)
    (names : List Text) : caseInsensitiveLookup fs cur (names.map .normal) =
      (FileTree.walk pick folder names).map (cur ++ ·) := by
  induction names generalizing cur folder with
  | nil => simp [caseInsensitiveLookup, FileTree.walk]
  | cons name names ih =>
      have below (taken : Text) : fs.get (cur ++ [taken]) = folder.child taken := by
        rw [FileTree.get_append, here]
        simp [FileTree.get]
      have onward (taken : Text) (picked : pick folder name = some taken) :
          caseInsensitiveLookup fs (cur ++ [taken]) (names.map .normal) =
            (FileTree.walk pick folder (name :: names)).map (cur ++ ·) := by
        obtain ⟨child, known⟩ := Option.isSome_iff_exists.mp
          (FileTree.isSome_child.mpr (picks.there folder name taken picked))
        rw [ih ((below taken).trans known), FileTree.walk_cons picked known, Option.map_map]
        congr 1
        funext found
        simp
      rw [List.map_cons, caseInsensitiveLookup, below]
      split
      · rename_i there
        exact onward name (if_pos there)
      · rename_i missing
        have taken : pick folder name = (caseMatches folder name).head? := if_neg missing
        simp only [here, Option.bind_eq_bind, Option.bind_some, ← taken]
        cases picked : pick folder name with
        | none => simp [FileTree.walk, picked]
        | some found => exact onward found picked

theorem lookup_below {cur found : List Text} {path : Path}
    (looked : caseInsensitiveLookup fs cur path = some found) : cur <+: found := by
  induction path generalizing cur with
  | nil =>
      cases looked
      exact List.prefix_rfl
  | cons part path ih =>
      cases part with
      | rootDir | parentDir => cases looked
      | curDir => exact ih looked
      | normal name =>
          rw [caseInsensitiveLookup] at looked
          split at looked
          · exact (List.prefix_append ..).trans (ih looked)
          · obtain ⟨_, _, inside⟩ := Option.bind_eq_some_iff.mp looked
            obtain ⟨_, _, later⟩ := Option.bind_eq_some_iff.mp inside
            exact (List.prefix_append ..).trans (ih later)

theorem confined_iff :
    (∀ place, fs.locate [] (r.resolve fs rel) = some place → r.root <+: place) ↔
      r.Inside fs rel := by
  rw [resolve, Inside, pathExists]
  split
  · rename_i there
    obtain ⟨place, found⟩ := Option.isSome_iff_exists.mp there
    simp only [found, Option.some.injEq, forall_eq', Option.isSome_some, forall_const,
      FileTree.locate_lexical found]
  · rename_i missing
    refine iff_of_true ?_ fun there => absurd there missing
    split
    · rename_i found looked
      intro place located
      rw [FileTree.locate_normal] at located
      cases (Option.ite_none_right_eq_some.mp located).2
      exact lookup_below looked
    · intro place located
      rw [located] at missing
      exact absurd rfl missing

theorem join_normal {names : List Text} (plain : components rel = names.map .normal) :
    r.join rel = (r.root ++ names).map .normal := by
  rw [join, plain, List.map_append]
  cases names with
  | nil => rfl
  | cons name names => rfl

theorem resolve_normal {names : List Text} (plain : components rel = names.map .normal)
    {scripts : FileTree Text} (here : fs.get r.root = some scripts) :
    r.resolve fs rel = (r.root ++ (FileTree.walk pick scripts names).getD names).map .normal := by
  have under (path : List Text) : fs.get (r.root ++ path) = scripts.get path := by
    rw [FileTree.get_append, here]
    rfl
  rw [resolve, join_normal plain, pathExists_normal, under]
  split
  · rename_i there
    rw [FileTree.walk_literal picks there]
    rfl
  · rw [plain, lookup_walk here]
    cases FileTree.walk pick scripts names with
    | none => rfl
    | some found => rfl

theorem found_iff (names : List Text) (plain : components rel = names.map .normal) :
    ((pathExists fs (r.resolve fs rel) ↔ ∃ found, r.Matching fs names found) ∧
      (pathExists fs (r.resolve fs rel) →
        ∃ found, r.Matching fs names found ∧
          r.resolve fs rel = (r.root ++ found).map .normal) ∧
      (pathExists fs (r.join rel) → r.resolve fs rel = r.join rel)) ↔
    ∀ scripts ∈ fs.get r.root,
      FileTree.Unhidden pick (eqIgnoreAsciiCase · · = true) scripts names := by
  have as_it_stands : pathExists fs (r.join rel) → r.resolve fs rel = r.join rel := fun there =>
    if_pos there
  cases here : fs.get r.root with
  | none =>
      have nothing (path : List Text) : fs.get (r.root ++ path) = none := by
        rw [FileTree.get_append, here]
        rfl
      have missing : ¬pathExists fs (r.resolve fs rel) := by
        rw [resolve, join_normal plain, pathExists_normal, nothing, Option.isSome_none,
          if_neg Bool.false_ne_true]
        split
        · rename_i found looked
          obtain ⟨path, rfl⟩ := lookup_below looked
          rw [pathExists_normal, nothing]
          exact Bool.false_ne_true
        · rw [pathExists_normal, nothing]
          exact Bool.false_ne_true
      refine iff_of_true ⟨iff_of_false missing ?_, fun there => absurd there missing,
        as_it_stands⟩ fun _ impossible => by cases impossible
      rintro ⟨found, _, there⟩
      rw [nothing] at there
      cases there
  | some scripts =>
      have matching (found : List Text) : r.Matching fs names found ↔
          List.Forall₂ (eqIgnoreAsciiCase · · = true) found names ∧ (scripts.get found).isSome := by
        rw [Matching, FileTree.get_append, here]
        rfl
      have found_exists : pathExists fs (r.resolve fs rel) ↔
          (FileTree.walk pick scripts names).isSome := by
        rw [resolve_normal plain here, pathExists_normal, FileTree.get_append, here]
        cases walked : FileTree.walk pick scripts names with
        | some found => exact iff_of_true (FileTree.walk_found picks walked).2 rfl
        | none =>
            refine iff_of_false (fun there => ?_) Bool.false_ne_true
            have literal : FileTree.walk pick scripts names = some names :=
              FileTree.walk_literal picks there
            rw [walked] at literal
            cases literal
      have leads : (∃ found, r.Matching fs names found) ↔
          scripts.Leads (eqIgnoreAsciiCase · · = true) names := exists_congr matching
      simp only [Option.mem_some_iff, forall_eq', ← FileTree.leads_walk_iff picks names, leads,
        found_exists]
      constructor
      · rintro ⟨both, _⟩ there
        exact both.mpr there
      · intro finds
        have named : (FileTree.walk pick scripts names).isSome →
            ∃ found, r.Matching fs names found ∧
              r.resolve fs rel = (r.root ++ found).map .normal := by
          intro some_found
          obtain ⟨found, walked⟩ := Option.isSome_iff_exists.mp some_found
          refine ⟨found, (matching found).mpr (FileTree.walk_found picks walked), ?_⟩
          rw [resolve_normal plain here, walked]
          rfl
        refine ⟨⟨fun some_found => ?_, finds⟩, named, as_it_stands⟩
        obtain ⟨found, there, _⟩ := named some_found
        exact ⟨found, (matching found).mp there⟩

theorem tried_ne_nil {rels : List Text} (some_rel : rels ≠ []) : r.tried fs rels ≠ [] := by
  match rels with
  | [] => exact absurd rfl some_rel
  | [rel] => exact List.cons_ne_nil _ _
  | rel :: next :: others =>
      rw [tried]
      split
      · exact List.cons_ne_nil _ _
      · exact List.cons_ne_nil _ _
      · exact fun impossible => by cases impossible

theorem sound_iff : r.Sound fs rel ↔ r.Inside fs rel ∧ r.Unhidden fs rel := by
  rw [← confined_iff]
  constructor
  · intro sound
    exact ⟨sound.confined, fun names plain => (found_iff names plain).mp (sound.found names plain)⟩
  · intro ⟨confined, shown⟩
    exact ⟨confined, fun names plain => (found_iff names plain).mpr (shown names plain)⟩

/-- A builder returns the path for the last relative one that it comes to. Each path is as it should
be exactly if what is there as it stands is below the root, and nothing on the way hides a match. -/
theorem scripts_confined_iff (r : PathResolver) (fs : FileTree Text) (toLowercase : Text → Text)
    (script : Script) :
    (∃ rel ∈ r.tried fs (script.relatives toLowercase),
      r.path fs (script.relatives toLowercase) = some (r.resolve fs rel)) ∧
    ((∀ rel ∈ r.tried fs (script.relatives toLowercase), r.Sound fs rel) ↔
      ∀ rel ∈ r.tried fs (script.relatives toLowercase),
        r.Inside fs rel ∧ r.Unhidden fs rel) := by
  constructor
  · have some_tried : r.tried fs (script.relatives toLowercase) ≠ [] := by
      apply tried_ne_nil
      cases script
      all_goals exact List.cons_ne_nil _ _
    refine ⟨_, List.getLast_mem some_tried, ?_⟩
    rw [path, List.getLast?_eq_some_getLast some_tried]
    rfl
  · exact forall₂_congr fun rel _ => sound_iff

/-- A folder of commands without the one that is wanted stands before its twin, and an npc's names
lead out of the scripts. -/
def twinFolders : FileTree Text :=
  .folder [("secret.lua".toList, .file), ("lua".toList, .folder
    [("unique".toList, .folder []), ("commands".toList, .folder []),
      ("Commands".toList, .folder [("gm".toList, .folder [("warp.lua".toList, .file)])])])]

theorem twin_hidden_and_parent_followed :
    ¬(∀ rel ∈ tried ⟨["lua".toList]⟩ twinFolders
        ((Script.gmCommand "WARP".toList).relatives (·.map Char.toLower)),
      Sound ⟨["lua".toList]⟩ twinFolders rel) ∧
    ¬∀ rel ∈ tried ⟨["lua".toList]⟩ twinFolders
        ((Script.npc "..".toList "..".toList "secret".toList).relatives (·.map Char.toLower)),
      Sound ⟨["lua".toList]⟩ twinFolders rel := by
  constructor
  · intro sound
    have command := sound "commands/gm/warp.lua".toList (by decide)
    have there := (command.found ["commands".toList, "gm".toList, "warp.lua".toList] rfl).1.mpr
      ⟨["Commands".toList, "gm".toList, "warp.lua".toList],
        .cons (by decide) (.cons (by decide) (.cons (by decide) .nil)),
        by decide⟩
    exact absurd there (by decide)
  · intro sound
    have npc := sound "unique/../../secret.lua".toList (by decide)
    have inside := npc.confined ["secret.lua".toList] (by decide)
    exact absurd inside (by decide)

end PathResolver

end Garlemald.Lua
