import Garlemald.Library.Table
import Mathlib.Data.List.Induction

/-!
The catalogue of recipes, by their ids and by what goes into them. The second index holds ids,
which are looked up in the first when it is asked.
-/

namespace Garlemald.Crafting

open Library

structure Recipe where
  id : UInt32
  resultItemId : UInt32
  resultQuantity : UInt32
  materials : Vector UInt32 8
  crystalId1 : UInt32
  crystalQuantity1 : UInt32
  crystalId2 : UInt32
  crystalQuantity2 : UInt32
  allowedCrafters : List String
  tier : UInt8

def Recipe.matFingerprint (r : Recipe) : Vector UInt32 8 := r.materials

structure RecipeResolver where
  idIndex : Table UInt32 Recipe := ∅
  matsIndex : Table (Vector UInt32 8) (List UInt32) := ∅

namespace RecipeResolver

def insert (r : RecipeResolver) (recipe : Recipe) : RecipeResolver where
  idIndex := r.idIndex.insert recipe.id recipe
  matsIndex := r.matsIndex.push recipe.matFingerprint recipe.id

def fromRecipes (recipes : List Recipe) : RecipeResolver := recipes.foldl insert {}

def byId (r : RecipeResolver) (recipeId : UInt32) : Option Recipe :=
  if recipeId = 0 then none else r.idIndex.lookup recipeId

def byMats (r : RecipeResolver) (fingerprint : Vector UInt32 8) : List Recipe :=
  ((r.matsIndex.lookup fingerprint).getD []).filterMap r.idIndex.lookup

def latest (recipes : List Recipe) (id : UInt32) : Option Recipe :=
  recipes.reverse.find? (·.id = id)

theorem fromRecipes_indexes (recipes : List Recipe) :
    (∀ id, (fromRecipes recipes).idIndex.lookup id = latest recipes id) ∧
      ∀ fp, ((fromRecipes recipes).matsIndex.lookup fp).getD [] =
        (recipes.filter (·.matFingerprint = fp)).map (·.id) := by
  induction recipes using List.reverseRecOn with
  | nil => exact ⟨fun _ => rfl, fun _ => rfl⟩
  | append_singleton recipes x ih =>
      obtain ⟨ids, mats⟩ := ih
      rw [fromRecipes, List.foldl_append]
      refine ⟨fun id => ?_, fun fp => ?_⟩
      · rw [latest, List.reverse_append, List.reverse_singleton, List.singleton_append,
          List.find?_cons]
        by_cases own : x.id = id
        · subst own
          exact (AList.lookup_insert (fromRecipes recipes).idIndex).trans (by simp)
        · exact (AList.lookup_insert_ne (Ne.symm own)).trans
            ((ids id).trans (by simp [own, latest]))
      · have pushed := Table.lookup_push (fromRecipes recipes).matsIndex x.matFingerprint fp x.id
        rw [List.filter_append, List.map_append, ← mats fp]
        refine pushed.trans (congrArg _ ?_)
        by_cases own : x.matFingerprint = fp
        · simp [own]
        · simp [own, Ne.symm own]

theorem byId_fromRecipes (recipes : List Recipe) (id : UInt32) :
    (fromRecipes recipes).byId id = if id = 0 then none else latest recipes id := by
  rw [byId, (fromRecipes_indexes recipes).1]

/-- The recipes for the same materials are listed, each as often as it was inserted, in their
order, for all materials if and only if no two recipes share an id. -/
theorem byMats_exact_iff (recipes : List Recipe) :
    (∀ fp, (fromRecipes recipes).byMats fp = recipes.filter (·.matFingerprint = fp)) ↔
      ∀ a ∈ recipes, ∀ b ∈ recipes, a.id = b.id → a = b := by
  obtain ⟨ids, mats⟩ := fromRecipes_indexes recipes
  have found {a : Recipe} (member : a ∈ recipes) : ∃ b ∈ recipes, b.id = a.id ∧
      latest recipes a.id = some b := by
    have some := List.find?_isSome (p := (·.id = a.id)).mpr
      ⟨a, List.mem_reverse.mpr member, decide_eq_true rfl⟩
    obtain ⟨b, last⟩ := Option.isSome_iff_exists.mp some
    exact ⟨b, List.mem_reverse.mp (List.mem_of_find?_eq_some last),
      by simpa using List.find?_some last, last⟩
  let shown (a : Recipe) : Recipe := (latest recipes a.id).getD a
  have listed (fp : Vector UInt32 8) : (fromRecipes recipes).byMats fp =
      (recipes.filter (·.matFingerprint = fp)).map shown := by
    rw [byMats, mats, List.filterMap_map, ← List.filterMap_eq_map]
    refine List.filterMap_congr fun a member => ?_
    obtain ⟨b, _, _, last⟩ := found (List.mem_of_mem_filter member)
    simp [ids, shown, last]
  constructor
  · intro whole a here b there same
    have own {c : Recipe} (member : c ∈ recipes) : shown c = c := by
      have kept := (listed c.matFingerprint).symm.trans (whole c.matFingerprint)
      rw [← List.map_id (recipes.filter _), List.map_map] at kept
      exact List.map_inj_left.mp kept c (List.mem_filter.mpr ⟨member, decide_eq_true rfl⟩)
    obtain ⟨c, _, _, last⟩ := found here
    have first : c = a := by simpa [shown, last] using own here
    have second : c = b := by simpa [shown, ← same, last] using own there
    exact first.symm.trans second
  · intro unique fp
    rw [listed]
    refine (List.map_congr_left fun a member => ?_).trans (List.map_id _)
    have here := List.mem_of_mem_filter member
    obtain ⟨b, there, same, last⟩ := found here
    simpa [shown, last] using unique b there a here same

end RecipeResolver
end Garlemald.Crafting
