import DomainSchema.Proofs.Gathering
import DomainSchema.Text

namespace DomainSchema

-- How the path of an error grows while a failure travels outwards through the objects that were to hold the failed one.

-- What stands around a failed object: a field that was to hold it alone, or one that was to hold it among others, which
-- are all there.
inductive Enclosure : Type 1 where
  | alone (α : Type) (path : Option String)
  | among {α : Type} (path : Option String) (before after : List α)

namespace Enclosure

def path : Enclosure → Option String
  | alone _ path => path
  | among path _ _ => path

def Held : Enclosure → Type
  | alone α _ => α
  | @among α _ _ _ => List α

def take (errors : List DomainError) : (e : Enclosure) → Option e.Held × List DomainError
  | alone α path => nested [] path (DomainResult.failure errors : DomainResult α)
  | among path before after =>
    nestedList [] path (before.map DomainResult.success ++ .failure errors :: after.map DomainResult.success)

end Enclosure

-- The errors that come out of enclosures, the outermost first. What one of them gathers is the failure inside the next.
def propagate (errors : List DomainError) : List Enclosure → List DomainError
  | [] => errors
  | outer :: inner => (outer.take (propagate errors inner)).2

def pathOf : List String → Option String
  | [] => none
  | part :: rest => some (Text.join "/" (part :: rest))

def DomainError.part (e : DomainError) : List String := e.field.toList.filter (· ≠ "")

section
variable {e : DomainError} {parts : List String}

theorem part_some {path : String} (there : path ≠ "") (message : String) :
    (DomainError.mk (some path) message).part = [path] := by
  simp [DomainError.part,there]

theorem under_path (path : Option String) (e : DomainError) :
    e.under path = { e with field := pathOf (path.toList ++ e.part) } := by
  obtain ⟨field,message⟩ := e
  cases field with
  | none => cases path <;> rfl
  | some inner =>
    by_cases empty : inner = ""
    · subst empty
      cases path <;> rfl
    · rw [part_some empty]
      cases path <;> simp [DomainError.under,composePath,pathOf,Text.join,String.append_assoc]

theorem join_ne_empty {first : String} (there : first ≠ "") (rest : List String) : Text.join "/" (first :: rest) ≠ "" := by
  cases rest with
  | nil => exact there
  | cons second rest => simp [Text.join,there]

-- A path put together earlier takes part as its own parts would.
theorem pathOf_composed (path : Option String) (message : String) (there : ∀ part ∈ parts, part ≠ "") :
    pathOf (path.toList ++ (DomainError.mk (pathOf parts) message).part) = pathOf (path.toList ++ parts) := by
  cases parts with
  | nil => rfl
  | cons first rest =>
    have joined := join_ne_empty (there first (by simp)) rest
    rw [pathOf,part_some joined]
    cases path with
    | none => rfl
    | some outer => rfl

theorem part_there (e : DomainError) : ∀ part ∈ e.part, part ≠ "" := by
  intro part member
  simpa using (List.mem_filter.mp member).2

end

theorem successes_silent (path : Option String) (values : List α) :
    (values.map DomainResult.success).flatMap (fun r => r.errors.map (·.under path)) = [] := by
  induction values with
  | nil => rfl
  | cons value rest ih => exact ih

theorem Enclosure.take_exact (e : Enclosure) (errors : List DomainError) :
    e.take errors = (none,errors.map (·.under e.path)) := by
  cases e with
  | alone α path => rfl
  | among path before after =>
    have inside : .failure errors ∈ before.map DomainResult.success ++ .failure errors :: after.map DomainResult.success := by
      simp
    have missing := mapM_missing inside (no_value_of_failure rfl)
    rw [take,nestedList_exact,missing,List.flatMap_append,List.flatMap_cons,successes_silent,successes_silent]
    simp only [DomainResult.errors,List.nil_append,List.append_nil,Enclosure.path]
    rfl

def levelPaths (levels : List Enclosure) : List String := levels.filterMap Enclosure.path

theorem levelPaths_cons (level : Enclosure) (rest : List Enclosure) :
    levelPaths (level :: rest) = level.path.toList ++ levelPaths rest := by
  unfold levelPaths
  cases path : level.path <;> simp [path]

theorem levelPaths_there {levels : List Enclosure} (there : ∀ level ∈ levels, level.path ≠ some "") :
    ∀ part ∈ levelPaths levels, part ≠ "" := by
  rintro part member rfl
  obtain ⟨level,inside,path⟩ := List.mem_filterMap.mp member
  exact there level inside path

theorem propagate_paths {levels : List Enclosure} (some_ : levels ≠ []) (there : ∀ level ∈ levels, level.path ≠ some "")
    (errors : List DomainError) :
    propagate errors levels = errors.map fun e => { e with field := pathOf (levelPaths levels ++ e.part) } := by
  induction levels with
  | nil => exact absurd rfl some_
  | cons outer inner ih =>
    rw [propagate,outer.take_exact,levelPaths_cons]
    cases inner with
    | nil => exact List.map_congr_left fun e _ => by rw [under_path,levelPaths,List.filterMap_nil,List.append_nil]
    | cons next rest =>
      -- What the inner levels put together is one part of the path from here on.
      have inside : ∀ level ∈ next :: rest, level.path ≠ some "" := fun level member =>
        there level (List.mem_cons_of_mem _ member)
      rw [ih (by simp) inside,List.map_map]
      refine List.map_congr_left fun e _ => ?_
      have parts : ∀ part ∈ levelPaths (next :: rest) ++ e.part, part ≠ "" := fun part member =>
        (List.mem_append.mp member).elim (levelPaths_there inside part) (part_there e part)
      rw [Function.comp_apply,under_path,pathOf_composed _ _ parts,List.append_assoc]

theorem composePath_some {inner : String} (there : inner ≠ "") (outer : Option String) :
    composePath outer (some inner) = some (outer.elim inner (· ++ "/" ++ inner)) := by
  cases outer <;> simp [composePath,String.append_assoc]

-- Composing paths is associative as long as the middle one is not empty. An empty one would be lost as an inner path and
-- kept as an outer one.
theorem composePath_assoc {middle : Option String} (there : middle ≠ some "") (outer inner : Option String) :
    composePath outer (composePath middle inner) = composePath (composePath outer middle) inner := by
  cases inner with
  | none => rfl
  | some i =>
    by_cases empty : i = ""
    · subst empty
      rfl
    · cases middle with
      | none => rw [composePath_some empty none]; rfl
      | some m =>
        have own : m ≠ "" := fun equal => there (congrArg some equal)
        have joined : m ++ "/" ++ i ≠ "" := by simp
        rw [composePath_some empty (some m),Option.elim_some,composePath_some joined,composePath_some own,
          composePath_some empty]
        cases outer <;> simp [String.append_assoc]

-- A failure that travels outwards through any number of levels keeps its errors, in order and with their messages. The
-- path of each is made of those parts that are there: the paths of the levels, the outermost first, and its own one.
theorem errors_through_levels (levels : List Enclosure) (errors : List DomainError) (some_ : levels ≠ [])
    (there : ∀ level ∈ levels, level.path ≠ some "") :
    (∀ level ∈ levels, ∀ inner, (level.take inner).1 = none) ∧
    propagate errors levels = errors.map (fun e =>
      { field := pathOf (levels.filterMap Enclosure.path ++ e.field.toList.filter (· ≠ "")), message := e.message }) ∧
    ∀ outer middle inner : Option String, middle ≠ some "" →
      composePath outer (composePath middle inner) = composePath (composePath outer middle) inner := by
  refine ⟨fun level _ inner => ?_,propagate_paths some_ there errors,fun outer middle inner own => ?_⟩
  · rw [level.take_exact]
  · exact composePath_assoc own outer inner

-- The list has no path of its own, and of the two errors one is about the element as a whole.
theorem basket_total_fails :
    let levels : List Enclosure := [.alone Nat (some "basket"),.among none [1,2] [3],.alone Nat (some "total")]
    let errors : List DomainError := [⟨some "cents","is negative"⟩,⟨some "","is missing"⟩]
    levels ≠ [] ∧ (∀ level ∈ levels, level.path ≠ some "") ∧
      propagate errors levels = [⟨some "basket/total/cents","is negative"⟩,⟨some "basket/total","is missing"⟩] := by
  intro levels errors
  have some_ : levels ≠ [] := List.cons_ne_nil _ _
  have there : ∀ level ∈ levels, level.path ≠ some "" := by
    intro level member
    simp only [levels,List.mem_cons,List.not_mem_nil,or_false] at member
    rcases member with rfl | rfl | rfl <;> decide
  exact ⟨some_,there,(errors_through_levels levels errors some_ there).2.1.trans (by decide)⟩

end DomainSchema
