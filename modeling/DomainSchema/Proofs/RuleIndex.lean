import DomainSchema.Analysis.Binding
import DomainSchema.Proofs.Entries
import Mathlib.Data.Finset.Card
import Mathlib.Data.List.Basic

namespace DomainSchema

namespace RuleIndex

def withPosition (position : Nat) (positions : List Nat) : List Nat :=
  if positions.getLast? = some position then positions else positions ++ [position]

def positionsIn (entries : List (String × List Nat)) (name : String) : List Nat := (entries.lookup name).getD []

theorem positionsIn_note (key : String) (position : Nat) (entries : List (String × List Nat)) (name : String) :
    positionsIn (note key position entries) name =
      if name = key then withPosition position (positionsIn entries name) else positionsIn entries name := by
  induction entries with
  | nil =>
    rw [note,positionsIn,lookup_cons_if]
    by_cases same : name = key <;> simp [same,positionsIn,withPosition]
  | cons entry rest ih =>
    obtain ⟨other,positions⟩ := entry
    unfold positionsIn at ih ⊢
    by_cases found : other = key
    · subst found
      rw [note,if_pos rfl,lookup_cons_if,lookup_cons_if]
      by_cases same : name = other <;> simp [same,withPosition]
    · rw [note,if_neg found,lookup_cons_if,lookup_cons_if]
      by_cases here : name = other
      · have apart : name ≠ key := fun same => found (here.symm.trans same)
        simp [here,found]
      · simpa only [if_neg here] using ih

theorem withPosition_twice (position : Nat) (positions : List Nat) :
    withPosition position (withPosition position positions) = withPosition position positions := by
  unfold withPosition
  by_cases last : positions.getLast? = some position <;> simp [last]

theorem positionsIn_params (params : List Parameter) (position : Nat) (entries : List (String × List Nat))
    (name : String) :
    positionsIn (params.foldl (fun es p => note p.name position es) entries) name =
      if params.any (·.name == name) then withPosition position (positionsIn entries name)
      else positionsIn entries name := by
  induction params generalizing entries with
  | nil => rfl
  | cons p rest ih =>
    rw [List.foldl_cons,ih,positionsIn_note,List.any_cons]
    by_cases here : p.name = name
    · rw [if_pos here.symm]
      by_cases later : rest.any (·.name == name)
      · rw [if_pos later,withPosition_twice,if_pos (by simp [here])]
      · rw [if_neg later,if_pos (by simp [here])]
    · have apart : (p.name == name) = false := beq_false_of_ne here
      rw [if_neg (Ne.symm here),apart,Bool.false_or]

-- Positions grow along the rules, so what stands under a name already is below the next position.
theorem positionsIn_rules (rules : List Rule) (start : Nat) (entries : List (String × List Nat)) (name : String)
    (below : ∀ position ∈ positionsIn entries name, position < start) :
    positionsIn ((rules.zipIdx start).foldl
        (fun es (rule,position) => rule.params.foldl (fun es p => note p.name position es) es) entries) name =
      positionsIn entries name ++ ((rules.zipIdx start).filter (·.1.references name)).map Prod.snd := by
  induction rules generalizing start entries with
  | nil => simp
  | cons rule rest ih =>
    have noted := positionsIn_params rule.params start entries name
    have fresh : (positionsIn entries name).getLast? ≠ some start := by
      intro last
      exact Nat.lt_irrefl _ (below start (List.mem_of_getLast? last))
    rw [List.zipIdx_cons,List.foldl_cons,ih,noted,List.filter_cons]
    · by_cases takes : rule.references name
      · have takes' : rule.params.any (·.name == name) = true := takes
        simp [takes,takes',withPosition,fresh]
      · have takes' : ¬ rule.params.any (·.name == name) = true := takes
        simp [takes,takes']
    · intro position member
      rw [noted] at member
      split at member
      · rw [withPosition,if_neg fresh] at member
        rcases List.mem_append.mp member with old | new
        · exact Nat.lt_succ_of_lt (below position old)
        · rw [List.mem_singleton.mp new]
          exact Nat.lt_succ_self start
      · exact Nat.lt_succ_of_lt (below position member)

theorem positions_of_rules (rules : List Rule) (name : String) :
    (build rules).positions name = (rules.zipIdx.filter (·.1.references name)).map Prod.snd := by
  exact positionsIn_rules rules 0 [] name (by simp [positionsIn])

def names (index : RuleIndex) : List String := index.entries.map Prod.fst

def noted (rules : List Rule) : List (String × Nat) :=
  rules.zipIdx.flatMap fun (rule,position) => rule.params.map fun p => (p.name,position)

theorem build_noted (rules : List Rule) :
    (build rules).entries = (noted rules).foldl (fun es (name,position) => note name position es) [] := by
  simp only [build,noted,List.foldl_flatMap,List.foldl_map]

theorem mem_noted {rules : List Rule} {name : String} :
    name ∈ (noted rules).map Prod.fst ↔ ∃ r ∈ rules, ∃ p ∈ r.params, p.name = name := by
  have same : (noted rules).map Prod.fst = rules.flatMap fun r => r.params.map (·.name) := by
    conv => rhs; rw [← List.zipIdx_map_fst 0 rules]
    rw [noted,List.map_flatMap,List.flatMap_map]
    refine List.flatMap_congr fun entry _ => ?_
    rw [List.map_map]
    rfl
  simp [same]

theorem note_names (key : String) (position : Nat) (entries : List (String × List Nat)) :
    (note key position entries).map Prod.fst =
      if key ∈ entries.map Prod.fst then entries.map Prod.fst else entries.map Prod.fst ++ [key] := by
  induction entries with
  | nil => rfl
  | cons entry rest ih =>
    obtain ⟨other,positions⟩ := entry
    by_cases found : other = key
    · simp [note,found]
    · have apart : key ≠ other := Ne.symm found
      rw [note,if_neg found,List.map_cons,ih,List.map_cons]
      by_cases later : key ∈ rest.map Prod.fst
      · rw [if_pos later,if_pos (List.mem_cons_of_mem _ later)]
      · rw [if_neg later,if_neg (by simp [apart,later]),List.cons_append]

theorem notes_names (notes : List (String × Nat)) {entries : List (String × List Nat)}
    (once : (entries.map Prod.fst).Nodup) :
    let after := (notes.foldl (fun es (name,position) => note name position es) entries).map Prod.fst
    after.Nodup ∧ ∀ name, name ∈ after ↔ name ∈ entries.map Prod.fst ∨ name ∈ notes.map Prod.fst := by
  induction notes generalizing entries with
  | nil => exact ⟨once,by simp⟩
  | cons first rest ih =>
    obtain ⟨key,position⟩ := first
    have names := note_names key position entries
    have still : ((note key position entries).map Prod.fst).Nodup := by
      rw [names]
      split
      · exact once
      · rename_i fresh
        exact List.nodup_append.mpr ⟨once,by simp,fun a old b new same =>
          fresh (List.mem_singleton.mp new ▸ same ▸ old)⟩
    have members (name : String) : name ∈ (note key position entries).map Prod.fst ↔
        name ∈ entries.map Prod.fst ∨ name = key := by
      rw [names]
      split
      · rename_i known
        exact ⟨.inl,fun either => either.elim id fun same => same ▸ known⟩
      · rw [List.mem_append,List.mem_singleton]
    obtain ⟨all,mem⟩ := ih still
    refine ⟨all,fun name => ?_⟩
    rw [List.foldl_cons,mem name,members name,List.map_cons,List.mem_cons,or_assoc]

theorem build_names (rules : List Rule) : (build rules).names.Nodup ∧
    ∀ name, name ∈ (build rules).names ↔ ∃ r ∈ rules, ∃ p ∈ r.params, p.name = name := by
  obtain ⟨once,members⟩ := @notes_names (noted rules) [] List.nodup_nil
  rw [names,build_noted]
  refine ⟨once,fun name => ?_⟩
  rw [members name,mem_noted]
  simp

theorem positions_filter (rules : List Rule) (name : String) : (build rules).positions name =
    (List.range rules.length).filter fun i => rules[i]?.any (·.references name) := by
  have taken : ∀ entry ∈ rules.zipIdx, entry.1.references name = rules[entry.2]?.any (·.references name) := by
    intro entry member
    rw [List.mem_zipIdx_iff_getElem?.mp member]
    rfl
  calc (build rules).positions name
      = (rules.zipIdx.filter (·.1.references name)).map Prod.snd := positions_of_rules rules name
    _ = (rules.zipIdx.filter fun entry => rules[entry.2]?.any (·.references name)).map Prod.snd := by
        rw [List.filter_congr taken]
    _ = (rules.zipIdx.map Prod.snd).filter fun i => rules[i]?.any (·.references name) := by
        rw [List.filter_map]
        rfl
    _ = (List.range rules.length).filter fun i => rules[i]?.any (·.references name) := by
        rw [List.zipIdx_map_snd,List.range_eq_range']

theorem isEmpty_iff {index : RuleIndex} : index.isEmpty = true ↔ ∀ name, name ∉ index.names := by
  rw [isEmpty,List.isEmpty_iff,names,← List.eq_nil_iff_forall_not_mem,List.map_eq_nil_iff]

-- The positions under a name are those of the rules that take it, each once and ascending. There is one entry for each
-- name that a rule takes, and so none only where no rule takes anything.
theorem index_exact (rules : List Rule) :
    (∀ name, ((build rules).positions name).Pairwise (· < ·) ∧
      (build rules).positions name = (List.range rules.length).filter fun i => rules[i]?.any (·.references name)) ∧
    (build rules).names.Nodup ∧
    (∀ name, name ∈ (build rules).names ↔ ∃ r ∈ rules, ∃ p ∈ r.params, p.name = name) ∧
    (build rules).size = (rules.flatMap fun r => r.params.map (·.name)).toFinset.card ∧
    ((build rules).isEmpty = true ↔ ∀ r ∈ rules, r.params = []) := by
  obtain ⟨once,members⟩ := build_names rules
  refine ⟨fun name => ⟨?_,positions_filter rules name⟩,once,members,?_,?_⟩
  · rw [positions_filter]
    exact List.pairwise_lt_range.filter _
  · have same : (build rules).names.toFinset = (rules.flatMap fun r => r.params.map (·.name)).toFinset := by
      ext name
      simp [members]
    rw [← same,List.toFinset_card_of_nodup once,names,List.length_map]
    rfl
  · rw [isEmpty_iff]
    constructor
    · intro none r member
      refine List.eq_nil_iff_forall_not_mem.mpr fun p taken => ?_
      exact none p.name ((members p.name).mpr ⟨r,member,p,taken,rfl⟩)
    · intro idle name entry
      obtain ⟨r,member,p,taken,-⟩ := (members name).mp entry
      rw [idle r member] at taken
      cases taken

-- A rule that takes a field twice is noted once, before and after others that take it.
example : (build [⟨"first",[⟨"low",⟨"i32",[]⟩⟩],.messages⟩,
    ⟨"ordered",[⟨"low",⟨"i32",[]⟩⟩,⟨"high",⟨"i32",[]⟩⟩,⟨"low",⟨"i32",[]⟩⟩],.messages⟩]).entries =
      [("low",[0,1]),("high",[1])] := by decide

end RuleIndex

theorem BoundSchema.rulesFor_indexed (s : Schema) (field : String) :
    (BoundSchema.ofSchema s).rulesFor field = s.rules.filter (·.references field) := by
  have resolved : ∀ entry ∈ s.rules.zipIdx.filter (·.1.references field), s.rules[entry.2]? = some entry.1 := by
    intro entry member
    exact List.mem_zipIdx_iff_getElem?.mp (List.mem_filter.mp member).1
  calc (BoundSchema.ofSchema s).rulesFor field
      = (s.rules.zipIdx.filter (·.1.references field)).filterMap (fun entry => s.rules[entry.2]?) := by
        simp only [rulesFor,ofSchema,RuleIndex.positions_of_rules,List.filterMap_map]
        rfl
    _ = (s.rules.zipIdx.filter (·.1.references field)).map Prod.fst := by
        exact List.filterMap_eq_map_iff_forall_eq_some.mpr resolved
    _ = s.rules.filter (·.references field) := by
        rw [← List.zipIdx_map_fst 0 s.rules,List.filter_map,List.zipIdx_map_fst]
        rfl

end DomainSchema
