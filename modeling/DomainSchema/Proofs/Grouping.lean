import DomainSchema.Unit
import Mathlib.Data.List.Basic

namespace DomainSchema

theorem addToGroups_modules (b : BoundSchema) (groups : List ModuleGroup) :
    (addToGroups b groups).map (·.modulePath) =
      if b.schema.home ∈ groups.map (·.modulePath) then groups.map (·.modulePath)
      else groups.map (·.modulePath) ++ [b.schema.home] := by
  induction groups with
  | nil => simp [addToGroups]
  | cons g rest ih =>
    by_cases here : g.modulePath = b.schema.home
    · simp [addToGroups,here]
    · have apart : b.schema.home ≠ g.modulePath := fun same => here same.symm
      rw [addToGroups,if_neg here,List.map_cons,ih]
      by_cases later : b.schema.home ∈ rest.map (·.modulePath)
      · rw [if_pos later,if_pos (by rw [List.map_cons]; exact List.mem_cons_of_mem _ later),List.map_cons]
      · rw [if_neg later,if_neg (by rw [List.map_cons,List.mem_cons]; simp only [apart,later,or_self,not_false_eq_true]),
          List.map_cons,List.cons_append]

theorem mem_addToGroups_modules {b : BoundSchema} {groups : List ModuleGroup} {m : Option String} :
    m ∈ (addToGroups b groups).map (·.modulePath) ↔ m ∈ groups.map (·.modulePath) ∨ b.schema.home = m := by
  rw [addToGroups_modules]
  split
  · rename_i known
    constructor
    · exact .inl
    · rintro (old | rfl)
      · exact old
      · exact known
  · rw [List.mem_append,List.mem_singleton,eq_comm (a := m)]

theorem addToGroups_distinct {b : BoundSchema} {groups : List ModuleGroup}
    (distinct : (groups.map (·.modulePath)).Nodup) : ((addToGroups b groups).map (·.modulePath)).Nodup := by
  rw [addToGroups_modules]
  split
  · exact distinct
  · rename_i fresh
    refine List.nodup_append.mpr ⟨distinct,by simp,?_⟩
    intro m old other new same
    cases List.mem_singleton.mp new
    exact fresh (same ▸ old)

theorem groupByModule_modules (bs : List BoundSchema) :
    ((groupByModule bs).map (·.modulePath)).Nodup ∧
      ∀ m, m ∈ (groupByModule bs).map (·.modulePath) ↔ ∃ b ∈ bs, b.schema.home = m := by
  suffices general : ∀ groups : List ModuleGroup, (groups.map (·.modulePath)).Nodup →
      let modules := (bs.foldl (fun groups b => addToGroups b groups) groups).map (·.modulePath)
      modules.Nodup ∧ ∀ m, m ∈ modules ↔ m ∈ groups.map (·.modulePath) ∨ ∃ b ∈ bs, b.schema.home = m by
    simpa [groupByModule] using general [] List.nodup_nil
  induction bs with
  | nil => simp
  | cons b rest ih =>
    intro groups distinct
    obtain ⟨nodup,members⟩ := ih (addToGroups b groups) (addToGroups_distinct distinct)
    refine ⟨nodup,fun m => (members m).trans ?_⟩
    rw [mem_addToGroups_modules,List.exists_mem_cons_iff,or_assoc]

section
variable {m : Option String} {b : BoundSchema}

theorem addToGroups_own (own : b.schema.home = m) (groups : List ModuleGroup) :
    (addToGroups b groups).filter (·.modulePath ≠ m) = groups.filter (·.modulePath ≠ m) := by
  induction groups with
  | nil => simp [addToGroups,own]
  | cons g rest ih =>
    by_cases here : g.modulePath = m
    · simp [addToGroups,own,here]
    · rw [addToGroups,if_neg (own ▸ here),List.filter_cons,List.filter_cons,ih]

theorem addToGroups_other (other : b.schema.home ≠ m) (groups : List ModuleGroup) :
    (addToGroups b groups).filter (·.modulePath ≠ m) = addToGroups b (groups.filter (·.modulePath ≠ m)) := by
  induction groups with
  | nil => simp [addToGroups,other]
  | cons g rest ih =>
    by_cases here : g.modulePath = b.schema.home
    · simp [addToGroups,here,other]
    · rw [addToGroups,if_neg here,List.filter_cons,List.filter_cons,ih]
      split
      · rw [addToGroups,if_neg here]
      · rfl

theorem groupByModule_others (m : Option String) (bs : List BoundSchema) :
    (groupByModule bs).filter (·.modulePath ≠ m) = groupByModule (bs.filter (·.schema.home ≠ m)) := by
  suffices general : ∀ groups : List ModuleGroup,
      (bs.foldl (fun groups b => addToGroups b groups) groups).filter (·.modulePath ≠ m) =
        (bs.filter (·.schema.home ≠ m)).foldl (fun groups b => addToGroups b groups)
          (groups.filter (·.modulePath ≠ m)) from general []
  induction bs with
  | nil => exact fun _ => rfl
  | cons b rest ih =>
    intro groups
    rw [List.foldl_cons,ih]
    by_cases own : b.schema.home = m
    · rw [addToGroups_own own,List.filter_cons_of_neg (by simpa using own)]
    · rw [addToGroups_other own,List.filter_cons_of_pos (by simpa using own),List.foldl_cons]

end

end DomainSchema
