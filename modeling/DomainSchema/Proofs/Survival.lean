import DomainSchema.Proofs.Findings
import Mathlib.Data.List.Forall2

namespace DomainSchema

theorem filterMap_places (read : α → Option β) (items : List α) :
    ∃ places : List Nat, places.Pairwise (· < ·) ∧
      (∀ i, i ∈ places ↔ ∃ item value, items[i]? = some item ∧ read item = some value) ∧
      List.Forall₂ (fun i value => ∃ item, items[i]? = some item ∧ read item = some value) places (items.filterMap read) := by
  induction items with
  | nil => exact ⟨[],.nil,by simp,.nil⟩
  | cons first rest ih =>
    obtain ⟨places,increasing,complete,kept⟩ := ih
    have shifted : (places.map (· + 1)).Pairwise (· < ·) := by
      simpa [List.pairwise_map] using increasing
    have later : List.Forall₂ (fun i value => ∃ item, (first :: rest)[i]? = some item ∧ read item = some value)
        (places.map (· + 1)) (rest.filterMap read) := by
      simpa [List.forall₂_map_left_iff] using kept
    cases here : read first with
    | none =>
      refine ⟨places.map (· + 1),shifted,?_,by rwa [List.filterMap_cons_none here]⟩
      intro i
      cases i <;> simp [here,complete]
    | some value =>
      refine ⟨0 :: places.map (· + 1),List.pairwise_cons.mpr ⟨by simp,shifted⟩,?_,?_⟩
      · intro i
        cases i <;> simp [here,complete]
      · rw [List.filterMap_cons_some here]
        exact .cons ⟨first,rfl,here⟩ later

def First (ds : List Declaration) (i : Nat) (d : Declaration) : Prop :=
  ds[i]? = some d ∧ ∀ e ∈ ds.take i, e.qualifiedName ≠ d.qualifiedName

theorem First.not_before {ds : List Declaration} {i j : Nat} {d e : Declaration} (one : First ds i d) (two : First ds j e)
    (same : d.qualifiedName = e.qualifiedName) : ¬ i < j := by
  intro before
  have member : d ∈ ds.take j := by
    rw [List.mem_take_iff_getElem]
    obtain ⟨bound,here⟩ := List.getElem?_eq_some_iff.mp one.1
    exact ⟨i,by omega,here⟩
  exact two.2 d member same

theorem First.unique {ds : List Declaration} {i j : Nat} {d e : Declaration} (one : First ds i d) (two : First ds j e)
    (same : d.qualifiedName = e.qualifiedName) : i = j ∧ d = e := by
  have place : i = j := by
    have before := one.not_before two same
    have after := two.not_before one same.symm
    omega
  subst place
  exact ⟨rfl,Option.some.inj (one.1.symm.trans two.1)⟩

-- What comes of the declaration at a place, if declarations of the names in `seen` came before all of them.
theorem analyzeAll_at (index : TypeIndex) (settings : Settings) (ds : List Declaration) (seen : List String) (i : Nat) :
    (analyzeAll index settings ds seen)[i]? = ds[i]?.map fun d =>
      if d.qualifiedName ∈ seen ∨ ∃ e ∈ ds.take i, e.qualifiedName = d.qualifiedName then ⟨none,⟨[duplicateSchema d]⟩⟩
      else analyzeDeclaration d index settings := by
  induction ds generalizing seen i with
  | nil => rfl
  | cons first rest ih =>
    cases i with
    | zero =>
      by_cases repeated : first.qualifiedName ∈ seen <;> simp [analyzeAll,repeated]
    | succ i =>
      by_cases repeated : first.qualifiedName ∈ seen
      · rw [analyzeAll,if_pos repeated,List.getElem?_cons_succ,ih,List.getElem?_cons_succ]
        congr 1
        funext d
        refine if_congr ?_ rfl rfl
        rw [List.take_succ_cons,List.exists_mem_cons_iff]
        constructor
        · exact Or.imp_right .inr
        · rintro (before | same | later)
          · exact .inl before
          · exact .inl (same ▸ repeated)
          · exact .inr later
      · rw [analyzeAll,if_neg repeated,List.getElem?_cons_succ,ih,List.getElem?_cons_succ]
        congr 1
        funext d
        refine if_congr ?_ rfl rfl
        rw [List.take_succ_cons,List.exists_mem_cons_iff,List.mem_cons,or_left_comm,or_assoc,eq_comm]

theorem analyzeAll_length (index : TypeIndex) (settings : Settings) (ds : List Declaration) (seen : List String) :
    (analyzeAll index settings ds seen).length = ds.length := by
  induction ds generalizing seen with
  | nil => rfl
  | cons first rest ih =>
    rw [analyzeAll]
    split <;> simp [ih]

theorem analyzeAll_names (index : TypeIndex) (settings : Settings) (ds : List Declaration) (seen : List String) :
    let names := ((analyzeAll index settings ds seen).filterMap (·.result)).map (·.schema.name)
    names.Nodup ∧ ∀ name ∈ names, name ∉ seen := by
  induction ds generalizing seen with
  | nil => simp [analyzeAll]
  | cons first rest ih =>
    by_cases repeated : first.qualifiedName ∈ seen
    · rw [analyzeAll,if_pos repeated]
      exact ih seen
    · rw [analyzeAll,if_neg repeated]
      obtain ⟨distinct,fresh⟩ := ih (first.qualifiedName :: seen)
      simp only [List.mem_cons,not_or] at fresh
      cases made : (analyzeDeclaration first index settings).result with
      | none =>
        rw [List.filterMap_cons_none made]
        exact ⟨distinct,fun name member => (fresh name member).2⟩
      | some b =>
        rw [List.filterMap_cons_some made,List.map_cons,analyzed_name made]
        refine ⟨List.nodup_cons.mpr ⟨?_,distinct⟩,?_⟩
        · intro again
          exact (fresh _ again).1 rfl
        · intro name member
          rcases List.mem_cons.mp member with rfl | later
          · exact repeated
          · exact (fresh name later).2

section
variable {g : Declarations} {settings : Settings} {i : Nat} {d : Declaration} {item : Diagnostic}

def Declarations.contribution (g : Declarations) (settings : Settings) (i : Nat) (d : Declaration) : Found BoundSchema :=
  if ∃ e ∈ g.marked.take i, e.qualifiedName = d.qualifiedName then ⟨none,⟨[duplicateSchema d]⟩⟩
  else analyzeDeclaration d (TypeIndex.build g settings) settings

theorem contribution_first (first : First g.marked i d) :
    g.contribution settings i d = analyzeDeclaration d (TypeIndex.build g settings) settings := by
  refine if_neg ?_
  rintro ⟨e,before,same⟩
  exact first.2 e before same

theorem contribution_repeated (stands : g.marked[i]? = some d) (repeated : ¬ First g.marked i d) :
    g.contribution settings i d = ⟨none,⟨[duplicateSchema d]⟩⟩ := by
  refine if_pos ?_
  by_contra none
  exact repeated ⟨stands,fun e before same => none ⟨e,before,same⟩⟩

theorem contribution_schema (stands : g.marked[i]? = some d) (found : item ∈ (g.contribution settings i d).diagnostics.items) :
    item.schema = d.qualifiedName := by
  by_cases first : First g.marked i d
  · rw [contribution_first first] at found
    exact (analyzed_findings found).1
  · rw [contribution_repeated stands first] at found
    cases List.mem_singleton.mp found
    rfl

theorem contributions_at (g : Declarations) (settings : Settings) (i : Nat) :
    (analyzeAll (TypeIndex.build g settings) settings g.marked [])[i]? = g.marked[i]?.map (g.contribution settings i) := by
  rw [analyzeAll_at]
  congr 1
  funext d
  exact if_congr (by simp) rfl rfl

theorem made_at {b : BoundSchema} :
    (∃ found, (analyzeAll (TypeIndex.build g settings) settings g.marked [])[i]? = some found ∧ found.result = some b) ↔
      ∃ d, First g.marked i d ∧ (analyzeDeclaration d (TypeIndex.build g settings) settings).result = some b := by
  rw [contributions_at]
  constructor
  · rintro ⟨found,stands,made⟩
    obtain ⟨d,declared,rfl⟩ := Option.map_eq_some_iff.mp stands
    by_cases first : First g.marked i d
    · rw [contribution_first first] at made
      exact ⟨d,first,made⟩
    · rw [contribution_repeated declared first] at made
      cases made
  · rintro ⟨d,first,made⟩
    refine ⟨_,Option.map_eq_some_iff.mpr ⟨d,first.1,rfl⟩,?_⟩
    rwa [contribution_first first]

theorem mem_schemas {b : BoundSchema} : b ∈ (analyze g settings).schemas ↔
    ∃ i d, First g.marked i d ∧ (analyzeDeclaration d (TypeIndex.build g settings) settings).result = some b := by
  constructor
  · intro member
    obtain ⟨found,part,made⟩ := List.mem_filterMap.mp member
    obtain ⟨i,stands⟩ := List.mem_iff_getElem?.mp part
    exact ⟨i,made_at.mp ⟨found,stands,made⟩⟩
  · rintro ⟨i,here⟩
    obtain ⟨found,stands,made⟩ := made_at.mpr here
    exact List.mem_filterMap.mpr ⟨found,List.mem_of_getElem? stands,made⟩

theorem item_origin : item ∈ (analyze g settings).diagnostics.items ↔
    ∃ i d, g.marked[i]? = some d ∧ item ∈ (g.contribution settings i d).diagnostics.items := by
  constructor
  · intro member
    obtain ⟨found,part,here⟩ := List.mem_flatMap.mp member
    obtain ⟨i,stands⟩ := List.mem_iff_getElem?.mp part
    rw [contributions_at] at stands
    obtain ⟨d,declared,rfl⟩ := Option.map_eq_some_iff.mp stands
    exact ⟨i,d,declared,here⟩
  · rintro ⟨i,d,declared,here⟩
    have stands := contributions_at g settings i
    rw [declared] at stands
    exact List.mem_flatMap.mpr ⟨_,List.mem_iff_getElem?.mpr ⟨i,stands⟩,here⟩

theorem own_items (first : First g.marked i d) (other : item.code ≠ .duplicateSchema) :
    item ∈ (analyze g settings).diagnostics.items ∧ item.schema = d.qualifiedName ↔
      item ∈ (analyzeDeclaration d (TypeIndex.build g settings) settings).diagnostics.items := by
  constructor
  · rintro ⟨member,same⟩
    obtain ⟨j,e,declared,here⟩ := item_origin.mp member
    by_cases again : First g.marked j e
    · obtain ⟨rfl,rfl⟩ := first.unique again (same.symm.trans (contribution_schema declared here))
      rwa [contribution_first first] at here
    · rw [contribution_repeated declared again] at here
      cases List.mem_singleton.mp here
      exact absurd rfl other
  · intro here
    refine ⟨item_origin.mpr ⟨i,d,first.1,?_⟩,(analyzed_findings here).1⟩
    rwa [contribution_first first]

-- Something is reported under the name that keeps a schema from being generated. A note on repetition does not: it is
-- about a later declaration of the name.
def Diagnostics.Prevent (ds : Diagnostics) (name : String) : Prop :=
  ∃ item ∈ ds.items, item.schema = name ∧ item.code.blocks = true ∧ item.code ≠ .duplicateSchema

theorem prevented_iff (first : First g.marked i d) : (analyze g settings).diagnostics.Prevent d.qualifiedName ↔
    (analyzeDeclaration d (TypeIndex.build g settings) settings).result = none := by
  rw [analyzed_none_iff]
  constructor
  · rintro ⟨item,member,same,blocks,other⟩
    exact ⟨item,(own_items first other).mp ⟨member,same⟩,blocks⟩
  · rintro ⟨item,here,blocks⟩
    have other := (analyzed_findings here).2
    obtain ⟨member,same⟩ := (own_items first other).mpr here
    exact ⟨item,member,same,blocks,other⟩

theorem unprevented_iff (first : First g.marked i d) : ¬ (analyze g settings).diagnostics.Prevent d.qualifiedName ↔
    ∃ b, (analyzeDeclaration d (TypeIndex.build g settings) settings).result = some b := by
  rw [prevented_iff first]
  exact Option.ne_none_iff_exists'

end

theorem survivor_places (g : Declarations) (settings : Settings) :
    ∃ places : List Nat, places.Pairwise (· < ·) ∧
      (∀ i, i ∈ places ↔ ∃ d, First g.marked i d ∧ ¬ (analyze g settings).diagnostics.Prevent d.qualifiedName) ∧
      List.Forall₂ (fun i b => ∃ d, g.marked[i]? = some d ∧ b.schema.name = d.qualifiedName ∧
        (analyzeDeclaration d (analyze g settings).index settings).result = some b) places (analyze g settings).schemas := by
  obtain ⟨places,increasing,complete,kept⟩ :=
    filterMap_places (·.result) (analyzeAll (TypeIndex.build g settings) settings g.marked [])
  refine ⟨places,increasing,?_,?_⟩
  · intro i
    rw [complete]
    constructor
    · rintro ⟨found,b,here⟩
      obtain ⟨d,first,made⟩ := made_at.mp ⟨found,here⟩
      exact ⟨d,first,(unprevented_iff first).mpr ⟨b,made⟩⟩
    · rintro ⟨d,first,unprevented⟩
      obtain ⟨b,made⟩ := (unprevented_iff first).mp unprevented
      obtain ⟨found,here⟩ := made_at.mpr ⟨d,first,made⟩
      exact ⟨found,b,here⟩
  · refine kept.imp ?_
    intro i b here
    obtain ⟨d,first,made⟩ := made_at.mp here
    exact ⟨d,first.1,analyzed_name made,made⟩

theorem report_parts (g : Declarations) (settings : Settings) :
    ∃ parts : List (List Diagnostic), (analyze g settings).diagnostics.items = parts.flatten ∧
      parts.length = g.marked.length ∧
      ∀ i d, g.marked[i]? = some d → ∃ part, parts[i]? = some part ∧ (∀ item ∈ part, item.schema = d.qualifiedName) ∧
        (First g.marked i d → ∀ item ∈ part, item.code ≠ .duplicateSchema) ∧
        (¬ First g.marked i d → part = [duplicateSchema d]) := by
  refine ⟨_,List.flatMap_def,?_,?_⟩
  · rw [List.length_map,analyzeAll_length]
  · intro i d declared
    refine ⟨(g.contribution settings i d).diagnostics.items,?_,fun item => contribution_schema declared,?_,?_⟩
    · rw [List.getElem?_map,contributions_at,declared]
      rfl
    · intro first item found
      rw [contribution_first first] at found
      exact (analyzed_findings found).2
    · intro repeated
      rw [contribution_repeated declared repeated]

-- A schema is made of each declaration that is the first of its name and about which nothing is reported that prevents
-- it, in the order of declaration. Declarations of a name that has been seen add one note each and nothing else, and
-- whatever is reported stands under the name and at the place of its declaration.
theorem survivors_exact (g : Declarations) (settings : Settings) :
    let a := analyze g settings
    (a.schemas.map (·.schema.name)).Nodup ∧
    (∃ survivors : List Nat, survivors.Pairwise (· < ·) ∧
      (∀ i, i ∈ survivors ↔ ∃ d, First g.marked i d ∧ ¬ a.diagnostics.Prevent d.qualifiedName) ∧
      List.Forall₂ (fun i b => ∃ d, g.marked[i]? = some d ∧ b.schema.name = d.qualifiedName ∧
        (analyzeDeclaration d a.index settings).result = some b) survivors a.schemas) ∧
    (∃ parts : List (List Diagnostic), a.diagnostics.items = parts.flatten ∧ parts.length = g.marked.length ∧
      ∀ i d, g.marked[i]? = some d → ∃ part, parts[i]? = some part ∧ (∀ item ∈ part, item.schema = d.qualifiedName) ∧
        (First g.marked i d → ∀ item ∈ part, item.code ≠ .duplicateSchema) ∧
        (¬ First g.marked i d → part = [duplicateSchema d])) ∧
    ∀ item ∈ a.diagnostics.items, ∃ d ∈ g.marked, item.schema = d.qualifiedName := by
  intro a
  refine ⟨(analyzeAll_names _ settings g.marked []).1,survivor_places g settings,report_parts g settings,?_⟩
  intro item member
  obtain ⟨i,d,declared,here⟩ := item_origin.mp member
  exact ⟨d,List.mem_of_getElem? declared,contribution_schema declared here⟩

end DomainSchema
