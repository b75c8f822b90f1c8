import DomainSchema.Proofs.Completeness
import DomainSchema.Proofs.Isolation
import Mathlib.Data.List.Nodup
import Mathlib.Data.List.Perm.Basic

namespace DomainSchema

section
variable [DecidableEq κ]

theorem eraseDups_nodup : ∀ items : List κ, items.eraseDups.Nodup
  | [] => by simp
  | first :: rest => by
    rw [List.eraseDups_cons,List.nodup_cons]
    refine ⟨?_,eraseDups_nodup _⟩
    simp [List.mem_eraseDups]
termination_by items => items.length
decreasing_by
  have shorter := List.length_filter_le (fun item => !item == first) rest
  simp only [List.length_cons]
  omega

theorem eraseDups_perm {items items' : List κ} (perm : items.Perm items') : items.eraseDups.Perm items'.eraseDups := by
  refine (List.perm_ext_iff_of_nodup (eraseDups_nodup _) (eraseDups_nodup _)).mpr ?_
  intro item
  simp only [List.mem_eraseDups]
  exact perm.mem_iff

-- Where no name stands twice, at most one item has a given name, and it is found in any order.
theorem filter_perm (name : α → κ) {items items' : List α} (perm : items.Perm items')
    (distinct : (items.map name).Nodup) (key : κ) : items.filter (name · == key) = items'.filter (name · == key) := by
  have found := perm.filter (name · == key)
  have single : ((items.filter (name · == key)).map name).Nodup := distinct.sublist (List.filter_sublist.map name)
  have named : ∀ item ∈ items.filter (name · == key), name item = key := by
    intro item member
    simpa using (List.mem_filter.mp member).2
  revert found single named
  cases items.filter (name · == key) with
  | nil =>
    intro found _ _
    exact (List.nil_perm.mp found).symm
  | cons item rest =>
    intro found single named
    cases rest with
    | nil => exact (List.perm_singleton.mp found.symm).symm
    | cons other rest =>
      have same : name item = name other := (named item (by simp)).trans (named other (by simp)).symm
      simp [same] at single

end

section
variable {index index' : TypeIndex} {settings : Settings}

theorem nestingOf_congr (same : ∀ type, index.contains type = index'.contains type) (type : TypeExpr) :
    nestingOf type index settings = nestingOf type index' settings := by
  have alike : index.contains = index'.contains := funext same
  unfold nestingOf
  rw [alike]

theorem analyzeDeclaration_congr (same : ∀ type, index.contains type = index'.contains type) (d : Declaration) :
    analyzeDeclaration d index settings = analyzeDeclaration d index' settings := by
  have fields : d.schema index settings = d.schema index' settings := by
    unfold Declaration.schema FieldDecl.field
    simp only [nestingOf_congr same]
  unfold analyzeDeclaration extract
  rw [fields]

theorem index_perm {g h : Declarations} (reordered : g.types.Perm h.types) (settings : Settings) :
    (TypeIndex.build g settings).keys.Perm (TypeIndex.build h settings).keys :=
  eraseDups_perm ((reordered.filter _).map _)

theorem contains_perm (perm : index.keys.Perm index'.keys) (type : TypeExpr) :
    index.contains type = index'.contains type := by
  unfold TypeIndex.contains
  rw [Bool.eq_iff_iff,List.contains_iff_mem,List.contains_iff_mem]
  exact perm.mem_iff

theorem analyzeAll_distinct {ds : List Declaration} {seen : List String} (distinct : (ds.map (·.qualifiedName)).Nodup)
    (fresh : ∀ d ∈ ds, d.qualifiedName ∉ seen) :
    analyzeAll index settings ds seen = ds.map (analyzeDeclaration · index settings) := by
  induction ds generalizing seen with
  | nil => rfl
  | cons first rest ih =>
    rw [List.map_cons,List.nodup_cons] at distinct
    rw [analyzeAll,if_neg (fresh first (by simp)),List.map_cons,ih distinct.2]
    intro d member again
    rcases List.mem_cons.mp again with same | before
    · exact distinct.1 (List.mem_map.mpr ⟨d,member,same⟩)
    · exact fresh d (List.mem_cons_of_mem _ member) before

end

section
variable {g h : Declarations} {settings : Settings}

theorem first_of_distinct {ds : List Declaration} {d : Declaration} (distinct : (ds.map (·.qualifiedName)).Nodup)
    (member : d ∈ ds) : ∃ i, First ds i d := by
  obtain ⟨before,after,rfl⟩ := List.append_of_mem member
  refine ⟨before.length,by simp,?_⟩
  intro e earlier same
  rw [List.take_left' rfl] at earlier
  rw [List.map_append,List.nodup_append] at distinct
  exact distinct.2.2 _ (List.mem_map_of_mem earlier) _ (by simp) same

theorem schemas_in_order (distinct : (g.marked.map (·.qualifiedName)).Nodup) :
    (analyze g settings).schemas = g.marked.filterMap fun d => (analyze g settings).schema? d.qualifiedName := by
  have made : (analyze g settings).schemas =
      g.marked.filterMap fun d => (analyzeDeclaration d (TypeIndex.build g settings) settings).result := by
    unfold analyze
    dsimp only
    rw [analyzeAll_distinct distinct (by simp),List.filterMap_map]
    rfl
  rw [made]
  refine List.filterMap_congr ?_
  intro d member
  obtain ⟨i,first⟩ := first_of_distinct distinct member
  exact (schema_of_first first).symm

theorem found_perm (reordered : g.types.Perm h.types) (distinct : (g.marked.map (·.qualifiedName)).Nodup) :
    (analyzeAll (TypeIndex.build g settings) settings g.marked []).Perm
      (analyzeAll (TypeIndex.build h settings) settings h.marked []) := by
  have marked : g.marked.Perm h.marked := reordered.filter _
  have other : (h.marked.map (·.qualifiedName)).Nodup := (marked.map _).nodup_iff.mp distinct
  rw [analyzeAll_distinct distinct (by simp),analyzeAll_distinct other (by simp)]
  have same := contains_perm (index_perm reordered settings)
  simp only [analyzeDeclaration_congr same]
  exact marked.map _

theorem schemas_perm (reordered : g.types.Perm h.types) (distinct : (g.marked.map (·.qualifiedName)).Nodup) :
    (analyze g settings).schemas.Perm (analyze h settings).schemas :=
  (found_perm reordered distinct).filterMap _

theorem items_perm (reordered : g.types.Perm h.types) (distinct : (g.marked.map (·.qualifiedName)).Nodup) :
    (analyze g settings).diagnostics.items.Perm (analyze h settings).diagnostics.items :=
  (found_perm reordered distinct).flatMap_right _

theorem under_declared (distinct : (g.marked.map (·.qualifiedName)).Nodup) (name : String) :
    (analyze g settings).diagnostics.under name = (g.marked.filter (·.qualifiedName == name)).flatMap fun d =>
      (analyzeDeclaration d (TypeIndex.build g settings) settings).diagnostics.items := by
  unfold analyze Diagnostics.under
  dsimp only
  rw [analyzeAll_distinct distinct (by simp),List.flatMap_map,List.filter_flatMap]
  induction g.marked with
  | nil => rfl
  | cons d rest ih =>
    rw [List.flatMap_cons,ih]
    by_cases named : d.qualifiedName = name
    · rw [List.filter_cons_of_pos (by simpa using named),List.flatMap_cons,List.filter_eq_self.mpr]
      intro item found
      simpa using (analyzed_findings found).1.trans named
    · rw [List.filter_cons_of_neg (by simpa using named),List.filter_eq_nil_iff.mpr,List.nil_append]
      intro item found
      simpa using fun same => named ((analyzed_findings found).1.symm.trans same)

theorem schema_perm (reordered : g.types.Perm h.types) (distinct : (g.marked.map (·.qualifiedName)).Nodup)
    (name : String) : (analyze g settings).schema? name = (analyze h settings).schema? name := by
  have names := (analyzeAll_names (TypeIndex.build g settings) settings g.marked []).1
  simp only [Analysis.schema?,← List.head?_filter]
  exact congrArg List.head? (filter_perm (·.schema.name) (schemas_perm reordered distinct) names name)

theorem under_perm (reordered : g.types.Perm h.types) (distinct : (g.marked.map (·.qualifiedName)).Nodup)
    (name : String) : (analyze g settings).diagnostics.under name = (analyze h settings).diagnostics.under name := by
  have marked : g.marked.Perm h.marked := reordered.filter _
  have other : (h.marked.map (·.qualifiedName)).Nodup := (marked.map _).nodup_iff.mp distinct
  rw [under_declared distinct,under_declared other,filter_perm _ marked distinct]
  simp only [analyzeDeclaration_congr (contains_perm (index_perm reordered settings))]

end

section
variable {ds ds' : Diagnostics}

theorem counts_perm (perm : ds.items.Perm ds'.items) :
    ds.errorCount = ds'.errorCount ∧ ds.warningCount = ds'.warningCount :=
  ⟨(perm.filter _).length_eq,(perm.filter _).length_eq⟩

theorem fail_perm (perm : ds.items.Perm ds'.items) (settings : Settings) : ds.fail settings = ds'.fail settings := by
  have errors : ds.hasErrors = ds'.hasErrors := by
    unfold Diagnostics.hasErrors
    exact perm.any_eq
  unfold Diagnostics.fail
  rw [errors,(counts_perm perm).2]

end

-- The order of the declarations does not matter, as long as no two marked ones have one name. The same types are indexed,
-- under each name there is the same schema with the same index, if any, and the same report, and both analyses fail or
-- neither does. Only the order of the schemas is that of the declarations.
theorem analysis_of_reordered (g h : Declarations) (settings : Settings) (reordered : g.types.Perm h.types)
    (distinct : (g.marked.map (·.qualifiedName)).Nodup) :
    let a := analyze g settings
    let b := analyze h settings
    a.index.keys.Perm b.index.keys ∧
    (∀ name, a.schema? name = b.schema? name ∧ a.diagnostics.under name = b.diagnostics.under name) ∧
    a.diagnostics.errorCount = b.diagnostics.errorCount ∧ a.diagnostics.warningCount = b.diagnostics.warningCount ∧
    a.failed settings = b.failed settings ∧
    a.schemas = (g.marked.filterMap fun d => a.schema? d.qualifiedName) ∧
    b.schemas = (h.marked.filterMap fun d => b.schema? d.qualifiedName) := by
  intro a b
  have items : a.diagnostics.items.Perm b.diagnostics.items := items_perm reordered distinct
  have marked : g.marked.Perm h.marked := reordered.filter _
  have other : (h.marked.map (·.qualifiedName)).Nodup := (marked.map _).nodup_iff.mp distinct
  refine ⟨index_perm reordered settings,?_,(counts_perm items).1,(counts_perm items).2,fail_perm items settings,
    schemas_in_order distinct,schemas_in_order other⟩
  intro name
  exact ⟨schema_perm reordered distinct name,under_perm reordered distinct name⟩

-- A price may be declared before the amount that it holds.
theorem price_before_amount :
    let a := analyze ⟨[price,amount]⟩ {}
    let b := analyze ⟨[amount,price]⟩ {}
    (a.schemas.map (·.schema.name) = ["crate::shop::Price","crate::Amount"] ∧
      b.schemas.map (·.schema.name) = ["crate::Amount","crate::shop::Price"]) ∧
    a.schema? "crate::shop::Price" = b.schema? "crate::shop::Price" ∧
    a.diagnostics.under "crate::shop::Price" = b.diagnostics.under "crate::shop::Price" ∧
    a.diagnostics.warningCount = b.diagnostics.warningCount ∧ a.failed {} = b.failed {} := by
  obtain ⟨-,names,-,warnings,failed,-⟩ :=
    analysis_of_reordered ⟨[price,amount]⟩ ⟨[amount,price]⟩ {} (.swap amount price []) (by decide)
  exact ⟨by decide,(names _).1,(names _).2,warnings,failed⟩

end DomainSchema
