import DomainSchema.Proofs.Binding
import Mathlib.Data.List.Forall2

namespace DomainSchema

structure Schema.Means (s : Schema) (p : Parameter) (f : Field) : Prop where
  named : f.name = p.name
  first : ∃ before after, s.fields = before ++ f :: after ∧ ∀ other ∈ before, other.name ≠ p.name

def Schema.Lacks (s : Schema) (p : Parameter) : Prop := ∀ f ∈ s.fields, f.name ≠ p.name

def Schema.Clashes (s : Schema) (p : Parameter) : Prop := ∃ f, s.Means p f ∧ f.type ≠ p.type

def Schema.occurrences (s : Schema) : List (Rule × Parameter) := s.rules.flatMap fun r => r.params.map fun p => (r,p)

-- What there is to say of a parameter: one item if no field has its name, one if its field has another type, else none.
inductive Schema.Tells (s : Schema) (r : Rule) (p : Parameter) : List Diagnostic → Prop
  | unknown (lacks : s.Lacks p) : s.Tells r p [.memberNotFound s.name r.name p.name (Suggestion.suggest s.fields p.name)]
  | mismatch {f : Field} (means : s.Means p f) (differ : f.type ≠ p.type) : s.Tells r p
    [{ schema := s.name, member := some (r.name ++ "(" ++ p.name ++ ")"), code := .typeMismatch
       message := "Type mismatch for " ++ p.name ++ ": expected " ++ f.type.text ++ ", found " ++ p.type.text
       context := ["rule `" ++ r.name ++ "` is not emitted"] }]
  | matching {f : Field} (means : s.Means p f) (same : f.type = p.type) : s.Tells r p []

section
variable {s : Schema} {r : Rule} {p : Parameter} {f g : Field}

theorem Schema.field_means : s.field? p.name = some f ↔ s.Means p f := by
  rw [Schema.field?,List.find?_eq_some_iff_append]
  constructor
  · rintro ⟨named,before,after,split,apart⟩
    exact ⟨by simpa using named,before,after,split,fun other member => by simpa using apart other member⟩
  · rintro ⟨named,before,after,split,apart⟩
    exact ⟨by simpa using named,before,after,split,fun other member => by simpa using apart other member⟩

theorem Schema.Means.unique (means : s.Means p f) (again : s.Means p g) : f = g :=
  Option.some.inj ((Schema.field_means.mpr means).symm.trans (Schema.field_means.mpr again))

theorem Schema.Means.known (means : s.Means p f) : ¬ s.Lacks p := by
  obtain ⟨before,after,split,-⟩ := means.first
  exact fun lacks => lacks f (by simp [split]) means.named

theorem Schema.field_lacks : s.field? p.name = none ↔ s.Lacks p := by
  rw [Schema.field?,List.find?_eq_none]
  simp [Schema.Lacks]

theorem Schema.Means.of_rules (means : s.Means p f) (rules : List Rule) : Schema.Means { s with rules } p f :=
  ⟨means.named,means.first⟩

theorem resolve_lacks (lacks : s.Lacks p) : s.resolve p = .unknown := by
  rw [Schema.resolve,Schema.field_lacks.mpr lacks]

theorem resolve_means (means : s.Means p f) : s.resolve p = if f.type = p.type then .matching f else .mismatch f := by
  rw [Schema.resolve,Schema.field_means.mpr means]

theorem lacks_or_means (s : Schema) (p : Parameter) : s.Lacks p ∨ ∃ f, s.Means p f := by
  cases found : s.field? p.name with
  | none => exact .inl (Schema.field_lacks.mp found)
  | some f => exact .inr ⟨f,Schema.field_means.mp found⟩

theorem unknown_iff : (s.resolve p).isUnknown = true ↔ s.Lacks p := by
  rcases lacks_or_means s p with lacks | ⟨f,means⟩
  · simp [resolve_lacks lacks,Resolution.isUnknown,lacks]
  · rw [resolve_means means]
    by_cases same : f.type = p.type <;> simp [same,Resolution.isUnknown,means.known]

theorem mismatch_iff : (s.resolve p).isMismatch = true ↔ s.Clashes p := by
  rcases lacks_or_means s p with lacks | ⟨f,means⟩
  · have bare : ¬ s.Clashes p := by
      rintro ⟨f,means,-⟩
      exact means.known lacks
    simp [resolve_lacks lacks,Resolution.isMismatch,bare]
  · have own : s.Clashes p ↔ f.type ≠ p.type :=
      ⟨fun ⟨g,again,differ⟩ => means.unique again ▸ differ,fun differ => ⟨f,means,differ⟩⟩
    rw [resolve_means means,own]
    by_cases same : f.type = p.type <;> simp [same,Resolution.isMismatch]

theorem param_tells (s : Schema) (r : Rule) (p : Parameter) : s.Tells r p (s.paramDiagnostics r p) := by
  unfold Schema.paramDiagnostics
  rcases lacks_or_means s p with lacks | ⟨f,means⟩
  · rw [resolve_lacks lacks]
    exact .unknown lacks
  · rw [resolve_means means]
    by_cases same : f.type = p.type
    · rw [if_pos same]
      exact .matching means same
    · rw [if_neg same]
      exact .mismatch means same

theorem bind_occurrences (s : Schema) :
    (bind s).diagnostics.items = s.occurrences.flatMap fun o => s.paramDiagnostics o.1 o.2 := by
  change (s.rules.flatMap fun r => r.params.flatMap (s.paramDiagnostics r)) = _
  rw [Schema.occurrences,List.flatMap_assoc]
  simp only [List.flatMap_map]

theorem bind_tells (s : Schema) : ∃ told : List (List Diagnostic),
    List.Forall₂ (fun o items => s.Tells o.1 o.2 items) s.occurrences told ∧ (bind s).diagnostics.items = told.flatten := by
  refine ⟨s.occurrences.map fun o => s.paramDiagnostics o.1 o.2,?_,?_⟩
  · exact List.forall₂_map_right_iff.mpr (List.forall₂_same.mpr fun o _ => param_tells s o.1 o.2)
  · rw [bind_occurrences,List.flatMap_def]

theorem bind_fails_iff : (bind s).result = none ↔ ∃ r ∈ s.rules, ∃ p ∈ r.params, s.Lacks p := by
  have asked : (s.rules.any fun r => r.params.any fun p => (s.resolve p).isUnknown) = true ↔
      ∃ r ∈ s.rules, ∃ p ∈ r.params, s.Lacks p := by
    simp only [List.any_eq_true,unknown_iff]
  rw [← asked]
  unfold bind
  dsimp only
  split
  · rename_i unknown
    exact ⟨fun _ => unknown,fun _ => rfl⟩
  · rename_i known
    exact ⟨nofun,fun unknown => absurd unknown known⟩

theorem bind_settled (settled : ∀ r ∈ s.rules, ∀ p ∈ r.params, ∃ f, s.Means p f ∧ f.type = p.type) :
    bind s = ⟨some (.ofSchema s),⟨[]⟩⟩ := by
  have resolved : ∀ r ∈ s.rules, ∀ p ∈ r.params, ∃ f, s.resolve p = .matching f := by
    intro r rule p taken
    obtain ⟨f,means,same⟩ := settled r rule p taken
    exact ⟨f,by rw [resolve_means means,if_pos same]⟩
  have silent : (s.rules.flatMap fun r => r.params.flatMap (s.paramDiagnostics r)) = [] := by
    refine List.flatMap_eq_nil_iff.mpr fun r rule => List.flatMap_eq_nil_iff.mpr fun p taken => ?_
    obtain ⟨f,matching⟩ := resolved r rule p taken
    rw [Schema.paramDiagnostics,matching]
  have known : ¬ (s.rules.any fun r => r.params.any fun p => (s.resolve p).isUnknown) = true := by
    simp only [List.any_eq_true,not_exists,not_and]
    intro r rule p taken
    obtain ⟨f,matching⟩ := resolved r rule p taken
    simp [matching,Resolution.isUnknown]
  have kept : (s.rules.filter fun r => !r.params.any fun p => (s.resolve p).isMismatch) = s.rules := by
    refine List.filter_eq_self.mpr fun r rule => ?_
    simp only [Bool.not_eq_true',List.any_eq_false]
    intro p taken
    obtain ⟨f,matching⟩ := resolved r rule p taken
    simp [matching,Resolution.isMismatch]
  unfold bind
  dsimp only
  rw [silent,if_neg known,kept]

end

theorem bound_settled {s : Schema} {b : BoundSchema} (accepted : (bind s).result = some b) :
    ∀ r ∈ b.schema.rules, ∀ p ∈ r.params, ∃ f, b.schema.Means p f ∧ f.type = p.type := by
  obtain ⟨bound,known⟩ := bind_accepted accepted
  subst bound
  intro r kept p taken
  obtain ⟨rule,unclashed⟩ := List.mem_filter.mp kept
  have present : ¬ s.Lacks p := fun lacks => by
    have unknown := unknown_iff.mpr lacks
    rw [known r rule p taken] at unknown
    cases unknown
  obtain ⟨f,means⟩ := (lacks_or_means s p).resolve_left present
  refine ⟨f,means.of_rules _,?_⟩
  by_contra differ
  have clash := mismatch_iff.mpr ⟨f,means,differ⟩
  have silent : ∀ q ∈ r.params, (s.resolve q).isMismatch = false := by simpa using unclashed
  rw [silent p taken] at clash
  cases clash

-- Binding fails exactly when a parameter has the name of no field. Whether it fails or not, it says what there is to say of
-- every parameter in its place, and nothing else. What is bound is the schema with the rules that have no parameter of
-- another type than its field, and the index of these rules; binding it again gives the same and says nothing.
theorem binding_exact (s : Schema) :
    ((bind s).result = none ↔ ∃ r ∈ s.rules, ∃ p ∈ r.params, s.Lacks p) ∧
    (∃ told : List (List Diagnostic),
      List.Forall₂ (fun o items => s.Tells o.1 o.2 items) s.occurrences told ∧
        (bind s).diagnostics.items = told.flatten) ∧
    ∀ b, (bind s).result = some b →
      (∃ keep : Rule → Bool, (∀ r, keep r = true ↔ ∀ p ∈ r.params, ¬ s.Clashes p) ∧
        b = .ofSchema { s with rules := s.rules.filter keep }) ∧
      (∀ r ∈ b.schema.rules, ∀ p ∈ r.params, ∃ f, b.schema.Means p f ∧ f.type = p.type) ∧
      bind b.schema = ⟨some b,⟨[]⟩⟩ := by
  refine ⟨bind_fails_iff,bind_tells s,fun b accepted => ?_⟩
  have bound := (bind_accepted accepted).1
  have settled := bound_settled accepted
  refine ⟨⟨_,fun r => ?_,bound⟩,settled,?_⟩
  · simp only [Bool.not_eq_true',← Bool.not_eq_true,List.any_eq_true,mismatch_iff,not_exists,not_and]
  · have again := bind_settled settled
    rw [again]
    rw [show BoundSchema.ofSchema b.schema = b by rw [bound]; rfl]

end DomainSchema
