import DomainSchema.Analysis
import DomainSchema.Proofs.Binding

namespace DomainSchema

def Diagnostics.under (ds : Diagnostics) (name : String) : List Diagnostic := ds.items.filter (·.schema == name)

theorem blocking_error {item : Diagnostic} (blocks : item.code.blocks = true) : item.isError = true := by
  unfold Diagnostic.isError Diagnostic.severity
  cases code : item.code with
  | nonPrivateMutator =>
    rw [code] at blocks
    cases blocks
  | _ => rfl

theorem eq_of_noted {c : Prop} [Decidable c] {item note : Diagnostic} (found : item ∈ if c then [] else [note]) :
    item = note := by
  split at found
  · cases found
  · exact List.mem_singleton.mp found

theorem FieldDecl.findings {f : FieldDecl} {schema : String} {item : Diagnostic} (found : item ∈ f.diagnostics schema) :
    item.schema = schema ∧ (item.code = .renameArgument ∨ item.code = .nonPrivateMutator) := by
  rcases List.mem_append.mp found with unusable | exposed
  · split at unusable
    · cases List.mem_singleton.mp unusable
      exact ⟨rfl,.inl rfl⟩
    · cases unusable
  · split at exposed
    · cases eq_of_noted exposed
      exact ⟨rfl,.inr rfl⟩
    · cases exposed

theorem MethodDecl.findings {m : MethodDecl} {schema : String} {item : Diagnostic} (found : item ∈ m.diagnostics schema) :
    item.schema = schema ∧ (item.code = .impureRule ∨ item.code = .returnShape ∨ item.code = .parameterlessRule) := by
  rcases List.mem_append.mp found with found | bare
  · rcases List.mem_append.mp found with impure | shapeless
    · cases eq_of_noted impure
      exact ⟨rfl,.inl rfl⟩
    · cases eq_of_noted shapeless
      exact ⟨rfl,.inr (.inl rfl)⟩
  · split at bare
    · cases List.mem_singleton.mp bare
      exact ⟨rfl,.inr (.inr rfl)⟩
    · cases bare

-- A declaration by itself says nothing about repetition, and nothing about what the parameters of its rules are.
def DiagnosticCode.ofDeclaration : DiagnosticCode → Bool
  | .duplicateSchema | .typeMismatch | .memberNotFound => false
  | _ => true

theorem Declaration.findings {d : Declaration} {item : Diagnostic} (found : item ∈ d.diagnostics.items) :
    item.schema = d.qualifiedName ∧ item.code.ofDeclaration = true := by
  rcases List.mem_append.mp found with found | rules
  · rcases List.mem_append.mp found with found | fields
    · rcases List.mem_append.mp found with sealed | nested
      · cases eq_of_noted sealed
        exact ⟨rfl,rfl⟩
      · split at nested
        · cases List.mem_singleton.mp nested
          exact ⟨rfl,rfl⟩
        · cases nested
    · obtain ⟨f,-,here⟩ := List.mem_flatMap.mp fields
      obtain ⟨same,code | code⟩ := f.findings here <;> exact ⟨same,by rw [code]; rfl⟩
  · obtain ⟨m,-,here⟩ := List.mem_flatMap.mp rules
    obtain ⟨same,code | code | code⟩ := m.findings here <;> exact ⟨same,by rw [code]; rfl⟩

theorem Declaration.blocked_iff {d : Declaration} :
    d.diagnostics.blocks d.qualifiedName = true ↔ ∃ item ∈ d.diagnostics.items, item.code.blocks = true := by
  rw [Diagnostics.blocks,List.any_eq_true]
  constructor
  · rintro ⟨item,member,blocks⟩
    simp only [Bool.and_eq_true] at blocks
    exact ⟨item,member,blocks.1.2⟩
  · rintro ⟨item,member,blocks⟩
    have same := (Declaration.findings member).1
    exact ⟨item,member,by simp [same,blocks,blocking_error blocks]⟩

theorem param_findings {s : Schema} {r : Rule} {p : Parameter} {item : Diagnostic}
    (found : item ∈ s.paramDiagnostics r p) :
    item.schema = s.name ∧ item.member = some (r.name ++ "(" ++ p.name ++ ")") ∧
      (item.code = .memberNotFound ∧ (s.resolve p).isUnknown = true ∨
        item.code = .typeMismatch ∧ (s.resolve p).isMismatch = true) := by
  unfold Schema.paramDiagnostics at found
  split at found
  · rename_i unknown
    cases List.mem_singleton.mp found
    exact ⟨rfl,rfl,.inl ⟨rfl,by rw [unknown]; rfl⟩⟩
  · rename_i f mismatch
    cases List.mem_singleton.mp found
    exact ⟨rfl,rfl,.inr ⟨rfl,by rw [mismatch]; rfl⟩⟩
  · cases found

theorem unknown_reported {s : Schema} {p : Parameter} (r : Rule) (unknown : (s.resolve p).isUnknown = true) :
    ∃ item ∈ s.paramDiagnostics r p, item.code = .memberNotFound := by
  unfold Schema.paramDiagnostics
  cases resolved : s.resolve p with
  | unknown => exact ⟨_,List.mem_singleton_self _,rfl⟩
  | mismatch | matching => rw [resolved] at unknown; cases unknown

theorem mismatch_reported {s : Schema} {p : Parameter} (r : Rule) (mismatch : (s.resolve p).isMismatch = true) :
    ∃ item ∈ s.paramDiagnostics r p, item.code = .typeMismatch := by
  unfold Schema.paramDiagnostics
  cases resolved : s.resolve p with
  | mismatch f => exact ⟨_,List.mem_singleton_self _,rfl⟩
  | unknown | matching => rw [resolved] at mismatch; cases mismatch

theorem bind_findings {s : Schema} {item : Diagnostic} :
    item ∈ (bind s).diagnostics.items ↔ ∃ r ∈ s.rules, ∃ p ∈ r.params, item ∈ s.paramDiagnostics r p := by
  simp only [bind,List.mem_flatMap]

theorem bind_none_iff {s : Schema} :
    (bind s).result = none ↔ ∃ item ∈ (bind s).diagnostics.items, item.code.blocks = true := by
  constructor
  · intro none
    unfold bind at none
    dsimp only at none
    split at none
    · rename_i unknown
      obtain ⟨r,member,unknown⟩ := List.any_eq_true.mp unknown
      obtain ⟨p,taken,unknown⟩ := List.any_eq_true.mp unknown
      obtain ⟨item,reported,code⟩ := unknown_reported r unknown
      exact ⟨item,bind_findings.mpr ⟨r,member,p,taken,reported⟩,by rw [code]; rfl⟩
    · cases none
  · rintro ⟨item,found,blocks⟩
    obtain ⟨r,member,p,taken,found⟩ := bind_findings.mp found
    obtain ⟨-,-,⟨-,unknown⟩ | ⟨code,-⟩⟩ := param_findings found
    · cases bound : (bind s).result with
      | none => rfl
      | some b =>
        have known := (bind_accepted bound).2 r member p taken
        rw [known] at unknown
        cases unknown
    · rw [code] at blocks
      cases blocks

section
variable {d : Declaration} {index : TypeIndex} {settings : Settings}

theorem analyzed_blocked (blocked : d.diagnostics.blocks d.qualifiedName = true) :
    analyzeDeclaration d index settings = ⟨none,d.diagnostics⟩ := by
  simp [analyzeDeclaration,extract,blocked]

theorem analyzed_open (unblocked : d.diagnostics.blocks d.qualifiedName = false) :
    analyzeDeclaration d index settings = ⟨(bind (d.schema index settings)).result,
      d.diagnostics ++ (bind (d.schema index settings)).diagnostics⟩ := by
  simp [analyzeDeclaration,extract,unblocked]

theorem unblocked_of_made {b : BoundSchema} (made : (analyzeDeclaration d index settings).result = some b) :
    d.diagnostics.blocks d.qualifiedName = false := by
  cases blocked : d.diagnostics.blocks d.qualifiedName with
  | false => rfl
  | true =>
    rw [analyzed_blocked blocked] at made
    cases made

theorem analyzed_findings {item : Diagnostic} (found : item ∈ (analyzeDeclaration d index settings).diagnostics.items) :
    item.schema = d.qualifiedName ∧ item.code ≠ .duplicateSchema := by
  have own : item ∈ d.diagnostics.items → item.schema = d.qualifiedName ∧ item.code ≠ .duplicateSchema := by
    intro member
    obtain ⟨same,code⟩ := Declaration.findings member
    exact ⟨same,fun repeated => by rw [repeated] at code; cases code⟩
  cases blocked : d.diagnostics.blocks d.qualifiedName with
  | true =>
    rw [analyzed_blocked blocked] at found
    exact own found
  | false =>
    rw [analyzed_open blocked] at found
    rcases List.mem_append.mp found with member | bound
    · exact own member
    · obtain ⟨r,-,p,-,reported⟩ := bind_findings.mp bound
      obtain ⟨same,-,⟨code,-⟩ | ⟨code,-⟩⟩ := param_findings reported <;> exact ⟨same,by rw [code]; nofun⟩

theorem analyzed_none_iff : (analyzeDeclaration d index settings).result = none ↔
    ∃ item ∈ (analyzeDeclaration d index settings).diagnostics.items, item.code.blocks = true := by
  cases blocked : d.diagnostics.blocks d.qualifiedName with
  | true =>
    rw [analyzed_blocked blocked]
    exact iff_of_true rfl (Declaration.blocked_iff.mp blocked)
  | false =>
    have silent : ¬ ∃ item ∈ d.diagnostics.items, item.code.blocks = true := by
      rw [← Declaration.blocked_iff,blocked]
      nofun
    rw [analyzed_open blocked]
    refine bind_none_iff.trans ⟨?_,?_⟩
    · rintro ⟨item,found,blocks⟩
      exact ⟨item,List.mem_append_right _ found,blocks⟩
    · rintro ⟨item,found,blocks⟩
      rcases List.mem_append.mp found with own | bound
      · exact absurd ⟨item,own,blocks⟩ silent
      · exact ⟨item,bound,blocks⟩

theorem analyzed_name {b : BoundSchema} (made : (analyzeDeclaration d index settings).result = some b) :
    b.schema.name = d.qualifiedName := by
  rw [analyzed_open (unblocked_of_made made)] at made
  rw [(bind_accepted made).1]
  rfl

end

end DomainSchema
