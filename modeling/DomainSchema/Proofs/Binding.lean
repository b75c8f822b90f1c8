import DomainSchema.Proofs.RuleIndex

namespace DomainSchema

theorem bind_accepted {s : Schema} {b : BoundSchema} (accepted : (bind s).result = some b) :
    b = .ofSchema { s with rules := s.rules.filter fun r => !r.params.any fun p => (s.resolve p).isMismatch } ∧
      ∀ r ∈ s.rules, ∀ p ∈ r.params, (s.resolve p).isUnknown = false := by
  unfold bind at accepted
  dsimp only at accepted
  split at accepted
  · cases accepted
  · rename_i known
    refine ⟨(Option.some.inj accepted).symm,?_⟩
    simpa using known

theorem bound_fields {s : Schema} {b : BoundSchema} (accepted : (bind s).result = some b) :
    b.schema.fields = s.fields := by
  rw [(bind_accepted accepted).1]
  rfl

theorem resolved_field {s : Schema} {p : Parameter} (known : (s.resolve p).isUnknown = false) :
    ∃ f ∈ s.fields, f.name = p.name := by
  unfold Schema.resolve at known
  cases found : s.field? p.name with
  | none => simp [found,Resolution.isUnknown] at known
  | some f =>
    have named := List.find?_some found
    exact ⟨f,List.mem_of_find?_eq_some found,by simpa using named⟩

theorem bound_params {s : Schema} {b : BoundSchema} (accepted : (bind s).result = some b) :
    ∀ r ∈ b.schema.rules, ∀ p ∈ r.params, ∃ f ∈ b.schema.fields, f.name = p.name := by
  obtain ⟨bound,known⟩ := bind_accepted accepted
  intro r member p taken
  rw [bound] at member ⊢
  exact resolved_field (known r (List.mem_filter.mp member).1 p taken)

theorem bound_rulesFor {s : Schema} {b : BoundSchema} (accepted : (bind s).result = some b) (field : String) :
    b.rulesFor field = b.schema.rules.filter (·.references field) := by
  rw [(bind_accepted accepted).1]
  exact BoundSchema.rulesFor_indexed _ field

-- A labelled list of numbers, whose revision nobody passes.
def batch : Schema :=
  let items : TypeExpr := ⟨"Vec",[⟨"PositiveInt",[]⟩]⟩
  let label : TypeExpr := ⟨"String",[]⟩
  let revision : TypeExpr := ⟨"u32",[]⟩
  { name := "Batch"
    ident := "Batch"
    modulePath := some "shapes"
    generics := []
    visibility := .exported
    fields := [
      ⟨"items",items,.list,some "Numbers",.settable⟩,
      ⟨"label",label,.none,some "label",.once⟩,
      ⟨"revision",revision,.none,some "revision",.fixed⟩]
    rules := [
      ⟨"enough_items",[⟨"items",items⟩,⟨"revision",revision⟩],.messages⟩,
      ⟨"label_is_short",[⟨"label",label⟩],.messages⟩] }

theorem batch_bound : (bind batch).result = some (.ofSchema batch) := by decide

def batchMessages (rule : String) (values : List (List Nat)) : List String :=
  match rule, values with
  | "enough_items", [items,revision] =>
    if items.isEmpty && revision == [0] then ["at least one number is required"] else []
  | "label_is_short", [[length]] => if length > 16 then ["label is longer than 16 characters"] else []
  | _, _ => []

end DomainSchema
