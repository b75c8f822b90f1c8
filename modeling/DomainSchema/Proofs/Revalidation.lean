import DomainSchema.Proofs.Binding
import Mathlib.Logic.Function.Basic

namespace DomainSchema

-- Rules asked about the values that fields have by their names. A rule is a pure function of the values of its
-- parameters; what it reports may be of any kind.
section
variable {V E : Type} (report : Rule → List V → List E)

def Rule.findings (values : String → V) (r : Rule) : List E := report r (r.params.map fun p => values p.name)

def findings (values : String → V) (rules : List Rule) : List E := rules.flatMap (Rule.findings report values)

def BoundSchema.change (b : BoundSchema) (values : String → V) (change : String × V) : String → V :=
  let changed := Function.update values change.1 change.2
  if (findings report changed (b.rulesFor change.1)).isEmpty then changed else values

theorem unread_findings (values : String → V) (field : String) (value : V) (r : Rule)
    (unread : r.references field = false) :
    r.findings report (Function.update values field value) = r.findings report values := by
  have same : (r.params.map fun p => Function.update values field value p.name) = r.params.map fun p => values p.name := by
    apply List.map_congr_left
    intro p taken
    have apart : p.name ≠ field := by
      have other := List.any_eq_false.mp unread p taken
      simpa using other
    exact Function.update_of_ne apart _ _
  rw [Rule.findings,Rule.findings,same]

theorem flatMap_filter_of_silent (keep : α → Bool) (items : List α) (f : α → List β)
    (silent : ∀ item ∈ items, keep item = false → f item = []) : (items.filter keep).flatMap f = items.flatMap f := by
  induction items with
  | nil => rfl
  | cons item rest ih =>
    have tail := ih fun other member => silent other (List.mem_cons_of_mem _ member)
    cases kept : keep item with
    | true => rw [List.filter_cons_of_pos kept,List.flatMap_cons,List.flatMap_cons,tail]
    | false =>
      rw [List.filter_cons_of_neg (by simp [kept]),List.flatMap_cons,silent item (by simp) kept,tail,List.nil_append]

-- While every rule is satisfied, only the rules that take the field can have something against its new value.
theorem findings_after_update {s : Schema} {b : BoundSchema} (accepted : (bind s).result = some b)
    (values : String → V) (valid : ∀ r ∈ b.schema.rules, r.findings report values = []) (field : String) (value : V) :
    findings report (Function.update values field value) (b.rulesFor field) =
      findings report (Function.update values field value) b.schema.rules := by
  rw [bound_rulesFor accepted]
  apply flatMap_filter_of_silent
  intro r member unread
  rw [unread_findings report values field value r unread]
  exact valid r member

theorem change_valid {s : Schema} {b : BoundSchema} (accepted : (bind s).result = some b)
    (values : String → V) (valid : ∀ r ∈ b.schema.rules, r.findings report values = []) (change : String × V) :
    ∀ r ∈ b.schema.rules, r.findings report (b.change report values change) = [] := by
  unfold BoundSchema.change
  dsimp only
  split
  · rename_i silent
    rw [findings_after_update report accepted values valid,List.isEmpty_iff] at silent
    exact List.flatMap_eq_nil_iff.mp silent
  · exact valid

-- Asking the rules of one field after a change tells the same as asking all of them, in the same order; so
-- however many changes are tried on valid values, every rule stays satisfied.
theorem revalidation_exact {s : Schema} {b : BoundSchema} (accepted : (bind s).result = some b)
    (values : String → V) (valid : ∀ r ∈ b.schema.rules, r.findings report values = []) :
    (∀ field value, findings report (Function.update values field value) (b.rulesFor field) =
      findings report (Function.update values field value) b.schema.rules) ∧
    ∀ changes : List (String × V), ∀ r ∈ b.schema.rules,
      r.findings report (changes.foldl (b.change report) values) = [] := by
  refine ⟨findings_after_update report accepted values valid,?_⟩
  intro changes
  induction changes generalizing values with
  | nil => exact valid
  | cons change rest ih => exact ih _ (change_valid report accepted values valid change)

end

def batchValues (field : String) : List Nat := if field = "items" then [4,5] else if field = "label" then [3] else [0]

theorem batch_revalidation :
    let report (r : Rule) := batchMessages r.name
    let emptied := Function.update batchValues "items" []
    (bind batch).result = some (.ofSchema batch) ∧
    (∀ r ∈ batch.rules, r.findings report batchValues = []) ∧
    findings report emptied ((BoundSchema.ofSchema batch).rulesFor "items") = findings report emptied batch.rules ∧
    findings report emptied batch.rules = ["at least one number is required"] ∧
    ∀ r ∈ batch.rules,
      r.findings report ([("items",[]),("items",[7])].foldl ((BoundSchema.ofSchema batch).change report) batchValues) = [] := by
  intro report emptied
  have valid : ∀ r ∈ batch.rules, r.findings report batchValues = [] := by decide
  obtain ⟨same,kept⟩ := revalidation_exact report batch_bound batchValues valid
  exact ⟨batch_bound,valid,same "items" [],by decide,kept _⟩

end DomainSchema
