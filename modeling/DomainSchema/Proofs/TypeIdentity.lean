import DomainSchema.Proofs.Rebinding
import DomainSchema.Proofs.TypeText

namespace DomainSchema

-- Binding compares types part by part. How types are written does not always tell their parts apart.

def Schema.ReportsMismatch (s : Schema) (r : Rule) (p : Parameter) : Prop :=
  ∃ item ∈ s.paramDiagnostics r p, item.code = .typeMismatch

theorem reportsMismatch_iff {s : Schema} {r : Rule} {p : Parameter} {f : Field} (means : s.Means p f) :
    s.ReportsMismatch r p ↔ f.type ≠ p.type := by
  unfold Schema.ReportsMismatch Schema.paramDiagnostics
  rw [resolve_means means]
  by_cases same : f.type = p.type <;> simp [same]

-- The diagnostics are those of the parameters one after the other. A parameter that stands for a field is reported if the two
-- types differ as they are built: always if they are written differently, and only then if no path in them has a bracket or a
-- comma.
theorem mismatch_by_parts (s : Schema) :
    ((bind s).diagnostics.items = s.occurrences.flatMap fun o => s.paramDiagnostics o.1 o.2) ∧
    ∀ o ∈ s.occurrences, ∀ f, s.Means o.2 f →
      (s.ReportsMismatch o.1 o.2 ↔ f.type ≠ o.2.type) ∧
      (f.type.text ≠ o.2.type.text → s.ReportsMismatch o.1 o.2) ∧
      (f.type.Plain → o.2.type.Plain → (s.ReportsMismatch o.1 o.2 ↔ f.type.text ≠ o.2.type.text)) := by
  refine ⟨bind_occurrences s,fun o taken f means => ?_⟩
  have structural : s.ReportsMismatch o.1 o.2 ↔ f.type ≠ o.2.type := reportsMismatch_iff means
  refine ⟨structural,fun differ => structural.mpr fun same => differ (by rw [same]),fun plain plain' => ?_⟩
  rw [structural,ne_eq,ne_eq,TypeExpr.text_plain plain plain']

-- The brackets of a list stand in the path of a parameter's type, and in no path of the field's.
def spelledList : Schema where
  name := "crate::Basket"
  ident := "Basket"
  modulePath := none
  generics := []
  visibility := .hidden
  fields := [⟨"items",⟨"Vec",[⟨"i32",[]⟩]⟩,.none,some "items",.settable⟩]
  rules := [⟨"not_empty",[⟨"items",⟨"Vec<i32>",[]⟩⟩],.messages⟩]

theorem alike_text_mismatch : ¬ ∀ s : Schema, ∀ o ∈ s.occurrences, ∀ f, s.Means o.2 f →
    (s.ReportsMismatch o.1 o.2 ↔ f.type.text ≠ o.2.type.text) := by
  intro claimed
  have means : spelledList.Means ⟨"items",⟨"Vec<i32>",[]⟩⟩ ⟨"items",⟨"Vec",[⟨"i32",[]⟩]⟩,.none,some "items",.settable⟩ :=
    ⟨rfl,[],[],rfl,nofun⟩
  have told := claimed spelledList (_,_) List.mem_cons_self _ means
  exact told.mp ((reportsMismatch_iff means).mpr (by decide)) (by decide)

end DomainSchema
