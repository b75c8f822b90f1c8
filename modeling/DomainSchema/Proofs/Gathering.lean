import DomainSchema.Proofs.Entries
import DomainSchema.Validation

namespace DomainSchema

theorem nested_exact (errors : List DomainError) (path : Option String) (r : DomainResult α) :
    nested errors path r = (r.value?,errors ++ r.errors.map (·.under path)) := by
  cases r with
  | success value => simp [nested,DomainResult.value?,DomainResult.errors]
  | failure inner => rfl

-- One failing element is enough for there to be no values, but the elements after it still add their errors.
theorem nestedList_exact (errors : List DomainError) (path : Option String) (rs : List (DomainResult α)) :
    nestedList errors path rs =
      (rs.mapM DomainResult.value?,errors ++ rs.flatMap fun r => r.errors.map (·.under path)) := by
  induction rs generalizing errors with
  | nil => simp [nestedList]
  | cons r rest ih =>
    cases r with
    | success value =>
      simp only [nestedList,ih,List.mapM_cons,List.flatMap_cons]
      cases rest.mapM DomainResult.value? <;> simp [DomainResult.value?,DomainResult.errors]
    | failure inner => simp [nestedList,ih,DomainResult.value?,DomainResult.errors]

theorem value_of_not_failure {r : DomainResult α} (ok : r.isFailure = false) : ∃ value, r = .success value := by
  cases r with
  | success value => exact ⟨value,rfl⟩
  | failure inner => simp [DomainResult.isFailure,DomainResult.isSuccess] at ok

theorem values_of_no_failure {rs : List (DomainResult α)} (ok : ∀ r ∈ rs, r.isFailure = false) :
    ∃ values, rs.mapM DomainResult.value? = some values := by
  induction rs with
  | nil => exact ⟨[],rfl⟩
  | cons r rest ih =>
    obtain ⟨value,rfl⟩ := value_of_not_failure (ok r (by simp))
    obtain ⟨values,rest⟩ := ih fun other member => ok other (List.mem_cons_of_mem _ member)
    exact ⟨value :: values,by simp [rest,DomainResult.value?]⟩

theorem no_value_of_failure {r : DomainResult α} (failed : r.isFailure = true) : r.value? = none := by
  cases r with
  | success value => cases failed
  | failure inner => rfl

theorem no_errors_of_success {r : DomainResult α} (ok : r.isFailure = false) : r.errors = [] := by
  obtain ⟨value,rfl⟩ := value_of_not_failure ok
  rfl

theorem successes_of_no_failure {rs : List (DomainResult α)} (ok : rs.any (·.isFailure) = false) :
    ∃ values : List α, rs = values.map .success := by
  induction rs with
  | nil => exact ⟨[],rfl⟩
  | cons r rest ih =>
    obtain ⟨first,rest⟩ := Bool.or_eq_false_iff.mp ok
    obtain ⟨value,rfl⟩ := value_of_not_failure first
    obtain ⟨values,rfl⟩ := ih rest
    exact ⟨value :: values,rfl⟩

theorem nestedList_values (errors : List DomainError) (path : Option String) (values : List α) :
    nestedList errors path (values.map .success) = (some values,errors) := by
  induction values with
  | nil => rfl
  | cons value rest ih => simp [nestedList,ih]

theorem DomainResult.map_isFailure (f : α → β) (r : DomainResult α) : (r.map f).isFailure = r.isFailure := by cases r <;> rfl

theorem DomainResult.map_errors (f : α → β) (r : DomainResult α) : (r.map f).errors = r.errors := by cases r <;> rfl

end DomainSchema
