import DomainSchema.Proofs.Gathering

namespace DomainSchema

-- What a rule may return. Each of these is converted into an outcome before it is checked.
inductive Returned where
  | nothing
  | messages (texts : List String)
  | errors (found : List DomainError)
  | outcome (given : RuleOutcome)
  | absent
  | present (inner : Returned)

namespace Returned

def toOutcome : Returned → RuleOutcome
  | .nothing => .valid
  | .messages texts => .ofMessages texts
  | .errors found => .ofErrors found
  | .outcome given => given
  | .absent => .ofOption none
  | .present inner => .ofOption (some inner.toOutcome)

def findings : Returned → List Violation
  | .nothing | .absent | .outcome .valid => []
  | .messages texts => texts.map .message
  | .errors found => found.map .error
  | .outcome (.violations found) => found
  | .present inner => inner.findings

end Returned

def DomainResult.reportedUnder (path : Option String) : DomainResult α → List DomainError
  | .success _ => []
  | .failure errors => errors.map fun e => { field := composePath path e.field, message := e.message }

inductive Call : Type 1 where
  | nested {α : Type} (path : Option String) (result : DomainResult α)
  | nestedList {α : Type} (path : Option String) (results : List (DomainResult α))
  | check (path : Option String) (returned : Returned)

namespace Call

def perform (errors : List DomainError) : Call → List DomainError
  | nested path result => (DomainSchema.nested errors path result).2
  | nestedList path results => (DomainSchema.nestedList errors path results).2
  | check path returned => DomainSchema.check errors path returned.toOutcome

-- What the call reports, whatever is in the list. Only a message takes the path of a rule; an error of its own keeps the
-- path it has, also if it has none.
def reports : Call → List DomainError
  | nested path result => result.reportedUnder path
  | nestedList path results => results.flatMap (·.reportedUnder path)
  | check path returned => returned.findings.map fun
    | .message text => { field := path, message := text }
    | .error e => e

end Call

def performAll (errors : List DomainError) (calls : List Call) : List DomainError := calls.foldl Call.perform errors

theorem reportedUnder_errors (path : Option String) (r : DomainResult α) :
    r.reportedUnder path = r.errors.map (·.under path) := by
  cases r <;> rfl

theorem toErrors_findings (path : Option String) (returned : Returned) :
    returned.toOutcome.toErrors path = returned.findings.map (Violation.toError path) := by
  induction returned with
  | nothing | absent | messages | errors => rfl
  | outcome given => cases given <;> rfl
  | present inner ih => exact ih

theorem isValid_findings (returned : Returned) : returned.toOutcome.isValid = returned.findings.isEmpty := by
  induction returned with
  | nothing | absent => rfl
  | messages texts => cases texts <;> rfl
  | errors found => cases found <;> rfl
  | outcome given => cases given <;> rfl
  | present inner ih => exact ih

theorem Call.perform_exact (call : Call) (errors : List DomainError) : call.perform errors = errors ++ call.reports := by
  cases call with
  | nested path result => rw [perform,nested_exact,reports,reportedUnder_errors]
  | nestedList path results =>
    rw [perform,nestedList_exact,reports]
    exact congrArg (errors ++ results.flatMap ·) (funext fun r => (reportedUnder_errors path r).symm)
  | check path returned =>
    rw [perform,DomainSchema.check,toErrors_findings,reports]
    refine congrArg (errors ++ ·) (List.map_congr_left fun violation _ => ?_)
    cases violation <;> rfl

theorem performAll_exact (errors : List DomainError) (calls : List Call) :
    performAll errors calls = errors ++ calls.flatMap Call.reports := by
  induction calls generalizing errors with
  | nil => exact (List.append_nil errors).symm
  | cons call rest ih =>
    calc performAll errors (call :: rest)
        = performAll (errors ++ call.reports) rest := by rw [← call.perform_exact]; rfl
      _ = errors ++ (call.reports ++ rest.flatMap Call.reports) := by rw [ih,List.append_assoc]
      _ = errors ++ (call :: rest).flatMap Call.reports := by rw [List.flatMap_cons]

theorem value_some {r : DomainResult α} {value : α} : r.value? = some value ↔ r = .success value := by
  cases r <;> simp [DomainResult.value?]

theorem values_some {rs : List (DomainResult α)} {values : List α} :
    rs.mapM DomainResult.value? = some values ↔ rs = values.map .success := by
  constructor
  · intro read
    induction rs generalizing values with
    | nil =>
      cases read
      rfl
    | cons r rest ih =>
      rw [List.mapM_cons] at read
      obtain ⟨value,first,read⟩ := Option.bind_eq_some_iff.mp read
      obtain ⟨others,later,read⟩ := Option.bind_eq_some_iff.mp read
      cases read
      rw [value_some.mp first,ih later,List.map_cons]
  · rintro rfl
    have each : ∀ value ∈ values, (DomainResult.value? ∘ DomainResult.success) value = some (id value) := fun _ _ => rfl
    rw [List.mapM_map,mapM_found id each,List.map_id]

theorem successes_iff {rs : List (DomainResult α)} :
    (∃ values : List α, rs = values.map .success) ↔ ∀ r ∈ rs, r.isSuccess = true := by
  constructor
  · rintro ⟨values,rfl⟩ r member
    obtain ⟨value,-,rfl⟩ := List.mem_map.mp member
    rfl
  · intro ok
    have unfailed : ∀ r ∈ rs, r.isFailure = false := fun r member => by simp [DomainResult.isFailure,ok r member]
    obtain ⟨values,found⟩ := values_of_no_failure unfailed
    exact ⟨values,values_some.mp found⟩

theorem check_silent_iff {errors : List DomainError} {path : Option String} {outcome : RuleOutcome} :
    check errors path outcome = errors ↔ outcome.isValid = true := by
  rw [check,List.append_right_eq_self]
  cases outcome <;> simp [RuleOutcome.toErrors,RuleOutcome.isValid]

-- After any calls the list is what it was, followed by what each call reports, in the order of the calls; a list of
-- nested results reports what its elements would report one by one. Values are returned exactly where there is no
-- failure, even one without errors, and a check changes nothing exactly where the outcome is valid.
theorem errors_gathered (errors : List DomainError) (calls : List Call) :
    performAll errors calls = errors ++ calls.flatMap Call.reports ∧
    (∀ {α : Type} (path : Option String) (rs : List (DomainResult α)),
      performAll errors [.nestedList path rs] = performAll errors (rs.map (.nested path))) ∧
    (∀ {α : Type} (path : Option String) (r : DomainResult α) (value : α),
      (nested errors path r).1 = some value ↔ r = .success value) ∧
    (∀ {α : Type} (path : Option String) (rs : List (DomainResult α)),
      ((nestedList errors path rs).1.isSome = true ↔ ∀ r ∈ rs, r.isSuccess = true) ∧
      ∀ values, (nestedList errors path rs).1 = some values ↔ rs = values.map .success) ∧
    ∀ (path : Option String) (returned : Returned),
      (check errors path returned.toOutcome = errors ↔ returned.toOutcome.isValid = true) ∧
      (returned.toOutcome.isValid = true ↔ returned.findings = []) := by
  refine ⟨performAll_exact errors calls,?_,?_,?_,?_⟩
  · intro α path rs
    rw [performAll_exact,performAll_exact,List.flatMap_map,List.flatMap_singleton]
    rfl
  · intro α path r value
    rw [nested_exact]
    exact value_some
  · intro α path rs
    rw [nestedList_exact,Option.isSome_iff_exists,← successes_iff]
    exact ⟨exists_congr fun values => values_some,fun values => values_some⟩
  · intro path returned
    refine ⟨check_silent_iff,?_⟩
    rw [isValid_findings,List.isEmpty_iff]

end DomainSchema
