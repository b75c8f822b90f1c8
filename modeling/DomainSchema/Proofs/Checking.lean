import DomainSchema.Proofs.Arguments
import DomainSchema.Proofs.Revalidation

namespace DomainSchema.Emission

section
variable {V : Type}

def stored (fields : List Field) (values : String → V) : Fields V := fields.map fun f => (ident f.name,values f.name)

def report (m : Meaning V) (s : Schema) (r : Rule) (values : List V) : List DomainError :=
  (m.rule r.name values).toErrors (s.messagePath r)

def question (argument : String → Argument) (r : Rule) : String × List Argument :=
  (r.name,r.params.map fun p => argument p.name)

theorem checks_ask (s : Schema) (rules : List Rule) (argument : String → Argument) :
    (rules.map (checkOf s · argument)).filterMap Statement.asks? = rules.map (question argument) := by
  rw [List.filterMap_map,← List.filterMap_eq_map]
  rfl

theorem checks_pass (m : Meaning V) (s : Schema) (argument : String → Argument) (values : String → V)
    (rules : List Rule) {f : Frame V} {found : List DomainError} (there : f.errors? = some found)
    (known : ∀ r ∈ rules, ∀ p ∈ r.params, ∀ errors, (f.setErrors errors).value? (argument p.name) = some (values p.name)) :
    Passes m f (rules.map (checkOf s · argument)) (f.setErrors (found ++ findings (report m s) values rules)) := by
  induction rules generalizing f found with
  | nil => simpa [findings,setErrors_same there] using Passes.nil
  | cons r rest ih =>
    have arguments : (r.params.map fun p => argument p.name).mapM f.value? = some (r.params.map fun p => values p.name) := by
      rw [List.mapM_map]
      apply mapM_found
      intro p taken
      have read := known r (by simp) p taken found
      rwa [setErrors_same there] at read
    have step : (checkOf s r argument).run m f = .ok (f.setErrors (found ++ r.findings (report m s) values)) := by
      simp only [checkOf,Statement.run,arguments,there]
      rfl
    have later := ih (setErrors_errors there (found ++ r.findings (report m s) values))
      fun other member p taken errors => by
        rw [setErrors_setErrors]
        exact known other (List.mem_cons_of_mem _ member) p taken errors
    rw [setErrors_setErrors,List.append_assoc] at later
    exact .cons step later

theorem accumulator_passes (m : Meaning V) (f : Frame V) (needed : Bool) :
    ∃ after, Passes m f (if needed then [.accumulator] else []) after ∧ after.object = f.object ∧
      (needed = true → after.errors? = some []) ∧
      ∀ name, (needed = true → name ≠ errorsLocal) → after.locals.lookup name = f.locals.lookup name := by
  cases needed with
  | false => exact ⟨f,.nil,rfl,by simp,fun _ _ => rfl⟩
  | true =>
    refine ⟨f.bind errorsLocal (.errors []),.single rfl,rfl,fun _ => ?_,fun name other => ?_⟩
    · rw [errors_lookup,bind_lookup,if_pos rfl]
    · rw [bind_lookup,if_neg (other rfl)]

theorem accumulator_asks_nothing (needed : Bool) :
    (if needed then [Statement.accumulator] else []).filterMap Statement.asks? = [] := by
  cases needed <;> rfl

theorem stopOnErrors_passes (m : Meaning V) {f : Frame V} (there : f.errors? = some []) :
    Passes m f [.stopOnErrors] f := .single (by simp [Statement.run,there])

theorem stopOnErrors_stops (m : Meaning V) {f : Frame V} {found : List DomainError} (there : f.errors? = some found)
    (some : found ≠ []) (rest : List Statement) :
    runStatements m f (.stopOnErrors :: rest) = (.failed found,f.object) := by
  simp [runStatements,Statement.run,there,some]

end

def batchMeaning : Meaning (List Nat) where
  rule name values := .ofMessages (batchMessages name values)
  initial _ := [0]
  collect := List.flatten

theorem batch_distinguished : Distinguished batch.fields where
  distinct := by decide
  plain := by decide
  free := by decide

end DomainSchema.Emission
