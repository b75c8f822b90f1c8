import DomainSchema.Proofs.Execution
import DomainSchema.Proofs.Gathering

namespace DomainSchema.Emission

-- A plain identifier is not marked as raw. Of what makes an identifier nothing else matters here.
def IsPlain (name : String) : Prop := '#' ∉ name.toList

instance (name : String) : Decidable (IsPlain name) := inferInstanceAs (Decidable ('#' ∉ name.toList))

structure Distinguished (fields : List Field) : Prop where
  distinct : (fields.map Field.name).Nodup
  plain : ∀ f ∈ fields, IsPlain f.name
  free : ∀ f ∈ fields, f.name ≠ errorsLocal

theorem marked_not_plain (name : String) : ¬ IsPlain ("r#" ++ name) := by
  intro plain
  exact plain (by simp [String.toList_append])

theorem ident_injective {a b : String} (plainA : IsPlain a) (plainB : IsPlain b) (same : ident a = ident b) : a = b := by
  unfold ident at same
  split at same <;> split at same
  · exact (String.append_right_inj _).mp same
  · exact absurd (same ▸ plainB) (marked_not_plain a)
  · exact absurd (same ▸ plainA) (marked_not_plain b)
  · exact same

theorem ident_ne_errors {name : String} (free : name ≠ errorsLocal) : ident name ≠ errorsLocal := by
  have plain : IsPlain errorsLocal := by decide
  unfold ident
  split
  · intro same
    exact marked_not_plain name (same ▸ plain)
  · exact free

theorem Distinguished.idents {fields : List Field} (d : Distinguished fields) :
    (fields.map fun f => ident f.name).Nodup := by
  have names := List.inj_on_of_nodup_map d.distinct
  apply (List.Nodup.of_map _ d.distinct).map_on
  intro f inF g inG same
  exact names inF inG (ident_injective (d.plain f inF) (d.plain g inG) same)

theorem Distinguished.errors_free {fields : List Field} (d : Distinguished fields) :
    errorsLocal ∉ fields.map fun f => ident f.name := by
  intro member
  obtain ⟨f,inF,same⟩ := List.mem_map.mp member
  exact ident_ne_errors (d.free f inF) same

section
variable {V : Type}

def Content.Fits : Content V → Nesting → Prop
  | .value _, .none | .result _, .single | .results _, .list => True
  | _, _ => False

-- Whether a nested argument fails. A failure without errors counts as well.
def Content.fails : Content V → Bool
  | .result r => r.isFailure
  | .results rs => rs.any (·.isFailure)
  | _ => false

def Content.failures (path : Option String) : Content V → List DomainError
  | .result r => r.errors.map (·.under path)
  | .results rs => rs.flatMap fun r => r.errors.map (·.under path)
  | _ => []

def Content.plain? (m : Meaning V) : Content V → Option V
  | .value v => some v
  | .result r => r.value?
  | .results rs => (rs.mapM DomainResult.value?).map m.collect
  | _ => none

theorem value_of_plain_field {field : Field} {c : Content V} (fits : c.Fits field.nesting)
    (plain : field.isNested = false) : ∃ v, c = .value v := by
  cases c with
  | value v => exact ⟨v,rfl⟩
  | result | results | unwrapped | errors =>
    cases kind : field.nesting <;> simp [kind,Content.Fits,Field.isNested] at fits plain

theorem nested_of_fails {field : Field} {c : Content V} (fits : c.Fits field.nesting) (failing : c.fails = true) :
    field.isNested = true := by
  cases nested : field.isNested with
  | true => rfl
  | false =>
    obtain ⟨v,rfl⟩ := value_of_plain_field fits nested
    cases failing

theorem elements_succeed {rs : List (DomainResult V)} (ok : (Content.results rs).fails = false) :
    ∀ r ∈ rs, r.isFailure = false := by
  intro r member
  simpa using List.any_eq_false.mp ok r member

theorem plain_of_not_fails {m : Meaning V} {c : Content V} {n : Nesting} (fits : c.Fits n) (ok : c.fails = false) :
    ∃ v, c.plain? m = some v := by
  cases c with
  | value v => exact ⟨v,rfl⟩
  | result r =>
    obtain ⟨v,rfl⟩ := value_of_not_failure ok
    exact ⟨v,rfl⟩
  | results rs =>
    obtain ⟨values,found⟩ := values_of_no_failure (elements_succeed ok)
    exact ⟨m.collect values,by simp [Content.plain?,found]⟩
  | unwrapped | errors => cases n <;> cases fits

theorem not_plain_of_fails {m : Meaning V} {c : Content V} (failed : c.fails = true) : c.plain? m = none := by
  cases c with
  | result r => exact no_value_of_failure failed
  | results rs =>
    obtain ⟨r,member,failure⟩ := List.any_eq_true.mp failed
    rw [Content.plain?,mapM_missing member (no_value_of_failure failure)]
    rfl
  | value | unwrapped | errors => cases failed

theorem no_failures_of_not_fails {c : Content V} (path : Option String) (ok : c.fails = false) :
    c.failures path = [] := by
  cases c with
  | result r => simp [Content.failures,no_errors_of_success ok]
  | results rs =>
    simp only [Content.failures,List.flatMap_eq_nil_iff]
    intro r member
    rw [no_errors_of_success (elements_succeed ok r member),List.map_nil]
  | value | unwrapped | errors => rfl

-- An aggregation unwraps the argument of a nested field, and leaves its errors with those that are there.
theorem aggregation_run (m : Meaning V) {f : Frame V} {found : List DomainError} {field : Field} {c : Content V}
    (nested : field.isNested = true) (fits : c.Fits field.nesting) (there : f.errors? = some found)
    (passed : f.locals.lookup (ident field.name) = some c) :
    (aggregation field).run m f = some (c.plain? m,f.setErrors (found ++ c.failures field.errorPath)) := by
  unfold Aggregation.run
  cases kind : field.nesting <;> cases c <;> simp only [kind,Content.Fits] at fits
  case none => simp [Field.isNested,kind] at nested
  case single r =>
    have one : (Nesting.single == Nesting.list) = false := rfl
    simp [aggregation,kind,one,there,passed,nested_exact,Content.plain?,Content.failures]
  case list rs =>
    simp [aggregation,kind,there,passed,nestedList_exact,Content.plain?,Content.failures]

end

end DomainSchema.Emission
