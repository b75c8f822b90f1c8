import DomainSchema.Proofs.Scoping

namespace DomainSchema.Emission

section
variable {V : Type} (m : Meaning V)

def BuildsGiven (s : Schema) : Prop :=
  ∀ (args : List (Content V)) (object : Fields V), List.Forall₂ (fun f c => c.Fits f.nesting) s.parameters args →
    (∀ c ∈ args, c.fails = false) → ∃ values : String → V,
      (∀ g ∈ s.parameters.zip args, g.2.plain? m = some (values g.1.name)) ∧
      (∀ f ∈ s.fields, f.isParameter = false → values f.name = m.initial f.type) ∧
      (findings (report m s) values s.rules = [] →
        (constructor s).run m object args = (.built (stored s.fields values),object))

def StoresGiven (b : BoundSchema) (f : Field) : Prop :=
  ∀ (current : String → V) (c : Content V), c.Fits f.nesting →
    let rules := b.schema.rules.filter (·.references f.name)
    let ran := (setter b f).run m (stored b.schema.fields current) [c]
    (∀ v, c.plain? m = some v → findings (report m b.schema) (Function.update current f.name v) rules = [] →
      ran.1 = .accepted) ∧
    (ran.1 = .accepted → ∃ v, c.plain? m = some v ∧ ran.2 = stored b.schema.fields (Function.update current f.name v))

theorem builds_given {s : Schema} (apart : Apart s.fields) (free : ∀ f ∈ s.fields, ¬ (constructor s).Captures f)
    (bound : ∀ r ∈ s.rules, ∀ p ∈ r.params, ∃ f ∈ s.fields, f.name = p.name) : BuildsGiven m s := by
  intro args object fit ok
  have params : (s.parameters.zip args).map Prod.fst = s.parameters := List.map_fst_zip (Nat.le_of_eq fit.length_eq)
  have passes : (s.parameters.zip args).map Prod.snd = args := List.map_snd_zip (Nat.le_of_eq fit.length_eq.symm)
  have names : validates s = true → ∀ f ∈ s.fields, f.name ≠ errorsLocal := fun validating f member =>
    ne_errors_of_bareName fun taken => free f member ⟨(constructor_accumulates s).mpr validating,taken⟩
  obtain ⟨values,plain,fixed,ran⟩ := constructor_yields m apart.idents names bound params
    (fun g member => List.forall₂_zip fit member) (fun g member => ok g.2 (List.of_mem_zip member).2) object
  refine ⟨values,plain,fixed,?_⟩
  intro silent
  rw [passes,if_pos silent] at ran
  exact ran

theorem stores_given {s : Schema} {b : BoundSchema} (accepted : (bind s).result = some b)
    (apart : Apart b.schema.fields) {f : Field} (member : f ∈ b.schema.fields) (free : ¬ (setter b f).Captures f) :
    StoresGiven m b f := by
  intro current c fits
  have name : (f.isNested || !(b.rulesFor f.name).isEmpty) = true → f.name ≠ errorsLocal := fun needed =>
    ne_errors_of_bareName fun taken => free ⟨(setter_accumulates b f).mpr needed,taken⟩
  dsimp only
  cases failing : c.fails with
  | true =>
    have nested := nested_of_fails fits failing
    have ran := (setter_fails (b := b) m (name (by simp [nested])) (stored b.schema.fields current) fits failing).1
    rw [not_plain_of_fails failing,ran]
    exact ⟨nofun,nofun⟩
  | false =>
    obtain ⟨v,plain,-,ran⟩ := setter_yields m accepted apart.idents member name current fits failing
    rw [plain,ran,bound_rulesFor accepted]
    constructor
    · intro w same silent
      cases same
      rw [if_pos silent]
    · intro ended
      split at ended
      · rename_i silent
        rw [if_pos silent]
        exact ⟨v,rfl,rfl⟩
      · cases ended

-- The one name that a routine can take from a field is that of its list of errors, and it takes it from a parameter exactly
-- where it has such a list. Elsewhere every identifier denotes what it was bound for, and values get through unchanged.
theorem capture_exact {s : Schema} {b : BoundSchema} (accepted : (bind s).result = some b) (apart : Apart s.fields)
    (settings : Settings) :
    schemaText b settings = openingText b.schema settings ++ constructorText b.schema settings ++
        settersText b settings b.schema.settableFields ++ "\x7d\n" ∧
      (∀ r ∈ routines b, r.Scoped m) ∧
      ((constructor b.schema).KeepsFields b.schema.fields ↔
        ∀ f ∈ b.schema.parameters, ¬ (constructor b.schema).Captures f) ∧
      ((∀ f ∈ b.schema.fields, ¬ (constructor b.schema).Captures f) →
        (∀ use, (constructor b.schema).Keeps b.schema.fields use) ∧ BuildsGiven m b.schema) ∧
      ∀ f ∈ b.schema.settableFields,
        ((setter b f).KeepsFields b.schema.fields ↔ ¬ (setter b f).Captures f) ∧
        (¬ (setter b f).Captures f → (∀ use, (setter b f).Keeps b.schema.fields use) ∧ StoresGiven m b f) := by
  rw [← bound_fields accepted] at apart
  have bound := bound_params accepted
  refine ⟨schemaText_parts b settings,fun r _ => r.scoped m,constructor_keeps apart bound,?_,?_⟩
  · intro free
    refine ⟨?_,builds_given m apart free bound⟩
    intro use
    cases use with
    | errors => exact constructor_errors free
    | receiver => exact constructor_no_receiver bound
    | field name =>
      have kept := (constructor_keeps apart bound).mpr fun f passed => free f (List.mem_filter.mp passed).1
      exact kept name
  · intro f settable
    obtain ⟨member,isSettable⟩ := List.mem_filter.mp settable
    have parameter : f.isParameter = true := by
      have set : f.mutability = .settable := by simpa [Field.isSettable] using isSettable
      simp [Field.isParameter,set]
    have keeps := setter_keeps apart member parameter
    refine ⟨keeps,?_⟩
    intro free
    refine ⟨?_,stores_given m accepted apart member free⟩
    intro use
    cases use with
    | errors => exact setter_errors free
    | receiver => exact setter_receiver (apart.named f member)
    | field name => exact keeps.mpr free name

end

theorem batch_apart : Apart batch.fields where
  distinct := by decide
  named := by decide

theorem batch_kept :
    let items : Field := ⟨"items",⟨"Vec",[⟨"PositiveInt",[]⟩]⟩,.list,some "Numbers",.settable⟩
    let object := [("items",[4,5]),("label",[3]),("revision",[0])]
    (bind batch).result = some (.ofSchema batch) ∧ Apart batch.fields ∧
    ((∀ use, (constructor batch).Keeps batch.fields use) ∧ BuildsGiven batchMeaning batch) ∧
    (∀ use, (setter (.ofSchema batch) items).Keeps batch.fields use) ∧
    (setter (.ofSchema batch) items).run batchMeaning object [.results [.success [6]]] =
      (.accepted,[("items",[6]),("label",[3]),("revision",[0])]) := by
  intro items object
  obtain ⟨-,-,-,construction,mutation⟩ := capture_exact batchMeaning batch_bound batch_apart {}
  have free : ∀ f ∈ batch.fields, bareName f.name ≠ errorsLocal := by decide
  have settable : items ∈ batch.settableFields := by decide
  obtain ⟨-,sets⟩ := mutation items settable
  obtain ⟨kept,stores⟩ := sets fun taken => free items (List.mem_filter.mp settable).1 taken.2
  obtain ⟨accepts,stored⟩ := stores batchValues (.results [.success [6]]) trivial
  have ended := accepts [6] rfl (by decide)
  obtain ⟨v,plain,after⟩ := stored ended
  cases plain
  exact ⟨batch_bound,batch_apart,construction fun f member taken => free f member taken.2,kept,Prod.ext ended after⟩

-- A total with the errors that were found about it, which someone has called by the name of the list of errors.
def ledger : Schema :=
  let errors : TypeExpr := ⟨"Vec",[⟨"::domain_forge_runtime::DomainError",[]⟩]⟩
  let total : TypeExpr := ⟨"i64",[]⟩
  { name := "Ledger"
    ident := "Ledger"
    modulePath := none
    generics := []
    visibility := .exported
    fields := [
      ⟨"__errors",errors,.none,some "__errors",.settable⟩,
      ⟨"total",total,.none,some "total",.settable⟩]
    rules := [⟨"total_is_positive",[⟨"total",total⟩],.messages⟩] }

-- Its constructor compiles. The object gets the empty list of errors in place of the caller's.
theorem ledger_captured :
    ¬ ∀ (s : Schema) (b : BoundSchema), (bind s).result = some b → Apart s.fields →
      (constructor b.schema).KeepsFields b.schema.fields ∧
        ∀ f ∈ b.schema.settableFields, (setter b f).KeepsFields b.schema.fields := by
  intro all
  have bound : (bind ledger).result = some (.ofSchema ledger) := by decide
  have apart : Apart ledger.fields := ⟨by decide,by decide⟩
  have taken : (Use.field "__errors",Origin.errors) ∈ denoted (constructor ledger).scope (constructor ledger).body := by
    decide
  obtain ⟨f,inside,-,meant⟩ := (all ledger _ bound apart).1 "__errors" .errors taken
  have other : ∀ f ∈ ledger.fields, Origin.errors ≠ bindingOf f := by decide
  exact other f inside meant

end DomainSchema.Emission
