import DomainSchema.Proofs.Checking
import DomainSchema.Proofs.SchemaText

namespace DomainSchema.Emission

section
variable {V : Type} (m : Meaning V)

theorem stored_lookup {fields : List Field} (distinct : (fields.map fun f => ident f.name).Nodup) (values : String → V)
    {f : Field} (member : f ∈ fields) : (stored fields values).lookup (ident f.name) = some (values f.name) := by
  apply lookup_distinct
  · simpa [stored,Function.comp_def] using distinct
  · exact List.mem_map.mpr ⟨f,member,rfl⟩

theorem stored_update {fields : List Field} (distinct : (fields.map fun f => ident f.name).Nodup) (values : String → V)
    {f : Field} (member : f ∈ fields) (v : V) :
    ((stored fields values).map fun (field,old) => (field,if field = ident f.name then v else old)) =
      stored fields (Function.update values f.name v) := by
  unfold stored
  rw [List.map_map]
  apply List.map_congr_left
  intro g inside
  by_cases same : g.name = f.name
  · simp [same]
  · have apart : ident g.name ≠ ident f.name := fun equal =>
      same (congrArg Field.name (List.inj_on_of_nodup_map distinct inside member equal))
    simp [same,apart]

theorem unwrap_fails {f : Frame V} {field : Field} {c : Content V} (nested : field.isNested = true)
    (fits : c.Fits field.nesting) (there : f.errors? = some []) (passed : f.locals.lookup (ident field.name) = some c)
    (failing : c.fails = true) :
    Statement.run m f (.unwrap (aggregation field)) = .error (.failed (c.failures field.errorPath)) := by
  have ran := aggregation_run m nested fits there passed
  rw [not_plain_of_fails failing,List.nil_append] at ran
  simp only [Statement.run,ran,setErrors_errors there]

theorem unwrap_passes {f : Frame V} {field : Field} {c : Content V} (nested : field.isNested = true)
    (fits : c.Fits field.nesting) (there : f.errors? = some []) (passed : f.locals.lookup (ident field.name) = some c)
    (ok : c.fails = false) :
    ∃ v, c.plain? m = some v ∧
      Statement.run m f (.unwrap (aggregation field)) = .ok (f.bind (ident field.name) (.value v)) := by
  obtain ⟨v,plain⟩ := plain_of_not_fails (m := m) fits ok
  have ran := aggregation_run m nested fits there passed
  rw [no_failures_of_not_fails _ ok,List.append_nil,setErrors_same there,plain] at ran
  refine ⟨v,plain,?_⟩
  simp only [Statement.run,ran]
  rfl

theorem new_value_passes {f : Frame V} {field : Field} {c : Content V}
    (free : field.isNested = true → field.name ≠ errorsLocal) (fits : c.Fits field.nesting)
    (there : field.isNested = true → f.errors? = some []) (passed : f.locals.lookup (ident field.name) = some c)
    (ok : c.fails = false) :
    ∃ v after, c.plain? m = some v ∧
      Passes m f (if field.isNested then [.unwrap (aggregation field)] else []) after ∧ after.object = f.object ∧
      after.errors? = f.errors? ∧ after.locals.lookup (ident field.name) = some (.value v) := by
  cases nested : field.isNested with
  | false =>
    obtain ⟨v,rfl⟩ := value_of_plain_field fits nested
    exact ⟨v,f,rfl,.nil,rfl,rfl,passed⟩
  | true =>
    obtain ⟨v,plain,ran⟩ := unwrap_passes m nested fits (there nested) passed ok
    refine ⟨v,f.bind (ident field.name) (.value v),plain,.single ran,rfl,?_,?_⟩
    · apply errors_of_same_lookup
      rw [bind_lookup,if_neg (Ne.symm (ident_ne_errors (free nested)))]
    · rw [bind_lookup,if_pos rfl]

def newOrStored (field name : String) : Argument := if name = field then .own name else .stored name

theorem newOrStored_value {fields : List Field} (distinct : (fields.map fun f => ident f.name).Nodup) {f : Frame V}
    {values : String → V} (object : f.object = stored fields values) {field : Field} {v : V}
    (new : f.locals.lookup (ident field.name) = some (.value v)) {g : Field} (member : g ∈ fields) :
    f.value? (newOrStored field.name g.name) = some (Function.update values field.name v g.name) := by
  unfold newOrStored
  by_cases same : g.name = field.name
  · rw [if_pos same,same,Function.update_self]
    simp only [Frame.value?,new]
  · rw [if_neg same,Function.update_of_ne same]
    simp only [Frame.value?,object,stored_lookup distinct values member]

theorem store_accepts {fields : List Field} (distinct : (fields.map fun f => ident f.name).Nodup) {f : Frame V}
    {values : String → V} (object : f.object = stored fields values) {field : Field} (member : field ∈ fields) {v : V}
    (new : f.locals.lookup (ident field.name) = some (.value v)) :
    runStatements m f [.store field.name,.accept] = (.accepted,stored fields (Function.update values field.name v)) ∧
      asked m f [.store field.name,.accept] = [] := by
  have step : Statement.run m f (.store field.name) =
      .ok { f with object := stored fields (Function.update values field.name v) } := by
    have read : f.value? (.own field.name) = some v := by simp only [Frame.value?,new]
    simp only [Statement.run,read,object,stored_update distinct values member v]
  constructor
  · simp only [runStatements,step]
    rfl
  · simp only [asked,step,Statement.asks?]
    rfl

def settlement (field : String) (rules : List Rule) : List Statement :=
  (if rules.isEmpty then [] else [.stopOnErrors]) ++ [.store field,.accept]

theorem settlement_run {fields : List Field} (distinct : (fields.map fun f => ident f.name).Nodup) {f : Frame V}
    {values : String → V} (object : f.object = stored fields values) {field : Field} (member : field ∈ fields) {v : V}
    (new : f.locals.lookup (ident field.name) = some (.value v)) {rules : List Rule} {found : List DomainError}
    (there : rules ≠ [] → f.errors? = some found) (silent : rules = [] → found = []) :
    runStatements m f (settlement field.name rules) =
        (if found = [] then (.accepted,stored fields (Function.update values field.name v))
          else (.failed found,stored fields values)) ∧
      asked m f (settlement field.name rules) = [] := by
  have stores := store_accepts m distinct object member new
  by_cases none : rules = []
  · simpa [settlement,none,silent none] using stores
  · have errors := there none
    by_cases nothing : found = []
    · rw [nothing] at errors
      have go := stopOnErrors_passes m errors
      have body : settlement field.name rules = [.stopOnErrors] ++ [.store field.name,.accept] := by
        simp [settlement,none]
      rw [body,go.run,go.asked,stores.1,stores.2,if_pos nothing]
      exact ⟨rfl,rfl⟩
    · have body : settlement field.name rules = .stopOnErrors :: [.store field.name,.accept] := by
        simp [settlement,none]
      rw [body,stopOnErrors_stops m errors nothing,if_neg nothing,object]
      exact ⟨rfl,by simp [asked,Statement.asks?,Statement.run,errors,nothing]⟩

def setterStart (b : BoundSchema) (f : Field) : List Statement :=
  if f.isNested || !(b.rulesFor f.name).isEmpty then [.accumulator] else []

theorem setter_body (b : BoundSchema) (f : Field) :
    (setter b f).body = setterStart b f ++ ((if f.isNested then [.unwrap (aggregation f)] else []) ++
      ((b.rulesFor f.name).map (checkOf b.schema · (newOrStored f.name)) ++ settlement f.name (b.rulesFor f.name))) := by
  simp only [setter,setterStart,settlement,List.append_assoc]
  rfl

theorem unwrap_asks_nothing (field : Field) :
    (if field.isNested then [Statement.unwrap (aggregation field)] else []).filterMap Statement.asks? = [] := by
  split <;> rfl

def Statement.ofSetter : Statement → Bool
  | .accumulator | .unwrap _ | .check _ _ _ | .stopOnErrors | .store _ | .accept => true
  | .aggregate _ | .unwrapAll _ | .initial _ _ | .construct _ => false

theorem setter_statements (b : BoundSchema) (f : Field) : (setter b f).body.all Statement.ofSetter = true := by
  have start : (setterStart b f).all Statement.ofSetter = true := by
    unfold setterStart
    split <;> rfl
  have unwraps : (if f.isNested then [Statement.unwrap (aggregation f)] else []).all Statement.ofSetter = true := by
    split <;> rfl
  have settles : (settlement f.name (b.rulesFor f.name)).all Statement.ofSetter = true := by
    unfold settlement
    split <;> rfl
  simp only [setter_body,List.all_append,start,unwraps,settles,List.all_map]
  simp [Statement.ofSetter,checkOf]

theorem setter_frame (b : BoundSchema) (f : Field) (object : Fields V) (c : Content V) :
    (setter b f).frame object [c] = ⟨[(ident f.name,c)],object⟩ := rfl

theorem setter_fails {b : BoundSchema} {f : Field} (free : f.name ≠ errorsLocal) (object : Fields V) {c : Content V}
    (fits : c.Fits f.nesting) (failing : c.fails = true) :
    (setter b f).run m object [c] = (.failed (c.failures f.errorPath),object) ∧ (setter b f).asked m object [c] = [] := by
  have nested := nested_of_fails fits failing
  obtain ⟨opened,opens,openedObject,errors,same⟩ :=
    accumulator_passes m ((setter b f).frame object [c]) (f.isNested || !(b.rulesFor f.name).isEmpty)
  have passed : opened.locals.lookup (ident f.name) = some c := by
    rw [same _ fun _ => ident_ne_errors free,setter_frame,lookup_cons_if,if_pos rfl]
  have stop := unwrap_fails m nested fits (errors (by simp [nested])) passed failing
  rw [Routine.run_frame,Routine.asked,setter_body,setterStart,opens.run,opens.asked,accumulator_asks_nothing]
  simp only [nested,if_true,List.cons_append,runStatements,asked,stop,openedObject]
  exact ⟨rfl,rfl⟩

theorem setter_checks {s : Schema} {b : BoundSchema} (accepted : (bind s).result = some b)
    (distinct : (b.schema.fields.map fun f => ident f.name).Nodup) {f : Field}
    (free : b.rulesFor f.name ≠ [] → f.name ≠ errorsLocal) {current : String → V} {ready : Frame V}
    (object : ready.object = stored b.schema.fields current) {v : V} (new : ready.locals.lookup (ident f.name) = some (.value v))
    (there : b.rulesFor f.name ≠ [] → ready.errors? = some []) :
    ∃ after, Passes m ready ((b.rulesFor f.name).map (checkOf b.schema · (newOrStored f.name))) after ∧
      after.object = ready.object ∧ after.locals.lookup (ident f.name) = some (.value v) ∧
      (b.rulesFor f.name ≠ [] → after.errors? =
        some (findings (report m b.schema) (Function.update current f.name v) (b.rulesFor f.name))) := by
  by_cases none : b.rulesFor f.name = []
  · rw [none]
    exact ⟨ready,.nil,rfl,new,by simp⟩
  · have kept : ∀ es, (ready.setErrors es).locals.lookup (ident f.name) = some (.value v) := by
      intro es
      rw [setErrors_lookup ready es (ident_ne_errors (free none))]
      exact new
    have known : ∀ r ∈ b.rulesFor f.name, ∀ p ∈ r.params, ∀ es,
        (ready.setErrors es).value? (newOrStored f.name p.name) = some (Function.update current f.name v p.name) := by
      intro r asked p taken es
      rw [bound_rulesFor accepted] at asked
      obtain ⟨g,inside,named⟩ := bound_params accepted r (List.mem_filter.mp asked).1 p taken
      rw [← named]
      exact newOrStored_value (f := ready.setErrors es) distinct object (kept es) inside
    have path := checks_pass m b.schema (newOrStored f.name) _ (b.rulesFor f.name) (there none) known
    exact ⟨_,path,rfl,kept _,fun _ => setErrors_errors (there none) _⟩

-- A list of errors is there only where something can be found. Elsewhere its name is free for the field.
theorem setter_yields {s : Schema} {b : BoundSchema} (accepted : (bind s).result = some b)
    (distinct : (b.schema.fields.map fun f => ident f.name).Nodup) {f : Field} (member : f ∈ b.schema.fields)
    (free : (f.isNested || !(b.rulesFor f.name).isEmpty) = true → f.name ≠ errorsLocal) (current : String → V)
    {c : Content V} (fits : c.Fits f.nesting) (ok : c.fails = false) :
    ∃ v, c.plain? m = some v ∧
      (setter b f).asked m (stored b.schema.fields current) [c] = (b.rulesFor f.name).map (question (newOrStored f.name)) ∧
      (setter b f).run m (stored b.schema.fields current) [c] =
        if findings (report m b.schema) (Function.update current f.name v) (b.rulesFor f.name) = [] then
          (.accepted,stored b.schema.fields (Function.update current f.name v))
        else (.failed (findings (report m b.schema) (Function.update current f.name v) (b.rulesFor f.name)),
          stored b.schema.fields current) := by
  have nestedFree : f.isNested = true → f.name ≠ errorsLocal := fun nested => free (by simp [nested])
  have ruledFree : b.rulesFor f.name ≠ [] → f.name ≠ errorsLocal := fun some => free (by simp [some])
  obtain ⟨opened,opens,openedObject,errors,same⟩ := accumulator_passes m
    ((setter b f).frame (stored b.schema.fields current) [c]) (f.isNested || !(b.rulesFor f.name).isEmpty)
  have passed : opened.locals.lookup (ident f.name) = some c := by
    rw [same _ fun needed => ident_ne_errors (free needed),setter_frame,lookup_cons_if,if_pos rfl]
  obtain ⟨v,ready,plain,unwraps,readyObject,readyErrors,new⟩ :=
    new_value_passes m nestedFree fits (fun nested => errors (by simp [nested])) passed ok
  have object : ready.object = stored b.schema.fields current := readyObject.trans openedObject
  refine ⟨v,plain,?_⟩
  obtain ⟨after,checks,afterObject,afterNew,afterErrors⟩ := setter_checks m accepted distinct ruledFree object new
    fun some => by rw [readyErrors]; exact errors (by simp [some])
  have ended := settlement_run m distinct (afterObject.trans object) member afterNew afterErrors
    (fun none => by rw [none]; rfl)
  rw [Routine.run_frame,Routine.asked,setter_body,setterStart,opens.run,unwraps.run,checks.run,opens.asked,unwraps.asked,
    checks.asked,ended.1,ended.2,accumulator_asks_nothing,unwrap_asks_nothing,checks_ask]
  simp

theorem setter_settles {s : Schema} {b : BoundSchema} (accepted : (bind s).result = some b)
    (d : Distinguished b.schema.fields) {f : Field} (member : f ∈ b.schema.fields) (current : String → V)
    {c : Content V} (fits : c.Fits f.nesting) (ok : c.fails = false) :
    ∃ v, c.plain? m = some v ∧
      (setter b f).asked m (stored b.schema.fields current) [c] = (b.rulesFor f.name).map (question (newOrStored f.name)) ∧
      (setter b f).run m (stored b.schema.fields current) [c] =
        if findings (report m b.schema) (Function.update current f.name v) (b.rulesFor f.name) = [] then
          (.accepted,stored b.schema.fields (Function.update current f.name v))
        else (.failed (findings (report m b.schema) (Function.update current f.name v) (b.rulesFor f.name)),
          stored b.schema.fields current) :=
  setter_yields m accepted d.idents member (fun _ => d.free f member) current fits ok

-- A setter unwraps the new value and asks the rules that take the field, about the new value and the other
-- fields as they are. Unless something is found the field gets the value; else the object stays as it was.
theorem setter_protocol {s : Schema} {b : BoundSchema} (accepted : (bind s).result = some b)
    (d : Distinguished s.fields) (settings : Settings) {f : Field} (settable : f ∈ b.schema.settableFields)
    (current : String → V) (c : Content V) (fits : c.Fits f.nesting) :
    (∃ earlier later, b.schema.settableFields = earlier ++ f :: later ∧
      schemaText b settings = openingText b.schema settings ++ constructorText b.schema settings ++
        settersText b settings earlier ++ ("\n" ++ setterText b settings f) ++ settersText b settings later ++ "\x7d\n") ∧
    (setter b f).body.all Statement.ofSetter = true ∧
    let object := stored b.schema.fields current
    let rules := b.schema.rules.filter (·.references f.name)
    if c.fails then
      (setter b f).run m object [c] = (.failed (c.failures f.errorPath),object) ∧ (setter b f).asked m object [c] = []
    else ∃ v, c.plain? m = some v ∧
      let changed := Function.update current f.name v
      let found := findings (report m b.schema) changed rules
      (setter b f).asked m object [c] = rules.map (question (newOrStored f.name)) ∧
      (setter b f).run m object [c] =
        if found = [] then (.accepted,stored b.schema.fields changed) else (.failed found,object) := by
  rw [← bound_fields accepted] at d
  have member : f ∈ b.schema.fields := (List.mem_filter.mp settable).1
  refine ⟨?_,setter_statements b f,?_⟩
  · obtain ⟨earlier,later,parts⟩ := List.append_of_mem settable
    refine ⟨earlier,later,parts,?_⟩
    have step : settersText b settings (f :: later) = "\n" ++ setterText b settings f ++ settersText b settings later := rfl
    rw [schemaText_parts,parts,settersText_append,step]
    simp only [String.append_assoc]
  · dsimp only
    split
    · rename_i failing
      exact setter_fails m (d.free f member) _ fits failing
    · rename_i fine
      have settled := setter_settles m accepted d member current fits (Bool.eq_false_iff.mpr fine)
      rw [bound_rulesFor accepted] at settled
      exact settled

end

theorem batch_not_emptied :
    let items : Field := ⟨"items",⟨"Vec",[⟨"PositiveInt",[]⟩]⟩,.list,some "Numbers",.settable⟩
    let object := [("items",[4,5]),("label",[3]),("revision",[0])]
    (bind batch).result = some (.ofSchema batch) ∧ Distinguished batch.fields ∧ items ∈ batch.settableFields ∧
    (Content.results [] : Content (List Nat)).Fits items.nesting ∧
    (setter (.ofSchema batch) items).run batchMeaning object [.results []] =
      (.failed [⟨some "Numbers","at least one number is required"⟩],object) := by
  intro items object
  have settable : items ∈ batch.settableFields := by decide
  obtain ⟨-,-,v,plain,-,ran⟩ :=
    setter_protocol batchMeaning batch_bound batch_distinguished {} settable batchValues (.results []) trivial
  cases plain
  exact ⟨batch_bound,batch_distinguished,settable,trivial,ran⟩

end DomainSchema.Emission
