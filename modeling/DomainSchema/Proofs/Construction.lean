import DomainSchema.Proofs.Checking
import DomainSchema.Proofs.SchemaText
import DomainSchema.Proofs.Unwrapping
import Mathlib.Data.List.Forall2

namespace DomainSchema.Emission

section
variable {V : Type} (m : Meaning V)

theorem initials_enter (fields : List Field) (f : Frame V) :
    Passes m f (fields.map fun g => .initial g.name g.type)
      (f.enter (fields.map fun g => (ident g.name,Content.value (m.initial g.type)))) := by
  induction fields generalizing f with
  | nil => exact .nil
  | cons g rest ih =>
    have later := ih (f.bind (ident g.name) (.value (m.initial g.type)))
    refine .cons rfl ?_
    simpa [Frame.enter,Frame.bind] using later

theorem initials_pass {fields : List Field} (f : Frame V) (distinct : (fields.map fun g => ident g.name).Nodup) :
    ∃ after, Passes m f (fields.map fun g => .initial g.name g.type) after ∧ after.object = f.object ∧
      (∀ g ∈ fields, after.locals.lookup (ident g.name) = some (.value (m.initial g.type))) ∧
      ∀ name, name ∉ fields.map (fun g => ident g.name) → after.locals.lookup name = f.locals.lookup name := by
  let entries := fields.map fun g => (ident g.name,Content.value (m.initial g.type))
  have keys : entries.map Prod.fst = fields.map fun g => ident g.name := by simp [entries,Function.comp_def]
  refine ⟨f.enter entries,initials_enter m fields f,rfl,?_,?_⟩
  · intro g member
    exact enter_found (by rw [keys]; exact distinct) (List.mem_map.mpr ⟨g,member,rfl⟩)
  · intro name absent
    exact enter_other (by rw [keys]; exact absent)

def Frame.values (f : Frame V) (name : String) : V := (f.value? (.own name)).getD (m.collect [])

theorem values_read {f : Frame V} {name : String} {v : V} (held : f.locals.lookup (ident name) = some (.value v)) :
    f.value? (.own name) = some (f.values m name) ∧ f.values m name = v := by
  have read : f.value? (.own name) = some v := by simp [Frame.value?,held]
  simp [Frame.values,read]

theorem construct_fields {f : Frame V} {fields : List Field} (values : String → V)
    (known : ∀ g ∈ fields, f.value? (.own g.name) = some (values g.name)) :
    runStatements m f [.construct (fields.map (·.name))] =
      (.built (stored fields values),f.object) := by
  have all : ((fields.map (·.name)).mapM fun name => f.value? (.own name)) = some (fields.map fun g => values g.name) := by
    rw [List.mapM_map]
    exact mapM_found (fun g : Field => values g.name) known
  simp only [runStatements,Statement.run,all,List.map_map,List.zip_map']
  rfl

theorem construct_asks_nothing (f : Frame V) (names : List String) : asked m f [.construct names] = [] := by
  simp only [asked,Statement.asks?,Option.toList_none,List.nil_append]
  split <;> rfl

theorem verdict_run {f : Frame V} {fields : List Field} (values : String → V) {found : List DomainError}
    (known : ∀ g ∈ fields, f.value? (.own g.name) = some (values g.name)) (there : f.errors? = some found) :
    runStatements m f [.stopOnErrors,.construct (fields.map (·.name))] =
        (if found = [] then .built (stored fields values) else .failed found,f.object) ∧
      asked m f [.stopOnErrors,.construct (fields.map (·.name))] = [] := by
  by_cases silent : found = []
  · rw [silent] at there
    have go := stopOnErrors_passes m there
    have runs := go.run [.construct (fields.map (·.name))]
    have asks := go.asked [.construct (fields.map (·.name))]
    rw [construct_fields m values known] at runs
    rw [construct_asks_nothing] at asks
    rw [if_pos silent]
    exact ⟨runs,asks⟩
  · refine ⟨?_,?_⟩
    · rw [stopOnErrors_stops m there silent,if_neg silent]
    · simp [asked,Statement.asks?,Statement.run,there,silent]

def validates (s : Schema) : Bool := !(s.parameters.filter Field.isNested).isEmpty || !s.rules.isEmpty

def preparation (s : Schema) : List Statement :=
  (if validates s then [.accumulator] else []) ++ (unwrapping (s.parameters.filter Field.isNested) ++
    (s.fields.filter fun f => !f.isParameter).map fun f => .initial f.name f.type)

def conclusion (s : Schema) : List Statement :=
  s.rules.map (checkOf s · .own) ++ ((if validates s then [.stopOnErrors] else []) ++ [.construct (s.fields.map (·.name))])

theorem preparation_asks_nothing (s : Schema) : (preparation s).filterMap Statement.asks? = [] := by
  have unwraps : (unwrapping (s.parameters.filter Field.isNested)).filterMap Statement.asks? = [] := by
    unfold unwrapping
    split <;> simp [Statement.asks?,List.filterMap_map,Function.comp_def]
  simp [preparation,accumulator_asks_nothing,unwraps,Statement.asks?,List.filterMap_map,Function.comp_def]

theorem constructor_body (s : Schema) : (constructor s).body = preparation s ++ conclusion s := by
  simp only [constructor,preparation,conclusion,unwrapping,validates,List.append_assoc]
  rfl

theorem conclusion_run {s : Schema} {f : Frame V} (values : String → V)
    (known : ∀ g ∈ s.fields, f.value? (.own g.name) = some (values g.name))
    (free : validates s = true → ∀ g ∈ s.fields, g.name ≠ errorsLocal)
    (bound : ∀ r ∈ s.rules, ∀ p ∈ r.params, ∃ g ∈ s.fields, g.name = p.name)
    (there : validates s = true → f.errors? = some []) :
    runStatements m f (conclusion s) =
        (if findings (report m s) values s.rules = [] then .built (stored s.fields values)
          else .failed (findings (report m s) values s.rules),f.object) ∧
      asked m f (conclusion s) = s.rules.map (question .own) := by
  cases needed : validates s with
  | false =>
    have none : s.rules = [] := by
      simp only [validates,Bool.or_eq_false_iff,Bool.not_eq_false'] at needed
      exact List.isEmpty_iff.mp needed.2
    refine ⟨?_,?_⟩
    · simpa [conclusion,needed,none,findings] using construct_fields m values known
    · simpa [conclusion,needed,none] using construct_asks_nothing m f _
  | true =>
    have unaffected : ∀ g ∈ s.fields, ∀ errors, (f.setErrors errors).value? (.own g.name) = some (values g.name) := by
      intro g member errors
      rw [← known g member]
      simp only [Frame.value?,setErrors_lookup f errors (ident_ne_errors (free needed g member))]
    have path := checks_pass m s .own values s.rules (there needed) fun r member p taken errors => by
      obtain ⟨g,inside,same⟩ := bound r member p taken
      rw [← same]
      exact unaffected g inside errors
    rw [List.nil_append] at path
    have gathered := setErrors_errors (there needed) (findings (report m s) values s.rules)
    have verdict := verdict_run m values (fun g member => unaffected g member _) gathered
    simp only [conclusion,needed,if_true,path.run,path.asked,checks_ask,List.singleton_append]
    rw [verdict.1,verdict.2,List.append_nil]
    exact ⟨rfl,rfl⟩

theorem frame_held {s : Schema} (distinct : (s.fields.map fun f => ident f.name).Nodup) {given : List (Given V)}
    (params : given.map Prod.fst = s.parameters) (object : Fields V) :
    ∀ g ∈ given, ((constructor s).frame object (given.map Prod.snd)).locals.lookup g.ident = some g.2 := by
  have part : (given.map Prod.fst).Sublist s.fields := params ▸ List.filter_sublist
  have idents : given.map Given.ident = (given.map Prod.fst).map fun f => ident f.name := by
    rw [List.map_map]
    rfl
  have entries : (((constructor s).params.map fun p => ident p.1).zip (given.map Prod.snd)) =
      given.map fun g => (g.ident,g.2) := by
    simp only [constructor,← params,List.map_map,List.zip_map']
    rfl
  have own : (given.map Given.ident).Nodup := idents ▸ distinct.sublist (part.map _)
  intro g member
  unfold Routine.frame
  rw [entries]
  apply enter_found
  · rw [List.map_map]
    exact own
  · exact List.mem_map.mpr ⟨g,member,rfl⟩

theorem passed_of_held {s : Schema} (distinct : (s.fields.map fun f => ident f.name).Nodup)
    (free : errorsLocal ∉ s.fields.map fun f => ident f.name) {given : List (Given V)}
    (params : given.map Prod.fst = s.parameters) (fits : ∀ g ∈ given, g.2.Fits g.1.nesting) {f : Frame V}
    (held : ∀ g ∈ given, f.locals.lookup g.ident = some g.2) : Passed f given := by
  have part : (given.map Given.ident).Sublist (s.fields.map fun f => ident f.name) := by
    have fields : (given.map Prod.fst).Sublist s.fields := params ▸ List.filter_sublist
    have idents := fields.map fun f => ident f.name
    rwa [List.map_map] at idents
  exact ⟨distinct.sublist part,fun member => free (part.subset member),fits,held⟩

theorem frame_passed {s : Schema} (d : Distinguished s.fields) {given : List (Given V)}
    (params : given.map Prod.fst = s.parameters) (fits : ∀ g ∈ given, g.2.Fits g.1.nesting) (object : Fields V) :
    Passed ((constructor s).frame object (given.map Prod.snd)) given :=
  passed_of_held d.idents d.errors_free params fits (frame_held d.idents params object)

-- Where nothing fails, the arguments become values; without a list of errors they are values from the start.
theorem arguments_pass {s : Schema} {given : List (Given V)} (params : given.map Prod.fst = s.parameters) {f : Frame V}
    (fits : ∀ g ∈ given, g.2.Fits g.1.nesting) (held : ∀ g ∈ given, f.locals.lookup g.ident = some g.2)
    (passed : validates s = true → Passed f given) (ok : ∀ g ∈ given, g.2.fails = false) :
    ∃ after, Passes m f ((if validates s then [.accumulator] else []) ++ unwrapping (s.parameters.filter Field.isNested)) after ∧
      after.object = f.object ∧ (validates s = true → after.errors? = some []) ∧
      ∀ g ∈ given, ∃ v, g.2.plain? m = some v ∧ after.locals.lookup g.ident = some (.value v) := by
  cases needed : validates s with
  | false =>
    have plain : s.parameters.filter Field.isNested = [] := by
      simp only [validates,Bool.or_eq_false_iff,Bool.not_eq_false'] at needed
      exact List.isEmpty_iff.mp needed.1
    refine ⟨f,by rw [plain]; exact .nil,rfl,nofun,?_⟩
    intro g member
    have parameter : g.1 ∈ s.parameters := params ▸ List.mem_map_of_mem member
    have single : g.1.isNested = false := by simpa using List.filter_eq_nil_iff.mp plain g.1 parameter
    obtain ⟨v,content⟩ := value_of_plain_field (fits g member) single
    exact ⟨v,by rw [content]; rfl,by rw [held g member,content]⟩
  | true =>
    obtain ⟨opened,opens,openedObject,openedErrors,same⟩ := accumulator_passes m f true
    obtain ⟨after,unwraps,object,errors,values⟩ :=
      parameters_pass m ((passed needed).of_same fun name other => same name fun _ => other) (fun _ => openedErrors rfl) ok
    rw [params] at unwraps
    exact ⟨after,opens.append unwraps,object.trans openedObject,fun _ => errors.trans (openedErrors rfl),values⟩

theorem preparation_yields {s : Schema} (distinct : (s.fields.map fun f => ident f.name).Nodup)
    (free : validates s = true → errorsLocal ∉ s.fields.map fun f => ident f.name) {given : List (Given V)}
    (params : given.map Prod.fst = s.parameters) {f : Frame V} (fits : ∀ g ∈ given, g.2.Fits g.1.nesting)
    (held : ∀ g ∈ given, f.locals.lookup g.ident = some g.2) (ok : ∀ g ∈ given, g.2.fails = false) :
    ∃ after, Passes m f (preparation s) after ∧ after.object = f.object ∧
      (validates s = true → after.errors? = some []) ∧
      (∀ g ∈ given, ∃ v, g.2.plain? m = some v ∧ after.locals.lookup g.ident = some (.value v)) ∧
      ∀ g ∈ s.fields, g.isParameter = false → after.locals.lookup (ident g.name) = some (.value (m.initial g.type)) := by
  obtain ⟨unwrapped,unwraps,unwrappedObject,unwrappedErrors,values⟩ := arguments_pass m params fits held
    (fun validating => passed_of_held distinct (free validating) params fits held) ok
  have fixedPart : (s.fields.filter fun f => !f.isParameter).Sublist s.fields := List.filter_sublist
  obtain ⟨after,sets,afterObject,initials,others⟩ := initials_pass m unwrapped (distinct.sublist (fixedPart.map _))
  refine ⟨after,?_,afterObject.trans unwrappedObject,?_,?_,?_⟩
  · have path := unwraps.append sets
    rwa [List.append_assoc] at path
  · intro validating
    rw [errors_of_same_lookup (others _ fun fixed => free validating ((fixedPart.map _).subset fixed)),
      unwrappedErrors validating]
  · intro g member
    obtain ⟨v,plain,value⟩ := values g member
    refine ⟨v,plain,?_⟩
    have parameter : g.1 ∈ s.parameters := params ▸ List.mem_map_of_mem member
    rw [others g.ident,value]
    intro fixed
    obtain ⟨other,inside,same⟩ := List.mem_map.mp fixed
    have equal := List.inj_on_of_nodup_map distinct (List.mem_filter.mp inside).1 (List.mem_filter.mp parameter).1 same
    have isFixed := (List.mem_filter.mp inside).2
    rw [equal,(List.mem_filter.mp parameter).2] at isFixed
    cases isFixed
  · intro g member fixed
    exact initials g (List.mem_filter.mpr ⟨member,by simp [fixed]⟩)

theorem preparation_passes {s : Schema} (d : Distinguished s.fields) {given : List (Given V)}
    (params : given.map Prod.fst = s.parameters) {f : Frame V} (passed : Passed f given)
    (ok : ∀ g ∈ given, g.2.fails = false) :
    ∃ after, Passes m f (preparation s) after ∧ after.object = f.object ∧
      (validates s = true → after.errors? = some []) ∧
      (∀ g ∈ given, ∃ v, g.2.plain? m = some v ∧ after.locals.lookup g.ident = some (.value v)) ∧
      ∀ g ∈ s.fields, g.isParameter = false → after.locals.lookup (ident g.name) = some (.value (m.initial g.type)) :=
  preparation_yields m d.idents (fun _ => d.errors_free) params passed.fits passed.held ok

theorem fields_held {s : Schema} {given : List (Given V)} (params : given.map Prod.fst = s.parameters) {f : Frame V}
    (held : ∀ g ∈ given, ∃ v, g.2.plain? m = some v ∧ f.locals.lookup g.ident = some (.value v))
    (fixed : ∀ g ∈ s.fields, g.isParameter = false → f.locals.lookup (ident g.name) = some (.value (m.initial g.type))) :
    (∀ g ∈ s.fields, f.value? (.own g.name) = some (f.values m g.name)) ∧
      (∀ g ∈ given, g.2.plain? m = some (f.values m g.1.name)) ∧
      ∀ g ∈ s.fields, g.isParameter = false → f.values m g.name = m.initial g.type := by
  refine ⟨?_,?_,?_⟩
  · intro g member
    cases parameter : g.isParameter with
    | true =>
      have passed : g ∈ given.map Prod.fst := params ▸ List.mem_filter.mpr ⟨member,parameter⟩
      obtain ⟨entry,inside,rfl⟩ := List.mem_map.mp passed
      obtain ⟨v,-,here⟩ := held entry inside
      exact (values_read m here).1
    | false => exact (values_read m (fixed g member parameter)).1
  · intro g member
    obtain ⟨v,plain,here⟩ := held g member
    rw [plain,(values_read m here).2]
  · intro g member parameter
    exact (values_read m (fixed g member parameter)).2

-- What a constructor makes of arguments that do not fail. Only where errors are gathered their name is taken.
theorem constructor_yields {s : Schema} (distinct : (s.fields.map fun f => ident f.name).Nodup)
    (free : validates s = true → ∀ f ∈ s.fields, f.name ≠ errorsLocal)
    (bound : ∀ r ∈ s.rules, ∀ p ∈ r.params, ∃ g ∈ s.fields, g.name = p.name) {given : List (Given V)}
    (params : given.map Prod.fst = s.parameters) (fits : ∀ g ∈ given, g.2.Fits g.1.nesting)
    (ok : ∀ g ∈ given, g.2.fails = false) (object : Fields V) :
    ∃ values : String → V, (∀ g ∈ given, g.2.plain? m = some (values g.1.name)) ∧
      (∀ f ∈ s.fields, f.isParameter = false → values f.name = m.initial f.type) ∧
      (constructor s).run m object (given.map Prod.snd) =
        (if findings (report m s) values s.rules = [] then .built (stored s.fields values)
          else .failed (findings (report m s) values s.rules),object) := by
  have none : validates s = true → errorsLocal ∉ s.fields.map fun f => ident f.name := by
    intro validating member
    obtain ⟨f,inside,same⟩ := List.mem_map.mp member
    exact ident_ne_errors (free validating f inside) same
  obtain ⟨after,path,objectAfter,there,held,fixed⟩ :=
    preparation_yields m distinct none params fits (frame_held distinct params object) ok
  obtain ⟨known,plain,initial⟩ := fields_held m params held fixed
  have ended := conclusion_run m (after.values m) known free bound there
  refine ⟨after.values m,plain,initial,?_⟩
  rw [Routine.run_frame,constructor_body,path.run,ended.1,objectAfter]
  rfl

theorem preparation_fails {s : Schema} {given : List (Given V)} (params : given.map Prod.fst = s.parameters)
    {f : Frame V} (passed : Passed f given) {g : Given V} (member : g ∈ given) (failing : g.2.fails = true)
    (rest : List Statement) :
    runStatements m f (preparation s ++ rest) = (.failed (failures given),f.object) ∧
      asked m f (preparation s ++ rest) = [] := by
  let nested := given.filter (·.1.isNested)
  have only : ∀ other ∈ given, other.1.isNested = false → other.2.failures other.1.errorPath = [] := by
    intro other inside plain
    obtain ⟨v,content⟩ := value_of_plain_field (passed.fits other inside) plain
    rw [content]
    rfl
  have all : failures nested = failures given := flatMap_filter_of_silent _ given _ only
  have inside : g ∈ nested := List.mem_filter.mpr ⟨member,nested_of_fails (passed.fits g member) failing⟩
  have part : s.parameters.filter Field.isNested = nested.map Prod.fst := by
    rw [← params,List.filter_map]
    rfl
  obtain ⟨opened,opens,openedObject,openedErrors,same⟩ := accumulator_passes m f (validates s)
  have there : opened.errors? = some [] := openedErrors (by simp [validates,part,List.ne_nil_of_mem inside])
  have ended := unwrapping_fails m ((passed.of_same fun name other => same name fun _ => other).sublist List.filter_sublist)
    (fun other kept => (List.mem_filter.mp kept).2) there inside failing
  simp only [preparation,List.append_assoc,opens.run,opens.asked,accumulator_asks_nothing,List.nil_append,part]
  rw [(ended _).1,(ended _).2,all,openedObject]
  exact ⟨rfl,rfl⟩

theorem constructor_fails {s : Schema} (d : Distinguished s.fields) {given : List (Given V)}
    (params : given.map Prod.fst = s.parameters) (fits : ∀ g ∈ given, g.2.Fits g.1.nesting) {g : Given V} (member : g ∈ given)
    (failing : g.2.fails = true) (object : Fields V) :
    (constructor s).run m object (given.map Prod.snd) = (.failed (failures given),object) ∧
      (constructor s).asked m object (given.map Prod.snd) = [] := by
  rw [Routine.run_frame,Routine.asked,constructor_body]
  exact preparation_fails m params (frame_passed d params fits object) member failing _

def Statement.ofConstructor : Statement → Bool
  | .accumulator | .aggregate _ | .unwrapAll _ | .initial _ _ | .check _ _ _ | .stopOnErrors | .construct _ => true
  | .unwrap _ | .store _ | .accept => false

theorem constructor_statements (s : Schema) : (constructor s).body.all Statement.ofConstructor = true := by
  have optional : ∀ (needed : Bool) (statement : Statement), statement.ofConstructor = true →
      (if needed then [statement] else []).all Statement.ofConstructor = true := by
    intro needed statement own
    cases needed <;> simp [own]
  have unwraps : (unwrapping (s.parameters.filter Field.isNested)).all Statement.ofConstructor = true := by
    unfold unwrapping
    split <;> simp [Statement.ofConstructor]
  simp only [constructor_body,preparation,conclusion,List.all_append,optional _ .accumulator rfl,
    optional _ .stopOnErrors rfl,unwraps,List.all_map]
  simp [Statement.ofConstructor,checkOf]

-- A constructor first unwraps what is nested. If any of it fails, all that failed is reported and no rule is
-- asked; otherwise all rules are asked about the values, and there is an object if none of them reports anything.
theorem constructor_protocol {s : Schema} {b : BoundSchema} (accepted : (bind s).result = some b)
    (d : Distinguished s.fields) (settings : Settings) (args : List (Content V))
    (fit : List.Forall₂ (fun f c => c.Fits f.nesting) b.schema.parameters args) (object : Fields V) :
    schemaText b settings = openingText b.schema settings ++ constructorText b.schema settings ++
        settersText b settings b.schema.settableFields ++ "\x7d\n" ∧
      (constructor b.schema).body.all Statement.ofConstructor = true ∧
      let given := b.schema.parameters.zip args
      if given.any (·.2.fails) then
        (constructor b.schema).run m object args = (.failed (failures given),object) ∧
          (constructor b.schema).asked m object args = []
      else ∃ values : String → V,
        (∀ g ∈ given, g.2.plain? m = some (values g.1.name)) ∧
        (∀ f ∈ b.schema.fields, f.isParameter = false → values f.name = m.initial f.type) ∧
        (constructor b.schema).asked m object args = b.schema.rules.map (question .own) ∧
        (constructor b.schema).run m object args =
          (if findings (report m b.schema) values b.schema.rules = [] then .built (stored b.schema.fields values)
            else .failed (findings (report m b.schema) values b.schema.rules),object) := by
  refine ⟨schemaText_parts b settings,constructor_statements b.schema,?_⟩
  rw [← bound_fields accepted] at d
  have length := fit.length_eq
  have params : (b.schema.parameters.zip args).map Prod.fst = b.schema.parameters := List.map_fst_zip (Nat.le_of_eq length)
  have passes : (b.schema.parameters.zip args).map Prod.snd = args := List.map_snd_zip (Nat.le_of_eq length.symm)
  have start := frame_passed d params (fun g member => List.forall₂_zip fit member) object
  rw [passes] at start
  dsimp only
  rw [Routine.run_frame,Routine.asked,constructor_body]
  split
  · rename_i failing
    obtain ⟨g,member,failing⟩ := List.any_eq_true.mp failing
    exact preparation_fails m params start member failing _
  · rename_i fine
    have ok : ∀ g ∈ b.schema.parameters.zip args, g.2.fails = false := by
      intro g member
      by_contra failing
      exact fine (List.any_eq_true.mpr ⟨g,member,by simpa using failing⟩)
    obtain ⟨after,path,objectAfter,there,given,fixed⟩ := preparation_passes m d params start ok
    have known : ∀ f ∈ b.schema.fields, after.value? (.own f.name) = some (after.values m f.name) := by
      intro f member
      cases parameter : f.isParameter with
      | true =>
        have passed : f ∈ b.schema.parameters := List.mem_filter.mpr ⟨member,parameter⟩
        rw [← params] at passed
        obtain ⟨g,inside,rfl⟩ := List.mem_map.mp passed
        obtain ⟨v,-,held⟩ := given g inside
        exact (values_read m held).1
      | false => exact (values_read m (fixed f member parameter)).1
    have ended := conclusion_run m (after.values m) known (fun _ => d.free) (bound_params accepted) there
    refine ⟨after.values m,?_,?_,?_,?_⟩
    · intro g member
      obtain ⟨v,plain,held⟩ := given g member
      rw [plain,(values_read m held).2]
    · intro f member parameter
      exact (values_read m (fixed f member parameter)).2
    · rw [path.asked,ended.2,preparation_asks_nothing,List.nil_append]
    · rw [path.run,ended.1,objectAfter]
      rfl

end

theorem batch_constructed :
    let args : List (Content (List Nat)) := [.results [.success [4],.success [5]],.value [3]]
    (bind batch).result = some (.ofSchema batch) ∧ Distinguished batch.fields ∧
    List.Forall₂ (fun f c => c.Fits f.nesting) batch.parameters args ∧
    (constructor batch).asked batchMeaning [] args =
      [("enough_items",[.own "items",.own "revision"]),("label_is_short",[.own "label"])] ∧
    (constructor batch).run batchMeaning [] args =
      (.built [("items",[4,5]),("label",[3]),("revision",[0])],[]) := by
  intro args
  have fit : List.Forall₂ (fun f c => c.Fits f.nesting) batch.parameters args := .cons trivial (.cons trivial .nil)
  obtain ⟨-,-,protocol⟩ := constructor_protocol batchMeaning batch_bound batch_distinguished {} args fit []
  obtain ⟨values,given,fixed,asked,ran⟩ := protocol
  have items : values "items" = [4,5] := (Option.some.inj (given _ List.mem_cons_self)).symm
  have label : values "label" = [3] := (Option.some.inj (given _ (List.mem_cons_of_mem _ List.mem_cons_self))).symm
  have revision : values "revision" = [0] := fixed _ (List.mem_of_getElem? (i := 2) rfl) rfl
  have silent : findings (report batchMeaning batch) values batch.rules = [] := by
    simp [findings,Rule.findings,batch,items,label,revision,report,batchMeaning,batchMessages,RuleOutcome.ofMessages,
      RuleOutcome.toErrors]
  have object : stored batch.fields values = [("items",[4,5]),("label",[3]),("revision",[0])] := by
    rw [← items,← label,← revision]
    rfl
  change _ = (if findings (report batchMeaning batch) values batch.rules = [] then
    Ending.built (stored batch.fields values) else _,_) at ran
  rw [if_pos silent,object] at ran
  exact ⟨batch_bound,batch_distinguished,fit,asked,ran⟩

end DomainSchema.Emission
