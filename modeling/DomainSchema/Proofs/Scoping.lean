import DomainSchema.Proofs.Construction
import DomainSchema.Proofs.Mutation
import DomainSchema.Proofs.Scope

namespace DomainSchema.Emission

theorem unwrapAll_find {fields : List Field} (distinct : (fields.map fun f => bareName f.name).Nodup) (scope : Scope)
    {f : Field} (member : f ∈ fields) :
    (scope.after (.unwrapAll (fields.map (·.name)))).find f.name = .value (scope.find f.name) := by
  rw [Scope.after,List.map_map]
  exact find_together distinct (fun f => .value (scope.find f.name)) scope member

theorem unwrapping_find {fields : List Field} (distinct : (fields.map fun f => bareName f.name).Nodup) (scope : Scope)
    {f : Field} (member : f ∈ fields) :
    (scope.afterAll (unwrapping fields)).find f.name = .value (.checked (scope.find f.name)) := by
  have body : unwrapping fields =
      fields.map (fun f => .aggregate (aggregation f)) ++ [.unwrapAll (fields.map (·.name))] :=
    if_neg (by simp [List.ne_nil_of_mem member])
  have aggregated := bound_each (fun f => .aggregate (aggregation f)) (fun _ => .checked)
    (fun _ => rfl) (fun _ _ => rfl) distinct scope member
  rw [body,afterAll_append]
  exact (unwrapAll_find distinct _ member).trans (congrArg Origin.value aggregated)

theorem unwrapping_statements {fields : List Field} {t : Statement} (member : t ∈ unwrapping fields) :
    (∃ f ∈ fields, t = .aggregate (aggregation f)) ∨ t = .unwrapAll (fields.map (·.name)) := by
  unfold unwrapping at member
  split at member
  · cases member
  · rcases List.mem_append.mp member with aggregate | unwrapAll
    · obtain ⟨f,inside,rfl⟩ := List.mem_map.mp aggregate
      exact .inl ⟨f,inside,rfl⟩
    · exact .inr (List.mem_singleton.mp unwrapAll)

theorem unwrapping_binders {fields : List Field} :
    ∀ s ∈ unwrapping fields, ∀ bound ∈ s.binders, ∃ f ∈ fields, f.name = bound := by
  intro s member bound binds
  rcases unwrapping_statements member with ⟨f,inside,rfl⟩ | rfl
  · exact ⟨f,inside,(List.mem_singleton.mp binds).symm⟩
  · exact List.mem_map.mp binds

theorem initial_binders {fields : List Field} :
    ∀ s ∈ fields.map fun f => Statement.initial f.name f.type, ∀ bound ∈ s.binders, ∃ f ∈ fields, f.name = bound := by
  intro s member bound binds
  obtain ⟨f,inside,rfl⟩ := List.mem_map.mp member
  exact ⟨f,inside,(List.mem_singleton.mp binds).symm⟩

theorem preparation_find {s : Schema} (apart : Apart s.fields) (scope : Scope) {f : Field} (member : f ∈ s.fields) :
    (scope.afterAll (preparation s)).find f.name =
      if f.isParameter then
        .unwrapped f ((scope.afterAll (if validates s then [.accumulator] else [])).find f.name)
      else .initial f.name := by
  have part : ∀ p : Field → Bool, ((s.fields.filter p).map fun f => bareName f.name).Nodup := fun p =>
    apart.distinct.sublist (List.filter_sublist.map _)
  -- A field is bound by the part of the preparation that is for fields of its kind.
  have others : ∀ {fields : List Field} {body : List Statement} (scope : Scope), fields ⊆ s.fields →
      (∀ s ∈ body, ∀ bound ∈ s.binders, ∃ f ∈ fields, f.name = bound) → f ∉ fields →
      (scope.afterAll body).find f.name = scope.find f.name := by
    intro fields body scope inside binders absent
    apply afterAll_other
    intro t here bound binds same
    obtain ⟨g,listed,rfl⟩ := binders t here bound binds
    exact absent (apart.equal (inside listed) member same ▸ listed)
  simp only [preparation,afterAll_append]
  cases parameter : f.isParameter with
  | false =>
    exact bound_each (fun f => .initial f.name f.type) (fun f _ => .initial f.name)
      (fun _ => rfl) (fun _ _ => rfl) (part _) _ (List.mem_filter.mpr ⟨member,by simp [parameter]⟩)
  | true =>
    have parameters : s.parameters.filter Field.isNested ⊆ s.fields :=
      (List.filter_sublist.trans List.filter_sublist).subset
    rw [others _ List.filter_sublist.subset initial_binders (by simp [parameter]),if_pos rfl]
    cases nested : f.isNested with
    | true =>
      have passed : f ∈ s.parameters := List.mem_filter.mpr ⟨member,parameter⟩
      have distinct : ((s.parameters.filter Field.isNested).map fun f => bareName f.name).Nodup :=
        (part Field.isParameter).sublist (List.filter_sublist.map _)
      rw [unwrapping_find distinct _ (List.mem_filter.mpr ⟨passed,nested⟩),Origin.unwrapped,if_pos nested]
    | false =>
      have plain : f ∉ s.parameters.filter Field.isNested := fun listed => by
        rw [(List.mem_filter.mp listed).2] at nested
        cases nested
      rw [others _ parameters unwrapping_binders plain,Origin.unwrapped,nested]
      rfl

theorem conclusion_statements {s : Schema} {t : Statement} (member : t ∈ conclusion s) :
    (∃ r ∈ s.rules, t = checkOf s r .own) ∨ t = .stopOnErrors ∨ t = .construct (s.fields.map (·.name)) := by
  rcases List.mem_append.mp member with check | last
  · obtain ⟨r,inside,rfl⟩ := List.mem_map.mp check
    exact .inl ⟨r,inside,rfl⟩
  · rcases List.mem_append.mp last with stop | construct
    · split at stop
      · exact .inr (.inl (List.mem_singleton.mp stop))
      · cases stop
    · exact .inr (.inr (List.mem_singleton.mp construct))

theorem conclusion_idle (s : Schema) : ∀ t ∈ conclusion s, t.binders = [] := by
  intro t member
  rcases conclusion_statements member with ⟨r,-,rfl⟩ | rfl | rfl <;> rfl

theorem constructor_scope {s : Schema} (apart : Apart s.fields) {f : Field} (member : f ∈ s.parameters) :
    (constructor s).scope.find f.name = .argument f.name := by
  have entries : (constructor s).scope =
      (s.parameters.map fun f => (bareName f.name,Origin.argument f.name)).reverse ++ [] := by
    simp [Routine.scope,RoutineKind.scope,constructor]
  rw [entries]
  exact find_together (apart.distinct.sublist (List.filter_sublist.map _)) (fun f => .argument f.name) [] member

theorem setter_scope (b : BoundSchema) (f : Field) : (setter b f).scope.find f.name = .argument f.name := by
  have entries : (setter b f).scope = Scope.bind [(receiver,.receiver)] f.name (.argument f.name) := rfl
  rw [entries,find_bind,if_pos rfl]

theorem constructor_accumulates (s : Schema) : .accumulator ∈ (constructor s).body ↔ validates s = true := by
  have unwraps : .accumulator ∉ unwrapping (s.parameters.filter Field.isNested) := by
    unfold unwrapping
    split <;> simp
  simp only [constructor_body,preparation,conclusion,List.mem_append,unwraps]
  simp [checkOf]

theorem setter_accumulates (b : BoundSchema) (f : Field) :
    .accumulator ∈ (setter b f).body ↔ (f.isNested || !(b.rulesFor f.name).isEmpty) = true := by
  simp only [setter_body,setterStart,settlement,List.mem_append]
  simp [checkOf]

theorem conclusion_uses {s : Schema} (bound : ∀ r ∈ s.rules, ∀ p ∈ r.params, ∃ f ∈ s.fields, f.name = p.name)
    {t : Statement} (member : t ∈ conclusion s) {use : Use} (used : use ∈ t.uses) :
    use = .errors ∨ ∃ f ∈ s.fields, use = .field f.name := by
  rcases conclusion_statements member with ⟨r,inside,rfl⟩ | rfl | rfl
  · rcases List.mem_cons.mp used with errors | argument
    · exact .inl errors
    · rw [List.map_map] at argument
      obtain ⟨p,taken,rfl⟩ := List.mem_map.mp argument
      obtain ⟨f,listed,same⟩ := bound r inside p taken
      exact .inr ⟨f,listed,congrArg Use.field same.symm⟩
  · exact .inl (List.mem_singleton.mp used)
  · simp only [Statement.uses,List.map_map] at used
    obtain ⟨f,listed,rfl⟩ := List.mem_map.mp used
    exact .inr ⟨f,listed,rfl⟩

theorem preparation_uses {s : Schema} {t : Statement} (member : t ∈ preparation s) {use : Use} (used : use ∈ t.uses) :
    use = .errors := by
  rcases List.mem_append.mp member with opening | rest
  · split at opening
    · rw [List.mem_singleton.mp opening] at used
      cases used
    · cases opening
  · rcases List.mem_append.mp rest with unwrap | initial
    · rcases unwrapping_statements unwrap with ⟨f,-,rfl⟩ | rfl <;> exact List.mem_singleton.mp used
    · obtain ⟨f,-,rfl⟩ := List.mem_map.mp initial
      cases used

theorem constructor_denotes {s : Schema} (bound : ∀ r ∈ s.rules, ∀ p ∈ r.params, ∃ f ∈ s.fields, f.name = p.name)
    {name : String} {origin : Origin} :
    (.field name,origin) ∈ denoted (constructor s).scope (constructor s).body ↔
      (∃ f ∈ s.fields, f.name = name) ∧ origin = ((constructor s).scope.afterAll (preparation s)).find name := by
  have uses : (∃ t ∈ conclusion s, .field name ∈ t.uses) ↔ ∃ f ∈ s.fields, f.name = name := by
    constructor
    · rintro ⟨t,member,used⟩
      rcases conclusion_uses bound member used with errors | ⟨f,listed,same⟩
      · cases errors
      · exact ⟨f,listed,(Use.field.inj same).symm⟩
    · rintro ⟨f,listed,rfl⟩
      refine ⟨.construct (s.fields.map (·.name)),by simp [conclusion],?_⟩
      simpa [Statement.uses] using ⟨f,listed,rfl⟩
  rw [constructor_body,denoted_late _ (conclusion_idle s),uses]
  · rfl
  · intro t member used
    cases preparation_uses member used

-- A field keeps its binding unless it is passed and the list of errors takes its name.
theorem constructor_binding {s : Schema} (apart : Apart s.fields) {f : Field} (member : f ∈ s.fields) :
    ((constructor s).scope.afterAll (preparation s)).find f.name = bindingOf f ↔
      (f.isParameter = true → ¬ (constructor s).Captures f) := by
  rw [preparation_find apart _ member,bindingOf,Routine.Captures,constructor_accumulates]
  cases parameter : f.isParameter with
  | false => simp
  | true =>
    have passed := constructor_scope apart (List.mem_filter.mpr ⟨member,parameter⟩ : f ∈ s.parameters)
    simp only [if_true,unwrapped_injective,opened_argument passed,true_imp_iff]

theorem constructor_keeps {s : Schema} (apart : Apart s.fields)
    (bound : ∀ r ∈ s.rules, ∀ p ∈ r.params, ∃ f ∈ s.fields, f.name = p.name) :
    (constructor s).KeepsFields s.fields ↔ ∀ f ∈ s.parameters, ¬ (constructor s).Captures f := by
  constructor
  · intro keeps f passed
    obtain ⟨member,parameter⟩ := List.mem_filter.mp passed
    obtain ⟨g,inside,same,meant⟩ := keeps f.name _ ((constructor_denotes bound).mpr ⟨⟨f,member,rfl⟩,rfl⟩)
    have equal : g = f := apart.equal inside member (congrArg bareName same)
    rw [equal] at meant
    exact (constructor_binding apart member).mp meant parameter
  · intro free name origin used
    obtain ⟨⟨f,member,rfl⟩,rfl⟩ := (constructor_denotes bound).mp used
    exact ⟨f,member,rfl,(constructor_binding apart member).mpr fun parameter =>
      free f (List.mem_filter.mpr ⟨member,parameter⟩)⟩

theorem constructor_errors {s : Schema} (free : ∀ f ∈ s.fields, ¬ (constructor s).Captures f) :
    (constructor s).Keeps s.fields .errors := by
  intro origin used
  have accumulates := constructor_accumulates s
  rw [constructor_body] at used
  cases needed : validates s with
  | false =>
    obtain ⟨t,member,uses⟩ := used_of_denoted used
    simp only [validates,Bool.or_eq_false_iff,Bool.not_eq_false',List.isEmpty_iff] at needed
    simp only [preparation,conclusion,validates,needed,unwrapping] at member
    simp at member
    rcases member with ⟨f,-,rfl⟩ | rfl <;> simp [Statement.uses] at uses
  | true =>
    have names : ∀ f ∈ s.fields, bareName f.name ≠ errorsLocal := fun f member taken =>
      free f member ⟨accumulates.mpr needed,taken⟩
    have body : preparation s ++ conclusion s = .accumulator :: (unwrapping (s.parameters.filter Field.isNested) ++
        ((s.fields.filter fun f => !f.isParameter).map fun f => .initial f.name f.type) ++ conclusion s) := by
      simp [preparation,needed]
    rw [body] at used
    apply errors_denoted _ used
    intro t member bound binds
    rcases List.mem_append.mp member with early | late
    · rcases List.mem_append.mp early with unwrap | initial
      · obtain ⟨f,inside,rfl⟩ := unwrapping_binders t unwrap bound binds
        exact names f (List.mem_filter.mp (List.mem_filter.mp inside).1).1
      · obtain ⟨f,inside,rfl⟩ := initial_binders t initial bound binds
        exact names f (List.mem_filter.mp inside).1
    · rw [conclusion_idle s t late] at binds
      cases binds

theorem constructor_no_receiver {s : Schema}
    (bound : ∀ r ∈ s.rules, ∀ p ∈ r.params, ∃ f ∈ s.fields, f.name = p.name) :
    (constructor s).Keeps s.fields .receiver := by
  intro origin used
  obtain ⟨t,member,uses⟩ := used_of_denoted used
  rw [constructor_body] at member
  rcases List.mem_append.mp member with early | late
  · cases preparation_uses early uses
  · rcases conclusion_uses bound late uses with errors | ⟨f,-,field⟩
    · cases errors
    · cases field

def setterConclusion (b : BoundSchema) (f : Field) : List Statement :=
  (b.rulesFor f.name).map (checkOf b.schema · (newOrStored f.name)) ++ settlement f.name (b.rulesFor f.name)

def setterPreparation (b : BoundSchema) (f : Field) : List Statement :=
  setterStart b f ++ if f.isNested then [.unwrap (aggregation f)] else []

theorem setter_phases (b : BoundSchema) (f : Field) : (setter b f).body = setterPreparation b f ++ setterConclusion b f := by
  rw [setter_body,setterPreparation,setterConclusion,List.append_assoc]

theorem settlement_statements {field : String} {rules : List Rule} {t : Statement}
    (member : t ∈ settlement field rules) : t = .stopOnErrors ∨ t = .store field ∨ t = .accept := by
  unfold settlement at member
  split at member
  · exact .inr (by simpa using member)
  · simpa using member

theorem setterConclusion_idle (b : BoundSchema) (f : Field) : ∀ t ∈ setterConclusion b f, t.binders = [] := by
  intro t member
  rcases List.mem_append.mp member with check | settles
  · obtain ⟨r,-,rfl⟩ := List.mem_map.mp check
    rfl
  · rcases settlement_statements settles with rfl | rfl | rfl <;> rfl

theorem newOrStored_use {field name : String} :
    (newOrStored field name).use = if name = field then .field field else .receiver := by
  unfold newOrStored
  split
  · rename_i same
    rw [same]
    rfl
  · rfl

theorem setterConclusion_uses {b : BoundSchema} {f : Field} {name : String} :
    (∃ t ∈ setterConclusion b f, .field name ∈ t.uses) ↔ name = f.name := by
  constructor
  · rintro ⟨t,member,used⟩
    rcases List.mem_append.mp member with check | settles
    · obtain ⟨r,-,rfl⟩ := List.mem_map.mp check
      rcases List.mem_cons.mp used with errors | argument
      · cases errors
      · rw [List.map_map] at argument
        obtain ⟨p,-,same⟩ := List.mem_map.mp argument
        rw [Function.comp,newOrStored_use] at same
        split at same
        · exact (Use.field.inj same).symm
        · cases same
    · rcases settlement_statements settles with rfl | rfl | rfl <;> simp [Statement.uses] at used
      exact used
  · rintro rfl
    exact ⟨.store f.name,by simp [setterConclusion,settlement],by simp [Statement.uses]⟩

theorem setterPreparation_statements {b : BoundSchema} {f : Field} {t : Statement} (member : t ∈ setterPreparation b f) :
    t = .accumulator ∨ t = .unwrap (aggregation f) := by
  rcases List.mem_append.mp member with opening | unwrap
  · unfold setterStart at opening
    split at opening
    · exact .inl (List.mem_singleton.mp opening)
    · cases opening
  · split at unwrap
    · exact .inr (List.mem_singleton.mp unwrap)
    · cases unwrap

theorem setter_denotes {b : BoundSchema} {f : Field} {name : String} {origin : Origin} :
    (.field name,origin) ∈ denoted (setter b f).scope (setter b f).body ↔
      name = f.name ∧ origin = ((setter b f).scope.afterAll (setterPreparation b f)).find name := by
  rw [setter_phases,denoted_late _ (setterConclusion_idle b f),setterConclusion_uses]
  · rfl
  · intro t member used
    rcases setterPreparation_statements member with rfl | rfl <;> simp [Statement.uses] at used

theorem setterPreparation_find (b : BoundSchema) (f : Field) (scope : Scope) :
    (scope.afterAll (setterPreparation b f)).find f.name = .unwrapped f ((scope.afterAll (setterStart b f)).find f.name) := by
  rw [setterPreparation,afterAll_append,Origin.unwrapped]
  split
  · exact (find_bind _ _ _ _).trans (if_pos rfl)
  · rfl

theorem setter_binding {b : BoundSchema} {f : Field} (parameter : f.isParameter = true) :
    ((setter b f).scope.afterAll (setterPreparation b f)).find f.name = bindingOf f ↔ ¬ (setter b f).Captures f := by
  rw [setterPreparation_find,bindingOf,if_pos parameter,unwrapped_injective,Routine.Captures,setter_accumulates]
  exact opened_argument (setter_scope b f) _

theorem setter_keeps {b : BoundSchema} (apart : Apart b.schema.fields) {f : Field} (member : f ∈ b.schema.fields)
    (parameter : f.isParameter = true) : (setter b f).KeepsFields b.schema.fields ↔ ¬ (setter b f).Captures f := by
  rw [← setter_binding parameter]
  constructor
  · intro keeps
    obtain ⟨g,inside,same,meant⟩ := keeps f.name _ (setter_denotes.mpr ⟨rfl,rfl⟩)
    rw [apart.equal inside member (congrArg bareName same)] at meant
    exact meant
  · intro kept name origin used
    obtain ⟨rfl,rfl⟩ := setter_denotes.mp used
    exact ⟨f,member,rfl,kept⟩

theorem setter_errors {b : BoundSchema} {f : Field} (free : ¬ (setter b f).Captures f) :
    (setter b f).Keeps b.schema.fields .errors := by
  intro origin used
  cases needed : f.isNested || !(b.rulesFor f.name).isEmpty with
  | false =>
    obtain ⟨t,member,uses⟩ := used_of_denoted used
    simp only [Bool.or_eq_false_iff,Bool.not_eq_false',List.isEmpty_iff] at needed
    simp [setter_body,setterStart,settlement,needed] at member
    rcases member with rfl | rfl <;> simp [Statement.uses] at uses
  | true =>
    have name : bareName f.name ≠ errorsLocal := fun taken => free ⟨(setter_accumulates b f).mpr needed,taken⟩
    have body : (setter b f).body =
        .accumulator :: ((if f.isNested then [.unwrap (aggregation f)] else []) ++ setterConclusion b f) := by
      simp [setter_phases,setterPreparation,setterStart,needed]
    rw [body] at used
    apply errors_denoted _ used
    intro t member bound binds
    rcases List.mem_append.mp member with unwrap | late
    · split at unwrap
      · rw [List.mem_singleton.mp unwrap] at binds
        rw [List.mem_singleton.mp binds]
        exact name
      · cases unwrap
    · rw [setterConclusion_idle b f t late] at binds
      cases binds

theorem setter_receiver {b : BoundSchema} {f : Field} (named : bareName f.name ≠ receiver) :
    (setter b f).Keeps b.schema.fields .receiver := by
  intro origin used
  have other : ∀ t ∈ (setter b f).body, ∀ bound ∈ t.binders, bareName bound ≠ bareName receiver := by
    intro t member bound binds
    rw [bareName_receiver]
    rw [setter_phases] at member
    rcases List.mem_append.mp member with early | late
    · rcases setterPreparation_statements early with rfl | rfl <;> rw [List.mem_singleton.mp binds]
      · decide
      · exact named
    · rw [setterConclusion_idle b f t late] at binds
      cases binds
  have entries : (setter b f).scope = Scope.bind [(receiver,.receiver)] f.name (.argument f.name) := rfl
  rw [((denoted_exact other).mp used).2,entries,Use.identifier,find_bind,bareName_receiver,if_neg (Ne.symm named)]
  rfl

end DomainSchema.Emission
