import DomainSchema.Proofs.Survival

namespace DomainSchema

def Declaration.clashes (d : Declaration) (p : Parameter) : Bool :=
  (d.fields.find? (·.name == p.name)).any (·.type != p.type)

structure MethodDecl.Yields (m : MethodDecl) (r : Rule) : Prop where
  name : r.name = m.name
  params : r.params = m.params
  returns : ReturnShape.of? m.returns = some r.returns

structure Declaration.Kept (d : Declaration) (methods : List MethodDecl) (s : Schema) : Prop where
  name : s.name = d.qualifiedName
  fields : List.Forall₂ (fun (declared : FieldDecl) (f : Field) => f.name = declared.name ∧ f.type = declared.type)
    d.fields s.fields
  rules : List.Forall₂ MethodDecl.Yields methods s.rules

-- Where a mismatch of a parameter is reported. Methods of one name and parameters of one name have one label.
def MethodDecl.label (m : MethodDecl) (p : Parameter) : String := m.name ++ "(" ++ p.name ++ ")"

def Diagnostics.reportMismatch (ds : Diagnostics) (schema label : String) : Bool :=
  ds.items.any fun item => item.schema == schema && item.code == .typeMismatch && item.member == some label

theorem rule_yields {m : MethodDecl} {r : Rule} (made : m.rule? = some r) : m.Yields r := by
  unfold MethodDecl.rule? at made
  split at made
  · rename_i returns shape
    split at made
    · cases made
      exact ⟨rfl,rfl,shape⟩
    · cases made
  · cases made

theorem silent_rule {m : MethodDecl} {schema : String} (silent : m.diagnostics schema = []) : ∃ r, m.rule? = some r := by
  obtain ⟨found,bare⟩ := List.append_eq_nil_iff.mp silent
  obtain ⟨impure,shapeless⟩ := List.append_eq_nil_iff.mp found
  split at impure
  · rename_i receiver
    split at shapeless
    · rename_i shaped
      obtain ⟨returns,shape⟩ := Option.isSome_iff_exists.mp shaped
      split at bare
      · cases bare
      · rename_i params
        exact ⟨⟨m.name,m.params,returns⟩,by simp [MethodDecl.rule?,shape,receiver,params]⟩
    · cases shapeless
  · cases impure

theorem forall₂_filterMap {R : α → β → Prop} {read : α → Option β} {items : List α}
    (each : ∀ item ∈ items, ∃ value, read item = some value ∧ R item value) :
    List.Forall₂ R items (items.filterMap read) := by
  induction items with
  | nil => exact .nil
  | cons item rest ih =>
    obtain ⟨value,made,related⟩ := each item List.mem_cons_self
    rw [List.filterMap_cons_some made]
    exact .cons related (ih fun other later => each other (List.mem_cons_of_mem _ later))

theorem resolve_clashes (d : Declaration) (index : TypeIndex) (settings : Settings) (p : Parameter) :
    ((d.schema index settings).resolve p).isMismatch = d.clashes p := by
  have named : (d.schema index settings).field? p.name =
      (d.fields.find? (·.name == p.name)).map (·.field index settings) := List.find?_map
  unfold Schema.resolve Declaration.clashes
  rw [named]
  cases d.fields.find? (·.name == p.name) with
  | none => rfl
  | some f =>
    by_cases same : f.type = p.type <;> simp [FieldDecl.field,same,Resolution.isMismatch]

section
variable {d : Declaration} {index : TypeIndex} {settings : Settings} {b : BoundSchema}

theorem unblocked_rule (unblocked : d.diagnostics.blocks d.qualifiedName = false) {m : MethodDecl} (member : m ∈ d.rules) :
    ∃ r, m.rule? = some r ∧ m.Yields r := by
  have silent : m.diagnostics d.qualifiedName = [] := by
    rw [List.eq_nil_iff_forall_not_mem]
    intro item found
    have blocks : item.code.blocks = true := by
      obtain ⟨-,code | code | code⟩ := m.findings found <;> rw [code] <;> rfl
    have blocked := Declaration.blocked_iff.mpr
      ⟨item,List.mem_append_right _ (List.mem_flatMap.mpr ⟨m,member,found⟩),blocks⟩
    rw [unblocked] at blocked
    cases blocked
  obtain ⟨r,rule⟩ := silent_rule silent
  exact ⟨r,rule,rule_yields rule⟩

theorem method_rule (made : (analyzeDeclaration d index settings).result = some b) {m : MethodDecl} (member : m ∈ d.rules) :
    ∃ r, m.rule? = some r ∧ m.Yields r := unblocked_rule (unblocked_of_made made) member

theorem made_bound (made : (analyzeDeclaration d index settings).result = some b) :
    (bind (d.schema index settings)).result = some b := by
  rwa [analyzed_open (unblocked_of_made made)] at made

theorem made_kept (made : (analyzeDeclaration d index settings).result = some b) :
    d.Kept (d.rules.filter fun m => !m.params.any d.clashes) b.schema := by
  rw [(bind_accepted (made_bound made)).1]
  refine ⟨rfl,?_,?_⟩
  · exact List.forall₂_map_right_iff.mpr (List.forall₂_same.mpr fun f _ => ⟨rfl,rfl⟩)
  · refine List.rel_filter ?_ (forall₂_filterMap fun m member => method_rule made member)
    intro m r yields
    simp only [yields.params,resolve_clashes]

theorem mismatch_found (made : (analyzeDeclaration d index settings).result = some b) (label : String) :
    (∃ item ∈ (analyzeDeclaration d index settings).diagnostics.items,
      item.code = .typeMismatch ∧ item.member = some label) ↔
      ∃ m ∈ d.rules, ∃ p ∈ m.params, d.clashes p = true ∧ m.label p = label := by
  rw [analyzed_open (unblocked_of_made made)]
  constructor
  · rintro ⟨item,found,code,member⟩
    rcases List.mem_append.mp found with own | bound
    · have other := (Declaration.findings own).2
      rw [code] at other
      cases other
    · obtain ⟨r,rule,p,taken,reported⟩ := bind_findings.mp bound
      obtain ⟨m,method,made⟩ := List.mem_filterMap.mp rule
      have yields := rule_yields made
      obtain ⟨-,place,⟨other,-⟩ | ⟨-,mismatch⟩⟩ := param_findings reported
      · rw [code] at other
        cases other
      · rw [resolve_clashes] at mismatch
        rw [yields.params] at taken
        rw [place,yields.name] at member
        exact ⟨m,method,p,taken,mismatch,Option.some.inj member⟩
  · rintro ⟨m,method,p,taken,clash,rfl⟩
    obtain ⟨r,made,yields⟩ := method_rule made method
    rw [← resolve_clashes d index settings] at clash
    obtain ⟨item,reported,code⟩ := mismatch_reported r clash
    have place := (param_findings reported).2.1
    refine ⟨item,List.mem_append_right _ (bind_findings.mpr ⟨r,?_,p,?_,reported⟩),code,?_⟩
    · exact List.mem_filterMap.mpr ⟨m,method,made⟩
    · rwa [yields.params]
    · rw [place,yields.name]
      rfl

end

section
variable {g : Declarations} {settings : Settings} {i : Nat} {d : Declaration}

theorem schema_of_first (first : First g.marked i d) : (analyze g settings).schema? d.qualifiedName =
    (analyzeDeclaration d (TypeIndex.build g settings) settings).result := by
  have origin : ∀ b ∈ (analyze g settings).schemas, b.schema.name = d.qualifiedName →
      (analyzeDeclaration d (TypeIndex.build g settings) settings).result = some b := by
    intro b member same
    obtain ⟨j,e,again,made⟩ := mem_schemas.mp member
    obtain ⟨-,rfl⟩ := first.unique again (same.symm.trans (analyzed_name made))
    exact made
  cases found : (analyze g settings).schema? d.qualifiedName with
  | some b => exact (origin b (List.mem_of_find?_eq_some found) (by simpa using List.find?_some found)).symm
  | none =>
    cases made : (analyzeDeclaration d (TypeIndex.build g settings) settings).result with
    | none => rfl
    | some b =>
      have absent := List.find?_eq_none.mp found b (mem_schemas.mpr ⟨i,d,first,made⟩)
      exact absurd (analyzed_name made) (by simpa using absent)

theorem reported_in_own (first : First g.marked i d) (label : String) :
    (analyze g settings).diagnostics.reportMismatch d.qualifiedName label = true ↔
      ∃ item ∈ (analyzeDeclaration d (TypeIndex.build g settings) settings).diagnostics.items,
        item.code = .typeMismatch ∧ item.member = some label := by
  simp only [Diagnostics.reportMismatch,List.any_eq_true,Bool.and_eq_true,beq_iff_eq]
  constructor
  · rintro ⟨item,member,⟨same,code⟩,place⟩
    exact ⟨item,(own_items first (by rw [code]; nofun)).mp ⟨member,same⟩,code,place⟩
  · rintro ⟨item,here,code,place⟩
    obtain ⟨member,same⟩ := (own_items first (by rw [code]; nofun)).mpr here
    exact ⟨item,member,⟨same,code⟩,place⟩

theorem reportMismatch_iff {b : BoundSchema} (first : First g.marked i d)
    (found : (analyze g settings).schema? d.qualifiedName = some b) (label : String) :
    (analyze g settings).diagnostics.reportMismatch d.qualifiedName label = true ↔
      ∃ m ∈ d.rules, ∃ p ∈ m.params, d.clashes p = true ∧ m.label p = label := by
  rw [schema_of_first first] at found
  rw [reported_in_own first,mismatch_found found]

theorem absent_reported (first : First g.marked i d) (absent : (analyze g settings).schema? d.qualifiedName = none) :
    ∃ item ∈ (analyze g settings).diagnostics.items, item.schema = d.qualifiedName ∧ item.isError = true := by
  rw [schema_of_first first] at absent
  obtain ⟨item,here,blocks⟩ := analyzed_none_iff.mp absent
  obtain ⟨member,same⟩ := (own_items first (analyzed_findings here).2).mpr here
  exact ⟨item,member,same,blocking_error blocks⟩

end

theorem all_made {index : TypeIndex} {settings : Settings} {ds : List Declaration} {seen : List String}
    (silent : ∀ found ∈ analyzeAll index settings ds seen, ∀ item ∈ found.diagnostics.items, item.isError = false) :
    List.Forall₂ (fun d b => (analyzeDeclaration d index settings).result = some b ∧
      ∀ item ∈ (analyzeDeclaration d index settings).diagnostics.items, item.isError = false)
      ds ((analyzeAll index settings ds seen).filterMap (·.result)) := by
  induction ds generalizing seen with
  | nil => exact .nil
  | cons first rest ih =>
    rw [analyzeAll] at silent ⊢
    split at silent
    · have noted := silent _ List.mem_cons_self (duplicateSchema first) (List.mem_singleton_self _)
      cases noted
    · rename_i fresh
      rw [if_neg fresh]
      have here := silent _ List.mem_cons_self
      cases made : (analyzeDeclaration first index settings).result with
      | none =>
        obtain ⟨item,found,blocks⟩ := analyzed_none_iff.mp made
        have error := blocking_error blocks
        rw [here item found] at error
        cases error
      | some b =>
        rw [List.filterMap_cons_some made]
        exact .cons ⟨made,here⟩ (ih fun found later => silent found (List.mem_cons_of_mem _ later))

theorem kept_whole {d : Declaration} {index : TypeIndex} {settings : Settings} {b : BoundSchema}
    (made : (analyzeDeclaration d index settings).result = some b)
    (silent : ∀ item ∈ (analyzeDeclaration d index settings).diagnostics.items, item.isError = false) :
    d.Kept d.rules b.schema := by
  have whole : (d.rules.filter fun m => !m.params.any d.clashes) = d.rules := by
    rw [List.filter_eq_self]
    intro m method
    simp only [Bool.not_eq_true',List.any_eq_false]
    intro p taken clash
    obtain ⟨item,found,code,-⟩ := (mismatch_found made _).mpr ⟨m,method,p,taken,clash,rfl⟩
    have error := silent item found
    rw [Diagnostic.isError,Diagnostic.severity,code] at error
    cases error
  have kept := made_kept made
  rwa [whole] at kept

-- Nothing is lost without a report. A schema has all fields of its declaration and all marked methods but those with a
-- parameter of another type than its field; each such parameter is reported, and no other mismatch is. A declaration that
-- comes to nothing has an error under its name. Without errors every declaration comes to a schema with all it has.
theorem nothing_lost (g : Declarations) (settings : Settings) :
    let a := analyze g settings
    (∀ i d, First g.marked i d →
      (∀ b, a.schema? d.qualifiedName = some b →
        d.Kept (d.rules.filter fun m => !m.params.any d.clashes) b.schema ∧
        (∀ label, a.diagnostics.reportMismatch d.qualifiedName label = true ↔
          ∃ m ∈ d.rules, ∃ p ∈ m.params, d.clashes p = true ∧ m.label p = label) ∧
        ∀ m ∈ d.rules, (∀ p ∈ m.params, ∀ other ∈ d.rules, ∀ q ∈ other.params, other.label q = m.label p → other = m) →
          (m.params.any d.clashes = true ↔
            ∃ p ∈ m.params, a.diagnostics.reportMismatch d.qualifiedName (m.label p) = true)) ∧
      (a.schema? d.qualifiedName = none →
        ∃ item ∈ a.diagnostics.items, item.schema = d.qualifiedName ∧ item.isError = true)) ∧
    (a.diagnostics.hasErrors = false → List.Forall₂ (fun d b => d.Kept d.rules b.schema) g.marked a.schemas) := by
  intro a
  refine ⟨fun i d first => ⟨?_,absent_reported first⟩,?_⟩
  · intro b found
    have reported := reportMismatch_iff first found
    refine ⟨made_kept (schema_of_first first ▸ found),reported,?_⟩
    intro m method alone
    rw [List.any_eq_true]
    constructor
    · rintro ⟨p,taken,clash⟩
      exact ⟨p,taken,(reported _).mpr ⟨m,method,p,taken,clash,rfl⟩⟩
    · rintro ⟨p,taken,here⟩
      obtain ⟨other,method,q,named,clash,same⟩ := (reported _).mp here
      cases alone p taken other method q named same
      exact ⟨q,named,clash⟩
  · intro silent
    refine (all_made ?_).imp fun d b ⟨made,here⟩ => kept_whole made here
    intro found part item here
    have quiet := List.any_eq_false.mp silent item (List.mem_flatMap.mpr ⟨found,part,here⟩)
    exact Bool.eq_false_iff.mpr quiet

-- Two methods of one name, of which the second takes the field under another type.
def overloaded : Declaration where
  name := "Range"
  marked := true
  members := [
    .field ⟨"low",⟨"i32",[]⟩,none,[⟨.set,.hidden⟩]⟩,
    .method ⟨"in_range",true,.absent,[⟨"low",⟨"i32",[]⟩⟩],some ⟨"Vec",[⟨"String",[]⟩]⟩⟩,
    .method ⟨"in_range",true,.absent,[⟨"low",⟨"i64",[]⟩⟩],some ⟨"Vec",[⟨"String",[]⟩]⟩⟩]

theorem overloaded_first : First (Declarations.marked ⟨[overloaded]⟩) 0 overloaded := ⟨rfl,nofun⟩

theorem overloaded_bound : ∃ b, (analyze ⟨[overloaded]⟩ {}).schema? overloaded.qualifiedName = some b := by
  rw [← Option.isSome_iff_exists]
  decide

theorem overloaded_kept :
    ∃ b, (analyze ⟨[overloaded]⟩ {}).schema? overloaded.qualifiedName = some b ∧
      overloaded.Kept [⟨"in_range",true,.absent,[⟨"low",⟨"i32",[]⟩⟩],some ⟨"Vec",[⟨"String",[]⟩]⟩⟩] b.schema := by
  obtain ⟨b,found⟩ := overloaded_bound
  exact ⟨b,found,(((nothing_lost ⟨[overloaded]⟩ {}).1 0 overloaded overloaded_first).1 b found).1⟩

-- The report about one of two methods of the same name is no reason to leave out the other.
theorem label_of_kept_rule : ¬ ∀ (g : Declarations) (settings : Settings) (i : Nat) (d : Declaration) (b : BoundSchema),
    First g.marked i d → (analyze g settings).schema? d.qualifiedName = some b →
      d.Kept (d.rules.filter fun m => !m.params.any fun p =>
        (analyze g settings).diagnostics.reportMismatch d.qualifiedName (m.label p)) b.schema := by
  intro claimed
  obtain ⟨b,found⟩ := overloaded_bound
  have left := (claimed _ _ _ _ _ overloaded_first found).rules.length_eq
  have right := (made_kept (schema_of_first overloaded_first ▸ found)).rules.length_eq
  rw [← right] at left
  revert left
  decide

end DomainSchema
