import DomainSchema.Proofs.Grouping
import DomainSchema.Proofs.Survival

namespace DomainSchema

-- What other declarations can tell of one: which type it is, where it belongs, and what it counts as.
structure Declaration.Alike (d d' : Declaration) : Prop where
  name : d'.name = d.name
  modulePath : d'.modulePath = d.modulePath
  path : d'.path = d.path
  arity : d'.generics.length = d.generics.length
  marked : d'.marked = d.marked
  implements : d'.implements = d.implements

def Declaration.home (d : Declaration) : Option String := d.modulePath.filter fun path => !path.isEmpty

structure Found.Concerns (found : Found BoundSchema) (d : Declaration) : Prop where
  schema : ∀ b, found.result = some b → b.schema.name = d.qualifiedName ∧ b.schema.modulePath = d.modulePath
  diagnostics : ∀ item ∈ found.diagnostics.items, item.schema = d.qualifiedName

section
variable {d d' : Declaration} {index : TypeIndex} {settings : Settings}

theorem Declaration.Alike.qualifiedName (alike : d.Alike d') : d'.qualifiedName = d.qualifiedName := by
  unfold Declaration.qualifiedName
  rw [alike.path,alike.modulePath,alike.name]

theorem Declaration.Alike.key (alike : d.Alike d') : d'.key = d.key := by
  unfold Declaration.key
  rw [alike.qualifiedName,alike.arity]

theorem Declaration.Alike.hasCapability (alike : d.Alike d') (capability : String) :
    d'.hasCapability capability = d.hasCapability capability := by
  unfold Declaration.hasCapability
  rw [alike.implements]

theorem duplicate_concerns (d : Declaration) : Found.Concerns ⟨none,⟨[duplicateSchema d]⟩⟩ d := by
  refine ⟨nofun,?_⟩
  intro item found
  cases List.mem_singleton.mp found
  rfl

theorem analyzed_concerns (d : Declaration) (index : TypeIndex) (settings : Settings) :
    (analyzeDeclaration d index settings).Concerns d := by
  refine ⟨?_,fun item found => (analyzed_findings found).1⟩
  intro b made
  refine ⟨analyzed_name made,?_⟩
  rw [analyzed_open (unblocked_of_made made)] at made
  rw [(bind_accepted made).1]
  rfl

theorem Found.Concerns.of_alike {found : Found BoundSchema} (alike : d.Alike d') (concerns : found.Concerns d') :
    found.Concerns d := by
  constructor
  · intro b made
    rw [← alike.qualifiedName,← alike.modulePath]
    exact concerns.schema b made
  · intro item here
    rw [← alike.qualifiedName]
    exact concerns.diagnostics item here

-- Two analyses that differ at most in what came of one declaration.
def ApartFrom (d : Declaration) (found found' : List (Found BoundSchema)) : Prop :=
  ∃ front own own' back, found = front ++ own ++ back ∧ found' = front ++ own' ++ back ∧
    (∀ x ∈ own, x.Concerns d) ∧ ∀ x ∈ own', x.Concerns d

theorem ApartFrom.refl (d : Declaration) (found : List (Found BoundSchema)) : ApartFrom d found found :=
  ⟨found,[],[],[],by simp,by simp,nofun,nofun⟩

theorem ApartFrom.cons {found found' : List (Found BoundSchema)} (x : Found BoundSchema) (apart : ApartFrom d found found') :
    ApartFrom d (x :: found) (x :: found') := by
  obtain ⟨front,own,own',back,rfl,rfl,concerns,concerns'⟩ := apart
  exact ⟨x :: front,own,own',back,rfl,rfl,concerns,concerns'⟩

theorem ApartFrom.head {x x' : Found BoundSchema} (concerns : x.Concerns d) (concerns' : x'.Concerns d)
    (back : List (Found BoundSchema)) : ApartFrom d (x :: back) (x' :: back) := by
  refine ⟨[],[x],[x'],back,rfl,rfl,?_,?_⟩
  · intro y member
    rwa [List.mem_singleton.mp member]
  · intro y member
    rwa [List.mem_singleton.mp member]

-- Both declarations are the first of their name or neither is, so what has been seen after them is the same.
theorem analyzeAll_replaced (alike : d.Alike d') (before after : List Declaration) (seen : List String) :
    ApartFrom d (analyzeAll index settings (before ++ d :: after) seen)
      (analyzeAll index settings (before ++ d' :: after) seen) := by
  induction before generalizing seen with
  | nil =>
    simp only [List.nil_append,analyzeAll,alike.qualifiedName]
    split
    · exact .head (duplicate_concerns d) ((duplicate_concerns d').of_alike alike) _
    · exact .head (analyzed_concerns d _ _) ((analyzed_concerns d' _ _).of_alike alike) _
  | cons first rest ih =>
    simp only [List.cons_append,analyzeAll]
    split
    · exact (ih seen).cons _
    · exact (ih _).cons _

section
variable {found found' : List (Found BoundSchema)}

theorem ApartFrom.schemas (apart : ApartFrom d found found') {keep : BoundSchema → Bool}
    (blind : ∀ b, b.schema.name = d.qualifiedName → b.schema.modulePath = d.modulePath → keep b = false) :
    (found'.filterMap (·.result)).filter keep = (found.filterMap (·.result)).filter keep := by
  obtain ⟨front,own,own',back,rfl,rfl,concerns,concerns'⟩ := apart
  have hidden : ∀ xs : List (Found BoundSchema), (∀ x ∈ xs, x.Concerns d) → (xs.filterMap (·.result)).filter keep = [] := by
    intro xs about
    refine List.filter_eq_nil_iff.mpr ?_
    intro b member
    obtain ⟨x,inside,made⟩ := List.mem_filterMap.mp member
    obtain ⟨name,place⟩ := (about x inside).schema b made
    simp [blind b name place]
  simp only [List.filterMap_append,List.filter_append,hidden own concerns,hidden own' concerns']

theorem ApartFrom.items (apart : ApartFrom d found found') {keep : Diagnostic → Bool}
    (blind : ∀ item, item.schema = d.qualifiedName → keep item = false) :
    (found'.flatMap (·.diagnostics.items)).filter keep = (found.flatMap (·.diagnostics.items)).filter keep := by
  obtain ⟨front,own,own',back,rfl,rfl,concerns,concerns'⟩ := apart
  have hidden : ∀ xs : List (Found BoundSchema), (∀ x ∈ xs, x.Concerns d) →
      (xs.flatMap (·.diagnostics.items)).filter keep = [] := by
    intro xs about
    refine List.filter_eq_nil_iff.mpr ?_
    intro item member
    obtain ⟨x,inside,here⟩ := List.mem_flatMap.mp member
    simp [blind item ((about x inside).diagnostics item here)]
  simp only [List.flatMap_append,List.filter_append,hidden own concerns,hidden own' concerns']

end

section
variable {before after : List Declaration}

theorem index_replaced (alike : d.Alike d') (before after : List Declaration) (settings : Settings) :
    TypeIndex.build ⟨before ++ d' :: after⟩ settings = TypeIndex.build ⟨before ++ d :: after⟩ settings := by
  simp only [TypeIndex.build,List.filter_append,List.filter_cons,alike.marked,alike.hasCapability]
  split <;> simp [alike.key]

theorem marked_replaced (alike : d.Alike d') (before after : List Declaration) :
    ApartFrom d (analyzeAll index settings (Declarations.marked ⟨before ++ d :: after⟩) [])
      (analyzeAll index settings (Declarations.marked ⟨before ++ d' :: after⟩) []) := by
  simp only [Declarations.marked,List.filter_append,List.filter_cons,alike.marked]
  split
  · exact analyzeAll_replaced alike _ _ []
  · exact .refl d _

theorem other_schemas (alike : d.Alike d') {keep : BoundSchema → Bool}
    (blind : ∀ b, b.schema.name = d.qualifiedName → b.schema.modulePath = d.modulePath → keep b = false) :
    (analyze ⟨before ++ d' :: after⟩ settings).schemas.filter keep =
      (analyze ⟨before ++ d :: after⟩ settings).schemas.filter keep := by
  unfold analyze
  rw [index_replaced alike]
  exact (marked_replaced alike before after).schemas blind

theorem other_items (alike : d.Alike d') {keep : Diagnostic → Bool}
    (blind : ∀ item, item.schema = d.qualifiedName → keep item = false) :
    (analyze ⟨before ++ d' :: after⟩ settings).diagnostics.items.filter keep =
      (analyze ⟨before ++ d :: after⟩ settings).diagnostics.items.filter keep := by
  unfold analyze
  rw [index_replaced alike]
  exact (marked_replaced alike before after).items blind

theorem other_units (alike : d.Alike d') :
    (compile ⟨before ++ d' :: after⟩ settings).units.filter (·.modulePath ≠ d.home) =
      (compile ⟨before ++ d :: after⟩ settings).units.filter (·.modulePath ≠ d.home) := by
  have grouped : ∀ a : Analysis, (generate a settings).filter (·.modulePath ≠ d.home) =
      (groupByModule (a.schemas.filter (·.schema.home ≠ d.home))).map (·.unit settings) := by
    intro a
    rw [generate,List.filter_map,← groupByModule_others]
    rfl
  refine (grouped _).trans (Eq.trans ?_ (grouped _).symm)
  rw [other_schemas alike]
  intro b _ place
  simp [Schema.home,Declaration.home,place]

end

end

-- Failures stay where they are. A declaration may be replaced by one that is as good or as bad, as long as it is the same
-- type of the same module: under every other name the schema with its index, if there is one, and what is reported are as
-- before, and so is the generated file of every other module.
theorem failures_contained (before after : List Declaration) (d d' : Declaration) (settings : Settings)
    (alike : d.Alike d') :
    let g : Declarations := ⟨before ++ d :: after⟩
    let g' : Declarations := ⟨before ++ d' :: after⟩
    (∀ name, name ≠ d.qualifiedName → (analyze g' settings).schema? name = (analyze g settings).schema? name ∧
      (analyze g' settings).diagnostics.under name = (analyze g settings).diagnostics.under name) ∧
    ∀ m, m ≠ d.home → (compile g' settings).unit? m = (compile g settings).unit? m := by
  intro g g'
  refine ⟨?_,?_⟩
  · intro name other
    have blind : ∀ own, own = d.qualifiedName → (own == name) = false := by
      rintro own rfl
      exact beq_false_of_ne other.symm
    refine ⟨?_,other_items alike fun item same => blind _ same⟩
    simp only [Analysis.schema?,← List.head?_filter]
    rw [other_schemas alike fun b same _ => blind _ same]
  · intro m other
    have seen : ∀ units : List GeneratedUnit, units.find? (·.modulePath == m) =
        (units.filter (·.modulePath ≠ d.home)).find? (·.modulePath == m) := by
      intro units
      rw [List.find?_filter]
      congr 1
      funext u
      by_cases here : u.modulePath = m <;> simp [here,other]
    simp only [Generated.unit?]
    rw [seen,other_units alike,← seen]

def amount : Declaration where
  name := "Amount"
  marked := true
  members := [.field ⟨"value",⟨"i64",[]⟩,none,[⟨.init,.hidden⟩]⟩]

def price : Declaration where
  name := "Price"
  modulePath := some "shop"
  marked := true
  members := [.field ⟨"amount",⟨"crate::Amount",[]⟩,none,[⟨.set,.exported⟩]⟩]

theorem sealed_amount :
    let g : Declarations := ⟨[amount,price]⟩
    let g' : Declarations := ⟨[{ amount with extensible := false },price]⟩
    ((analyze g {}).schema? "crate::Amount").isSome = true ∧ (analyze g' {}).schema? "crate::Amount" = none ∧
      ((analyze g {}).schema? "crate::shop::Price").isSome = true ∧
      (analyze g' {}).schema? "crate::shop::Price" = (analyze g {}).schema? "crate::shop::Price" ∧
      (compile g' {}).unit? (some "shop") = (compile g {}).unit? (some "shop") := by
  have alike : amount.Alike { amount with extensible := false } := ⟨rfl,rfl,rfl,rfl,rfl,rfl⟩
  obtain ⟨names,modules⟩ := failures_contained [] [price] amount { amount with extensible := false } {} alike
  refine ⟨by decide,by decide,by decide,?_,?_⟩
  · exact (names "crate::shop::Price" (by decide)).1
  · exact modules (some "shop") (by decide)

end DomainSchema
