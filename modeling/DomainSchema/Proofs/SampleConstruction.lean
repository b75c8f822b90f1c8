import DomainSchema.Proofs.SampleRoutines

namespace DomainSchema.Samples

-- What the constructors report, said once for all types: failures of nested arguments first, and only if there are
-- none the findings of the rules.

inductive Supply (α : Type) where
  | positiveInt (value : Int32)
  | percent (value : Int32)
  | currency (code : String)
  | pair (a : Int32) (b : DomainResult PositiveInt)
  | grade (score : DomainResult Percent)
  | batch (items : List (DomainResult PositiveInt)) (label : String)
  | price (amount : DomainResult PositiveInt) (currency : DomainResult Currency)
  | tagged (tag : String) (value : α)

def below (path : String) (e : DomainError) : DomainError :=
  match e.field with
  | none => { e with field := some path }
  | some inner => { e with field := some (if inner = "" then path else path ++ "/" ++ inner) }

def failing (path : String) : List (DomainResult β) → List (String × List DomainError)
  | [] => []
  | .success _ :: rest => failing path rest
  | .failure errors :: rest => (path,errors) :: failing path rest

def gathered (failures : List (String × List DomainError)) : List DomainError :=
  failures.flatMap fun (path,errors) => errors.map (below path)

def reported (path : Option String) : RuleOutcome → List DomainError
  | .valid => []
  | .violations found => found.map fun | .message text => ⟨path,text⟩ | .error e => e

def Object.rules : Object α → List (Option String × RuleOutcome)
  | .positiveInt x => [(none,PositiveInt.valueIsNotZero x.value),(none,PositiveInt.valueIsNotNegative x.value)]
  | .percent x => [(some "value",Percent.withinRange x.value)]
  | .currency x =>
    [(none,.ofMessages (if isCurrencyCode x.code then [] else [x.code ++ " is not a currency code"]))]
  | .pair x => [(some "a",Pair.aLessThanB x.a x.b)]
  | .grade _ => []
  | .batch x => [(some "Numbers",Batch.enoughItems x.items x.revision),(some "label",Batch.labelIsShort x.label)]
  | .price _ => []
  | .tagged x => [(some "tag",Tagged.tagNotBlank x.tag)]

def Object.faults (object : Object α) : List DomainError :=
  object.rules.flatMap fun (path,outcome) => reported path outcome

def Object.supply : Object α → Supply α
  | .positiveInt x => .positiveInt x.value
  | .percent x => .percent x.value
  | .currency x => .currency x.code
  | .pair x => .pair x.a (.success x.b)
  | .grade x => .grade (.success x.score)
  | .batch x => .batch (x.items.map .success) x.label
  | .price x => .price (.success x.amount) (.success x.currency)
  | .tagged x => .tagged x.tag x.value

-- The one field that no caller passes is as constructors set it.
def Object.Unrevised : Object α → Prop
  | .batch x => x.revision = 0
  | _ => True

namespace Supply

def make? : Supply α → Option (DomainResult (Object α))
  | .positiveInt value => (PositiveInt.tryNew? value).map (·.map .positiveInt)
  | .percent value => (Percent.tryNew? value).map (·.map .percent)
  | .currency code => some ((Currency.parse code).map .currency)
  | .pair a b => (Pair.tryNew? a b).map (·.map .pair)
  | .grade score => (Grade.tryNew? score).map (·.map .grade)
  | .batch items label => (Batch.tryNew? items label).map (·.map .batch)
  | .price amount money => (Price.tryNew? amount money).map (·.map .price)
  | .tagged tag value => (Tagged.tryNew? tag value).map (·.map .tagged)

def make : Supply α → DomainResult (Object α)
  | .positiveInt value => (PositiveInt.tryNew value).map .positiveInt
  | .percent value => (Percent.tryNew value).map .percent
  | .currency code => (Currency.parse code).map .currency
  | .pair a b => (Pair.tryNew a b).map .pair
  | .grade score => (Grade.tryNew score).map .grade
  | .batch items label => (Batch.tryNew items label).map .batch
  | .price amount money => (Price.tryNew amount money).map .price
  | .tagged tag value => (Tagged.tryNew tag value).map .tagged

theorem make?_eq (supply : Supply α) : supply.make? = some supply.make := by
  cases supply with
  | positiveInt value => rw [make?,PositiveInt.tryNew?_eq,make,Option.map_some]
  | percent value => rw [make?,Percent.tryNew?_eq,make,Option.map_some]
  | currency code => rfl
  | pair a b => rw [make?,Pair.tryNew?_eq,make,Option.map_some]
  | grade score => rw [make?,Grade.tryNew?_eq,make,Option.map_some]
  | batch items label => rw [make?,Batch.tryNew?_eq,make,Option.map_some]
  | price amount money => rw [make?,Price.tryNew?_eq,make,Option.map_some]
  | tagged tag value => rw [make?,Tagged.tryNew?_eq,make,Option.map_some]

def failures : Supply α → List (String × List DomainError)
  | .pair _ b => failing "b" [b]
  | .grade score => failing "score" [score]
  | .batch items _ => failing "Numbers" items
  | .price amount money => failing "amount" [amount] ++ failing "currency" [money]
  | _ => []

end Supply

theorem under_below (path : String) (e : DomainError) : e.under (some path) = below path e := by
  obtain ⟨field,message⟩ := e
  cases field with
  | none => rfl
  | some inner =>
    by_cases empty : inner = ""
    · subst empty
      rfl
    · simp [DomainError.under,below,composePath,empty]

theorem toErrors_reported (path : Option String) (outcome : RuleOutcome) : outcome.toErrors path = reported path outcome := by
  cases outcome with
  | valid => rfl
  | violations found =>
    apply List.map_congr_left
    intro violation _
    cases violation <;> rfl

theorem gathered_failing (path : String) (rs : List (DomainResult β)) :
    gathered (failing path rs) = rs.flatMap fun r => r.errors.map (·.under (some path)) := by
  induction rs with
  | nil => rfl
  | cons r rest ih =>
    cases r with
    | success value => simpa [failing,DomainResult.errors] using ih
    | failure errors =>
      unfold gathered at ih ⊢
      simp only [failing,List.flatMap_cons,ih,DomainResult.errors,under_below]

theorem none_failing {path : String} {rs : List (DomainResult β)} (none : failing path rs = []) :
    ∃ values : List β, rs = values.map .success := by
  induction rs with
  | nil => exact ⟨[],rfl⟩
  | cons r rest ih =>
    cases r with
    | failure errors => cases none
    | success value =>
      obtain ⟨values,rfl⟩ := ih none
      exact ⟨value :: values,rfl⟩

theorem none_failing_single {path : String} {r : DomainResult β} (none : failing path [r] = []) :
    ∃ value, r = .success value := by
  cases r with
  | success value => exact ⟨value,rfl⟩
  | failure errors => cases none

theorem no_values_of_failing {path : String} {rs : List (DomainResult β)} (some : failing path rs ≠ []) :
    rs.mapM DomainResult.value? = none := by
  induction rs with
  | nil => exact absurd rfl some
  | cons r rest ih =>
    cases r with
    | success value => simp [DomainResult.value?,ih some]
    | failure errors => simp [DomainResult.value?]

theorem build_map {errors : List DomainError} {object : β} {make : β → γ} :
    (build errors object).map make = if errors = [] then .success (make object) else .failure errors := by
  cases errors <;> rfl

namespace Supply

theorem object_of_no_failures {supply : Supply α} (none : supply.failures = []) :
    ∃ object : Object α, object.supply = supply ∧ object.Unrevised := by
  cases supply with
  | positiveInt value => exact ⟨.positiveInt ⟨value⟩,rfl,trivial⟩
  | percent value => exact ⟨.percent ⟨value⟩,rfl,trivial⟩
  | currency code => exact ⟨.currency ⟨code⟩,rfl,trivial⟩
  | pair a b =>
    obtain ⟨b,rfl⟩ := none_failing_single none
    exact ⟨.pair ⟨a,b⟩,rfl,trivial⟩
  | grade score =>
    obtain ⟨score,rfl⟩ := none_failing_single none
    exact ⟨.grade ⟨score⟩,rfl,trivial⟩
  | batch items label =>
    obtain ⟨values,rfl⟩ := none_failing none
    exact ⟨.batch ⟨values,label,0⟩,rfl,rfl⟩
  | price amount money =>
    obtain ⟨one,two⟩ := List.append_eq_nil_iff.mp none
    obtain ⟨amount,rfl⟩ := none_failing_single one
    obtain ⟨money,rfl⟩ := none_failing_single two
    exact ⟨.price ⟨amount,money⟩,rfl,trivial⟩
  | tagged tag value => exact ⟨.tagged ⟨tag,value⟩,rfl,trivial⟩

-- Nothing nested is missing, so the rules are asked about the object that is to be made.
theorem make_whole {object : Object α} (unrevised : object.Unrevised) :
    object.supply.make = if object.faults = [] then .success object else .failure object.faults := by
  cases object with
  | positiveInt x =>
    simp only [Object.supply,make,PositiveInt.tryNew,build_map,check,toErrors_reported,List.nil_append]
    simp [Object.faults,Object.rules]
  | percent x => simp [Object.supply,make,Percent.tryNew,build_map,Object.faults,Object.rules,check,toErrors_reported]
  | currency x =>
    simp only [Object.supply,make,Currency.parse,Object.faults,Object.rules]
    by_cases isCode : isCurrencyCode x.code <;> simp [isCode,RuleOutcome.ofMessages,reported,DomainResult.map]
  | pair x => simp [Object.supply,make,Pair.tryNew,nested,build_map,Object.faults,Object.rules,check,toErrors_reported]
  | grade x => simp [Object.supply,make,Grade.tryNew,nested,build_map,Object.faults,Object.rules]
  | batch x =>
    obtain ⟨items,label,revision⟩ := x
    cases unrevised
    simp [Object.supply,make,Batch.tryNew,nestedList_values,build_map,Object.faults,Object.rules,check,toErrors_reported]
  | price x => simp [Object.supply,make,Price.tryNew,nested,build_map,Object.faults,Object.rules]
  | tagged x => simp [Object.supply,make,Tagged.tryNew,build_map,Object.faults,Object.rules,check,toErrors_reported]

theorem make_failing {supply : Supply α} (some : supply.failures ≠ []) :
    supply.make = .failure (gathered supply.failures) := by
  cases supply with
  | positiveInt | percent | currency | tagged => exact absurd rfl some
  | pair a b =>
    cases b with
    | success b => exact absurd rfl some
    | failure errors =>
      simp [make,Pair.tryNew,nested_exact,failures,gathered_failing,DomainResult.value?,DomainResult.map]
  | grade score =>
    cases score with
    | success score => exact absurd rfl some
    | failure errors =>
      simp [make,Grade.tryNew,nested_exact,failures,gathered_failing,DomainResult.value?,DomainResult.map]
  | batch items label =>
    simp only [make,Batch.tryNew,nestedList_exact,no_values_of_failing some,failures,gathered_failing,List.nil_append]
    rfl
  | price amount money =>
    have errors : gathered (failures (.price amount money : Supply α)) =
        amount.errors.map (·.under (Option.some "amount")) ++ money.errors.map (·.under (Option.some "currency")) := by
      have one := gathered_failing "amount" [amount]
      have two := gathered_failing "currency" [money]
      simp only [List.flatMap_singleton] at one two
      rw [← one,← two]
      exact List.flatMap_append
    simp only [errors,make,Price.tryNew,nested_exact,List.nil_append]
    cases amount with
    | failure => rfl
    | success amount =>
      cases money with
      | failure => rfl
      | success money => exact absurd rfl some

end Supply

def Store.supply? (s : Store α) : Creation α → Option (Supply α)
  | .positiveInt value => some (.positiveInt value)
  | .percent value => some (.percent value)
  | .currency code => some (.currency code)
  | .pair a b => (s.positiveInt? b).map (.pair a)
  | .grade score => (s.percent? score).map .grade
  | .batch items label => (items.mapM s.positiveInt?).map (.batch · label)
  | .price amount money => do
    let amount ← s.positiveInt? amount
    let money ← s.currency? money
    return .price amount money
  | .tagged tag value => some (.tagged tag value)

theorem create_supply (s : Store α) (creation : Creation α) : s.create? creation = (s.supply? creation).bind Supply.make? := by
  cases creation with
  | positiveInt | percent | currency | tagged => rfl
  | pair a b => cases found : s.positiveInt? b <;> simp [Store.create?,Store.supply?,found,Supply.make?]
  | grade score => cases found : s.percent? score <;> simp [Store.create?,Store.supply?,found,Supply.make?]
  | batch items label =>
    cases found : items.mapM s.positiveInt? <;> simp [Store.create?,Store.supply?,found,Supply.make?]
  | price amount money =>
    cases found : s.positiveInt? amount <;> cases other : s.currency? money <;>
      simp [Store.create?,Store.supply?,found,other,Supply.make?]

theorem new_supply {s : Store α} {creation : Creation α} {supply : Supply α} (slot : Option String)
    (supplied : s.supply? creation = some supply) :
    s.step? (.new slot creation) = some (.built supply.make,s.keep slot supply.make) := by
  simp [Store.step?,create_supply,supplied,supply.make?_eq]

theorem gathered_empty {failures : List (String × List DomainError)} (some : failures ≠ [])
    (none : gathered failures = []) : ∃ path, (path,[]) ∈ failures := by
  obtain ⟨⟨path,errors⟩,rest,rfl⟩ := List.exists_cons_of_ne_nil some
  have here := (List.append_eq_nil_iff.mp none).1
  rw [List.map_eq_nil_iff.mp here]
  exact ⟨path,by simp⟩

-- A constructor fails with all errors of all nested arguments that failed, or else with all findings of all rules; if
-- there are neither it makes the object. It fails without an error only if a nested argument did.
theorem construction_exact (supply : Supply α) :
    (supply.failures ≠ [] → supply.make? = some (.failure (gathered supply.failures))) ∧
    (supply.failures = [] → ∃ object : Object α, object.supply = supply ∧ object.Unrevised ∧
      (object.faults ≠ [] → supply.make? = some (.failure object.faults)) ∧
      (object.faults = [] → supply.make? = some (.success object))) ∧
    (supply.make? = some (.failure []) → ∃ path, (path,[]) ∈ supply.failures) ∧
    ∀ (s : Store α) (slot : Option String) (creation : Creation α), s.supply? creation = some supply →
      ∃ result, supply.make? = some result ∧ s.step? (.new slot creation) = some (.built result,s.keep slot result) := by
  rw [supply.make?_eq]
  refine ⟨fun some_ => congrArg some (Supply.make_failing some_),?_,?_,fun s slot creation supplied => ?_⟩
  · intro none
    obtain ⟨object,rfl,unrevised⟩ := Supply.object_of_no_failures none
    refine ⟨object,rfl,unrevised,?_,?_⟩
    · intro found
      rw [Supply.make_whole unrevised,if_neg found]
    · intro silent
      rw [Supply.make_whole unrevised,if_pos silent]
  · intro empty
    by_cases none : supply.failures = []
    · obtain ⟨object,rfl,unrevised⟩ := Supply.object_of_no_failures none
      rw [Supply.make_whole unrevised,Option.some.injEq] at empty
      split at empty
      · cases empty
      · rename_i found
        exact absurd (DomainResult.failure.inj empty) found
    · rw [Supply.make_failing none,Option.some.injEq] at empty
      exact gathered_empty none (DomainResult.failure.inj empty)
  · exact ⟨supply.make,rfl,new_supply slot supplied⟩

-- Both nested arguments are looked at, and each error stands below the field that was to hold it.
theorem price_fails :
    let supply : Supply Nat := .price (.failure [⟨some "value","is zero"⟩]) (.failure [⟨none,"is no code"⟩])
    supply.failures ≠ [] ∧
      supply.make? = some (.failure [⟨some "amount/value","is zero"⟩,⟨some "currency","is no code"⟩]) := by
  intro supply
  have some_ : supply.failures ≠ [] := List.cons_ne_nil _ _
  exact ⟨some_,(construction_exact supply).1 some_⟩

end DomainSchema.Samples
