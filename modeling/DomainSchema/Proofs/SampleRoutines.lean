import DomainSchema.Proofs.SampleHosts

namespace DomainSchema.Samples

open Emission (Content)

def schemaNamed (name ident : String) (modulePath : Option String) (fields : List Field) (rules : List Rule)
    (generics : List String := []) : Schema :=
  { name, ident, modulePath, generics, visibility := .exported, fields, rules }

namespace PositiveInt

def valueField : Field := ⟨"value",intType,.none,none,.once⟩

def schema : Schema := schemaNamed "crate::numbers::PositiveInt" "PositiveInt" (some "numbers") [valueField] [
  ⟨"value_is_not_zero",[⟨"value",intType⟩],.messages⟩,
  ⟨"value_is_not_negative",[⟨"value",intType⟩],.messages⟩]

theorem known : host.Has schema := ⟨rfl,rfl,by decide,by decide,by decide⟩

def tryNew (value : Int32) : DomainResult PositiveInt :=
  let errors := check [] none (valueIsNotZero value)
  let errors := check errors none (valueIsNotNegative value)
  build errors ⟨value⟩

theorem tryNew?_eq (value : Int32) : tryNew? value = some (tryNew value) := by
  let given : List (Emission.Given (Value Empty)) := [(valueField,.value (.number value))]
  have asked : host.gathered schema (host.value ⟨value⟩) schema.rules =
      check (check [] none (valueIsNotZero value)) none (valueIsNotNegative value) := rfl
  have made := known.construct_makes given (x := ⟨value⟩) rfl trivial rfl ⟨rfl,rfl⟩ rfl nofun
  rw [asked] at made
  exact made

end PositiveInt

namespace Percent

def valueField : Field := ⟨"value",intType,.none,some "value",.settable⟩

def schema : Schema := schemaNamed "crate::numbers::Percent" "Percent" (some "numbers") [valueField] [
  ⟨"within_range",[⟨"value",intType⟩],.messages⟩]

theorem known : host.Has schema := ⟨rfl,rfl,by decide,by decide,by decide⟩

theorem holds (x : Percent) : host.Holds schema x := ⟨rfl,rfl⟩

def tryNew (value : Int32) : DomainResult Percent := build (check [] (some "value") (withinRange value)) ⟨value⟩

def setValue (_ : Percent) (value : Int32) : Except DomainException Percent :=
  accept (check [] (some "value") (withinRange value)) ⟨value⟩

theorem tryNew?_eq (value : Int32) : tryNew? value = some (tryNew value) := by
  let given : List (Emission.Given (Value Empty)) := [(valueField,.value (.number value))]
  have asked : host.gathered schema (host.value ⟨value⟩) schema.rules = check [] (some "value") (withinRange value) := rfl
  have made := known.construct_makes given rfl trivial rfl (holds ⟨value⟩) rfl nofun
  rw [asked] at made
  exact made

theorem setValue?_eq (x : Percent) (value : Int32) : x.setValue? value = some (settle x (x.setValue value)) := by
  let arg : Content (Value Empty) := .value (.number value)
  have asked : host.gathered schema (host.value ⟨value⟩) ((BoundSchema.ofSchema schema).rulesFor valueField.name) =
      check [] (some "value") (withinRange value) := rfl
  have changed := known.set_changes (f := valueField) (c := arg) rfl (holds x) (holds ⟨value⟩) nofun trivial rfl rfl
  rw [asked] at changed
  exact changed

end Percent

namespace Pair

def aField : Field := ⟨"a",intType,.none,some "a",.settable⟩

def bField : Field := ⟨"b",positiveIntType,.single,some "b",.settable⟩

def schema : Schema := schemaNamed "crate::shapes::Pair" "Pair" (some "shapes") [aField,bField] [
  ⟨"a_less_than_b",[⟨"a",intType⟩,⟨"b",positiveIntType⟩],.messages⟩]

theorem known : host.Has schema := ⟨rfl,rfl,by decide,by decide,by decide⟩

theorem holds (x : Pair) : host.Holds schema x := ⟨rfl,rfl⟩

def tryNew (a : Int32) (b : DomainResult PositiveInt) : DomainResult Pair :=
  match nested [] (some "b") b with
  | (none,errors) => .failure errors
  | (some b,errors) => build (check errors (some "a") (aLessThanB a b)) ⟨a,b⟩

def setA (x : Pair) (a : Int32) : Except DomainException Pair :=
  accept (check [] (some "a") (aLessThanB a x.b)) { x with a }

def setB (x : Pair) (b : DomainResult PositiveInt) : Except DomainException Pair :=
  match nested [] (some "b") b with
  | (none,errors) => .error ⟨errors⟩
  | (some b,errors) => accept (check errors (some "a") (aLessThanB x.a b)) { x with b }

theorem asked (x : Pair) : host.gathered schema (host.value x) schema.rules = check [] (some "a") (aLessThanB x.a x.b) := rfl

theorem tryNew?_eq (a : Int32) (b : DomainResult PositiveInt) : tryNew? a b = some (tryNew a b) := by
  let given : List (Emission.Given (Value Empty)) := [(aField,.value (.number a)),(bField,nestedNumber b)]
  cases b with
  | failure errors =>
    have failed := known.construct_fails given rfl ⟨trivial,trivial⟩ rfl
    exact failed.trans (congrArg _ (congrArg _ (List.append_nil _)))
  | success b =>
    have plain : given.Forall fun g => g.2.plain? host.meaning = some (host.value ⟨a,b⟩ g.1.name) := ⟨rfl,rfl⟩
    have made := known.construct_makes given rfl ⟨trivial,trivial⟩ ⟨rfl,rfl⟩ (holds ⟨a,b⟩) plain ⟨nofun,nofun⟩
    rw [asked] at made
    exact made

theorem setA?_eq (x : Pair) (a : Int32) : x.setA? a = some (settle x (x.setA a)) := by
  let arg : Content (Value Empty) := .value (.number a)
  have rules : (BoundSchema.ofSchema schema).rulesFor aField.name = schema.rules := rfl
  have others : schema.fields.Forall fun g => g.name ≠ aField.name → host.value ⟨a,x.b⟩ g.name = host.value x g.name :=
    ⟨nofun,fun _ => rfl⟩
  have changed := known.set_changes (f := aField) (c := arg) rfl (holds x) (holds ⟨a,x.b⟩) others trivial rfl rfl
  rw [rules,asked] at changed
  exact changed

theorem setB?_eq (x : Pair) (b : DomainResult PositiveInt) : x.setB? b = some (settle x (x.setB b)) := by
  cases b with
  | failure errors => exact known.set_fails (f := bField) rfl (holds x) trivial rfl
  | success b =>
    let arg := nestedNumber (.success b)
    have rules : (BoundSchema.ofSchema schema).rulesFor bField.name = schema.rules := rfl
    have others : schema.fields.Forall fun g => g.name ≠ bField.name → host.value ⟨x.a,b⟩ g.name = host.value x g.name :=
      ⟨fun _ => rfl,nofun⟩
    have changed := known.set_changes (f := bField) (c := arg) rfl (holds x) (holds ⟨x.a,b⟩) others trivial rfl rfl
    rw [rules,asked] at changed
    exact changed

end Pair

namespace Grade

def scoreField : Field := ⟨"score",⟨"crate::numbers::Percent",[]⟩,.single,some "score",.settable⟩

def schema : Schema := schemaNamed "crate::shapes::Grade" "Grade" (some "shapes") [scoreField] []

theorem known : host.Has schema := ⟨rfl,rfl,by decide,by decide,by decide⟩

theorem holds (x : Grade) : host.Holds schema x := ⟨rfl,rfl⟩

def tryNew (score : DomainResult Percent) : DomainResult Grade :=
  match nested [] (some "score") score with
  | (none,errors) => .failure errors
  | (some score,errors) => build errors ⟨score⟩

-- No rule takes the score, so nothing is left to ask once it is unwrapped.
def setScore (x : Grade) (score : DomainResult Percent) : Except DomainException Grade :=
  match nested [] (some "score") score with
  | (none,errors) => .error ⟨errors⟩
  | (some score,_) => .ok { x with score }

theorem tryNew?_eq (score : DomainResult Percent) : tryNew? score = some (tryNew score) := by
  let given : List (Emission.Given (Value Empty)) := [(scoreField,.result (score.map .percent))]
  cases score with
  | failure errors =>
    have failed := known.construct_fails given rfl trivial rfl
    exact failed.trans (congrArg _ (congrArg _ (List.append_nil _)))
  | success score => exact known.construct_makes given rfl trivial rfl (holds ⟨score⟩) rfl nofun

theorem setScore?_eq (x : Grade) (score : DomainResult Percent) :
    x.setScore? score = some (settle x (x.setScore score)) := by
  let arg : Content (Value Empty) := .result (score.map .percent)
  cases score with
  | failure errors => exact known.set_fails (f := scoreField) (c := arg) rfl (holds x) trivial rfl
  | success score =>
    exact known.set_changes (f := scoreField) (c := arg) rfl (holds x) (holds ⟨score⟩) nofun trivial rfl rfl

end Grade

namespace Batch

def itemsField : Field := ⟨"items",listOf positiveIntType,.list,some "Numbers",.settable⟩

def labelField : Field := ⟨"label",textType,.none,some "label",.once⟩

def revisionField : Field := ⟨"revision",revisionType,.none,some "revision",.fixed⟩

def schema : Schema := schemaNamed "crate::shapes::Batch" "Batch" (some "shapes") [itemsField,labelField,revisionField] [
  ⟨"enough_items",[⟨"items",listOf positiveIntType⟩,⟨"revision",revisionType⟩],.messages⟩,
  ⟨"label_is_short",[⟨"label",textType⟩],.errors⟩]

theorem known : host.Has schema := ⟨rfl,rfl,by decide,by decide,by decide⟩

theorem holds (x : Batch) : host.Holds schema x := ⟨rfl,rfl⟩

def tryNew (items : List (DomainResult PositiveInt)) (label : String) : DomainResult Batch :=
  match nestedList [] (some "Numbers") items with
  | (none,errors) => .failure errors
  | (some items,errors) =>
    let revision := 0
    let errors := check errors (some "Numbers") (enoughItems items revision)
    let errors := check errors (some "label") (labelIsShort label)
    build errors ⟨items,label,revision⟩

-- The label is not asked about again: no rule takes it together with the items.
def setItems (x : Batch) (items : List (DomainResult PositiveInt)) : Except DomainException Batch :=
  match nestedList [] (some "Numbers") items with
  | (none,errors) => .error ⟨errors⟩
  | (some items,errors) => accept (check errors (some "Numbers") (enoughItems items x.revision)) { x with items }

def nestedNumbers (items : List (DomainResult PositiveInt)) : Content (Value Empty) := .results (items.map (·.map .positiveInt))

theorem nestedNumbers_fails (items : List (DomainResult PositiveInt)) :
    (nestedNumbers items).fails = items.any (·.isFailure) := by
  simp only [nestedNumbers,Content.fails,List.any_map,Function.comp_def,DomainResult.map_isFailure]

theorem nestedNumbers_failures (items : List (DomainResult PositiveInt)) (path : Option String) :
    (nestedNumbers items).failures path = items.flatMap fun r => r.errors.map (·.under path) := by
  simp only [nestedNumbers,Content.failures,List.flatMap_map,DomainResult.map_errors]

theorem nestedNumbers_plain (items : List PositiveInt) :
    (nestedNumbers (items.map .success)).plain? host.meaning = some (.positiveInts items) := by
  have values : ((items.map DomainResult.success).map (·.map (Value.positiveInt (α := Empty)))).mapM DomainResult.value? =
      some (items.map .positiveInt) := by
    rw [List.map_map,List.mapM_map]
    exact mapM_found _ fun item _ => rfl
  have unwrapped : (items.map (Value.positiveInt (α := Empty))).filterMap Value.positiveInt? = items := by
    rw [List.filterMap_map]
    exact List.filterMap_some
  rw [nestedNumbers,Content.plain?,values]
  exact congrArg (some <| Value.positiveInts ·) unwrapped

theorem tryNew?_eq (items : List (DomainResult PositiveInt)) (label : String) :
    tryNew? items label = some (tryNew items label) := by
  let given : List (Emission.Given (Value Empty)) := [(itemsField,nestedNumbers items),(labelField,.value (.text label))]
  have fits : given.Forall fun g => g.2.Fits g.1.nesting := ⟨trivial,trivial⟩
  cases failing : items.any (·.isFailure) with
  | true =>
    have some_ : given.any (·.2.fails) = true := by simp [given,nestedNumbers_fails,failing]
    have failed := known.construct_fails given rfl fits some_
    have failures : Emission.failures given = items.flatMap fun r => r.errors.map (·.under (some "Numbers")) := by
      have label : (Content.value (V := Value Empty) (.text label)).failures labelField.errorPath = [] := rfl
      simp only [given,Emission.failures,List.flatMap_cons,List.flatMap_nil,nestedNumbers_failures,label,List.append_nil]
      rfl
    obtain ⟨r,member,failure⟩ := List.any_eq_true.mp failing
    rw [failures] at failed
    rw [tryNew,nestedList_exact,mapM_missing member (no_value_of_failure failure)]
    exact failed
  | false =>
    obtain ⟨values,rfl⟩ := successes_of_no_failure failing
    have ok : given.Forall fun g => g.2.fails = false := ⟨(nestedNumbers_fails _).trans failing,rfl⟩
    have plain : given.Forall fun g => g.2.plain? host.meaning = some (host.value ⟨values,label,0⟩ g.1.name) :=
      ⟨nestedNumbers_plain values,rfl⟩
    have asked : host.gathered schema (host.value ⟨values,label,0⟩) schema.rules =
        check (check [] (some "Numbers") (enoughItems values 0)) (some "label") (labelIsShort label) := rfl
    have initial : schema.fields.Forall fun f =>
        f.isParameter = false → host.value ⟨values,label,0⟩ f.name = Value.initial f.type :=
      ⟨fun fixed => absurd fixed (by decide),fun fixed => absurd fixed (by decide),fun _ => rfl⟩
    have made := known.construct_makes given rfl fits ok (holds ⟨values,label,0⟩) plain initial
    rw [asked] at made
    rw [tryNew,nestedList_values]
    exact made

theorem setItems?_eq (x : Batch) (items : List (DomainResult PositiveInt)) :
    x.setItems? items = some (settle x (x.setItems items)) := by
  cases failing : items.any (·.isFailure) with
  | true =>
    have some_ := (nestedNumbers_fails items).trans failing
    have failed := known.set_fails (f := itemsField) (c := nestedNumbers items) rfl (holds x) trivial some_
    obtain ⟨r,member,failure⟩ := List.any_eq_true.mp failing
    rw [nestedNumbers_failures] at failed
    rw [setItems,nestedList_exact,mapM_missing member (no_value_of_failure failure)]
    exact failed
  | false =>
    obtain ⟨values,rfl⟩ := successes_of_no_failure failing
    have others : schema.fields.Forall fun g => g.name ≠ itemsField.name →
        host.value { x with items := values } g.name = host.value x g.name := ⟨nofun,fun _ => rfl,fun _ => rfl⟩
    have asked : host.gathered schema (host.value { x with items := values })
        ((BoundSchema.ofSchema schema).rulesFor itemsField.name) = check [] (some "Numbers") (enoughItems values x.revision) := rfl
    have ok := (nestedNumbers_fails (values.map .success)).trans failing
    have fits : (nestedNumbers (values.map .success)).Fits itemsField.nesting := trivial
    have changed := known.set_changes rfl (holds x) (holds { x with items := values }) others fits
      (nestedNumbers_plain values) ok
    rw [asked] at changed
    rw [setItems,nestedList_values]
    exact changed

end Batch

namespace Price

def amountField : Field := ⟨"amount",positiveIntType,.single,some "amount",.once⟩

def currencyField : Field := ⟨"currency",⟨"crate::Currency",[]⟩,.single,some "currency",.once⟩

def schema : Schema := schemaNamed "crate::shapes::Price" "Price" (some "shapes") [amountField,currencyField] []

theorem known : host.Has schema := ⟨rfl,rfl,by decide,by decide,by decide⟩

theorem holds (x : Price) : host.Holds schema x := ⟨rfl,rfl⟩

def tryNew (amount : DomainResult PositiveInt) (currency : DomainResult Currency) : DomainResult Price :=
  let (amount,errors) := nested [] (some "amount") amount
  let (currency,errors) := nested errors (some "currency") currency
  match amount, currency with
  | some amount, some currency => build errors ⟨amount,currency⟩
  | _, _ => .failure errors

theorem tryNew_fails {amount : DomainResult PositiveInt} {currency : DomainResult Currency}
    (failed : (amount.isFailure || currency.isFailure) = true) : tryNew amount currency =
      .failure (amount.errors.map (·.under (some "amount")) ++ currency.errors.map (·.under (some "currency"))) := by
  simp only [tryNew,nested_exact,List.nil_append]
  cases amount with
  | failure errors => rfl
  | success amount =>
    cases currency with
    | failure errors => rfl
    | success currency => cases failed

theorem tryNew?_eq (amount : DomainResult PositiveInt) (currency : DomainResult Currency) :
    tryNew? amount currency = some (tryNew amount currency) := by
  let given : List (Emission.Given (Value Empty)) :=
    [(amountField,nestedNumber amount),(currencyField,.result (currency.map .currency))]
  have fits : given.Forall fun g => g.2.Fits g.1.nesting := ⟨trivial,trivial⟩
  cases failing : amount.isFailure || currency.isFailure with
  | true =>
    have some_ : given.any (·.2.fails) = true := by
      simpa [given,nestedNumber,Content.fails,DomainResult.map_isFailure] using failing
    have failed := known.construct_fails given rfl fits some_
    have failures : Emission.failures given =
        amount.errors.map (·.under (some "amount")) ++ currency.errors.map (·.under (some "currency")) := by
      simp [given,Emission.failures,nestedNumber,Content.failures,DomainResult.map_errors,amountField,currencyField]
    rw [failures] at failed
    rw [tryNew_fails failing]
    exact failed
  | false =>
    obtain ⟨one,two⟩ := Bool.or_eq_false_iff.mp failing
    obtain ⟨amount,rfl⟩ := value_of_not_failure one
    obtain ⟨currency,rfl⟩ := value_of_not_failure two
    have initial : schema.fields.Forall fun f =>
        f.isParameter = false → host.value ⟨amount,currency⟩ f.name = Value.initial f.type :=
      ⟨fun fixed => absurd fixed (by decide),fun fixed => absurd fixed (by decide)⟩
    exact known.construct_makes given rfl fits ⟨rfl,rfl⟩ (holds ⟨amount,currency⟩) ⟨rfl,rfl⟩ initial

end Price

namespace Tagged

def tagField : Field := ⟨"tag",textType,.none,some "tag",.settable⟩

def valueField : Field := ⟨"value",⟨"T",[]⟩,.none,some "value",.once⟩

def schema : Schema := schemaNamed "crate::Tagged" "Tagged" none [tagField,valueField] [
  ⟨"tag_not_blank",[⟨"tag",textType⟩],.outcome⟩] ["T"]

theorem known : (host (α := α)).Has schema := ⟨rfl,rfl,by decide,by decide,by decide⟩

theorem holds (x : Tagged α) : host.Holds schema x := ⟨rfl,rfl⟩

def tryNew (tag : String) (value : α) : DomainResult (Tagged α) :=
  build (check [] (some "tag") (tagNotBlank tag)) ⟨tag,value⟩

def setTag (x : Tagged α) (tag : String) : Except DomainException (Tagged α) :=
  accept (check [] (some "tag") (tagNotBlank tag)) { x with tag }

theorem asked (x : Tagged α) : host.gathered schema (host.value x) schema.rules = check [] (some "tag") (tagNotBlank x.tag) := rfl

theorem tryNew?_eq (tag : String) (value : α) : tryNew? tag value = some (tryNew tag value) := by
  let given : List (Emission.Given (Value α)) := [(tagField,.value (.text tag)),(valueField,.value (.tagged value))]
  have made := known.construct_makes given rfl ⟨trivial,trivial⟩ ⟨rfl,rfl⟩ (holds ⟨tag,value⟩) ⟨rfl,rfl⟩ ⟨nofun,nofun⟩
  rw [asked] at made
  exact made

theorem setTag?_eq (x : Tagged α) (tag : String) : x.setTag? tag = some (settle x (x.setTag tag)) := by
  have rules : (BoundSchema.ofSchema schema).rulesFor tagField.name = schema.rules := rfl
  have others : schema.fields.Forall fun g => g.name ≠ tagField.name → host.value ⟨tag,x.value⟩ g.name = host.value x g.name :=
    ⟨nofun,fun _ => rfl⟩
  have changed := known.set_changes (f := tagField) (c := .value (.text tag)) rfl (holds x) (holds ⟨tag,x.value⟩) others trivial
    rfl rfl
  rw [rules,asked] at changed
  exact changed

end Tagged

end DomainSchema.Samples
