import DomainSchema.Proofs.SampleRoutines
import Mathlib.Data.List.TakeWhile
import Mathlib.Tactic.ByContra

namespace DomainSchema.Samples

def PositiveInt.Valid (x : PositiveInt) : Prop := 0 < x.value

def Percent.Valid (x : Percent) : Prop := 0 ≤ x.value ∧ x.value ≤ 100

def Currency.Valid (x : Currency) : Prop := x.code.length = 3 ∧ ∀ c ∈ x.code.toList, 'A' ≤ c ∧ c ≤ 'Z'

structure Pair.Valid (x : Pair) : Prop where
  ordered : x.a < x.b.value
  b : x.b.Valid

def Grade.Valid (x : Grade) : Prop := x.score.Valid

structure Batch.Valid (x : Batch) : Prop where
  nonempty : x.items ≠ []
  items : ∀ item ∈ x.items, item.Valid
  label : x.label.utf8ByteSize ≤ 16
  -- Never asked about, but with another revision a setter would accept an empty list.
  revision : x.revision = 0

structure Price.Valid (x : Price) : Prop where
  amount : x.amount.Valid
  currency : x.currency.Valid

def Tagged.Valid (x : Tagged α) : Prop := ∃ c ∈ x.tag.toList, Text.isBlank c = false

def Object.Valid : Object α → Prop
  | .positiveInt x => x.Valid
  | .percent x => x.Valid
  | .currency x => x.Valid
  | .pair x => x.Valid
  | .grade x => x.Valid
  | .batch x => x.Valid
  | .price x => x.Valid
  | .tagged x => x.Valid

def Sound (valid : α → Prop) (r : DomainResult α) : Prop := ∀ x, r = .success x → valid x

theorem build_success {errors : List DomainError} {object x : α} (built : build errors object = .success x) :
    errors = [] ∧ object = x := by
  unfold build at built
  split at built
  · rename_i silent
    cases built
    exact ⟨List.isEmpty_iff.mp silent,rfl⟩
  · cases built

theorem check_silent {errors : List DomainError} {path : Option String} {outcome : RuleOutcome}
    (silent : check errors path outcome = []) : errors = [] ∧ outcome.isValid = true := by
  obtain ⟨before,now⟩ := List.append_eq_nil_iff.mp silent
  refine ⟨before,?_⟩
  cases outcome with
  | valid => rfl
  | violations found => simpa [RuleOutcome.toErrors,RuleOutcome.isValid] using now

theorem messages_valid {texts : List String} : (RuleOutcome.ofMessages texts).isValid = true ↔ texts = [] := by
  simp [RuleOutcome.ofMessages,RuleOutcome.isValid]

theorem errors_valid {errors : List DomainError} : (RuleOutcome.ofErrors errors).isValid = true ↔ errors = [] := by
  simp [RuleOutcome.ofErrors,RuleOutcome.isValid]

theorem nested_success {valid : α → Prop} {r : DomainResult α} (sound : Sound valid r)
    (unwrapped : nested errors path r = (some x,after)) : valid x := by
  rw [nested_exact] at unwrapped
  cases r with
  | success value =>
    cases unwrapped
    exact sound x rfl
  | failure inner => cases unwrapped

theorem values_sound {valid : α → Prop} {rs : List (DomainResult α)} (sound : ∀ r ∈ rs, Sound valid r)
    (unwrapped : rs.mapM DomainResult.value? = some xs) : ∀ x ∈ xs, valid x := by
  induction rs generalizing xs with
  | nil =>
    cases unwrapped
    simp
  | cons r rest ih =>
    cases r with
    | failure inner => simp [DomainResult.value?] at unwrapped
    | success value =>
      cases tail : rest.mapM DomainResult.value? with
      | none => simp [DomainResult.value?,tail] at unwrapped
      | some values =>
        simp only [List.mapM_cons,DomainResult.value?,tail,Option.bind_eq_bind,Option.bind_some,Option.pure_def,
          Option.some.injEq] at unwrapped
        subst unwrapped
        intro x member
        rcases List.mem_cons.mp member with rfl | later
        · exact sound _ (by simp) x rfl
        · exact ih (fun other inside => sound other (List.mem_cons_of_mem _ inside)) tail x later

theorem nestedList_success {valid : α → Prop} {rs : List (DomainResult α)} (sound : ∀ r ∈ rs, Sound valid r)
    (unwrapped : nestedList errors path rs = (some xs,after)) : ∀ x ∈ xs, valid x := by
  rw [nestedList_exact] at unwrapped
  exact values_sound sound (Prod.mk.inj unwrapped).1

theorem PositiveInt.tryNew_sound (value : Int32) : Sound PositiveInt.Valid (PositiveInt.tryNew value) := by
  intro x built
  obtain ⟨silent,rfl⟩ := build_success built
  obtain ⟨silent,notNegative⟩ := check_silent silent
  obtain ⟨-,notZero⟩ := check_silent silent
  simp only [valueIsNotNegative,valueIsNotZero,messages_valid] at notNegative notZero
  have zero : value ≠ 0 := by
    rintro rfl
    cases notZero
  have negative : ¬ value < 0 := by
    intro below
    simp [below] at notNegative
  change 0 < value
  rw [Int32.lt_iff_toInt_lt] at negative ⊢
  have apart : value.toInt ≠ (0 : Int32).toInt := fun same => zero (Int32.toInt_inj.mp same)
  omega

theorem Percent.within_range {path : Option String} {value : Int32}
    (silent : check [] path (Percent.withinRange value) = []) : Percent.Valid ⟨value⟩ := by
  obtain ⟨-,valid⟩ := check_silent silent
  unfold Percent.withinRange at valid
  split at valid
  · assumption
  · cases valid

theorem Percent.tryNew_sound (value : Int32) : Sound Percent.Valid (Percent.tryNew value) := by
  intro x built
  obtain ⟨silent,rfl⟩ := build_success built
  exact Percent.within_range silent

theorem upper_between {c : Char} (upper : c.isUpper = true) : 'A' ≤ c ∧ c ≤ 'Z' := by
  have within : decide ('A' ≤ c ∧ c ≤ 'Z') = true := upper
  exact of_decide_eq_true within

theorem upper_single {c : Char} (upper : c.isUpper = true) : c.utf8Size = 1 := by
  have last := (upper_between upper).2
  rw [Char.utf8Size_eq_one_iff]
  exact Nat.le_trans last (by decide)

theorem single_bytes {letters : List Char} (single : ∀ c ∈ letters, c.utf8Size = 1) :
    (String.ofList letters).utf8ByteSize = letters.length := by
  induction letters with
  | nil => rfl
  | cons c rest ih =>
    have tail := ih fun other member => single other (List.mem_cons_of_mem _ member)
    rw [String.ofList_cons,String.utf8ByteSize_append,String.utf8ByteSize_singleton,single c (by simp),tail,List.length_cons,
      Nat.add_comm]

theorem Currency.parse_sound (code : String) : Sound Currency.Valid (Currency.parse code) := by
  intro x built
  unfold Currency.parse at built
  split at built
  · rename_i letters
    cases built
    obtain ⟨size,upper⟩ := Bool.and_eq_true_iff.mp letters
    have upper := List.all_eq_true.mp upper
    -- upper-case ASCII letters take one byte each, so three bytes are three letters
    have bytes := single_bytes fun c member => upper_single (upper c member)
    rw [String.ofList_toList,String.length_toList] at bytes
    refine ⟨bytes.symm.trans (by simpa using size),fun c member => upper_between (upper c member)⟩
  · cases built

theorem Pair.less {errors : List DomainError} {path : Option String} {a : Int32} {b : PositiveInt}
    (silent : check errors path (Pair.aLessThanB a b) = []) : a < b.value := by
  obtain ⟨-,valid⟩ := check_silent silent
  simp only [Pair.aLessThanB,messages_valid] at valid
  by_contra notLess
  simp [notLess] at valid

theorem Pair.tryNew_sound (a : Int32) {b : DomainResult PositiveInt} (sound : Sound PositiveInt.Valid b) :
    Sound Pair.Valid (Pair.tryNew a b) := by
  intro x built
  unfold Pair.tryNew at built
  split at built
  · cases built
  · rename_i b errors unwrapped
    obtain ⟨silent,rfl⟩ := build_success built
    exact ⟨Pair.less silent,nested_success sound unwrapped⟩

theorem Grade.tryNew_sound {score : DomainResult Percent} (sound : Sound Percent.Valid score) :
    Sound Grade.Valid (Grade.tryNew score) := by
  intro x built
  unfold Grade.tryNew at built
  split at built
  · cases built
  · rename_i score errors unwrapped
    obtain ⟨-,rfl⟩ := build_success built
    change score.Valid
    exact nested_success sound unwrapped

theorem Batch.enough {errors : List DomainError} {path : Option String} {items : List PositiveInt}
    (silent : check errors path (Batch.enoughItems items 0) = []) : errors = [] ∧ items ≠ [] := by
  obtain ⟨before,valid⟩ := check_silent silent
  refine ⟨before,?_⟩
  rintro rfl
  simp [Batch.enoughItems,messages_valid] at valid

theorem Batch.short {errors : List DomainError} {path : Option String} {label : String}
    (silent : check errors path (Batch.labelIsShort label) = []) : errors = [] ∧ label.utf8ByteSize ≤ 16 := by
  obtain ⟨before,valid⟩ := check_silent silent
  refine ⟨before,?_⟩
  simp only [Batch.labelIsShort,errors_valid] at valid
  by_contra long
  simp [Nat.lt_of_not_le long] at valid

theorem Batch.tryNew_sound {items : List (DomainResult PositiveInt)} (label : String)
    (sound : ∀ item ∈ items, Sound PositiveInt.Valid item) : Sound Batch.Valid (Batch.tryNew items label) := by
  intro x built
  unfold Batch.tryNew at built
  split at built
  · cases built
  · rename_i items errors unwrapped
    obtain ⟨silent,rfl⟩ := build_success built
    obtain ⟨silent,short⟩ := Batch.short silent
    exact ⟨(Batch.enough silent).2,nestedList_success sound unwrapped,short,rfl⟩

theorem Price.tryNew_sound {amount : DomainResult PositiveInt} {currency : DomainResult Currency}
    (soundAmount : Sound PositiveInt.Valid amount) (soundCurrency : Sound Currency.Valid currency) :
    Sound Price.Valid (Price.tryNew amount currency) := by
  intro x built
  simp only [Price.tryNew,nested_exact] at built
  cases amount with
  | failure => cases built
  | success amount =>
    cases currency with
    | failure => cases built
    | success currency =>
      obtain ⟨-,rfl⟩ := build_success built
      exact ⟨soundAmount amount rfl,soundCurrency currency rfl⟩

theorem Tagged.not_blank {path : Option String} {tag : String} (silent : check [] path (Tagged.tagNotBlank tag) = []) :
    ∃ c ∈ tag.toList, Text.isBlank c = false := by
  obtain ⟨-,valid⟩ := check_silent silent
  by_contra none
  have blank : ∀ c ∈ tag.toList, Text.isBlank c = true := by
    intro c member
    by_contra other
    exact none ⟨c,member,Bool.eq_false_iff.mpr other⟩
  have empty : Text.trim tag.toList = [] := by
    rw [Text.trim,List.dropWhile_eq_nil_iff.mpr blank]
    rfl
  simp [Tagged.tagNotBlank,empty,RuleOutcome.isValid] at valid

theorem Tagged.tryNew_sound (tag : String) (value : α) : Sound Tagged.Valid (Tagged.tryNew tag value) := by
  intro x built
  obtain ⟨silent,rfl⟩ := build_success built
  exact Tagged.not_blank silent

end DomainSchema.Samples
