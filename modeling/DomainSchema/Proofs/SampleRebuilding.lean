import DomainSchema.Proofs.SampleConstruction
import DomainSchema.Proofs.SampleObjects

namespace DomainSchema.Samples

-- A setter asks only the rules that take its field. On the objects that a store can hold the other rules have nothing to
-- say, so the outcome is that of making the object again.

theorem accept_build (errors : List DomainError) (object : α) : accept errors object = (build errors object).raise := by
  cases errors <;> rfl

theorem raise_map (r : DomainResult α) (make : α → β) : (r.map make).raise = r.raise.map make := by
  cases r <;> rfl

theorem Percent.setValue_rebuilds (x : Percent) (value : Int32) : x.setValue value = (Percent.tryNew value).raise :=
  accept_build _ _

theorem Pair.setA_rebuilds (x : Pair) (a : Int32) : x.setA a = (Pair.tryNew a (.success x.b)).raise :=
  accept_build _ _

theorem Pair.setB_rebuilds (x : Pair) (b : DomainResult PositiveInt) : x.setB b = (Pair.tryNew x.a b).raise := by
  cases b with
  | failure errors => rfl
  | success b => exact accept_build _ _

theorem Grade.setScore_rebuilds (x : Grade) (score : DomainResult Percent) :
    x.setScore score = (Grade.tryNew score).raise := by
  cases score <;> rfl

theorem Batch.label_silent {label : String} (short : label.utf8ByteSize ≤ 16) (errors : List DomainError)
    (path : Option String) : check errors path (Batch.labelIsShort label) = errors := by
  have none : ¬ label.utf8ByteSize > 16 := Nat.not_lt.mpr short
  simp [check,Batch.labelIsShort,none,RuleOutcome.ofErrors,RuleOutcome.toErrors]

-- The constructor sets the revision and asks about the label; the setter takes both from the object.
theorem Batch.setItems_rebuilds {x : Batch} (valid : x.Valid) (items : List (DomainResult PositiveInt)) :
    x.setItems items = (Batch.tryNew items x.label).raise := by
  unfold Batch.setItems Batch.tryNew
  split
  · rfl
  · dsimp only
    rw [Batch.label_silent valid.label,valid.revision,accept_build]

theorem Tagged.setTag_rebuilds (x : Tagged α) (tag : String) : x.setTag tag = (Tagged.tryNew tag x.value).raise :=
  accept_build _ _

theorem settle_map (x : β) (make : β → γ) (outcome : Except DomainException β) :
    (settle x outcome).map id make = settle (make x) (outcome.map make) := by
  cases outcome <;> rfl

namespace Store

def resupply? (s : Store α) (supply : Supply α) (change : Change) : Option (Supply α) :=
  match supply, change with
  | .percent _, .percentValue value => some (.percent value)
  | .pair _ b, .pairA a => some (.pair a b)
  | .pair a _, .pairB b => (s.positiveInt? b).map (.pair a)
  | .grade _, .gradeScore score => (s.percent? score).map .grade
  | .batch _ label, .batchItems items => (items.mapM s.positiveInt?).map (.batch · label)
  | .tagged _ value, .taggedTag tag => some (.tagged tag value)
  | _, _ => none

theorem change_rebuilds (s : Store α) {object : Object α} (valid : object.Valid) (change : Change) :
    s.change? object change = (s.resupply? object.supply change).map fun supply => settle object supply.make.raise := by
  cases object with
  | positiveInt | currency | price => cases change <;> rfl
  | percent x =>
    cases change with
    | percentValue value =>
      simp [change?,resupply?,Object.supply,Supply.make,raise_map,x.setValue?_eq,settle_map,x.setValue_rebuilds]
    | _ => rfl
  | pair x =>
    cases change with
    | pairA a => simp [change?,resupply?,Object.supply,Supply.make,raise_map,x.setA?_eq,settle_map,x.setA_rebuilds]
    | pairB b =>
      cases found : s.positiveInt? b <;>
        simp [change?,resupply?,Object.supply,Supply.make,raise_map,x.setB?_eq,settle_map,x.setB_rebuilds,found]
    | _ => rfl
  | grade x =>
    cases change with
    | gradeScore score =>
      cases found : s.percent? score <;>
        simp [change?,resupply?,Object.supply,Supply.make,raise_map,x.setScore?_eq,settle_map,x.setScore_rebuilds,found]
    | _ => rfl
  | batch x =>
    cases change with
    | batchItems items =>
      cases found : items.mapM s.positiveInt? <;>
        simp [change?,resupply?,Object.supply,Supply.make,raise_map,x.setItems?_eq,settle_map,Batch.setItems_rebuilds valid,found]
    | _ => rfl
  | tagged x =>
    cases change with
    | taggedTag tag => simp [change?,resupply?,Object.supply,Supply.make,raise_map,x.setTag?_eq,settle_map,x.setTag_rebuilds]
    | _ => rfl

end Store

end DomainSchema.Samples
