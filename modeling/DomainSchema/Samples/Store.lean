import DomainSchema.Samples.Objects

namespace DomainSchema.Samples

inductive Object (α : Type) where
  | positiveInt (x : PositiveInt)
  | percent (x : Percent)
  | currency (x : Currency)
  | pair (x : Pair)
  | grade (x : Grade)
  | batch (x : Batch)
  | price (x : Price)
  | tagged (x : Tagged α)

namespace Object

def positiveInt? : Object α → Option PositiveInt
  | .positiveInt x => some x
  | _ => none

def percent? : Object α → Option Percent
  | .percent x => some x
  | _ => none

def currency? : Object α → Option Currency
  | .currency x => some x
  | _ => none

end Object

inductive Given (ρ : Type) where
  | raw (value : ρ)
  | failing (errors : List DomainError)
  | slot (name : String)

inductive Creation (α : Type) where
  | positiveInt (value : Int32)
  | percent (value : Int32)
  | currency (code : String)
  | pair (a : Int32) (b : Given Int32)
  | grade (score : Given Int32)
  | batch (items : List (Given Int32)) (label : String)
  | price (amount : Given Int32) (currency : Given String)
  | tagged (tag : String) (value : α)

inductive Change where
  | percentValue (value : Int32)
  | pairA (a : Int32)
  | pairB (b : Given Int32)
  | gradeScore (score : Given Int32)
  | batchItems (items : List (Given Int32))
  | taggedTag (tag : String)

inductive Request (α : Type) where
  | new (slot : Option String) (creation : Creation α)
  | set (slot : String) (change : Change)

inductive Reply (α : Type) where
  | built (result : DomainResult (Object α))
  | changed (outcome : Except DomainException Unit)

structure Store (α : Type) where
  slots : List (String × Object α) := []

namespace Store

def get? (s : Store α) (name : String) : Option (Object α) := s.slots.lookup name

def put (s : Store α) (name : String) (object : Object α) : Store α := ⟨(name,object) :: s.slots⟩

-- The result that a nested argument stands for. A slot stands for its object, which is valid already; there is
-- none if the slot is empty or holds an object of another type.
def given? (s : Store α) (make? : ρ → Option (DomainResult β)) (part? : Object α → Option β) :
    Given ρ → Option (DomainResult β)
  | .raw value => make? value
  | .failing errors => some (.failure errors)
  | .slot name => ((s.get? name).bind part?).map .success

def positiveInt? (s : Store α) : Given Int32 → Option (DomainResult PositiveInt) :=
  s.given? PositiveInt.tryNew? Object.positiveInt?

def percent? (s : Store α) : Given Int32 → Option (DomainResult Percent) :=
  s.given? Percent.tryNew? Object.percent?

def currency? (s : Store α) : Given String → Option (DomainResult Currency) :=
  s.given? (some <| Currency.parse ·) Object.currency?

def create? (s : Store α) (creation : Creation α) : Option (DomainResult (Object α)) := do
  match creation with
  | .positiveInt value => (PositiveInt.tryNew? value).map (·.map .positiveInt)
  | .percent value => (Percent.tryNew? value).map (·.map .percent)
  | .currency code => some ((Currency.parse code).map .currency)
  | .pair a b => (Pair.tryNew? a (← s.positiveInt? b)).map (·.map .pair)
  | .grade score => (Grade.tryNew? (← s.percent? score)).map (·.map .grade)
  | .batch items label => (Batch.tryNew? (← items.mapM s.positiveInt?) label).map (·.map .batch)
  | .price amount currency =>
    (Price.tryNew? (← s.positiveInt? amount) (← s.currency? currency)).map (·.map .price)
  | .tagged tag value => (Tagged.tryNew? tag value).map (·.map .tagged)

def change? (s : Store α) (object : Object α) (change : Change) : Option (Except DomainException Unit × Object α) := do
  match object, change with
  | .percent x, .percentValue value => (x.setValue? value).map (.map id .percent)
  | .pair x, .pairA a => (x.setA? a).map (.map id .pair)
  | .pair x, .pairB b => (x.setB? (← s.positiveInt? b)).map (.map id .pair)
  | .grade x, .gradeScore score => (x.setScore? (← s.percent? score)).map (.map id .grade)
  | .batch x, .batchItems items => (x.setItems? (← items.mapM s.positiveInt?)).map (.map id .batch)
  | .tagged x, .taggedTag tag => (x.setTag? tag).map (.map id .tagged)
  | _, _ => none

def keep (s : Store α) (slot : Option String) (result : DomainResult (Object α)) : Store α :=
  match slot, result with
  | some name, .success object => s.put name object
  | _, _ => s

-- One request. A request that cannot be understood has no reply.
def step? (s : Store α) : Request α → Option (Reply α × Store α)
  | .new slot creation => do
    let result ← s.create? creation
    return (.built result,s.keep slot result)
  | .set slot change => do
    let object ← s.get? slot
    let (outcome,object) ← s.change? object change
    return (.changed outcome,s.put slot object)

end Store

end DomainSchema.Samples
