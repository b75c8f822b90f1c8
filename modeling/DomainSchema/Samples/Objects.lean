import DomainSchema.Emission.Execution
import DomainSchema.Samples.Schemas

namespace DomainSchema.Samples

open Emission (Content Ending Fields Meaning)

-- Domain objects with their rules. Their constructors and setters are the ones that are generated for their schemas.

structure Currency where
  code : String
deriving DecidableEq, Repr

def isCurrencyCode (code : String) : Bool := code.utf8ByteSize == 3 && code.toList.all Char.isUpper

-- Nothing is generated for a currency, which has the capability without being marked.
def Currency.parse (code : String) : DomainResult Currency :=
  if isCurrencyCode code then .success ⟨code⟩ else .failure [{ message := code ++ " is not a currency code" }]

structure PositiveInt where
  value : Int32
deriving DecidableEq, Repr

structure Percent where
  value : Int32
deriving DecidableEq, Repr

structure Pair where
  a : Int32
  b : PositiveInt
deriving DecidableEq, Repr

structure Grade where
  score : Percent
deriving DecidableEq, Repr

structure Batch where
  items : List PositiveInt
  label : String
  revision : UInt32
deriving DecidableEq, Repr

structure Price where
  amount : PositiveInt
  currency : Currency
deriving DecidableEq, Repr

structure Tagged (α : Type) where
  tag : String
  value : α
deriving DecidableEq, Repr

inductive Value (α : Type) where
  | number (n : Int32)
  | count (n : UInt32)
  | text (s : String)
  | positiveInt (x : PositiveInt)
  | positiveInts (xs : List PositiveInt)
  | percent (x : Percent)
  | currency (x : Currency)
  | tagged (value : α)

namespace Value

def positiveInt? : Value α → Option PositiveInt
  | positiveInt x => some x
  | _ => none

def initial (type : TypeExpr) : Value α :=
  match type.path with
  | "i32" => number 0
  | "u32" => count 0
  | "String" => text ""
  | _ => positiveInts []

end Value

structure Host (α T : Type) where
  schema : String
  rule : String → List (Value α) → RuleOutcome
  fields : T → Fields (Value α)
  ofFields? : Fields (Value α) → Option T

namespace Host
variable {α T : Type}

def meaning (h : Host α T) : Meaning (Value α) where
  rule := h.rule
  initial := Value.initial
  collect vs := .positiveInts (vs.filterMap Value.positiveInt?)

def construct? (h : Host α T) (args : List (Content (Value α))) : Option (DomainResult T) := do
  let b ← analysis.schema? h.schema
  match ((Emission.constructor b.schema).run h.meaning [] args).1 with
  | .built object => (h.ofFields? object).map .success
  | .failed errors => some (.failure errors)
  | .accepted | .stuck => none

def set? (h : Host α T) (object : T) (field : String) (arg : Content (Value α)) :
    Option (Except DomainException Unit × T) := do
  let b ← analysis.schema? h.schema
  let f ← b.schema.settableFields.find? (·.name == field)
  let (ending,object) := (Emission.setter b f).run h.meaning (h.fields object) [arg]
  let object ← h.ofFields? object
  match ending with
  | .accepted => return (.ok (),object)
  | .failed errors => return (.error ⟨errors⟩,object)
  | .built _ | .stuck => none

end Host

def nestedNumber (r : DomainResult PositiveInt) : Content (Value Empty) := .result (r.map .positiveInt)

namespace PositiveInt

def valueIsNotZero (value : Int32) : RuleOutcome := .ofMessages (if value == 0 then ["Value is zero"] else [])

def valueIsNotNegative (value : Int32) : RuleOutcome :=
  .ofMessages (if value < 0 then ["Value " ++ toString value.toInt ++ " is negative"] else [])

def host : Host Empty PositiveInt where
  schema := "crate::numbers::PositiveInt"
  rule
    | "value_is_not_zero", [.number value] => valueIsNotZero value
    | "value_is_not_negative", [.number value] => valueIsNotNegative value
    | _, _ => .valid
  fields x := [("value",.number x.value)]
  ofFields?
    | [("value",.number value)] => some ⟨value⟩
    | _ => none

def tryNew? (value : Int32) : Option (DomainResult PositiveInt) := host.construct? [.value (.number value)]

end PositiveInt

namespace Percent

def withinRange (value : Int32) : RuleOutcome :=
  .ofOption (if 0 ≤ value ∧ value ≤ 100 then none else some (.ofMessages ["must be between 0 and 100"]))

def host : Host Empty Percent where
  schema := "crate::numbers::Percent"
  rule
    | "within_range", [.number value] => withinRange value
    | _, _ => .valid
  fields x := [("value",.number x.value)]
  ofFields?
    | [("value",.number value)] => some ⟨value⟩
    | _ => none

def tryNew? (value : Int32) : Option (DomainResult Percent) := host.construct? [.value (.number value)]

def setValue? (x : Percent) (value : Int32) : Option (Except DomainException Unit × Percent) :=
  host.set? x "value" (.value (.number value))

end Percent

namespace Pair

def aLessThanB (a : Int32) (b : PositiveInt) : RuleOutcome :=
  .ofMessages (if a < b.value then [] else ["a must be less than b"])

def host : Host Empty Pair where
  schema := "crate::shapes::Pair"
  rule
    | "a_less_than_b", [.number a,.positiveInt b] => aLessThanB a b
    | _, _ => .valid
  fields x := [("a",.number x.a),("b",.positiveInt x.b)]
  ofFields?
    | [("a",.number a),("b",.positiveInt b)] => some ⟨a,b⟩
    | _ => none

def tryNew? (a : Int32) (b : DomainResult PositiveInt) : Option (DomainResult Pair) :=
  host.construct? [.value (.number a),nestedNumber b]

def setA? (x : Pair) (a : Int32) : Option (Except DomainException Unit × Pair) := host.set? x "a" (.value (.number a))

def setB? (x : Pair) (b : DomainResult PositiveInt) : Option (Except DomainException Unit × Pair) :=
  host.set? x "b" (nestedNumber b)

end Pair

namespace Grade

def host : Host Empty Grade where
  schema := "crate::shapes::Grade"
  rule _ _ := .valid
  fields x := [("score",.percent x.score)]
  ofFields?
    | [("score",.percent score)] => some ⟨score⟩
    | _ => none

def tryNew? (score : DomainResult Percent) : Option (DomainResult Grade) :=
  host.construct? [.result (score.map .percent)]

def setScore? (x : Grade) (score : DomainResult Percent) : Option (Except DomainException Unit × Grade) :=
  host.set? x "score" (.result (score.map .percent))

end Grade

namespace Batch

def enoughItems (items : List PositiveInt) (revision : UInt32) : RuleOutcome :=
  .ofMessages (if items.isEmpty && revision == 0 then ["at least one number is required"] else [])

-- The length is counted in bytes of UTF-8.
def labelIsShort (label : String) : RuleOutcome :=
  .ofErrors (if label.utf8ByteSize > 16 then [{ message := "label is longer than 16 characters" }] else [])

def host : Host Empty Batch where
  schema := "crate::shapes::Batch"
  rule
    | "enough_items", [.positiveInts items,.count revision] => enoughItems items revision
    | "label_is_short", [.text label] => labelIsShort label
    | _, _ => .valid
  fields x := [("items",.positiveInts x.items),("label",.text x.label),("revision",.count x.revision)]
  ofFields?
    | [("items",.positiveInts items),("label",.text label),("revision",.count revision)] => some ⟨items,label,revision⟩
    | _ => none

def tryNew? (items : List (DomainResult PositiveInt)) (label : String) : Option (DomainResult Batch) :=
  host.construct? [.results (items.map (·.map .positiveInt)),.value (.text label)]

def setItems? (x : Batch) (items : List (DomainResult PositiveInt)) : Option (Except DomainException Unit × Batch) :=
  host.set? x "items" (.results (items.map (·.map .positiveInt)))

end Batch

namespace Price

def host : Host Empty Price where
  schema := "crate::shapes::Price"
  rule _ _ := .valid
  fields x := [("amount",.positiveInt x.amount),("currency",.currency x.currency)]
  ofFields?
    | [("amount",.positiveInt amount),("currency",.currency currency)] => some ⟨amount,currency⟩
    | _ => none

def tryNew? (amount : DomainResult PositiveInt) (currency : DomainResult Currency) : Option (DomainResult Price) :=
  host.construct? [nestedNumber amount,.result (currency.map .currency)]

end Price

namespace Tagged

def tagNotBlank (tag : String) : RuleOutcome :=
  if (Text.trim tag.toList).isEmpty then .violations [.message "tag must not be blank"] else .valid

def host : Host α (Tagged α) where
  schema := "crate::Tagged"
  rule
    | "tag_not_blank", [.text tag] => tagNotBlank tag
    | _, _ => .valid
  fields x := [("tag",.text x.tag),("value",.tagged x.value)]
  ofFields?
    | [("tag",.text tag),("value",.tagged value)] => some ⟨tag,value⟩
    | _ => none

def tryNew? (tag : String) (value : α) : Option (DomainResult (Tagged α)) :=
  host.construct? [.value (.text tag),.value (.tagged value)]

def setTag? (x : Tagged α) (tag : String) : Option (Except DomainException Unit × Tagged α) :=
  host.set? x "tag" (.value (.text tag))

end Tagged

end DomainSchema.Samples
