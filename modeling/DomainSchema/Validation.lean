namespace DomainSchema

-- A failure of validation. The path names the field in question with slashes between levels; without a path
-- the object as a whole is meant.
structure DomainError where
  field : Option String := none
  message : String
deriving DecidableEq, Repr, Inhabited

def DomainError.text (e : DomainError) : String :=
  match e.field with
  | some field => field ++ ": " ++ e.message
  | none => e.message

-- The path of an error inside an object that a field holds. An empty inner path counts as none.
def composePath : Option String → Option String → Option String
  | outer, none => outer
  | outer, some "" => outer
  | some outer, some inner => some (outer ++ "/" ++ inner)
  | none, some inner => some inner

def DomainError.under (path : Option String) (e : DomainError) : DomainError := { e with field := composePath path e.field }

inductive DomainResult (α : Type) where
  | success (value : α)
  | failure (errors : List DomainError)
deriving DecidableEq, Repr

structure DomainException where
  errors : List DomainError
deriving DecidableEq, Repr

def DomainException.message (e : DomainException) : String :=
  let count := e.errors.length
  toString count ++ " validation " ++ (if count = 1 then "exception" else "exceptions") ++
    " occurred, see errors for details"

namespace DomainResult

def isSuccess : DomainResult α → Bool
  | success _ => true
  | failure _ => false

def isFailure (r : DomainResult α) : Bool := !r.isSuccess

def errors : DomainResult α → List DomainError
  | success _ => []
  | failure errors => errors

def value? : DomainResult α → Option α
  | success value => some value
  | failure _ => none

def map (f : α → β) : DomainResult α → DomainResult β
  | success value => success (f value)
  | failure errors => failure errors

def raise : DomainResult α → Except DomainException α
  | success value => .ok value
  | failure errors => .error ⟨errors⟩

def toExcept : DomainResult α → Except (List DomainError) α
  | success value => .ok value
  | failure errors => .error errors

end DomainResult

inductive Violation where
  | message (text : String)
  | error (e : DomainError)
deriving DecidableEq, Repr

inductive RuleOutcome where
  | valid
  | violations (found : List Violation)
deriving DecidableEq, Repr

def Violation.toError (path : Option String) : Violation → DomainError
  | .message text => ⟨path,text⟩
  | .error e => e

namespace RuleOutcome

def isValid : RuleOutcome → Bool
  | valid => true
  | violations found => found.isEmpty

def toErrors (path : Option String) : RuleOutcome → List DomainError
  | valid => []
  | violations found => found.map (Violation.toError path)

def ofMessages (texts : List String) : RuleOutcome := violations (texts.map .message)

def ofErrors (errors : List DomainError) : RuleOutcome := violations (errors.map .error)

def ofOption (outcome : Option RuleOutcome) : RuleOutcome := outcome.getD valid

end RuleOutcome

def nested (errors : List DomainError) (path : Option String) : DomainResult α → Option α × List DomainError
  | .success value => (some value,errors)
  | .failure inner => (none,errors ++ inner.map (·.under path))

-- Unwraps nested results in order. All failures are gathered; the values are returned only if there are none.
def nestedList (errors : List DomainError) (path : Option String) :
    List (DomainResult α) → Option (List α) × List DomainError
  | [] => (some [],errors)
  | .success value :: rest =>
    let (values,errors) := nestedList errors path rest
    (values.map (value :: ·),errors)
  | .failure inner :: rest =>
    let (_,errors) := nestedList (errors ++ inner.map (·.under path)) path rest
    (none,errors)

def check (errors : List DomainError) (path : Option String) (outcome : RuleOutcome) : List DomainError :=
  errors ++ outcome.toErrors path

end DomainSchema
