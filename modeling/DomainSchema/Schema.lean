import DomainSchema.Declaration

namespace DomainSchema

inductive Nesting where
  | none | single | list
deriving DecidableEq, Repr, Inhabited

-- How a field may change: never and not even set by the caller, set once by the caller, or set again later.
inductive Mutability where
  | fixed | once | settable
deriving DecidableEq, Repr, Inhabited

inductive ReturnShape where
  | errors | messages | outcome
deriving DecidableEq, Repr, Inhabited

structure Field where
  name : String
  type : TypeExpr
  nesting : Nesting
  -- The segment for errors on this field; without one they concern the object as a whole.
  errorPath : Option String
  mutability : Mutability
deriving DecidableEq, Repr, Inhabited

namespace Field

def isNested (f : Field) : Bool := f.nesting != .none

def isParameter (f : Field) : Bool := f.mutability != .fixed

def isSettable (f : Field) : Bool := f.mutability == .settable

def nestedType (f : Field) : TypeExpr :=
  match f.nesting with
  | .list => f.type.soleArg?.getD f.type
  | _ => f.type

end Field

structure Rule where
  name : String
  params : List Parameter
  returns : ReturnShape
deriving DecidableEq, Repr, Inhabited

def Rule.firstParam? (r : Rule) : Option Parameter := r.params.head?

def Rule.references (r : Rule) (field : String) : Bool := r.params.any (·.name == field)

structure Schema where
  name : String
  ident : String
  modulePath : Option String
  generics : List String
  visibility : Visibility
  fields : List Field
  rules : List Rule
deriving DecidableEq, Repr, Inhabited

namespace Schema

def field? (s : Schema) (name : String) : Option Field := s.fields.find? (·.name == name)

def parameters (s : Schema) : List Field := s.fields.filter Field.isParameter

def settableFields (s : Schema) : List Field := s.fields.filter Field.isSettable

def nestedFields (s : Schema) : List Field := s.fields.filter Field.isNested

def selfType (s : Schema) : String := withGenerics s.ident s.generics

def messagePath (s : Schema) (r : Rule) : Option String := do
  let param ← r.firstParam?
  let field ← s.field? param.name
  field.errorPath

end Schema

end DomainSchema
