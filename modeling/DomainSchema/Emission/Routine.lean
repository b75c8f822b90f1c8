import DomainSchema.Analysis.Binding

namespace DomainSchema.Emission

-- Generated routines as data: a routine is a straight line of the statements below. Names are names of fields
-- and rules as declared.

inductive ParamType where
  | plain (type : TypeExpr)
  | result (type : TypeExpr)
  | results (element : TypeExpr)
deriving DecidableEq, Repr

structure Aggregation where
  field : String
  path : Option String
  many : Bool
deriving DecidableEq, Repr

inductive Argument where
  | own (name : String)
  | stored (name : String)
deriving DecidableEq, Repr

inductive Statement where
  | accumulator
  -- The parameter is replaced by what its aggregation yields.
  | aggregate (call : Aggregation)
  -- All of them have to hold values, which they are from here on; else the routine fails with the errors.
  | unwrapAll (names : List String)
  | unwrap (call : Aggregation)
  | initial (name : String) (type : TypeExpr)
  | check (path : Option String) (rule : String) (args : List Argument)
  | stopOnErrors
  | construct (names : List String)
  | store (name : String)
  | accept
deriving DecidableEq, Repr

inductive RoutineKind where
  | constructor | setter
deriving DecidableEq, Repr

structure Routine where
  kind : RoutineKind
  visibility : Visibility
  field : Option String
  params : List (String × ParamType)
  body : List Statement
deriving DecidableEq, Repr

def paramType (f : Field) : ParamType :=
  match f.nesting with
  | .none => .plain f.type
  | .single => .result f.type
  | .list => .results f.nestedType

def aggregation (f : Field) : Aggregation := ⟨f.name,f.errorPath,f.nesting == .list⟩

def checkOf (s : Schema) (r : Rule) (argument : String → Argument) : Statement :=
  .check (s.messagePath r) r.name (r.params.map fun p => argument p.name)

-- First every nested argument is unwrapped; if one of them failed, no rule is asked. Then every rule is asked,
-- in order of declaration.
def constructor (s : Schema) : Routine :=
  let nested := s.parameters.filter Field.isNested
  let validates := !nested.isEmpty || !s.rules.isEmpty
  { kind := .constructor
    visibility := s.visibility
    field := none
    params := s.parameters.map fun f => (f.name,paramType f)
    body :=
      (if validates then [.accumulator] else []) ++
      (if nested.isEmpty then []
        else nested.map (fun f => .aggregate (aggregation f)) ++ [.unwrapAll (nested.map (·.name))]) ++
      (s.fields.filter fun f => !f.isParameter).map (fun f => .initial f.name f.type) ++
      s.rules.map (checkOf s · .own) ++
      (if validates then [.stopOnErrors] else []) ++
      [.construct (s.fields.map (·.name))] }

def setter (b : BoundSchema) (f : Field) : Routine :=
  let rules := b.rulesFor f.name
  let argument (name : String) : Argument := if name = f.name then .own name else .stored name
  { kind := .setter
    visibility := b.schema.visibility
    field := some f.name
    params := [(f.name,paramType f)]
    body :=
      (if f.isNested || !rules.isEmpty then [.accumulator] else []) ++
      (if f.isNested then [.unwrap (aggregation f)] else []) ++
      rules.map (checkOf b.schema · argument) ++
      (if rules.isEmpty then [] else [.stopOnErrors]) ++
      [.store f.name,.accept] }

end DomainSchema.Emission
