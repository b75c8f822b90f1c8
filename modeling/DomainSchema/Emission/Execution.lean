import DomainSchema.Emission.Printing
import DomainSchema.Emission.Routine
import DomainSchema.Validation

namespace DomainSchema.Emission

-- What a generated routine does when it runs. Locals are found by the identifiers that stand in its text, so
-- a local that hides another does so here too.

structure Meaning (V : Type) where
  rule : String → List V → RuleOutcome
  initial : TypeExpr → V
  collect : List V → V

inductive Content (V : Type) where
  | value (v : V)
  | result (r : DomainResult V)
  | results (rs : List (DomainResult V))
  | unwrapped (v : Option V)
  | errors (found : List DomainError)

-- The newest local comes first.
abbrev Locals (V : Type) := List (String × Content V)

abbrev Fields (V : Type) := List (String × V)

structure Frame (V : Type) where
  locals : Locals V
  object : Fields V

inductive Ending (V : Type) where
  | built (object : Fields V)
  | accepted
  | failed (errors : List DomainError)
  -- A statement has found something else than it needs. No text with such a statement compiles, except where a field
  -- has the name and the type of the list of errors.
  | stuck

section
variable {V : Type}

def assign (name : String) (content : Content V) : Locals V → Locals V
  | [] => []
  | other :: rest => if other.1 = name then (name,content) :: rest else other :: assign name content rest

def Frame.bind (f : Frame V) (name : String) (content : Content V) : Frame V :=
  { f with locals := (name,content) :: f.locals }

def Frame.errors? (f : Frame V) : Option (List DomainError) :=
  match f.locals.lookup errorsLocal with
  | some (.errors found) => some found
  | _ => none

def Frame.setErrors (f : Frame V) (found : List DomainError) : Frame V :=
  { f with locals := assign errorsLocal (.errors found) f.locals }

def Frame.value? (f : Frame V) : Argument → Option V
  | .own name =>
    match f.locals.lookup (ident name) with
    | some (.value v) => some v
    | _ => none
  | .stored name => f.object.lookup (ident name)

def Aggregation.run (m : Meaning V) (f : Frame V) (call : Aggregation) : Option (Option V × Frame V) := do
  let errors ← f.errors?
  match call.many, ← f.locals.lookup (ident call.field) with
  | false, .result r =>
    let (v,errors) := nested errors call.path r
    return (v,f.setErrors errors)
  | true, .results rs =>
    let (vs,errors) := nestedList errors call.path rs
    return (vs.map m.collect,f.setErrors errors)
  | _, _ => none

-- The values of locals that were unwrapped: `none` inside if one of them has none.
def unwrappedValues (locals : Locals V) : List String → Option (Option (List (String × V)))
  | [] => some (some [])
  | name :: names => do
    match ← locals.lookup (ident name) with
    | .unwrapped v =>
      let rest ← unwrappedValues locals names
      return do return (ident name,← v) :: (← rest)
    | _ => none

def Statement.run (m : Meaning V) (f : Frame V) : Statement → Except (Ending V) (Frame V)
  | .accumulator => .ok (f.bind errorsLocal (.errors []))
  | .aggregate call =>
    match call.run m f with
    | some (v,f) => .ok (f.bind (ident call.field) (.unwrapped v))
    | none => .error .stuck
  | .unwrapAll names =>
    match unwrappedValues f.locals names, f.errors? with
    | some (some values), _ =>
      .ok { f with locals := (values.map fun (name,v) => (name,.value v)).reverse ++ f.locals }
    | some none, some errors => .error (.failed errors)
    | _, _ => .error .stuck
  | .unwrap call =>
    match call.run m f with
    | some (some v,f) => .ok (f.bind (ident call.field) (.value v))
    | some (none,f) =>
      match f.errors? with
      | some errors => .error (.failed errors)
      | none => .error .stuck
    | none => .error .stuck
  | .initial name type => .ok (f.bind (ident name) (.value (m.initial type)))
  | .check path rule args =>
    match args.mapM f.value?, f.errors? with
    | some values, some errors => .ok (f.setErrors (DomainSchema.check errors path (m.rule rule values)))
    | _, _ => .error .stuck
  | .stopOnErrors =>
    match f.errors? with
    | some errors => if errors.isEmpty then .ok f else .error (.failed errors)
    | none => .error .stuck
  | .construct names =>
    match names.mapM fun name => f.value? (.own name) with
    | some values => .error (.built ((names.map ident).zip values))
    | none => .error .stuck
  | .store name =>
    match f.value? (.own name) with
    | some v => .ok { f with object := f.object.map fun (field,old) => (field,if field = ident name then v else old) }
    | none => .error .stuck
  | .accept => .error .accepted

def runStatements (m : Meaning V) : Frame V → List Statement → Ending V × Fields V
  | f, [] => (.stuck,f.object)
  | f, s :: rest =>
    match s.run m f with
    | .ok f => runStatements m f rest
    | .error ending => (ending,f.object)

def Routine.run (m : Meaning V) (r : Routine) (object : Fields V) (args : List (Content V)) : Ending V × Fields V :=
  runStatements m ⟨((r.params.map fun p => ident p.1).zip args).reverse,object⟩ r.body

end

end DomainSchema.Emission
