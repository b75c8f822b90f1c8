import DomainSchema.Emission.Printing
import DomainSchema.Emission.Routine

namespace DomainSchema.Emission

def ParamType.text (v : Vocabulary) : ParamType → String
  | .plain type => type.text
  | .result type => v.result ++ "<" ++ type.text ++ ">"
  | .results element => "impl ::core::iter::IntoIterator<Item = " ++ v.result ++ "<" ++ element.text ++ ">>"

def Aggregation.text (v : Vocabulary) (call : Aggregation) : String :=
  (if call.many then v.nestedList else v.nested) ++ "(&mut " ++ errorsLocal ++ ", " ++ pathLiteral call.path ++ ", " ++
    ident call.field ++ ")"

def Argument.text : Argument → String
  | .own name => "&" ++ ident name
  | .stored name => "&self." ++ ident name

def failure (v : Vocabulary) : RoutineKind → String
  | .constructor => v.result ++ "::Failure(" ++ errorsLocal ++ ")"
  | .setter => "::core::result::Result::Err(" ++ v.exception ++ "::new(" ++ errorsLocal ++ "))"

def letElse (pattern value failure : String) : List String :=
  ["let " ++ pattern ++ " = " ++ value ++ " else \x7b","    return " ++ failure ++ ";","\x7d;"]

def Statement.lines (v : Vocabulary) (kind : RoutineKind) : Statement → List String
  | .accumulator => ["let mut " ++ errorsLocal ++ ": ::std::vec::Vec<" ++ v.error ++ "> = ::std::vec::Vec::new();"]
  | .aggregate call => ["let " ++ ident call.field ++ " = " ++ call.text v ++ ";"]
  | .unwrapAll names =>
    match names.map ident with
    | [only] => letElse (someOf only) only (failure v kind)
    | many => letElse ("(" ++ Text.join ", " (many.map someOf) ++ ")") ("(" ++ Text.join ", " many ++ ")") (failure v kind)
  | .unwrap call => letElse (someOf (ident call.field)) (call.text v) (failure v kind)
  | .initial name type => ["let " ++ ident name ++ ": " ++ type.text ++ " = ::core::default::Default::default();"]
  | .check path rule args =>
    [v.check ++ "(&mut " ++ errorsLocal ++ ", " ++ pathLiteral path ++ ", Self::" ++ ident rule ++ "(" ++
      Text.join ", " (args.map Argument.text) ++ "));"]
  | .stopOnErrors =>
    ["if !" ++ errorsLocal ++ ".is_empty() \x7b","    return " ++ failure v kind ++ ";","\x7d"]
  | .construct [] => [v.result ++ "::Success(Self \x7b\x7d)"]
  | .construct names => [v.result ++ "::Success(Self \x7b " ++ Text.join ", " (names.map ident) ++ " \x7d)"]
  | .store name => ["self." ++ ident name ++ " = " ++ ident name ++ ";"]
  | .accept => ["::core::result::Result::Ok(())"]

def param (v : Vocabulary) (p : String × ParamType) : String := ident p.1 ++ ": " ++ p.2.text v

def indent (line : String) : String := "    " ++ line

def Routine.head (v : Vocabulary) (naming : Naming) (r : Routine) : List String :=
  match r.kind with
  | .constructor =>
    let start := r.visibility.keyword ++ "fn " ++ naming.constructor ++ "("
    let finish := ") -> " ++ v.result ++ "<Self> \x7b"
    if r.params.isEmpty then [start ++ finish]
    else start :: (r.params.map fun p => param v p ++ ",").map indent ++ [finish]
  | .setter =>
    [r.visibility.keyword ++ "fn " ++ setterName naming (r.field.getD "") ++ "(&mut self, " ++
      Text.join ", " (r.params.map (param v)) ++ ") -> ::core::result::Result<(), " ++ v.exception ++ "> \x7b"]

def Routine.lines (v : Vocabulary) (naming : Naming) (r : Routine) : List String :=
  r.head v naming ++ (r.body.flatMap (Statement.lines v r.kind)).map indent ++ ["\x7d"]

def unlines (lines : List String) : String := lines.foldr (fun line rest => line ++ "\n" ++ rest) ""

def routineText (v : Vocabulary) (naming : Naming) (r : Routine) : String :=
  unlines ((r.lines v naming).map indent)

def routines (b : BoundSchema) : List Routine := constructor b.schema :: b.schema.settableFields.map (setter b)

end DomainSchema.Emission
