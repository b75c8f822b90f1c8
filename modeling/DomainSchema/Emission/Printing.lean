import DomainSchema.Analysis.Binding
import DomainSchema.Emission.Names

namespace DomainSchema.Emission

structure Vocabulary where
  capability : String
  result : String
  error : String
  exception : String
  nested : String
  nestedList : String
  check : String

def Vocabulary.ofLibrary (library : Library) : Vocabulary where
  capability := library.item library.capability
  result := library.item "DomainResult"
  error := library.item "DomainError"
  exception := library.item "DomainException"
  nested := library.item "nested"
  nestedList := library.item "nested_list"
  check := library.item "check"

def errorsLocal : String := "__errors"

def concat (texts : List String) : String := texts.foldr (· ++ ·) ""

def capabilitySource (v : Vocabulary) (naming : Naming) (s : Schema) : String :=
  "impl" ++ withGenerics "" s.generics ++ " " ++ v.capability ++ " for " ++ s.selfType ++ " \x7b\n" ++
  "    fn " ++ naming.toResult ++ "(self) -> " ++ v.result ++ "<Self> \x7b\n" ++
  "        " ++ v.result ++ "::Success(self)\n" ++
  "    \x7d\n" ++
  "\x7d\n"

def parameterType (v : Vocabulary) (f : Field) : String :=
  match f.nesting with
  | .none => f.type.text
  | .single => v.result ++ "<" ++ f.type.text ++ ">"
  | .list => "impl ::core::iter::IntoIterator<Item = " ++ v.result ++ "<" ++ f.nestedType.text ++ ">>"

def aggregationSource (v : Vocabulary) (f : Field) : String :=
  (match f.nesting with | .list => v.nestedList | _ => v.nested) ++ "(&mut " ++ errorsLocal ++ ", " ++
    pathLiteral f.errorPath ++ ", " ++ ident f.name ++ ")"

def inItem (line : String) : String := "    " ++ line ++ "\n"

def inBody (line : String) : String := "        " ++ line ++ "\n"

def accumulatorSource (v : Vocabulary) : String :=
  inBody ("let mut " ++ errorsLocal ++ ": ::std::vec::Vec<" ++ v.error ++ "> = ::std::vec::Vec::new();")

def someOf (name : String) : String := "Some(" ++ name ++ ")"

def unwrappingSource (pattern scrutinee failure : String) : String :=
  inBody ("let " ++ pattern ++ " = " ++ scrutinee ++ " else \x7b") ++ inBody ("    return " ++ failure ++ ";") ++
    inBody "\x7d;"

def unwrapAllSource (failure : String) : List String → String
  | [only] => unwrappingSource (someOf only) only failure
  | many => unwrappingSource ("(" ++ Text.join ", " (many.map someOf) ++ ")") ("(" ++ Text.join ", " many ++ ")") failure

def checkSource (v : Vocabulary) (s : Schema) (r : Rule) (args : List String) : String :=
  inBody (v.check ++ "(&mut " ++ errorsLocal ++ ", " ++ pathLiteral (s.messagePath r) ++ ", Self::" ++ ident r.name ++
    "(" ++ Text.join ", " args ++ "));")

def stopSource (failure : String) : String :=
  inBody ("if !" ++ errorsLocal ++ ".is_empty() \x7b") ++ inBody ("    return " ++ failure ++ ";") ++ inBody "\x7d"

def constructorFailure (v : Vocabulary) : String := v.result ++ "::Failure(" ++ errorsLocal ++ ")"

def constructorSource (v : Vocabulary) (naming : Naming) (s : Schema) : String :=
  let params := s.parameters
  let nested := params.filter Field.isNested
  let validates := !nested.isEmpty || !s.rules.isEmpty
  let start := s.visibility.keyword ++ "fn " ++ naming.constructor ++ "("
  let finish := ") -> " ++ v.result ++ "<Self> \x7b"
  (if params.isEmpty then inItem (start ++ finish)
   else inItem start ++ concat (params.map fun f => inBody (ident f.name ++ ": " ++ parameterType v f ++ ",")) ++
     inItem finish) ++
  (if validates then accumulatorSource v else "") ++
  (if nested.isEmpty then ""
   else concat (nested.map fun f => inBody ("let " ++ ident f.name ++ " = " ++ aggregationSource v f ++ ";")) ++
     unwrapAllSource (constructorFailure v) (nested.map fun f => ident f.name)) ++
  concat ((s.fields.filter fun f => !f.isParameter).map fun f =>
    inBody ("let " ++ ident f.name ++ ": " ++ f.type.text ++ " = ::core::default::Default::default();")) ++
  concat (s.rules.map fun r => checkSource v s r (r.params.map fun p => "&" ++ ident p.name)) ++
  (if validates then stopSource (constructorFailure v) else "") ++
  (if s.fields.isEmpty then inBody (v.result ++ "::Success(Self \x7b\x7d)")
   else inBody (v.result ++ "::Success(Self \x7b " ++ Text.join ", " (s.fields.map fun f => ident f.name) ++ " \x7d)")) ++
  inItem "\x7d"

def setterFailure (v : Vocabulary) : String :=
  "::core::result::Result::Err(" ++ v.exception ++ "::new(" ++ errorsLocal ++ "))"

def setterSource (v : Vocabulary) (naming : Naming) (b : BoundSchema) (f : Field) : String :=
  let name := ident f.name
  let rules := b.rulesFor f.name
  inItem (b.schema.visibility.keyword ++ "fn " ++ setterName naming f.name ++ "(&mut self, " ++ name ++ ": " ++
    parameterType v f ++ ") -> ::core::result::Result<(), " ++ v.exception ++ "> \x7b") ++
  (if f.isNested || !rules.isEmpty then accumulatorSource v else "") ++
  (if f.isNested then unwrappingSource (someOf name) (aggregationSource v f) (setterFailure v) else "") ++
  concat (rules.map fun r => checkSource v b.schema r
    (r.params.map fun p => if p.name = f.name then "&" ++ name else "&self." ++ ident p.name)) ++
  (if rules.isEmpty then "" else stopSource (setterFailure v)) ++
  inBody ("self." ++ name ++ " = " ++ name ++ ";") ++
  inBody "::core::result::Result::Ok(())" ++
  inItem "\x7d"

def openingText (s : Schema) (settings : Settings) : String :=
  "// " ++ s.name ++ "\n" ++ capabilitySource (.ofLibrary settings.library) settings.naming s ++ "\n" ++
    "impl" ++ withGenerics "" s.generics ++ " " ++ s.selfType ++ " \x7b\n"

def schemaText (b : BoundSchema) (settings : Settings) : String :=
  let v := Vocabulary.ofLibrary settings.library
  openingText b.schema settings ++ constructorSource v settings.naming b.schema ++
    concat (b.schema.settableFields.map fun f => "\n" ++ setterSource v settings.naming b f) ++ "\x7d\n"

end DomainSchema.Emission
