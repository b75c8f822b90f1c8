import DomainSchema.Text

namespace DomainSchema

inductive DiagnosticCode where
  | nonExtensible | nestedDeclaration | duplicateSchema
  | typeMismatch | memberNotFound
  | nonPrivateMutator | impureRule | returnShape | parameterlessRule | renameArgument
deriving DecidableEq, Repr, Inhabited

inductive Severity where
  | warning | error
deriving DecidableEq, Repr, Inhabited

def Severity.name : Severity → String
  | .warning => "warning"
  | .error => "error"

namespace DiagnosticCode

def all : List DiagnosticCode :=
  [.nonExtensible,.nestedDeclaration,.duplicateSchema,.typeMismatch,.memberNotFound,.nonPrivateMutator,
   .impureRule,.returnShape,.parameterlessRule,.renameArgument]

def label : DiagnosticCode → String
  | .nonExtensible => "DF001"
  | .nestedDeclaration => "DF002"
  | .duplicateSchema => "DF003"
  | .typeMismatch => "DF004"
  | .memberNotFound => "DF005"
  | .nonPrivateMutator => "DF006"
  | .impureRule => "DF007"
  | .returnShape => "DF008"
  | .parameterlessRule => "DF009"
  | .renameArgument => "DF010"

def title : DiagnosticCode → String
  | .nonExtensible => "Non-extensible declaration"
  | .nestedDeclaration => "Nested declaration"
  | .duplicateSchema => "Duplicate schema"
  | .typeMismatch => "Type mismatch"
  | .memberNotFound => "Member not found"
  | .nonPrivateMutator => "Non-private mutator"
  | .impureRule => "Impure validation rule"
  | .returnShape => "Invalid rule return shape"
  | .parameterlessRule => "Parameterless rule"
  | .renameArgument => "Invalid rename argument"

def severity : DiagnosticCode → Severity
  | .nonPrivateMutator => .warning
  | _ => .error

-- Whether nothing is generated for the schema. A mismatch costs only its rule, and a bad error name falls
-- back to the name of the field.
def blocks : DiagnosticCode → Bool
  | .nonPrivateMutator | .typeMismatch | .renameArgument => false
  | _ => true

end DiagnosticCode

structure Diagnostic where
  schema : String
  member : Option String := none
  code : DiagnosticCode
  message : String
  context : List String := []
deriving DecidableEq, Repr, Inhabited

namespace Diagnostic

def severity (d : Diagnostic) : Severity := d.code.severity

def isError (d : Diagnostic) : Bool := d.severity == .error

def isWarning (d : Diagnostic) : Bool := d.severity == .warning

-- `[code] severity: message (schema::member)`, with each note on a line of its own.
def text (d : Diagnostic) : String :=
  let place := match d.member with
    | some member => d.schema ++ "::" ++ member
    | none => d.schema
  d.context.foldl (fun text note => text ++ "\n  - " ++ note)
    ("[" ++ d.code.label ++ "] " ++ d.severity.name ++ ": " ++ d.message ++ " (" ++ place ++ ")")

end Diagnostic

structure Diagnostics where
  items : List Diagnostic := []
deriving DecidableEq, Repr, Inhabited

namespace Diagnostics

def push (ds : Diagnostics) (d : Diagnostic) : Diagnostics := ⟨ds.items ++ [d]⟩

def merge (ds more : Diagnostics) : Diagnostics := ⟨ds.items ++ more.items⟩

instance : Append Diagnostics := ⟨merge⟩

def errors (ds : Diagnostics) : List Diagnostic := ds.items.filter Diagnostic.isError

def warnings (ds : Diagnostics) : List Diagnostic := ds.items.filter Diagnostic.isWarning

def withCode (ds : Diagnostics) (code : DiagnosticCode) : List Diagnostic := ds.items.filter (·.code == code)

def hasErrors (ds : Diagnostics) : Bool := ds.items.any Diagnostic.isError

def blocks (ds : Diagnostics) (schema : String) : Bool :=
  ds.items.any fun d => d.schema == schema && d.code.blocks && d.isError

def errorCount (ds : Diagnostics) : Nat := ds.errors.length

def warningCount (ds : Diagnostics) : Nat := ds.warnings.length

def text (ds : Diagnostics) : String :=
  let counts :=
    if ds.hasErrors then
      "\n" ++ toString ds.errorCount ++ " error(s), " ++ toString ds.warningCount ++ " warning(s)\n"
    else if ds.items.isEmpty then ""
    else "\n" ++ toString ds.warningCount ++ " warning(s)\n"
  ds.items.foldr (fun d rest => d.text ++ "\n" ++ rest) counts

end Diagnostics

def Diagnostic.memberNotFound (schema rule param : String) (suggestion : Option String) : Diagnostic where
  schema := schema
  member := some (rule ++ "(" ++ param ++ ")")
  code := .memberNotFound
  message := "Member " ++ param ++ " could not be resolved"
  context := match suggestion with
    | some name => ["did you mean `" ++ name ++ "`?"]
    | none => []

end DomainSchema
