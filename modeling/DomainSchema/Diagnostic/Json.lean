import DomainSchema.Diagnostic
import DomainSchema.Declaration.Json

namespace DomainSchema
open Json

def DiagnosticCode.name : DiagnosticCode → String
  | .nonExtensible => "NonExtensibleDeclaration"
  | .nestedDeclaration => "NestedDeclaration"
  | .duplicateSchema => "DuplicateSchema"
  | .typeMismatch => "TypeMismatch"
  | .memberNotFound => "MemberNotFound"
  | .nonPrivateMutator => "NonPrivateMutator"
  | .impureRule => "ImpureValidationRule"
  | .returnShape => "InvalidRuleReturnShape"
  | .parameterlessRule => "ParameterlessRule"
  | .renameArgument => "InvalidRenameArgument"

def DiagnosticCode.read : Reader DiagnosticCode := .oneOf (named name all)

def Diagnostic.json (d : Diagnostic) : Value :=
  given [entry "schema" d.schema,entryOf "member" (d.member.map .string),entry "code" d.code.name,
    entry "message" d.message,entryIf (!d.context.isEmpty) "context" (.strings d.context)]

def Diagnostic.read : Reader Diagnostic :=
  .record "struct DiagnosticItem" default
    [.required "schema" .string fun v d => { d with schema := v },
     .optional "member" (.nullable .string) fun v d => { d with member := v },
     .required "code" DiagnosticCode.read fun v d => { d with code := v },
     .required "message" .string fun v d => { d with message := v },
     .optional "context" strings fun v d => { d with context := v }]

def Diagnostics.json (ds : Diagnostics) : Value := .object [("items",.array (ds.items.map Diagnostic.json))]

def Diagnostics.read : Reader Diagnostics :=
  .record "struct Diagnostics" {} [.required "items" (.list Diagnostic.read) fun v _ => { items := v }]

end DomainSchema
