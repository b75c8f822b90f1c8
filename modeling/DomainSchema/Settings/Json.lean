import DomainSchema.Settings
import DomainSchema.Declaration.Json

namespace DomainSchema
open Json

def Library.json (l : Library) : Value := .object [("crate_path",l.path),("capability",l.capability)]

def Library.read : Reader Library :=
  .record "struct RuntimeConfig" {}
    [.optional "crate_path" .string fun v l => { l with path := v },
     .optional "capability" .string fun v l => { l with capability := v }]

def Naming.json (n : Naming) : Value :=
  .object [("constructor",n.constructor),("to_result",n.toResult),("setter_prefix",n.setterStart)]

def Naming.read : Reader Naming :=
  .record "struct NamingConfig" {}
    [.optional "constructor" .string fun v n => { n with constructor := v },
     .optional "to_result" .string fun v n => { n with toResult := v },
     .optional "setter_prefix" .string fun v n => { n with setterStart := v }]

def Recognition.json (r : Recognition) : Value := .object [("list_types",.strings r.listTypes)]

def Recognition.read : Reader Recognition :=
  .record "struct TypesConfig" {} [.optional "list_types" strings fun v r => { r with listTypes := v }]

def OutputOptions.json (o : OutputOptions) : Value := .object [("dir",o.directory),("header",o.header)]

def OutputOptions.read : Reader OutputOptions :=
  .record "struct OutputConfig" {}
    [.optional "dir" (.stringAs "path string") fun v o => { o with directory := v },
     .optional "header" .bool fun v o => { o with header := v }]

def Strictness.json (s : Strictness) : Value := .object [("warnings_as_errors",s.warningsAsErrors)]

def Strictness.read : Reader Strictness :=
  .record "struct DiagnosticsConfig" {}
    [.optional "warnings_as_errors" .bool fun v s => { s with warningsAsErrors := v }]

def Settings.json (s : Settings) : Value :=
  .object [("runtime",s.library.json),("naming",s.naming.json),("types",s.recognition.json),
    ("output",s.output.json),("diagnostics",s.strictness.json)]

def Settings.read : Reader Settings :=
  .record "struct ForgeConfig" {}
    [.optional "runtime" Library.read fun v s => { s with library := v },
     .optional "naming" Naming.read fun v s => { s with naming := v },
     .optional "types" Recognition.read fun v s => { s with recognition := v },
     .optional "output" OutputOptions.read fun v s => { s with output := v },
     .optional "diagnostics" Strictness.read fun v s => { s with strictness := v }]

end DomainSchema
