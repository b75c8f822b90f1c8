import DomainSchema.Schema
import DomainSchema.Declaration.Json

namespace DomainSchema
open Json

def Nesting.name : Nesting → String
  | .none => "none"
  | .single => "single"
  | .list => "list"

def Nesting.read : Reader Nesting := .oneOf (named name [.none,.single,.list])

def Mutability.name : Mutability → String
  | .fixed => "none"
  | .once => "init_once"
  | .settable => "settable"

def Mutability.read : Reader Mutability := .oneOf (named name [.fixed,.once,.settable])

def ReturnShape.name : ReturnShape → String
  | .errors => "errors"
  | .messages => "messages"
  | .outcome => "outcome"

def ReturnShape.read : Reader ReturnShape := .oneOf (named name [.errors,.messages,.outcome])

def Field.json (f : Field) : Value :=
  .object [("name",f.name),("ty",f.type.json),("kind",f.nesting.name),("error_path",.option f.errorPath),
    ("mutability",f.mutability.name)]

def Field.read : Reader Field :=
  .record "struct Field" ⟨"",default,.none,none,.fixed⟩
    [.required "name" .string fun v f => { f with name := v },
     .required "ty" TypeExpr.read fun v f => { f with type := v },
     .required "kind" Nesting.read fun v f => { f with nesting := v },
     .nullable "error_path" (.nullable .string) fun v f => { f with errorPath := v },
     .required "mutability" Mutability.read fun v f => { f with mutability := v }]

def Rule.json (r : Rule) : Value :=
  .object [("name",r.name),("params",.array (r.params.map Parameter.json)),("returns",r.returns.name)]

def Rule.read : Reader Rule :=
  .record "struct ValidationRule" ⟨"",[],.errors⟩
    [.required "name" .string fun v r => { r with name := v },
     .required "params" (.list Parameter.read) fun v r => { r with params := v },
     .required "returns" ReturnShape.read fun v r => { r with returns := v }]

def Schema.json (s : Schema) : Value :=
  .object [("name",s.name),("ident",s.ident),("module",.option s.modulePath),("generics",.strings s.generics),
    ("visibility",s.visibility.name),("fields",.array (s.fields.map Field.json)),
    ("rules",.array (s.rules.map Rule.json))]

def Schema.read : Reader Schema :=
  .record "struct Schema" ⟨"","",none,[],.hidden,[],[]⟩
    [.required "name" .string fun v s => { s with name := v },
     .required "ident" .string fun v s => { s with ident := v },
     .nullable "module" (.nullable .string) fun v s => { s with modulePath := v },
     .required "generics" strings fun v s => { s with generics := v },
     .required "visibility" Visibility.read fun v s => { s with visibility := v },
     .required "fields" (.list Field.read) fun v s => { s with fields := v },
     .required "rules" (.list Rule.read) fun v s => { s with rules := v }]

end DomainSchema
