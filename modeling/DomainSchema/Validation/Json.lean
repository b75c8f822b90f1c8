import DomainSchema.Declaration.Json
import DomainSchema.Validation

namespace DomainSchema
open Json

def DomainError.json (e : DomainError) : Value :=
  given [entryOf "field" (e.field.map .string),entry "message" e.message]

def DomainError.read : Reader DomainError :=
  .record "struct DomainError" default
    [.optional "field" (.nullable .string) fun v e => { e with field := v },
     .required "message" .string fun v e => { e with message := v }]

end DomainSchema
