import DomainSchema.Analysis.Extraction
import DomainSchema.Analysis.Suggestion

namespace DomainSchema

structure RuleIndex where
  entries : List (String × List Nat) := []
deriving DecidableEq, Repr

namespace RuleIndex

-- Notes a position under a name. A rule that takes a field twice is noted once.
def note (name : String) (position : Nat) : List (String × List Nat) → List (String × List Nat)
  | [] => [(name,[position])]
  | (key,positions) :: entries =>
    if key = name then
      (key,if positions.getLast? = some position then positions else positions ++ [position]) :: entries
    else (key,positions) :: note name position entries

def build (rules : List Rule) : RuleIndex :=
  ⟨rules.zipIdx.foldl
    (fun entries (rule,position) => rule.params.foldl (fun es p => note p.name position es) entries) []⟩

def positions (index : RuleIndex) (name : String) : List Nat := (index.entries.lookup name).getD []

def size (index : RuleIndex) : Nat := index.entries.length

def isEmpty (index : RuleIndex) : Bool := index.entries.isEmpty

end RuleIndex

structure BoundSchema where
  schema : Schema
  index : RuleIndex
deriving DecidableEq, Repr

def BoundSchema.ofSchema (s : Schema) : BoundSchema := ⟨s,.build s.rules⟩

def BoundSchema.rulesFor (b : BoundSchema) (field : String) : List Rule :=
  (b.index.positions field).filterMap fun i => b.schema.rules[i]?

inductive Resolution where
  | unknown
  | mismatch (f : Field)
  | matching (f : Field)

def Schema.resolve (s : Schema) (p : Parameter) : Resolution :=
  match s.field? p.name with
  | none => .unknown
  | some f => if f.type = p.type then .matching f else .mismatch f

def Resolution.isUnknown : Resolution → Bool
  | .unknown => true
  | _ => false

def Resolution.isMismatch : Resolution → Bool
  | .mismatch _ => true
  | _ => false

def Schema.paramDiagnostics (s : Schema) (r : Rule) (p : Parameter) : List Diagnostic :=
  match s.resolve p with
  | .unknown => [.memberNotFound s.name r.name p.name (Suggestion.suggest s.fields p.name)]
  | .mismatch f =>
    [{ schema := s.name, member := some (r.name ++ "(" ++ p.name ++ ")"), code := .typeMismatch
       message := "Type mismatch for " ++ p.name ++ ": expected " ++ f.type.text ++ ", found " ++ p.type.text
       context := ["rule `" ++ r.name ++ "` is not emitted"] }]
  | .matching _ => []

-- Ties the rules of a schema to its fields. One unknown parameter gives up the schema, a mismatch only its
-- rule.
def bind (s : Schema) : Found BoundSchema :=
  let diagnostics := ⟨s.rules.flatMap fun r => r.params.flatMap (s.paramDiagnostics r)⟩
  let unknown := s.rules.any fun r => r.params.any fun p => (s.resolve p).isUnknown
  let kept := s.rules.filter fun r => !r.params.any fun p => (s.resolve p).isMismatch
  ⟨if unknown then none else some (.ofSchema { s with rules := kept }),diagnostics⟩

end DomainSchema
