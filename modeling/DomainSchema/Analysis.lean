import DomainSchema.Analysis.Binding

namespace DomainSchema

structure Analysis where
  index : TypeIndex
  schemas : List BoundSchema
  diagnostics : Diagnostics

def Analysis.schema? (a : Analysis) (name : String) : Option BoundSchema :=
  a.schemas.find? (·.schema.name == name)

def Diagnostics.fail (ds : Diagnostics) (settings : Settings) : Bool :=
  ds.hasErrors || (settings.strictness.warningsAsErrors && ds.warningCount > 0)

def Analysis.failed (a : Analysis) (settings : Settings) : Bool := a.diagnostics.fail settings

def analyzeDeclaration (d : Declaration) (index : TypeIndex) (settings : Settings) : Found BoundSchema :=
  let extracted := extract d index settings
  match extracted.result with
  | none => ⟨none,extracted.diagnostics⟩
  | some s =>
    let bound := bind s
    ⟨bound.result,extracted.diagnostics ++ bound.diagnostics⟩

def duplicateSchema (d : Declaration) : Diagnostic where
  schema := d.qualifiedName
  member := some d.name
  code := .duplicateSchema
  message := "Schema " ++ d.qualifiedName ++ " is declared more than once"

-- Goes through the declarations in order. Of several with one name only the first is looked at, even if
-- nothing comes of it.
def analyzeAll (index : TypeIndex) (settings : Settings) :
    List Declaration → List String → List (Found BoundSchema)
  | [], _ => []
  | d :: rest, seen =>
    if d.qualifiedName ∈ seen then ⟨none,⟨[duplicateSchema d]⟩⟩ :: analyzeAll index settings rest seen
    else analyzeDeclaration d index settings :: analyzeAll index settings rest (d.qualifiedName :: seen)

def analyze (g : Declarations) (settings : Settings) : Analysis :=
  let index := TypeIndex.build g settings
  let found := analyzeAll index settings g.marked []
  ⟨index,found.filterMap (·.result),⟨found.flatMap (·.diagnostics.items)⟩⟩

end DomainSchema
