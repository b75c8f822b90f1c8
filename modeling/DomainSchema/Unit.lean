import DomainSchema.Analysis
import DomainSchema.Emission.Printing
import DomainSchema.Fingerprint

namespace DomainSchema

structure GeneratedUnit where
  modulePath : Option String
  fileName : String
  code : String
  schemas : List String
deriving DecidableEq, Repr

structure ModuleGroup where
  modulePath : Option String
  members : List BoundSchema

-- The module a schema is generated into. An empty path is the root like no path.
def Schema.home (s : Schema) : Option String := s.modulePath.filter fun path => !path.isEmpty

def addToGroups (b : BoundSchema) : List ModuleGroup → List ModuleGroup
  | [] => [⟨b.schema.home,[b]⟩]
  | g :: groups =>
    if g.modulePath = b.schema.home then { g with members := g.members ++ [b] } :: groups
    else g :: addToGroups b groups

def groupByModule (schemas : List BoundSchema) : List ModuleGroup :=
  schemas.foldl (fun groups b => addToGroups b groups) []

def header (body : String) : String :=
  "// @generated by domain-forge. DO NOT EDIT.\n// Regenerate with `domain-forge generate`.\n" ++
    (Fingerprint.ofText body).headerLine ++ "\n"

def withHeader (body : String) : String := header body ++ "\n" ++ body

def ModuleGroup.body (g : ModuleGroup) (settings : Settings) : String :=
  Text.join "\n" (g.members.map (Emission.schemaText · settings))

def ModuleGroup.unit (g : ModuleGroup) (settings : Settings) : GeneratedUnit where
  modulePath := g.modulePath
  fileName := Emission.unitFileName g.modulePath
  code := if settings.output.header then withHeader (g.body settings) else g.body settings
  schemas := g.members.map (·.schema.name)

def generate (a : Analysis) (settings : Settings) : List GeneratedUnit :=
  (groupByModule a.schemas).map (·.unit settings)

structure Generated where
  units : List GeneratedUnit
  diagnostics : Diagnostics

namespace Generated

def unit? (g : Generated) (modulePath : Option String) : Option GeneratedUnit :=
  g.units.find? (·.modulePath == modulePath)

def schemaCount (g : Generated) : Nat := (g.units.flatMap (·.schemas)).length

def failed (g : Generated) (settings : Settings) : Bool := g.diagnostics.fail settings

end Generated

def compile (g : Declarations) (settings : Settings) : Generated :=
  let a := analyze g settings
  ⟨generate a settings,a.diagnostics⟩

def compileStrict (g : Declarations) (settings : Settings) : Except Diagnostics Generated :=
  let a := analyze g settings
  if a.failed settings then .error a.diagnostics else .ok ⟨generate a settings,a.diagnostics⟩

end DomainSchema
