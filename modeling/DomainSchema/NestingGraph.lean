import DomainSchema.Analysis.Binding

namespace DomainSchema

structure NestingEdge where
  source : Nat
  target : Nat
  field : String
  nesting : Nesting
deriving DecidableEq, Repr

-- Which schemas hold which domain objects. A node is its place among the names, and `places` finds it by its name. A name is
-- there once, an edge as often as there are such fields.
structure NestingGraph where
  names : List String := []
  places : List (String × Nat) := []
  edges : List NestingEdge := []
deriving DecidableEq, Repr

def NestingEdge.label (e : NestingEdge) : String := if e.nesting == .list then e.field ++ " [list]" else e.field

namespace NestingGraph

def node (name : String) (g : NestingGraph) : Nat × NestingGraph :=
  match g.places.lookup name with
  | some place => (place,g)
  | none => (g.names.length,{ g with names := g.names ++ [name], places := g.places ++ [(name,g.names.length)] })

def addField (source : Nat) (g : NestingGraph) (f : Field) : NestingGraph :=
  let (target,g) := g.node f.nestedType.path
  { g with edges := g.edges ++ [⟨source,target,f.name,f.nesting⟩] }

def addSchema (g : NestingGraph) (b : BoundSchema) : NestingGraph :=
  let (source,g) := g.node b.schema.name
  b.schema.nestedFields.foldl (addField source) g

def build (schemas : List BoundSchema) : NestingGraph :=
  schemas.foldl addSchema (schemas.foldl (fun g b => (g.node b.schema.name).2) {})

def nodeCount (g : NestingGraph) : Nat := g.names.length

def edgeCount (g : NestingGraph) : Nat := g.edges.length

def nameAt (g : NestingGraph) (place : Nat) : String := g.names.getD place ""

structure Neighbor where
  other : String
  field : String
  nesting : Nesting
deriving DecidableEq, Repr

-- Neighbours are ordered by field and then by name. Of equal ones the edge added last comes first.
def Neighbor.le (a b : Neighbor) : Bool := a.field < b.field || (a.field == b.field && a.other ≤ b.other)

def neighbors (g : NestingGraph) (near far : NestingEdge → Nat) (name : String) : List Neighbor :=
  match g.places.lookup name with
  | some place =>
    (((g.edges.filter (near · == place)).map fun e => ⟨g.nameAt (far e),e.field,e.nesting⟩).reverse).mergeSort Neighbor.le
  | none => []

def dependencies (g : NestingGraph) (schema : String) : List Neighbor := g.neighbors (·.source) (·.target) schema

def dependents (g : NestingGraph) (type : String) : List Neighbor := g.neighbors (·.target) (·.source) type

structure Arrow where
  source : String
  target : String
  label : String
deriving DecidableEq, Repr

def Arrow.le (a b : Arrow) : Bool :=
  a.source < b.source ||
    (a.source == b.source && (a.target < b.target || (a.target == b.target && a.label ≤ b.label)))

def inQuotes (text : String) : String := "\"" ++ text ++ "\""

def nodeLine (name : String) : String :=
  "  " ++ inQuotes name ++ " [label=" ++ inQuotes (Text.lastSegment name) ++ "];\n"

def arrowLine (a : Arrow) : String :=
  "  " ++ inQuotes a.source ++ " -> " ++ inQuotes a.target ++ " [label=" ++ inQuotes a.label ++ "];\n"

def dotHead : String :=
  "digraph DomainNesting \x7b\n  rankdir=LR;\n" ++
    "  node [shape=box, style=\"rounded\", fontname=\"Helvetica\", fontsize=10];\n" ++
    "  edge [fontname=\"Helvetica\", fontsize=8];\n\n"

def drawing (names : List String) (arrows : List Arrow) : String :=
  dotHead ++ (names.mergeSort (· ≤ ·)).foldr (fun name rest => nodeLine name ++ rest)
    ("\n" ++ (arrows.mergeSort Arrow.le).foldr (fun a rest => arrowLine a ++ rest) "\x7d\n")

def arrows (g : NestingGraph) : List Arrow := g.edges.map fun e => ⟨g.nameAt e.source,g.nameAt e.target,e.label⟩

def dot (g : NestingGraph) : String := drawing (g.places.map Prod.fst) g.arrows

end NestingGraph

end DomainSchema
