import DomainSchema.Declaration
import DomainSchema.Settings

namespace DomainSchema

structure TypeKey where
  path : String
  arity : Nat
deriving DecidableEq, Repr

def TypeExpr.key (t : TypeExpr) : TypeKey := ⟨t.path,t.arity⟩

def Declaration.key (d : Declaration) : TypeKey := ⟨d.qualifiedName,d.generics.length⟩

-- The types that are domain objects, each listed once. The index is complete before any field is looked at,
-- so a field may name a type that is declared later.
structure TypeIndex where
  keys : List TypeKey
deriving DecidableEq, Repr

namespace TypeIndex

def build (g : Declarations) (settings : Settings) : TypeIndex :=
  ⟨((g.types.filter fun d => d.marked || d.hasCapability settings.library.capability).map
    Declaration.key).eraseDups⟩

def contains (index : TypeIndex) (t : TypeExpr) : Bool := index.keys.contains t.key

def size (index : TypeIndex) : Nat := index.keys.length

def isEmpty (index : TypeIndex) : Bool := index.keys.isEmpty

end TypeIndex

end DomainSchema
