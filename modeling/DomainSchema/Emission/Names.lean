import DomainSchema.Settings
import DomainSchema.Text
import DomainSchema.Text.Literal

namespace DomainSchema.Emission

def keywords : List String :=
  ["as","break","const","continue","crate","else","enum","extern",
   "false","fn","for","if","impl","in","let","loop","match","mod",
   "move","mut","pub","ref","return","static","struct",
   "trait","true","type","unsafe","use","where","while",
   "async","await","dyn","abstract","become","box","do","final",
   "macro","override","priv","typeof","unsized","virtual","yield","try"]

def ident (name : String) : String := if keywords.contains name then "r#" ++ name else name

def setterName (naming : Naming) (field : String) : String := ident (naming.setter field)

def pathLiteral : Option String → String
  | some path => "::core::option::Option::Some(" ++ Text.literal path ++ ")"
  | none => "::core::option::Option::None"

-- The file of a module's unit. The root has the name of a keyword, so no module path is meant by it.
def unitFileName : Option String → String
  | some path => if path.isEmpty then "crate.domain.rs" else String.ofList (Text.dotted path.toList) ++ ".domain.rs"
  | none => "crate.domain.rs"

end DomainSchema.Emission
