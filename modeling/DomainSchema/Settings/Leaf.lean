import DomainSchema.Settings

namespace DomainSchema

inductive Group where
  | library
  | naming
  | recognition
  | output
  | strictness
deriving DecidableEq, Repr

inductive Leaf where
  | libraryPath
  | capability
  | constructor
  | toResult
  | setterStart
  | listTypes
  | directory
  | header
  | warningsAsErrors
deriving DecidableEq, Repr

inductive Plain where
  | text (s : String)
  | texts (ss : List String)
  | choice (b : Bool)
deriving DecidableEq, Repr

namespace Leaf

def all : List Leaf :=
  [.libraryPath,.capability,.constructor,.toResult,.setterStart,.listTypes,.directory,.header,.warningsAsErrors]

def group : Leaf → Group
  | libraryPath | capability => .library
  | constructor | toResult | setterStart => .naming
  | listTypes => .recognition
  | directory | header => .output
  | warningsAsErrors => .strictness

def key : Leaf → String
  | libraryPath => "crate_path"
  | capability => "capability"
  | constructor => "constructor"
  | toResult => "to_result"
  | setterStart => "setter_prefix"
  | listTypes => "list_types"
  | directory => "dir"
  | header => "header"
  | warningsAsErrors => "warnings_as_errors"

def value (s : Settings) : Leaf → Plain
  | libraryPath => .text s.library.path
  | capability => .text s.library.capability
  | constructor => .text s.naming.constructor
  | toResult => .text s.naming.toResult
  | setterStart => .text s.naming.setterStart
  | listTypes => .texts s.recognition.listTypes
  | directory => .text s.output.directory
  | header => .choice s.output.header
  | warningsAsErrors => .choice s.strictness.warningsAsErrors

end Leaf

namespace Group

def all : List Group := [.library,.naming,.recognition,.output,.strictness]

def key : Group → String
  | library => "runtime"
  | naming => "naming"
  | recognition => "types"
  | output => "output"
  | strictness => "diagnostics"

def title : Group → String
  | library => "RuntimeConfig"
  | naming => "NamingConfig"
  | recognition => "TypesConfig"
  | output => "OutputConfig"
  | strictness => "DiagnosticsConfig"

def leaves (g : Group) : List Leaf := Leaf.all.filter (·.group = g)

end Group

end DomainSchema
