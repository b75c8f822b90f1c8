import DomainSchema.Declaration.Json
import DomainSchema.FileTree

namespace DomainSchema

inductive LoadError where
  | file (e : FileError)
  | invalid (path : String) (e : Json.ReadError)

def LoadError.text : LoadError → String
  | .file e => "IO error: " ++ e.text
  | .invalid path e => "Invalid declaration graph in " ++ path ++ ": " ++ e.message

namespace Declarations

def concat (gs : List Declarations) : Declarations := ⟨(gs.map (·.types)).flatten⟩

def loadFile (t : FileTree) (path : String) : Except LoadError Declarations := do
  let text ← (t.read path).mapError .file
  (ofText text).mapError (.invalid path)

def isDeclarationFile (place : Place) : Bool := (place.getLast?.bind Path.extension?) == some "json"

-- The declaration files at any depth below a directory, name by name in order. A file is below itself. One that the
-- system does not find by its path, as this is too long, is passed over.
def filesUnder (t : FileTree) (path : String) : List String :=
  match t.find path with
  | .error _ => []
  | .ok place =>
    match t.node? place with
    | none => []
    | some (.file _) => if isDeclarationFile place then [path] else []
    | some .directory =>
      let found := ((t.filesBelow place).filter isDeclarationFile).mergeSort Place.le
      (found.map fun names => Path.join path (Text.join "/" names)).filter t.isFile

def loadDirectory (t : FileTree) (path : String) : Except LoadError Declarations :=
  return concat (← (filesUnder t path).mapM (loadFile t))

def load (t : FileTree) (inputs : List String) : Except LoadError Declarations :=
  return concat (← inputs.mapM fun input =>
    if t.isDirectory input then loadDirectory t input else loadFile t input)

end Declarations

end DomainSchema
