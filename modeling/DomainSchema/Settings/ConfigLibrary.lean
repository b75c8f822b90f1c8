import DomainSchema.FileTree
import DomainSchema.Settings.Leaf

namespace DomainSchema

inductive SettingsError where
  | noSuchFile (name : String)
  | unknownFormat (name : String)
  | unparseable (file : String)
  -- An item is put into a list by its number from the end, and the list is shorter.
  | noSuchItem (index : Int)
  | unfitting (found expected : String) (key : Option String) (origin : Option String)
deriving DecidableEq, Repr

namespace SettingsError

def text : SettingsError → String
  | .noSuchFile name => "configuration file \"" ++ name ++ "\" not found"
  | .unknownFormat name => "configuration file \"" ++ name ++ "\" is not of a registered file format"
  | .unparseable file => "configuration file \"" ++ file ++ "\" is not parseable"
  | .noSuchItem index => "no item " ++ toString index
  | .unfitting found expected key origin =>
    "invalid type: " ++ found ++ ", expected " ++ expected ++
      (key.elim "" fun key => " for key `" ++ key ++ "`") ++ (origin.elim "" fun origin => " in " ++ origin)

def under (name : String) : SettingsError → SettingsError
  | .unfitting found expected (some key) origin =>
    let point := if key = "" ∨ key.toList.head? = some '[' then "" else "."
    .unfitting found expected (some (name ++ point ++ key)) origin
  | e => e

end SettingsError

structure ConfigLibrary where
  Said : Type
  Value : Type
  file : FileTree → String → Bool → Except SettingsError Said
  -- The variables that begin with a name and a separator. The separator also stands between the levels of a key.
  environment : List (String × String) → String → String → Said
  merge : List Said → Except SettingsError Value
  -- The parts of a value that is read as a group of this title with these keys. Each comes with its key and what
  -- messages call it.
  parts : String → List String → Value → Except SettingsError (List (String × String × Value))
  text : Value → Except SettingsError String
  texts : Value → Except SettingsError (List String)
  choice : Value → Except SettingsError Bool
  document : List (String × List (String × Plain)) → String

end DomainSchema
