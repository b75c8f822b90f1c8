namespace DomainSchema

structure Library where
  path : String := "::domain_forge_runtime"
  capability : String := "DomainObject"
deriving DecidableEq, Repr, Inhabited

def Library.item (library : Library) (name : String) : String := library.path ++ "::" ++ name

structure Naming where
  constructor : String := "try_new"
  toResult : String := "to_result"
  setterStart : String := "set_"
deriving DecidableEq, Repr, Inhabited

def Naming.setter (naming : Naming) (field : String) : String := naming.setterStart ++ field

structure Recognition where
  listTypes : List String := ["Vec","std::vec::Vec","alloc::vec::Vec"]
deriving DecidableEq, Repr, Inhabited

def Recognition.isList (recognition : Recognition) (path : String) : Bool := recognition.listTypes.contains path

structure OutputOptions where
  directory : String := "generated"
  header : Bool := true
deriving DecidableEq, Repr, Inhabited

structure Strictness where
  warningsAsErrors : Bool := false
deriving DecidableEq, Repr, Inhabited

structure Settings where
  library : Library := {}
  naming : Naming := {}
  recognition : Recognition := {}
  output : OutputOptions := {}
  strictness : Strictness := {}
deriving DecidableEq, Repr, Inhabited

end DomainSchema
