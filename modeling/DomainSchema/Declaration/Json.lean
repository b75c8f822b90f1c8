import DomainSchema.Declaration
import DomainSchema.Json.Value

namespace DomainSchema
open Json

-- Reading and writing of declarations. A field is left out of the text where the type has a natural
-- absence for it: no value, an empty list of arguments, generics or capabilities.

def given (entries : List (Option (String × Value))) : Value := .object (entries.filterMap id)

def entry (key : String) (value : Value) : Option (String × Value) := some (key,value)

def entryIf (written : Bool) (key : String) (value : Value) : Option (String × Value) :=
  if written then some (key,value) else none

def entryOf (key : String) (value : Option Value) : Option (String × Value) := value.map (key,·)

def strings : Reader (List String) := .list .string

mutual

def TypeExpr.json : TypeExpr → Value
  | ⟨path,args⟩ =>
    if args.isEmpty then .object [("path",path)]
    else .object [("path",path),("args",.array (TypeExpr.jsonArgs args))]
termination_by structural t => t

def TypeExpr.jsonArgs : List TypeExpr → List Value
  | [] => []
  | arg :: args => arg.json :: TypeExpr.jsonArgs args
termination_by structural args => args

end

def TypeExpr.fields (args : Reader (List TypeExpr)) : List (Reader.Field TypeExpr) :=
  [.required "path" .string fun v t => { t with path := v }, .optional "args" args fun v t => { t with args := v }]

-- An argument lies two levels below its type, so the recursion is on the budget.
def TypeExpr.read (manner : Manner) : Nat → Json.Node → Except ReadError TypeExpr
  | budget + 2 =>
    Reader.record "struct TypeRef" default (fields (.list fun _ _ => TypeExpr.read manner budget)) manner (budget + 2)
  | budget => Reader.record "struct TypeRef" default (fields (.list fun _ _ _ => fault .nestedTooDeep)) manner budget

def Visibility.name : Visibility → String
  | .hidden => "private"
  | .crate => "crate"
  | .exported => "public"

def named (name : α → String) (variants : List α) : List (String × α) := variants.map fun v => (name v,v)

def Visibility.read : Reader Visibility := .oneOf (named name [.hidden,.crate,.exported])

def AccessKind.name : AccessKind → String
  | .get => "get"
  | .set => "set"
  | .init => "init"

def AccessKind.read : Reader AccessKind := .oneOf (named name [.get,.set,.init])

def Access.json (a : Access) : Value := .object [("kind",a.kind.name),("visibility",a.visibility.name)]

def Access.read : Reader Access :=
  .record "struct Accessor" default
    [.required "kind" AccessKind.read fun v a => { a with kind := v },
     .optional "visibility" Visibility.read fun v a => { a with visibility := v }]

def Renaming.json : Renaming → Value
  | .literal segment => .object [("literal",segment)]
  | .noPath => "no_path"
  | .expr source => .object [("expr",source)]

def Renaming.names : List String := ["literal","no_path","expr"]

def Renaming.read : Reader Renaming :=
  .variant
    (fun name => match name with
      | "no_path" => .ok .noPath
      | "literal" | "expr" => .error (.wrongType .unitVariant "newtype variant")
      | _ => .error (.unknownVariant name names))
    (fun name manner budget payload => match name with
      | "literal" => (Reader.string manner budget payload).map .literal
      | "no_path" => (Reader.unit manner budget payload).map fun _ => .noPath
      | "expr" => (Reader.string manner budget payload).map .expr
      | _ => .error (.unknownVariant name names))

def Receiver.name : Receiver → String
  | .absent => "none"
  | .shared => "ref"
  | .mutable => "ref_mut"
  | .owned => "value"

def Receiver.read : Reader Receiver := .oneOf (named name [.absent,.shared,.mutable,.owned])

def Parameter.json (p : Parameter) : Value := .object [("name",p.name),("ty",p.type.json)]

def Parameter.read : Reader Parameter :=
  .record "struct Param" default
    [.required "name" .string fun v p => { p with name := v },
     .required "ty" TypeExpr.read fun v p => { p with type := v }]

def FieldDecl.json (f : FieldDecl) : Value :=
  given [entry "name" f.name,entry "ty" f.type.json,entryOf "rename" (f.errorName.map Renaming.json),
    entry "accessors" (.array (f.accesses.map Access.json))]

def FieldDecl.read : Reader FieldDecl :=
  .record "struct FieldDecl" default
    [.required "name" .string fun v f => { f with name := v },
     .required "ty" TypeExpr.read fun v f => { f with type := v },
     .optional "rename" (.nullable Renaming.read) fun v f => { f with errorName := v },
     .optional "accessors" (.list Access.read) fun v f => { f with accesses := v }]

def MethodDecl.json (m : MethodDecl) : Value :=
  given [entry "name" m.name,entry "validation" m.marked,entry "receiver" m.receiver.name,
    entry "params" (.array (m.params.map Parameter.json)),entryOf "returns" (m.returns.map TypeExpr.json)]

def MethodDecl.read : Reader MethodDecl :=
  .record "struct MethodDecl" default
    [.required "name" .string fun v m => { m with name := v },
     .optional "validation" .bool fun v m => { m with marked := v },
     .optional "receiver" Receiver.read fun v m => { m with receiver := v },
     .optional "params" (.list Parameter.read) fun v m => { m with params := v },
     .optional "returns" (.nullable TypeExpr.read) fun v m => { m with returns := v }]

def Member.json : Member → Value
  | .field f => .object [("field",f.json)]
  | .method m => .object [("method",m.json)]

def Member.names : List String := ["field","method"]

def Member.read : Reader Member :=
  .variant
    (fun name =>
      if name ∈ names then .error (.wrongType .unitVariant "newtype variant")
      else .error (.unknownVariant name names))
    (fun name manner budget payload => match name with
      | "field" => (FieldDecl.read manner budget payload).map .field
      | "method" => (MethodDecl.read manner budget payload).map .method
      | _ => .error (.unknownVariant name names))

def Declaration.json (d : Declaration) : Value :=
  given [entry "name" d.name,entryOf "module" (d.modulePath.map .string),entryOf "path" (d.path.map .string),
    entryIf (!d.generics.isEmpty) "generics" (.strings d.generics),entry "visibility" d.visibility.name,
    entry "domain" d.marked,entry "extensible" d.extensible,entryOf "parent" (d.parent.map .string),
    entryIf (!d.implements.isEmpty) "implements" (.strings d.implements),
    entry "members" (.array (d.members.map Member.json))]

def Declaration.read : Reader Declaration :=
  .record "struct TypeDecl" { name := "" }
    [.required "name" .string fun v d => { d with name := v },
     .optional "module" (.nullable .string) fun v d => { d with modulePath := v },
     .optional "path" (.nullable .string) fun v d => { d with path := v },
     .optional "generics" strings fun v d => { d with generics := v },
     .optional "visibility" Visibility.read fun v d => { d with visibility := v },
     .optional "domain" .bool fun v d => { d with marked := v },
     .optional "extensible" .bool fun v d => { d with extensible := v },
     .optional "parent" (.nullable .string) fun v d => { d with parent := v },
     .optional "implements" strings fun v d => { d with implements := v },
     .optional "members" (.list Member.read) fun v d => { d with members := v }]

def Declarations.json (g : Declarations) : Value := .object [("types",.array (g.types.map Declaration.json))]

def Declarations.read : Reader Declarations :=
  .record "struct DeclarationGraph" {} [.optional "types" (.list Declaration.read) fun v _ => { types := v }]

def Declarations.ofText (text : String) : Except ReadError Declarations := read.ofText text

end DomainSchema
