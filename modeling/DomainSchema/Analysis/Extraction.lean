import DomainSchema.Analysis.TypeIndex
import DomainSchema.Diagnostic
import DomainSchema.Schema

namespace DomainSchema

def nestingOf (type : TypeExpr) (index : TypeIndex) (settings : Settings) : Nesting :=
  if index.contains type then .single
  else if settings.recognition.isList type.path && type.soleArg?.any index.contains then .list
  else .none

def ReturnShape.ofType? (type : TypeExpr) : Option ReturnShape := do
  let inner ← if type.baseName == "Option" then type.soleArg? else some type
  if inner.baseName == "RuleOutcome" then return .outcome
  if inner.baseName != "Vec" then none
  let element ← inner.soleArg?
  if element.path == "&str" || element.path == "&'static str" then return .messages
  if element.baseName == "String" then return .messages
  if element.baseName == "DomainError" then return .errors
  none

def ReturnShape.of? (type : Option TypeExpr) : Option ReturnShape := type.bind ofType?

-- An expression cannot be evaluated here, so the field falls back to its own name.
def FieldDecl.errorPath (f : FieldDecl) : Option String :=
  match f.errorName with
  | some (.literal segment) => some segment
  | some .noPath => none
  | none | some (.expr _) => some f.name

def FieldDecl.writer? (f : FieldDecl) : Option Access :=
  f.accesses.find? fun a => a.kind == .set || a.kind == .init

def FieldDecl.mutability (f : FieldDecl) : Mutability :=
  match f.writer? with
  | none => .fixed
  | some a => if a.kind == .init then .once else .settable

def FieldDecl.diagnostics (f : FieldDecl) (schema : String) : List Diagnostic :=
  let unusable := match f.errorName with
    | some (.expr source) =>
      [{ schema, member := some f.name, code := .renameArgument
         message := "Argument must be a literal string or the no-path marker"
         context := ["found `" ++ source ++ "`; using field name"] }]
    | _ => []
  let exposed := match f.writer? with
    | some a =>
      if a.visibility == .hidden then []
      else
        let label := if a.kind == .init then "Init" else "Setter"
        [{ schema, member := some f.name, code := .nonPrivateMutator
           message := label ++ " should be private in domain objects" }]
    | none => []
  unusable ++ exposed

def FieldDecl.field (f : FieldDecl) (index : TypeIndex) (settings : Settings) : Field where
  name := f.name
  type := f.type
  nesting := nestingOf f.type index settings
  errorPath := f.errorPath
  mutability := f.mutability

def MethodDecl.diagnostics (m : MethodDecl) (schema : String) : List Diagnostic :=
  let item (code : DiagnosticCode) (message : String) (context : List String) : Diagnostic :=
    { schema, member := some m.name, code, message, context }
  let impure :=
    if m.receiver == .absent then []
    else [item .impureRule "Validation rule must be an associated function without a self receiver" []]
  let shapeless :=
    if (ReturnShape.of? m.returns).isSome then []
    else [item .returnShape "Return type of a validation rule must be a sequence of DomainError or of messages"
      ["found `" ++ m.returns.elim "()" TypeExpr.text ++ "`"]]
  let bare :=
    if m.params.isEmpty then [item .parameterlessRule "Validation rule must receive at least one parameter" []]
    else []
  impure ++ shapeless ++ bare

def MethodDecl.rule? (m : MethodDecl) : Option Rule :=
  match ReturnShape.of? m.returns with
  | some returns => if m.receiver == .absent && !m.params.isEmpty then some ⟨m.name,m.params,returns⟩ else none
  | none => none

namespace Declaration

def rules (d : Declaration) : List MethodDecl := d.methods.filter (·.marked)

def diagnostics (d : Declaration) : Diagnostics :=
  let schema := d.qualifiedName
  let sealed :=
    if d.extensible then []
    else [{ schema, member := some d.name, code := .nonExtensible
            message := "Declaration must be extensible for generation" }]
  let nested := match d.parent with
    | some parent =>
      [{ schema, member := some d.name, code := .nestedDeclaration
         message := "Declaration cannot be nested for generation (inside " ++ parent ++ ")" }]
    | none => []
  ⟨sealed ++ nested ++ d.fields.flatMap (·.diagnostics schema) ++ d.rules.flatMap (·.diagnostics schema)⟩

def schema (d : Declaration) (index : TypeIndex) (settings : Settings) : Schema where
  name := d.qualifiedName
  ident := d.name
  modulePath := d.modulePath
  generics := d.generics
  visibility := d.visibility
  fields := d.fields.map (·.field index settings)
  rules := d.rules.filterMap MethodDecl.rule?

end Declaration

structure Found (α : Type) where
  result : Option α
  diagnostics : Diagnostics

def extract (d : Declaration) (index : TypeIndex) (settings : Settings) : Found Schema :=
  let diagnostics := d.diagnostics
  ⟨if diagnostics.blocks d.qualifiedName then none else some (d.schema index settings),diagnostics⟩

end DomainSchema
