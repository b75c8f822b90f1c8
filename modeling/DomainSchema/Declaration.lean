import DomainSchema.Text

namespace DomainSchema

structure TypeExpr where
  path : String
  args : List TypeExpr := []
deriving Repr, Inhabited

mutual

def TypeExpr.decEq : (s t : TypeExpr) → Decidable (s = t)
  | ⟨p,as⟩, ⟨q,bs⟩ =>
    if samePath : p = q then
      match TypeExpr.decEqArgs as bs with
      | .isTrue sameArgs => .isTrue (by rw [samePath,sameArgs])
      | .isFalse differ => .isFalse (by intro e; cases e; exact differ rfl)
    else .isFalse (by intro e; cases e; exact samePath rfl)

def TypeExpr.decEqArgs : (as bs : List TypeExpr) → Decidable (as = bs)
  | [], [] => .isTrue rfl
  | [], _ :: _ => .isFalse nofun
  | _ :: _, [] => .isFalse nofun
  | a :: as, b :: bs =>
    match TypeExpr.decEq a b, TypeExpr.decEqArgs as bs with
    | .isTrue sameHead, .isTrue sameTail => .isTrue (by rw [sameHead,sameTail])
    | .isFalse differ, _ => .isFalse (by intro e; cases e; exact differ rfl)
    | _, .isFalse differ => .isFalse (by intro e; cases e; exact differ rfl)

end

instance : DecidableEq TypeExpr := TypeExpr.decEq

mutual

def TypeExpr.text : TypeExpr → String
  | ⟨path,args⟩ => if args.isEmpty then path else path ++ "<" ++ TypeExpr.argsText args ++ ">"
termination_by structural t => t

def TypeExpr.argsText : List TypeExpr → String
  | [] => ""
  | arg :: args => if args.isEmpty then arg.text else arg.text ++ ", " ++ TypeExpr.argsText args
termination_by structural args => args

end

def TypeExpr.baseName (t : TypeExpr) : String := Text.lastSegment t.path

def TypeExpr.arity (t : TypeExpr) : Nat := t.args.length

def TypeExpr.soleArg? (t : TypeExpr) : Option TypeExpr :=
  match t.args with
  | [only] => some only
  | _ => none

inductive Visibility where
  | hidden | crate | exported
deriving DecidableEq, Repr, Inhabited

def Visibility.keyword : Visibility → String
  | .hidden => ""
  | .crate => "pub(crate) "
  | .exported => "pub "

inductive AccessKind where
  | get | set | init
deriving DecidableEq, Repr, Inhabited

structure Access where
  kind : AccessKind
  visibility : Visibility := .hidden
deriving DecidableEq, Repr, Inhabited

inductive Renaming where
  | literal (segment : String)
  | noPath
  | expr (source : String)
deriving DecidableEq, Repr, Inhabited

inductive Receiver where
  | absent | shared | mutable | owned
deriving DecidableEq, Repr, Inhabited

structure Parameter where
  name : String
  type : TypeExpr
deriving DecidableEq, Repr, Inhabited

structure FieldDecl where
  name : String
  type : TypeExpr
  errorName : Option Renaming := none
  accesses : List Access := []
deriving DecidableEq, Repr, Inhabited

structure MethodDecl where
  name : String
  marked : Bool := false
  receiver : Receiver := .absent
  params : List Parameter := []
  returns : Option TypeExpr := none
deriving DecidableEq, Repr, Inhabited

inductive Member where
  | field (f : FieldDecl)
  | method (m : MethodDecl)
deriving DecidableEq, Repr, Inhabited

structure Declaration where
  name : String
  -- The module below the crate root; no module is the root itself.
  modulePath : Option String := none
  -- The whole path of a declaration that lives elsewhere.
  path : Option String := none
  generics : List String := []
  visibility : Visibility := .hidden
  marked : Bool := false
  extensible : Bool := true
  parent : Option String := none
  implements : List String := []
  members : List Member := []
deriving DecidableEq, Repr, Inhabited

def withGenerics (name : String) (generics : List String) : String :=
  if generics.isEmpty then name else name ++ "<" ++ Text.join ", " generics ++ ">"

namespace Declaration

def qualifiedName (d : Declaration) : String :=
  match d.path, d.modulePath with
  | some path, _ => path
  | none, some m => if m.isEmpty then "crate::" ++ d.name else "crate::" ++ m ++ "::" ++ d.name
  | none, none => "crate::" ++ d.name

def displayName (d : Declaration) : String := withGenerics d.name d.generics

def fields (d : Declaration) : List FieldDecl :=
  d.members.filterMap fun | .field f => some f | .method _ => none

def methods (d : Declaration) : List MethodDecl :=
  d.members.filterMap fun | .method m => some m | .field _ => none

-- A capability is named in full or by the last segment of a path.
def hasCapability (d : Declaration) (capability : String) : Bool :=
  d.implements.any fun path => path == capability || Text.lastSegment path == capability

end Declaration

structure Declarations where
  types : List Declaration := []
deriving DecidableEq, Repr, Inhabited

def Declarations.marked (g : Declarations) : List Declaration := g.types.filter (·.marked)

end DomainSchema
