import DomainSchema.Diagnostic.Json
import DomainSchema.Proofs.JsonReading
import DomainSchema.Schema.Json

namespace DomainSchema
open Json

theorem TypeExpr.jsonArgs_map (args : List TypeExpr) : jsonArgs args = args.map json := by
  induction args with
  | nil => rfl
  | cons arg args ih => rw [jsonArgs,List.map_cons,ih]

theorem TypeExpr.json_given (t : TypeExpr) :
    t.json = given [entry "path" t.path,entryIf (!t.args.isEmpty) "args" (.array (t.args.map json))] := by
  obtain ⟨path,args⟩ := t
  rw [json,jsonArgs_map]
  cases args <;> rfl

theorem TypeExpr.args_smaller {arg : TypeExpr} {path : String} {args : List TypeExpr} (member : arg ∈ args) :
    sizeOf arg < sizeOf (TypeExpr.mk path args) := by
  have smaller := List.sizeOf_lt_of_mem member
  simp only [mk.sizeOf_spec]
  omega

theorem TypeExpr.record_reads (budget : Nat) (path : String) {args : List TypeExpr} {read : Reader TypeExpr}
    (each : ∀ inner, budget = inner + 2 → ∀ arg ∈ args, Reads inner read arg.json arg) :
    Reads budget (.record "struct TypeRef" default (fields (.list read))) (TypeExpr.mk path args).json ⟨path,args⟩ := by
  rw [json_given]
  refine .record (show ["path","args"].Nodup by decide) fun inner within => .given (.string _) (.unlessEmpty (.list ?_) rfl .done)
  intro below deeper arg member
  exact each below (by omega) arg member

-- By induction on the type, whose reader recurses on what may be entered, two levels at a time. Below two levels no
-- argument is reached.
theorem TypeExpr.reads (t : TypeExpr) (budget : Nat) : Reads budget TypeExpr.read t.json t := by
  obtain ⟨path,args⟩ := t
  have unreached {budget : Nat} (low : budget < 2) (inner : Nat) (deeper : budget = inner + 2) (arg : TypeExpr)
      (member : arg ∈ args) : Reads inner (fun _ _ _ => fault .nestedTooDeep) arg.json arg := by omega
  match budget with
  | 0 =>
    have reads := record_reads 0 path (unreached (by decide))
    exact ⟨reads.worded,reads.answer⟩
  | 1 =>
    have reads := record_reads 1 path (unreached (by decide))
    exact ⟨reads.worded,reads.answer⟩
  | budget + 2 =>
    have below (inner : Nat) (deeper : budget + 2 = inner + 2) (arg : TypeExpr) (member : arg ∈ args) :
        Reads inner (fun _ _ => TypeExpr.read .text budget) arg.json arg := by
      obtain rfl : budget = inner := by omega
      have reads := arg.reads budget
      exact ⟨reads.worded,reads.answer⟩
    have reads := record_reads (budget + 2) path below
    exact ⟨reads.worded,reads.answer⟩
termination_by sizeOf t
decreasing_by exact args_smaller ‹_›

section
variable {budget : Nat}

theorem Visibility.reads (v : Visibility) : Reads budget Visibility.read v.name v :=
  .named (by decide) (by cases v <;> decide)

theorem AccessKind.reads (k : AccessKind) : Reads budget AccessKind.read k.name k :=
  .named (by decide) (by cases k <;> decide)

theorem Receiver.reads (r : Receiver) : Reads budget Receiver.read r.name r :=
  .named (by decide) (by cases r <;> decide)

theorem Nesting.reads (n : Nesting) : Reads budget Nesting.read n.name n :=
  .named (by decide) (by cases n <;> decide)

theorem Mutability.reads (m : Mutability) : Reads budget Mutability.read m.name m :=
  .named (by decide) (by cases m <;> decide)

theorem ReturnShape.reads (r : ReturnShape) : Reads budget ReturnShape.read r.name r :=
  .named (by decide) (by cases r <;> decide)

theorem DiagnosticCode.reads (c : DiagnosticCode) : Reads budget DiagnosticCode.read c.name c :=
  .named (by decide) (by cases c <;> decide)

theorem Access.reads (a : Access) : Reads budget Access.read a.json a :=
  .record (by decide) fun _ _ => .given a.kind.reads (.given a.visibility.reads .done)

theorem Renaming.reads (r : Renaming) : Reads budget Renaming.read r.json r := by
  cases r with
  | literal segment => exact .payload fun _ _ => (Reads.string segment).map
  | noPath => exact .bare rfl
  | expr source => exact .payload fun _ _ => (Reads.string source).map

theorem Parameter.reads (p : Parameter) : Reads budget Parameter.read p.json p :=
  .record (by decide) fun inner _ => .given (.string p.name) (.given (p.type.reads inner) .done)

theorem FieldDecl.reads (f : FieldDecl) : Reads budget FieldDecl.read f.json f :=
  .record (by decide) fun inner _ => .given (.string f.name) <| .given (f.type.reads inner) <|
    .ifPresent (fun r _ => ⟨by cases r <;> nofun,r.reads⟩) rfl <| .given (.list fun _ _ a _ => a.reads) .done

theorem MethodDecl.reads (m : MethodDecl) : Reads budget MethodDecl.read m.json m :=
  .record (by decide) fun inner _ => .given (.string m.name) <| .given (.bool m.marked) <| .given m.receiver.reads <|
    .given (.list fun _ _ p _ => p.reads) <| .ifPresent (fun t _ => ⟨by rw [t.json_given]; nofun,t.reads inner⟩) rfl .done

theorem Member.reads (m : Member) : Reads budget Member.read m.json m := by
  cases m with
  | field f => exact .payload fun _ _ => f.reads.map
  | method m => exact .payload fun _ _ => m.reads.map

theorem Declaration.reads (d : Declaration) : Reads budget Declaration.read d.json d :=
  .record (by decide) fun _ _ =>
    .given (.string d.name) <|
    .ifPresent (fun m _ => ⟨nofun,.string m⟩) rfl <|
    .ifPresent (fun p _ => ⟨nofun,.string p⟩) rfl <|
    .unlessEmpty (.strings d.generics) rfl <|
    .given d.visibility.reads <|
    .given (.bool d.marked) <|
    .given (.bool d.extensible) <|
    .ifPresent (fun p _ => ⟨nofun,.string p⟩) rfl <|
    .unlessEmpty (.strings d.implements) rfl <|
    .given (.list fun _ _ m _ => m.reads) .done

theorem Declarations.reads (g : Declarations) : Reads budget Declarations.read g.json g :=
  .record (by decide) fun _ _ => .given (.list fun _ _ d _ => d.reads) .done

theorem Field.reads (f : Field) : Reads budget Field.read f.json f :=
  .record (by decide) fun inner _ =>
    .given (.string f.name) <|
    .given (f.type.reads inner) <|
    .given f.nesting.reads <|
    .given (.option f.errorPath) <|
    .given f.mutability.reads .done

theorem Rule.reads (r : Rule) : Reads budget Rule.read r.json r :=
  .record (by decide) fun _ _ =>
    .given (.string r.name) <| .given (.list fun _ _ p _ => p.reads) <| .given r.returns.reads .done

theorem Schema.reads (s : Schema) : Reads budget Schema.read s.json s :=
  .record (by decide) fun _ _ =>
    .given (.string s.name) <|
    .given (.string s.ident) <|
    .given (.option s.modulePath) <|
    .given (.strings s.generics) <|
    .given s.visibility.reads <|
    .given (.list fun _ _ f _ => f.reads) <|
    .given (.list fun _ _ r _ => r.reads) .done

theorem Diagnostic.reads (d : Diagnostic) : Reads budget Diagnostic.read d.json d :=
  .record (by decide) fun _ _ =>
    .given (.string d.schema) <|
    .ifPresent (fun m _ => ⟨nofun,.string m⟩) rfl <|
    .given d.code.reads <|
    .given (.string d.message) <|
    .unlessEmpty (.strings d.context) rfl .done

theorem Diagnostics.reads (ds : Diagnostics) : Reads budget Diagnostics.read ds.json ds :=
  .record (by decide) fun _ _ => .given (.list fun _ _ d _ => d.reads) .done

end

theorem Json.Reads.texts {read : Reader α} {v : Value} {a : α} (reads : ∀ budget, Reads budget read v a) :
    read.ofText v.compact = within v.depth depthLimit a ∧ read.ofText v.pretty = within v.depth depthLimit a := by
  rw [v.compact_laid,v.pretty_laid]
  exact ⟨ofText reads .compact,ofText reads .pretty⟩

theorem Declarations.texts (g : Declarations) :
    ofText g.json.compact = within g.json.depth depthLimit g ∧ ofText g.json.pretty = within g.json.depth depthLimit g :=
  Json.Reads.texts fun _ => g.reads

theorem Schema.texts (s : Schema) :
    read.ofText s.json.compact = within s.json.depth depthLimit s ∧ read.ofText s.json.pretty = within s.json.depth depthLimit s :=
  Json.Reads.texts fun _ => s.reads

theorem Diagnostics.texts (ds : Diagnostics) :
    read.ofText ds.json.compact = within ds.json.depth depthLimit ds ∧
      read.ofText ds.json.pretty = within ds.json.depth depthLimit ds :=
  Json.Reads.texts fun _ => ds.reads

-- Declarations, schemas and diagnostics are read from their texts, with or without space between the parts, as they were
-- written, where a text has at most 127 arrays and objects inside each other.
theorem read_back :
    (∀ g : Declarations, g.json.depth ≤ 127 →
      Declarations.ofText g.json.compact = .ok g ∧ Declarations.ofText g.json.pretty = .ok g) ∧
    (∀ s : Schema, s.json.depth ≤ 127 →
      Schema.read.ofText s.json.compact = .ok s ∧ Schema.read.ofText s.json.pretty = .ok s) ∧
    ∀ ds : Diagnostics, ds.json.depth ≤ 127 →
      Diagnostics.read.ofText ds.json.compact = .ok ds ∧ Diagnostics.read.ofText ds.json.pretty = .ok ds := by
  refine ⟨fun g shallow => ?_,fun s shallow => ?_,fun ds shallow => ?_⟩
  · exact ⟨g.texts.1.trans (within_ok shallow g),g.texts.2.trans (within_ok shallow g)⟩
  · exact ⟨s.texts.1.trans (within_ok shallow s),s.texts.2.trans (within_ok shallow s)⟩
  · exact ⟨ds.texts.1.trans (within_ok shallow ds),ds.texts.2.trans (within_ok shallow ds)⟩

-- Lists inside each other in a field of a declaration whose name needs every kind of escape, that is not extensible and
-- whose field has no name in error paths.

def nestedLists : Nat → TypeExpr
  | 0 => ⟨"T",[]⟩
  | levels + 1 => ⟨"Vec",[nestedLists levels]⟩

def nestedDeclarations (levels : Nat) : Declarations :=
  ⟨[{ name := "q\"\\\n\x01é", extensible := false,
      members := [.field { name := "f", type := nestedLists levels, errorName := some .noPath }] }]⟩

def listSchema : Schema :=
  ⟨"crate::Pair","Pair",none,["T"],.exported,[⟨"left",nestedLists 1,.list,some "left",.settable⟩],[]⟩

def parameterDiagnostics : Diagnostics :=
  ⟨[{ schema := "crate::Pair", member := some "check(x)", code := .memberNotFound, message := "no \"x\"" }]⟩

theorem nested_read_back :
    (nestedDeclarations 60).json.depth = 127 ∧
    Declarations.ofText (nestedDeclarations 60).json.compact = .ok (nestedDeclarations 60) ∧
    Declarations.ofText (nestedDeclarations 60).json.pretty = .ok (nestedDeclarations 60) ∧
    Schema.read.ofText listSchema.json.compact = .ok listSchema ∧
    Schema.read.ofText listSchema.json.pretty = .ok listSchema ∧
    Diagnostics.read.ofText parameterDiagnostics.json.compact = .ok parameterDiagnostics ∧
    Diagnostics.read.ofText parameterDiagnostics.json.pretty = .ok parameterDiagnostics := by
  have depth : (nestedDeclarations 60).json.depth = 127 := by decide +kernel
  obtain ⟨compact,pretty⟩ := read_back.1 (nestedDeclarations 60) (by omega)
  obtain ⟨schemaCompact,schemaPretty⟩ := read_back.2.1 listSchema (by decide)
  obtain ⟨itemsCompact,itemsPretty⟩ := read_back.2.2 parameterDiagnostics (by decide)
  exact ⟨depth,compact,pretty,schemaCompact,schemaPretty,itemsCompact,itemsPretty⟩

example : Declarations.ofText (nestedDeclarations 61).json.compact = fault .nestedTooDeep :=
  (nestedDeclarations 61).texts.1.trans (within_fault (by decide +kernel) _)

end DomainSchema
