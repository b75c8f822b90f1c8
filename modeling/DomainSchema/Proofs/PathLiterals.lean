import DomainSchema.Proofs.Literals
import DomainSchema.Proofs.SchemaText

namespace DomainSchema

section
variable (rename : String → String)

def Field.repathed (f : Field) : Field := { f with errorPath := f.errorPath.map rename }

def Schema.repathed (s : Schema) : Schema := { s with fields := s.fields.map (Field.repathed rename) }

def BoundSchema.repathed (b : BoundSchema) : BoundSchema := { b with schema := b.schema.repathed rename }

namespace Emission

def Aggregation.repathed (call : Aggregation) : Aggregation := { call with path := call.path.map rename }

def Statement.repathed : Statement → Statement
  | .aggregate call => .aggregate (call.repathed rename)
  | .unwrap call => .unwrap (call.repathed rename)
  | .check path rule args => .check (path.map rename) rule args
  | other => other

def Routine.repathed (r : Routine) : Routine := { r with body := r.body.map (Statement.repathed rename) }

theorem filter_repathed (keeps : Field → Bool) (blind : ∀ f, keeps (Field.repathed rename f) = keeps f)
    (fields : List Field) :
    (fields.map (Field.repathed rename)).filter keeps = (fields.filter keeps).map (Field.repathed rename) := by
  rw [List.filter_map]
  congr 1
  exact List.filter_congr fun f _ => blind f

theorem messagePath_repathed (s : Schema) (r : Rule) :
    (s.repathed rename).messagePath r = (s.messagePath r).map rename := by
  unfold Schema.messagePath Schema.field? Schema.repathed
  cases r.firstParam? with
  | none => rfl
  | some param =>
    have blind : (fun f : Field => f.name == param.name) ∘ Field.repathed rename = fun f => f.name == param.name := rfl
    simp only [Option.bind_eq_bind,Option.bind_some,List.find?_map,blind]
    cases s.fields.find? fun f => f.name == param.name <;> rfl

theorem checkOf_repathed (s : Schema) (r : Rule) (argument : String → Argument) :
    checkOf (s.repathed rename) r argument = (checkOf s r argument).repathed rename := by
  rw [checkOf,messagePath_repathed]
  rfl

theorem constructor_repathed (s : Schema) : constructor (s.repathed rename) = (constructor s).repathed rename := by
  have parameters : (s.repathed rename).parameters = s.parameters.map (Field.repathed rename) :=
    filter_repathed rename _ (fun _ => rfl) s.fields
  have nested := filter_repathed rename Field.isNested (fun _ => rfl) s.parameters
  have fixed := filter_repathed rename (fun f => !f.isParameter) (fun _ => rfl) s.fields
  have rules : (s.repathed rename).rules = s.rules := rfl
  have fields : (s.repathed rename).fields = s.fields.map (Field.repathed rename) := rfl
  unfold constructor Routine.repathed
  simp only [parameters,nested,rules,fields,fixed,List.isEmpty_map,List.map_map,List.map_append,
    apply_ite (List.map (Statement.repathed rename)),List.map_cons,List.map_nil]
  simp only [Statement.repathed,Function.comp_def,checkOf_repathed]
  rfl

theorem setter_repathed (b : BoundSchema) (f : Field) :
    setter (b.repathed rename) (f.repathed rename) = (setter b f).repathed rename := by
  have name : (f.repathed rename).name = f.name := rfl
  have nested : (f.repathed rename).isNested = f.isNested := rfl
  have rules : (b.repathed rename).rulesFor f.name = b.rulesFor f.name := rfl
  have schema : (b.repathed rename).schema = b.schema.repathed rename := rfl
  unfold setter Routine.repathed
  simp only [name,nested,rules,schema,List.map_map,List.map_append,apply_ite (List.map (Statement.repathed rename)),
    List.map_cons,List.map_nil]
  simp only [Statement.repathed,Function.comp_def,checkOf_repathed]
  rfl

theorem settableFields_repathed (s : Schema) :
    (s.repathed rename).settableFields = s.settableFields.map (Field.repathed rename) :=
  filter_repathed rename _ (fun _ => rfl) s.fields

theorem routines_repathed (b : BoundSchema) :
    routines (b.repathed rename) = (routines b).map (Routine.repathed rename) := by
  have schema : (b.repathed rename).schema = b.schema.repathed rename := rfl
  rw [routines,routines,schema,settableFields_repathed,List.map_map,List.map_cons,List.map_map]
  congr 1
  · exact constructor_repathed rename b.schema
  · exact List.map_congr_left fun f _ => setter_repathed rename b f

end Emission

end

namespace Emission

inductive Piece where
  | code (line : String)
  | quoted (path : String)
deriving DecidableEq, Repr

def Piece.text (rename : String → String) : Piece → String
  | .code line => line
  | .quoted path => Text.literal (rename path)

def render (rename : String → String) (pieces : List Piece) : String :=
  pieces.foldr (fun piece rest => piece.text rename ++ rest) ""

-- The paths have their places in the text and are nowhere else: whatever they are renamed to, the code between the literals
-- stays as it is.
def Framed (text : (String → String) → String) : Prop := ∃ pieces, ∀ rename, text rename = render rename pieces

def FramedLines (lines : (String → String) → List String) : Prop :=
  ∃ pieces : List (List Piece), ∀ rename, lines rename = pieces.map (render rename)

theorem render_append (rename : String → String) (earlier later : List Piece) :
    render rename (earlier ++ later) = render rename earlier ++ render rename later := by
  induction earlier with
  | nil => simp [render]
  | cons piece rest ih =>
    have step : ∀ pieces, render rename (piece :: pieces) = piece.text rename ++ render rename pieces := fun _ => rfl
    rw [List.cons_append,step,step,ih,String.append_assoc]

theorem Framed.code (text : String) : Framed fun _ => text := ⟨[.code text],fun _ => by simp [render,Piece.text]⟩

theorem Framed.append {earlier later : (String → String) → String} (framed : Framed earlier) (framed' : Framed later) :
    Framed fun rename => earlier rename ++ later rename := by
  obtain ⟨pieces,drawn⟩ := framed
  obtain ⟨pieces',drawn'⟩ := framed'
  exact ⟨pieces ++ pieces',fun rename => by rw [render_append,← drawn,← drawn']⟩

theorem Framed.quoted (path : Option String) : Framed fun rename => pathLiteral (path.map rename) := by
  cases path with
  | none => exact .code _
  | some path =>
    have literal : Framed fun rename => Text.literal (rename path) := ⟨[.quoted path],fun _ => by simp [render,Piece.text]⟩
    exact ((Framed.code _).append literal).append (.code _)

theorem FramedLines.code (lines : List String) : FramedLines fun _ => lines :=
  ⟨lines.map fun line => [.code line],fun _ => by simp [Function.comp_def,render,Piece.text]⟩

theorem FramedLines.cons {line : (String → String) → String} {lines : (String → String) → List String}
    (framed : Framed line) (framed' : FramedLines lines) : FramedLines fun rename => line rename :: lines rename := by
  obtain ⟨pieces,drawn⟩ := framed
  obtain ⟨pieces',drawn'⟩ := framed'
  exact ⟨pieces :: pieces',fun rename => by simp only [drawn,drawn',List.map_cons]⟩

theorem FramedLines.append {earlier later : (String → String) → List String} (framed : FramedLines earlier)
    (framed' : FramedLines later) : FramedLines fun rename => earlier rename ++ later rename := by
  obtain ⟨pieces,drawn⟩ := framed
  obtain ⟨pieces',drawn'⟩ := framed'
  exact ⟨pieces ++ pieces',fun rename => by simp only [drawn,drawn',List.map_append]⟩

theorem FramedLines.indented {lines : (String → String) → List String} (framed : FramedLines lines) :
    FramedLines fun rename => (lines rename).map indent := by
  obtain ⟨pieces,drawn⟩ := framed
  refine ⟨pieces.map (.code "    " :: ·),fun rename => ?_⟩
  simp only [drawn,List.map_map]
  rfl

theorem FramedLines.joined {lines : (String → String) → List String} (framed : FramedLines lines) :
    Framed fun rename => unlines (lines rename) := by
  obtain ⟨pieces,drawn⟩ := framed
  suffices Framed fun rename => unlines (pieces.map (render rename)) by
    obtain ⟨joined,text⟩ := this
    exact ⟨joined,fun rename => by simpa only [drawn] using text rename⟩
  clear drawn
  induction pieces with
  | nil => exact .code _
  | cons first rest ih =>
    have line : Framed fun rename => render rename first := ⟨first,fun _ => rfl⟩
    exact (line.append (.code "\n")).append ih

section
variable (v : Vocabulary)

theorem aggregation_framed (call : Aggregation) : Framed fun rename => (call.repathed rename).text v := by
  have opening := Framed.code ((if call.many then v.nestedList else v.nested) ++ "(&mut " ++ errorsLocal ++ ", ")
  exact (((opening.append (.quoted call.path)).append (.code ", ")).append (.code (ident call.field))).append (.code ")")

theorem statement_framed (kind : RoutineKind) (statement : Statement) :
    FramedLines fun rename => (statement.repathed rename).lines v kind := by
  cases statement with
  | aggregate call =>
    have opening := Framed.code ("let " ++ ident call.field ++ " = ")
    exact .cons ((opening.append (aggregation_framed v call)).append (.code ";")) (.code [])
  | unwrap call =>
    have opening := Framed.code ("let " ++ someOf (ident call.field) ++ " = ")
    exact .cons ((opening.append (aggregation_framed v call)).append (.code " else \x7b")) (.code _)
  | check path rule args =>
    have opening := Framed.code (v.check ++ "(&mut " ++ errorsLocal ++ ", ")
    have rest := ((opening.append (.quoted path)).append (.code ", Self::")).append (.code (ident rule))
    exact .cons (((rest.append (.code "(")).append (.code (Text.join ", " (args.map Argument.text)))).append (.code "));"))
      (.code [])
  | construct names => exact .code (Statement.lines v kind (.construct names))
  | accumulator | unwrapAll | initial | stopOnErrors | store | accept => exact .code _

theorem body_framed (kind : RoutineKind) (body : List Statement) :
    FramedLines fun rename => (body.map (Statement.repathed rename)).flatMap (Statement.lines v kind) := by
  induction body with
  | nil => exact .code []
  | cons first rest ih => exact (statement_framed v kind first).append ih

theorem routine_framed (naming : Naming) (r : Routine) :
    Framed fun rename => routineText v naming (r.repathed rename) :=
  (((FramedLines.code (r.head v naming)).append (body_framed v r.kind r.body).indented).append (.code _)).indented.joined

end

theorem setters_framed (b : BoundSchema) (settings : Settings) (fields : List Field) :
    Framed fun rename => settersText (b.repathed rename) settings (fields.map (Field.repathed rename)) := by
  induction fields with
  | nil => exact .code ""
  | cons f rest ih =>
    have setter := routine_framed (.ofLibrary settings.library) settings.naming (setter b f)
    simp only [← setter_repathed] at setter
    exact ((Framed.code "\n").append setter).append ih

theorem openingText_repathed (rename : String → String) (s : Schema) (settings : Settings) :
    openingText (s.repathed rename) settings = openingText s settings := rfl

theorem schemaText_framed (b : BoundSchema) (settings : Settings) :
    Framed fun rename => schemaText (b.repathed rename) settings := by
  have opening := Framed.code (openingText b.schema settings)
  have constructor := routine_framed (.ofLibrary settings.library) settings.naming (constructor b.schema)
  have setters := setters_framed b settings b.schema.settableFields
  have schema (rename : String → String) : (b.repathed rename).schema = b.schema.repathed rename := rfl
  simp only [← constructor_repathed] at constructor
  simp only [schemaText_parts,schema,settableFields_repathed,openingText_repathed,constructorText]
  exact ((opening.append constructor).append setters).append (.code "\x7d\n")

def pathText (hidden : Char → Bool) : Option String → String
  | some path => "::core::option::Option::Some(" ++ String.ofList (Text.literalChars hidden path.toList) ++ ")"
  | none => "::core::option::Option::None"

theorem pathText_some (hidden : Char → Bool) (path : String) : (pathText hidden (some path)).toList =
    "::core::option::Option::Some(".toList ++ '"' :: (path.toList.flatMap (Text.literalChar hidden) ++ '"' :: [')']) := by
  have last : ")".toList = [')'] := by simp
  unfold pathText Text.literalChars
  simp only [String.toList_append,String.toList_ofList,last,List.append_assoc,List.cons_append,List.nil_append]

theorem pathText_injective (hidden : Char → Bool) : Function.Injective (pathText hidden) := by
  have apart (path : String) : pathText hidden none ≠ pathText hidden (some path) := by
    intro same
    have start : "::core::option::Option::Some(".toList <+: "::core::option::Option::None".toList :=
      ⟨_,((congrArg String.toList same).trans (pathText_some hidden path)).symm⟩
    exact absurd start (by decide +kernel)
  intro path path' same
  cases path with
  | none =>
    cases path' with
    | none => rfl
    | some path' => exact absurd same (apart path')
  | some path =>
    cases path' with
    | none => exact absurd same.symm (apart path)
    | some path' =>
      have texts := congrArg String.toList same
      rw [pathText_some,pathText_some,List.append_right_inj,List.cons_inj_right] at texts
      have read := Text.readLiteral_literal hidden path.toList [')']
      rw [texts,Text.readLiteral_literal,Option.some_inj,Prod.mk.injEq] at read
      exact congrArg some (String.toList_injective read.1.symm)

-- An error path survives its quoting, whichever characters are hidden: it stands in one literal, which is read back as the path
-- whatever follows it. So generated code has the same statements under all error paths, and only the literals differ in its text.
theorem error_path_quoted :
    (∀ hidden, Function.Injective (pathText hidden) ∧ ∀ path, ∃ body : List Char,
      pathText hidden (some path) = "::core::option::Option::Some(" ++ String.ofList ('"' :: (body ++ ['"'])) ++ ")" ∧
      Text.Enclosed body ∧ ∀ rest, Text.readLiteral none (body ++ '"' :: rest) = some (path.toList,rest)) ∧
    pathLiteral = pathText Text.isHidden ∧
    (∀ path, ∀ c ∈ (Text.literal path).toList, Text.isHidden c = false) ∧
    ∀ b settings, (∀ rename, routines (b.repathed rename) = (routines b).map (Routine.repathed rename)) ∧
      Framed fun rename => schemaText (b.repathed rename) settings := by
  refine ⟨fun hidden => ⟨pathText_injective hidden,fun path => ?_⟩,?_,fun path c member => ?_,fun b settings => ?_⟩
  · exact ⟨_,rfl,Text.literal_enclosed hidden path.toList,Text.readLiteral_literal hidden path.toList⟩
  · funext path
    cases path <;> rfl
  · rw [Text.literal,String.toList_ofList] at member
    exact Text.literal_shown path.toList c member
  · exact ⟨fun rename => routines_repathed rename b,schemaText_framed b settings⟩

end Emission

end DomainSchema
