import DomainSchema.Emission.Syntax

namespace DomainSchema.Emission

-- What is generated for a schema is the text of its routines, between an opening and a last bracket.

theorem unlines_append (earlier later : List String) : unlines (earlier ++ later) = unlines earlier ++ unlines later := by
  induction earlier with
  | nil => simp [unlines]
  | cons line rest ih =>
    have step : ∀ lines, unlines (line :: lines) = line ++ "\n" ++ unlines lines := fun _ => rfl
    rw [List.cons_append,step,step,ih,← String.append_assoc]

theorem indent_indent (line : String) : indent (indent line) = "        " ++ line := by
  have blanks : "    " ++ "    " = "        " := rfl
  rw [indent,indent,← String.append_assoc,blanks]

def innerText (lines : List String) : String := unlines ((lines.map indent).map indent)

theorem innerText_append (earlier later : List String) :
    innerText (earlier ++ later) = innerText earlier ++ innerText later := by
  simp only [innerText,List.map_append,unlines_append]

theorem innerText_cons (line : String) (rest : List String) : innerText (line :: rest) = inBody line ++ innerText rest := by
  have step : innerText (line :: rest) = indent (indent line) ++ "\n" ++ innerText rest := rfl
  rw [step,indent_indent,inBody]

theorem innerText_single (line : String) : innerText [line] = inBody line := by
  rw [innerText_cons]
  exact String.append_empty

theorem innerText_concat (lines : List String) : innerText lines = concat (lines.map inBody) := by
  induction lines with
  | nil => rfl
  | cons line rest ih =>
    rw [innerText_cons,ih]
    rfl

theorem innerText_three (first second third : String) :
    innerText [first,second,third] = inBody first ++ inBody second ++ inBody third := by
  rw [innerText_cons,innerText_cons,innerText_single,String.append_assoc]

def bodyText (v : Vocabulary) (kind : RoutineKind) (body : List Statement) : String :=
  innerText (body.flatMap (Statement.lines v kind))

section
variable (v : Vocabulary) (kind : RoutineKind)

theorem bodyText_append (earlier later : List Statement) :
    bodyText v kind (earlier ++ later) = bodyText v kind earlier ++ bodyText v kind later := by
  simp only [bodyText,List.flatMap_append,innerText_append]

theorem bodyText_single (statement : Statement) : bodyText v kind [statement] = innerText (statement.lines v kind) := by
  rw [bodyText,List.flatMap_singleton]

theorem bodyText_map {statement : α → Statement} {source : α → String}
    (written : ∀ item, innerText ((statement item).lines v kind) = source item) (items : List α) :
    bodyText v kind (items.map statement) = concat (items.map source) := by
  induction items with
  | nil => rfl
  | cons item rest ih =>
    have first := bodyText_append v kind [statement item] (rest.map statement)
    rw [bodyText_single,written,ih] at first
    exact first

theorem bodyText_optional (needed : Bool) (statement : Statement) :
    bodyText v kind (if needed then [statement] else []) =
      if needed then innerText (statement.lines v kind) else "" := by
  cases needed with
  | false => rfl
  | true => exact bodyText_single v kind statement

theorem aggregation_text (f : Field) : (aggregation f).text v = aggregationSource v f := by
  unfold Aggregation.text aggregation aggregationSource
  cases f.nesting <;> rfl

theorem paramType_text (f : Field) : (paramType f).text v = parameterType v f := by
  unfold paramType parameterType
  cases f.nesting <;> rfl

theorem accumulator_text : innerText (Statement.accumulator.lines v kind) = accumulatorSource v := innerText_single _

theorem aggregate_text (f : Field) : innerText ((Statement.aggregate (aggregation f)).lines v kind) =
    inBody ("let " ++ ident f.name ++ " = " ++ aggregationSource v f ++ ";") := by
  rw [Statement.lines,aggregation_text]
  exact innerText_single _

theorem unwrapAll_text (names : List String) : innerText ((Statement.unwrapAll names).lines v kind) =
    unwrapAllSource (failure v kind) (names.map ident) := by
  simp only [Statement.lines,unwrapAllSource]
  generalize names.map ident = idents
  rcases idents with _ | ⟨first,_ | ⟨second,more⟩⟩ <;> exact innerText_three _ _ _

theorem unwrap_text (f : Field) : innerText ((Statement.unwrap (aggregation f)).lines v kind) =
    unwrappingSource (someOf (ident f.name)) (aggregationSource v f) (failure v kind) := by
  rw [Statement.lines,aggregation_text]
  exact innerText_three _ _ _

theorem initial_text (f : Field) : innerText ((Statement.initial f.name f.type).lines v kind) =
    inBody ("let " ++ ident f.name ++ ": " ++ f.type.text ++ " = ::core::default::Default::default();") :=
  innerText_single _

theorem check_text (s : Schema) (r : Rule) (argument : String → Argument) :
    innerText ((checkOf s r argument).lines v kind) =
      checkSource v s r (r.params.map fun p => (argument p.name).text) := by
  rw [checkOf,Statement.lines,List.map_map]
  exact innerText_single _

theorem stopOnErrors_text : innerText (Statement.stopOnErrors.lines v kind) = stopSource (failure v kind) :=
  innerText_three _ _ _

theorem construct_text (fields : List Field) :
    innerText ((Statement.construct (fields.map (·.name))).lines v kind) =
      if fields.isEmpty then inBody (v.result ++ "::Success(Self \x7b\x7d)")
      else inBody (v.result ++ "::Success(Self \x7b " ++ Text.join ", " (fields.map fun f => ident f.name) ++ " \x7d)") := by
  cases fields with
  | nil => exact innerText_single _
  | cons f rest =>
    rw [List.map_cons,Statement.lines,← List.map_cons,List.map_map]
    · exact innerText_single _
    · nofun

end

theorem routineText_parts (v : Vocabulary) (naming : Naming) (r : Routine) :
    routineText v naming r = unlines ((r.head v naming).map indent) ++ bodyText v r.kind r.body ++ inItem "\x7d" := by
  simp only [routineText,Routine.lines,List.map_append,unlines_append]
  rfl

theorem head_line (line : String) : unlines ([line].map indent) = inItem line := String.append_empty

theorem constructor_head (v : Vocabulary) (naming : Naming) (s : Schema) :
    let start := s.visibility.keyword ++ "fn " ++ naming.constructor ++ "("
    let finish := ") -> " ++ v.result ++ "<Self> \x7b"
    unlines (((constructor s).head v naming).map indent) =
      if s.parameters.isEmpty then inItem (start ++ finish)
      else inItem start ++ concat (s.parameters.map fun f => inBody (ident f.name ++ ": " ++ parameterType v f ++ ",")) ++
        inItem finish := by
  intro start finish
  have params : innerText ((constructor s).params.map fun p => param v p ++ ",") =
      concat (s.parameters.map fun f => inBody (ident f.name ++ ": " ++ parameterType v f ++ ",")) := by
    simp only [innerText_concat,constructor,param,List.map_map,Function.comp_def,paramType_text]
  have empty : (constructor s).params.isEmpty = s.parameters.isEmpty := List.isEmpty_map
  rw [← params,Routine.head,empty]
  dsimp only [constructor]
  split
  · exact head_line _
  · rw [← List.singleton_append,List.map_append,List.map_append,unlines_append,unlines_append,head_line,head_line]
    rfl

theorem constructorSource_text (v : Vocabulary) (naming : Naming) (s : Schema) :
    constructorSource v naming s = routineText v naming (constructor s) := by
  have unwraps (nested : List Field) : bodyText v .constructor (if nested.isEmpty then []
      else nested.map (fun f => .aggregate (aggregation f)) ++ [.unwrapAll (nested.map (·.name))]) =
      if nested.isEmpty then ""
      else concat (nested.map fun f => inBody ("let " ++ ident f.name ++ " = " ++ aggregationSource v f ++ ";")) ++
        unwrapAllSource (constructorFailure v) (nested.map fun f => ident f.name) := by
    split
    · rfl
    · rw [bodyText_append,bodyText_map v _ (aggregate_text v _),bodyText_single,unwrapAll_text,List.map_map]
      rfl
  have initials := bodyText_map v .constructor (initial_text v .constructor) (s.fields.filter fun f => !f.isParameter)
  have checks := bodyText_map v .constructor (fun r => check_text v .constructor s r .own) s.rules
  have makes := construct_text v .constructor s.fields
  have fails : failure v .constructor = constructorFailure v := rfl
  rw [routineText_parts,constructor_head]
  simp only [constructor,bodyText_append,bodyText_optional,bodyText_single,unwraps,initials,checks,makes,accumulator_text,
    stopOnErrors_text,fails,Argument.text]
  rw [constructorSource]
  simp only [String.append_assoc]

theorem setter_head (v : Vocabulary) (naming : Naming) (b : BoundSchema) (f : Field) :
    unlines (((setter b f).head v naming).map indent) =
      inItem (b.schema.visibility.keyword ++ "fn " ++ setterName naming f.name ++ "(&mut self, " ++ ident f.name ++ ": " ++
        parameterType v f ++ ") -> ::core::result::Result<(), " ++ v.exception ++ "> \x7b") := by
  simp only [Routine.head,setter,Option.getD_some,List.map_cons,List.map_nil,param,paramType_text,Text.join,
    ← String.append_assoc]
  exact head_line _

theorem setterSource_text (v : Vocabulary) (naming : Naming) (b : BoundSchema) (f : Field) :
    setterSource v naming b f = routineText v naming (setter b f) := by
  have written (name : String) : (if name = f.name then Argument.own name else .stored name).text =
      if name = f.name then "&" ++ ident f.name else "&self." ++ ident name := by
    split
    · rename_i same
      rw [Argument.text,same]
    · rfl
  have checks := bodyText_map v .setter
    (fun r => check_text v .setter b.schema r fun name => if name = f.name then .own name else .stored name) (b.rulesFor f.name)
  have fails : failure v .setter = setterFailure v := rfl
  have stops (rules : List Rule) : bodyText v .setter (if rules.isEmpty then [] else [.stopOnErrors]) =
      if rules.isEmpty then "" else stopSource (setterFailure v) := by
    split
    · rfl
    · rw [bodyText_single,stopOnErrors_text,fails]
  have ends : bodyText v .setter [.store f.name,.accept] =
      inBody ("self." ++ ident f.name ++ " = " ++ ident f.name ++ ";") ++ inBody "::core::result::Result::Ok(())" := by
    rw [← innerText_single,← innerText_single,← innerText_append]
    rfl
  rw [routineText_parts,setter_head]
  simp only [written] at checks
  simp only [setter,bodyText_append,bodyText_optional,accumulator_text,unwrap_text,checks,stops,ends,fails,setterSource]
  simp only [String.append_assoc]

def constructorText (s : Schema) (settings : Settings) : String :=
  routineText (.ofLibrary settings.library) settings.naming (constructor s)

def setterText (b : BoundSchema) (settings : Settings) (f : Field) : String :=
  routineText (.ofLibrary settings.library) settings.naming (setter b f)

def settersText (b : BoundSchema) (settings : Settings) (fields : List Field) : String :=
  fields.foldr (fun f rest => "\n" ++ setterText b settings f ++ rest) ""

theorem schemaText_parts (b : BoundSchema) (settings : Settings) :
    schemaText b settings = openingText b.schema settings ++ constructorText b.schema settings ++
      settersText b settings b.schema.settableFields ++ "\x7d\n" := by
  have setters (fields : List Field) :
      concat (fields.map fun f => "\n" ++ setterSource (.ofLibrary settings.library) settings.naming b f) =
        settersText b settings fields := by
    induction fields with
    | nil => rfl
    | cons f rest ih =>
      simp only [setterSource_text] at ih ⊢
      exact congrArg _ ih
  rw [schemaText,constructorSource_text,setters]
  rfl

theorem settersText_append (b : BoundSchema) (settings : Settings) (earlier later : List Field) :
    settersText b settings (earlier ++ later) = settersText b settings earlier ++ settersText b settings later := by
  induction earlier with
  | nil => simp [settersText]
  | cons f rest ih =>
    have step : ∀ fs, settersText b settings (f :: fs) = "\n" ++ setterText b settings f ++ settersText b settings fs :=
      fun _ => rfl
    rw [List.cons_append,step,step,ih,String.append_assoc,String.append_assoc,String.append_assoc]

end DomainSchema.Emission
