import DomainSchema.Proofs.Completeness

namespace DomainSchema

inductive TypeExpr.Bare : TypeExpr → ReturnShape → Prop
  | outcome {type : TypeExpr} : type.baseName = "RuleOutcome" → Bare type .outcome
  | messages {type element : TypeExpr} : type.baseName = "Vec" → type.args = [element] →
      element.path = "&str" ∨ element.path = "&'static str" ∨ element.baseName = "String" → Bare type .messages
  | errors {type element : TypeExpr} : type.baseName = "Vec" → type.args = [element] →
      element.baseName = "DomainError" → Bare type .errors

inductive TypeExpr.Returned : TypeExpr → ReturnShape → Prop
  | plain {type : TypeExpr} {shape : ReturnShape} : type.Bare shape → Returned type shape
  | optional {type inner : TypeExpr} {shape : ReturnShape} : type.baseName = "Option" → type.args = [inner] →
      inner.Bare shape → Returned type shape

def MethodDecl.Returns (m : MethodDecl) (shape : ReturnShape) : Prop := ∃ type, m.returns = some type ∧ type.Returned shape

def Access.Writes (a : Access) : Prop := a.kind = .set ∨ a.kind = .init

def FieldDecl.Writer (f : FieldDecl) (a : Access) : Prop :=
  ∃ before after, f.accesses = before ++ a :: after ∧ a.Writes ∧ ∀ other ∈ before, ¬ other.Writes

inductive Problem where
  | sealed
  | nested (parent : String)
  | misnamed (field source : String)
  | exposed (field : String) (kind : AccessKind)
  | impure (method : String)
  | shapeless (method : String) (returns : Option TypeExpr)
  | bare (method : String)

namespace Problem

def rank : Problem → Nat
  | .sealed => 0
  | .nested _ => 1
  | .misnamed _ _ => 2
  | .exposed _ _ => 3
  | .impure _ => 4
  | .shapeless _ _ => 5
  | .bare _ => 6

def code : Problem → DiagnosticCode
  | .sealed => .nonExtensible
  | .nested _ => .nestedDeclaration
  | .misnamed _ _ => .renameArgument
  | .exposed _ _ => .nonPrivateMutator
  | .impure _ => .impureRule
  | .shapeless _ _ => .returnShape
  | .bare _ => .parameterlessRule

def member (d : Declaration) : Problem → String
  | .sealed | .nested _ => d.name
  | .misnamed field _ | .exposed field _ => field
  | .impure method | .shapeless method _ | .bare method => method

def message : Problem → String
  | .sealed => "Declaration must be extensible for generation"
  | .nested parent => "Declaration cannot be nested for generation (inside " ++ parent ++ ")"
  | .misnamed _ _ => "Argument must be a literal string or the no-path marker"
  | .exposed _ kind => (if kind == .init then "Init" else "Setter") ++ " should be private in domain objects"
  | .impure _ => "Validation rule must be an associated function without a self receiver"
  | .shapeless _ _ => "Return type of a validation rule must be a sequence of DomainError or of messages"
  | .bare _ => "Validation rule must receive at least one parameter"

def context : Problem → List String
  | .misnamed _ source => ["found `" ++ source ++ "`; using field name"]
  | .shapeless _ returns => ["found `" ++ returns.elim "()" TypeExpr.text ++ "`"]
  | _ => []

def report (d : Declaration) (p : Problem) : Diagnostic where
  schema := d.qualifiedName
  member := some (p.member d)
  code := p.code
  message := p.message
  context := p.context

end Problem

inductive Declaration.Shows (d : Declaration) : Problem → Prop
  | sealed : d.extensible = false → Shows d .sealed
  | nested {parent : String} : d.parent = some parent → Shows d (.nested parent)

inductive FieldDecl.Shows (f : FieldDecl) : Problem → Prop
  | misnamed {source : String} : f.errorName = some (.expr source) → Shows f (.misnamed f.name source)
  | exposed {a : Access} : f.Writer a → a.visibility ≠ .hidden → Shows f (.exposed f.name a.kind)

inductive MethodDecl.Shows (m : MethodDecl) : Problem → Prop
  | impure : m.receiver ≠ .absent → Shows m (.impure m.name)
  | shapeless : (¬ ∃ shape, m.Returns shape) → Shows m (.shapeless m.name m.returns)
  | bare : m.params = [] → Shows m (.bare m.name)

-- All problems that are shown, each once and in their order.
structure Listing (shown : Problem → Prop) (listed : List Problem) : Prop where
  complete : ∀ p, p ∈ listed ↔ shown p
  ordered : listed.Pairwise fun p q => p.rank < q.rank

inductive Nests (index : TypeIndex) (settings : Settings) (type : TypeExpr) : Nesting → Prop
  | single : type.key ∈ index.keys → Nests index settings type .single
  | list {element : TypeExpr} : type.key ∉ index.keys → type.path ∈ settings.recognition.listTypes → type.args = [element] →
      element.key ∈ index.keys → Nests index settings type .list
  | none : type.key ∉ index.keys → (type.path ∈ settings.recognition.listTypes →
      ∀ element, type.args = [element] → element.key ∉ index.keys) → Nests index settings type .none

inductive FieldDecl.Named (f : FieldDecl) : Option String → Prop
  | own : f.errorName = none → Named f (some f.name)
  | literal {segment : String} : f.errorName = some (.literal segment) → Named f (some segment)
  | absent : f.errorName = some .noPath → Named f none
  | unusable {source : String} : f.errorName = some (.expr source) → Named f (some f.name)

inductive FieldDecl.Changes (f : FieldDecl) : Mutability → Prop
  | fixed : (∀ a ∈ f.accesses, ¬ a.Writes) → Changes f .fixed
  | once {a : Access} : f.Writer a → a.kind = .init → Changes f .once
  | settable {a : Access} : f.Writer a → a.kind = .set → Changes f .settable

structure FieldDecl.Becomes (index : TypeIndex) (settings : Settings) (f : FieldDecl) (field : Field) : Prop where
  name : field.name = f.name
  type : field.type = f.type
  nesting : Nests index settings f.type field.nesting
  errorPath : f.Named field.errorPath
  mutability : f.Changes field.mutability

structure MethodDecl.Becomes (m : MethodDecl) (r : Rule) : Prop where
  name : r.name = m.name
  params : r.params = m.params
  returns : m.Returns r.returns

structure Declaration.Becomes (d : Declaration) (index : TypeIndex) (settings : Settings) (s : Schema) : Prop where
  name : s.name = d.qualifiedName
  ident : s.ident = d.name
  modulePath : s.modulePath = d.modulePath
  generics : s.generics = d.generics
  visibility : s.visibility = d.visibility
  fields : List.Forall₂ (FieldDecl.Becomes index settings) d.fields s.fields
  rules : List.Forall₂ MethodDecl.Becomes d.rules s.rules

section
variable {type element : TypeExpr} {shape : ReturnShape}

theorem soleArg_iff : type.soleArg? = some element ↔ type.args = [element] := by
  unfold TypeExpr.soleArg?
  split
  · rename_i only single
    rw [single]
    simp
  · rename_i several
    exact iff_of_false nofun (several element)

-- The texts that stand for strings are paths of one segment.
theorem string_path (text : element.path = "&str" ∨ element.path = "&'static str") : element.baseName ≠ "DomainError" := by
  unfold TypeExpr.baseName
  rcases text with text | text <;> rw [text] <;> decide

def ReturnShape.ofElement? (element : TypeExpr) : Option ReturnShape :=
  if element.path = "&str" ∨ element.path = "&'static str" then some .messages
  else if element.baseName = "String" then some .messages
  else if element.baseName = "DomainError" then some .errors
  else none

def ReturnShape.ofBare? (type : TypeExpr) : Option ReturnShape :=
  if type.baseName = "RuleOutcome" then some .outcome
  else if type.baseName = "Vec" then type.soleArg?.bind ofElement?
  else none

theorem ofType_bare (type : TypeExpr) : ReturnShape.ofType? type =
    if type.baseName = "Option" then type.soleArg?.bind ReturnShape.ofBare? else ReturnShape.ofBare? type := by
  unfold ReturnShape.ofType? ReturnShape.ofBare? ReturnShape.ofElement?
  by_cases option : type.baseName = "Option" <;> simp [option]

theorem ofElement_iff : ReturnShape.ofElement? element = some shape ↔
    shape = .messages ∧ (element.path = "&str" ∨ element.path = "&'static str" ∨ element.baseName = "String") ∨
      shape = .errors ∧ element.baseName = "DomainError" := by
  unfold ReturnShape.ofElement?
  by_cases text : element.path = "&str" ∨ element.path = "&'static str"
  · have other := string_path text
    rw [if_pos text]
    rcases text with text | text <;> simp [text,other,eq_comm]
  · rw [if_neg text]
    rw [not_or] at text
    by_cases string : element.baseName = "String"
    · simp [string,eq_comm]
    · by_cases error : element.baseName = "DomainError" <;> simp [text,string,error,eq_comm]

theorem ofBare_iff : ReturnShape.ofBare? type = some shape ↔ type.Bare shape := by
  unfold ReturnShape.ofBare?
  constructor
  · intro found
    split at found
    · rename_i outcome
      cases found
      exact .outcome outcome
    · split at found
      · rename_i list
        obtain ⟨element,only,found⟩ := Option.bind_eq_some_iff.mp found
        have single := soleArg_iff.mp only
        rcases ofElement_iff.mp found with ⟨rfl,text⟩ | ⟨rfl,error⟩
        · exact .messages list single text
        · exact .errors list single error
      · cases found
  · intro bare
    cases bare with
    | outcome named => rw [if_pos named]
    | messages list single text =>
      have found := ofElement_iff.mpr (.inl ⟨rfl,text⟩)
      rw [if_neg (by rw [list]; decide),if_pos list,soleArg_iff.mpr single]
      exact found
    | errors list single error =>
      have found := ofElement_iff.mpr (.inr ⟨rfl,error⟩)
      rw [if_neg (by rw [list]; decide),if_pos list,soleArg_iff.mpr single]
      exact found

theorem TypeExpr.Bare.not_option (bare : type.Bare shape) : type.baseName ≠ "Option" := by
  cases bare with
  | outcome named => rw [named]; decide
  | messages list | errors list => rw [list]; decide

theorem ofType_iff : ReturnShape.ofType? type = some shape ↔ type.Returned shape := by
  rw [ofType_bare]
  constructor
  · intro found
    split at found
    · rename_i option
      obtain ⟨inner,only,found⟩ := Option.bind_eq_some_iff.mp found
      exact .optional option (soleArg_iff.mp only) (ofBare_iff.mp found)
    · exact .plain (ofBare_iff.mp found)
  · intro returned
    cases returned with
    | plain bare =>
      rw [if_neg bare.not_option]
      exact ofBare_iff.mpr bare
    | optional option single bare =>
      rw [if_pos option,soleArg_iff.mpr single]
      exact ofBare_iff.mpr bare

end

section
variable {m : MethodDecl} {f : FieldDecl} {shape : ReturnShape}

theorem returns_iff : ReturnShape.of? m.returns = some shape ↔ m.Returns shape := by
  rw [ReturnShape.of?,Option.bind_eq_some_iff]
  exact exists_congr fun type => and_congr_right fun _ => ofType_iff

theorem writes_iff (a : Access) : (a.kind == .set || a.kind == .init) = true ↔ a.Writes := by
  simp [Access.Writes]

theorem writer_iff {a : Access} : f.writer? = some a ↔ f.Writer a := by
  rw [FieldDecl.writer?,List.find?_eq_some_iff_append]
  simp only [writes_iff,Bool.not_eq_true',← Bool.not_eq_true,FieldDecl.Writer]
  constructor
  · rintro ⟨writes,before,after,split,earlier⟩
    exact ⟨before,after,split,writes,earlier⟩
  · rintro ⟨before,after,split,writes,earlier⟩
    exact ⟨writes,before,after,split,earlier⟩

theorem no_writer : f.writer? = none ↔ ∀ a ∈ f.accesses, ¬ a.Writes := by
  simp only [FieldDecl.writer?,List.find?_eq_none,writes_iff]

end

section
variable {shown shown' : Problem → Prop} {listed listed' : List Problem}

theorem Listing.none (silent : ∀ p, ¬ shown p) : Listing shown [] := ⟨fun p => by simp [silent p],.nil⟩

theorem Listing.single {p : Problem} (only : ∀ q, shown q ↔ q = p) : Listing shown [p] := by
  refine ⟨fun q => ?_,List.pairwise_singleton _ p⟩
  rw [List.mem_singleton,only]

theorem Listing.append (first : Listing shown listed) (second : Listing shown' listed')
    (apart : ∀ p, shown p → ∀ q, shown' q → p.rank < q.rank) :
    Listing (fun p => shown p ∨ shown' p) (listed ++ listed') := by
  constructor
  · intro p
    rw [List.mem_append,first.complete,second.complete]
  · refine List.pairwise_append.mpr ⟨first.ordered,second.ordered,?_⟩
    intro p here q there
    exact apart p ((first.complete p).mp here) q ((second.complete q).mp there)

theorem Listing.congr (listing : Listing shown listed) (same : ∀ p, shown p ↔ shown' p) : Listing shown' listed :=
  ⟨fun p => (listing.complete p).trans (same p),listing.ordered⟩

end

section
variable (d : Declaration)

theorem listing_unless (c : Prop) [Decidable c] (p : Problem) :
    ∃ listed, Listing (fun q => ¬ c ∧ q = p) listed ∧ (if c then [] else [p.report d]) = listed.map (·.report d) := by
  by_cases kept : c
  · exact ⟨[],.none fun q here => here.1 kept,by simp [kept]⟩
  · exact ⟨[p],.single fun q => and_iff_right kept,by simp [kept]⟩

theorem listing_option {α : Type} (found : Option α) (p : α → Problem) :
    ∃ listed, Listing (fun q => ∃ a, found = some a ∧ q = p a) listed ∧
      found.toList.map (fun a => (p a).report d) = listed.map (·.report d) := by
  cases found with
  | none => exact ⟨[],.none (by simp),rfl⟩
  | some a => exact ⟨[p a],.single (by simp),rfl⟩

theorem Declaration.listing : ∃ listed, Listing d.Shows listed ∧ d.diagnostics.items = listed.map (·.report d) ++
    d.fields.flatMap (·.diagnostics d.qualifiedName) ++ d.rules.flatMap (·.diagnostics d.qualifiedName) := by
  obtain ⟨first,sealed,told⟩ := listing_unless d (d.extensible = true) .sealed
  obtain ⟨second,nested,toldNested⟩ := listing_option d d.parent .nested
  refine ⟨first ++ second,(sealed.append nested ?_).congr ?_,?_⟩
  · rintro p ⟨-,rfl⟩ q ⟨parent,-,rfl⟩
    exact Nat.lt_add_one 0
  · intro p
    constructor
    · rintro (⟨closed,rfl⟩ | ⟨parent,inside,rfl⟩)
      · exact .sealed (by simpa using closed)
      · exact .nested inside
    · intro shown
      cases shown with
      | sealed closed => exact .inl ⟨by simp [closed],rfl⟩
      | nested inside => exact .inr ⟨_,inside,rfl⟩
  · rw [List.map_append,← told,← toldNested]
    unfold Declaration.diagnostics
    cases d.parent <;> rfl

theorem FieldDecl.listing (f : FieldDecl) :
    ∃ listed, Listing f.Shows listed ∧ f.diagnostics d.qualifiedName = listed.map (·.report d) := by
  -- Without its argument a field has only its accessor to answer for.
  let rest : FieldDecl := { f with errorName := none }
  have unusable : ∃ first, Listing (fun p => ∃ source, f.errorName = some (.expr source) ∧ p = .misnamed f.name source) first ∧
      f.diagnostics d.qualifiedName = first.map (·.report d) ++ rest.diagnostics d.qualifiedName := by
    unfold FieldDecl.diagnostics
    cases asked : f.errorName with
    | none => exact ⟨[],.none (by simp),rfl⟩
    | some argument =>
      cases argument with
      | expr source => exact ⟨[.misnamed f.name source],.single (by simp),rfl⟩
      | literal | noPath => exact ⟨[],.none (by simp),rfl⟩
  have exposed : ∃ second, Listing (fun p => ∃ a, f.Writer a ∧ a.visibility ≠ .hidden ∧ p = .exposed f.name a.kind) second ∧
      rest.diagnostics d.qualifiedName = second.map (·.report d) := by
    simp only [← writer_iff]
    have same : rest.writer? = f.writer? := rfl
    unfold FieldDecl.diagnostics
    rw [same]
    cases found : f.writer? with
    | none => exact ⟨[],.none (by simp),rfl⟩
    | some a =>
      obtain ⟨second,listing,told⟩ := listing_unless d ((a.visibility == .hidden) = true) (.exposed f.name a.kind)
      exact ⟨second,listing.congr (by simp),told⟩
  obtain ⟨first,unusable,told⟩ := unusable
  obtain ⟨second,exposed,toldExposed⟩ := exposed
  refine ⟨first ++ second,(unusable.append exposed ?_).congr ?_,?_⟩
  · rintro p ⟨source,-,rfl⟩ q ⟨a,-,-,rfl⟩
    exact Nat.lt_add_one 2
  · intro p
    constructor
    · rintro (⟨source,asked,rfl⟩ | ⟨a,writer,seen,rfl⟩)
      · exact .misnamed asked
      · exact .exposed writer seen
    · intro shown
      cases shown with
      | misnamed asked => exact .inl ⟨_,asked,rfl⟩
      | exposed writer seen => exact .inr ⟨_,writer,seen,rfl⟩
  · rw [List.map_append,told,toldExposed]

theorem MethodDecl.listing (m : MethodDecl) :
    ∃ listed, Listing m.Shows listed ∧ m.diagnostics d.qualifiedName = listed.map (·.report d) := by
  obtain ⟨first,impure,told⟩ := listing_unless d ((m.receiver == .absent) = true) (.impure m.name)
  obtain ⟨second,shapeless,toldShapeless⟩ :=
    listing_unless d ((ReturnShape.of? m.returns).isSome = true) (.shapeless m.name m.returns)
  obtain ⟨third,bare,toldBare⟩ := listing_unless d (¬ m.params.isEmpty = true) (.bare m.name)
  refine ⟨first ++ second ++ third,((impure.append shapeless ?_).append bare ?_).congr ?_,?_⟩
  · rintro p ⟨-,rfl⟩ q ⟨-,rfl⟩
    exact Nat.lt_add_one 4
  · rintro p (⟨-,rfl⟩ | ⟨-,rfl⟩) q ⟨-,rfl⟩
    · exact Nat.lt_add_of_pos_right (n := 4) (k := 2) (by decide)
    · exact Nat.lt_add_one 5
  · intro p
    have shaped : (ReturnShape.of? m.returns).isSome = true ↔ ∃ shape, m.Returns shape := by
      rw [Option.isSome_iff_exists]
      exact exists_congr fun shape => returns_iff
    rw [shaped]
    constructor
    · rintro ((⟨receiver,rfl⟩ | ⟨none,rfl⟩) | ⟨bare,rfl⟩)
      · exact .impure (by simpa using receiver)
      · exact .shapeless none
      · exact .bare (by simpa using bare)
    · intro shown
      cases shown with
      | impure receiver => exact .inl (.inl ⟨by simpa using receiver,rfl⟩)
      | shapeless none => exact .inl (.inr ⟨none,rfl⟩)
      | bare bare => exact .inr ⟨by simp [bare],rfl⟩
  · rw [List.map_append,List.map_append,← told,← toldShapeless,← toldBare,ite_not]
    rfl

theorem listings {α : Type} {diagnose : α → List Diagnostic} {shows : α → Problem → Prop}
    (each : ∀ x, ∃ listed, Listing (shows x) listed ∧ diagnose x = listed.map (·.report d)) (xs : List α) :
    ∃ all, List.Forall₂ (fun x listed => Listing (shows x) listed) xs all ∧
      xs.flatMap diagnose = all.flatten.map (·.report d) := by
  induction xs with
  | nil => exact ⟨[],.nil,rfl⟩
  | cons x rest ih =>
    obtain ⟨listed,listing,told⟩ := each x
    obtain ⟨all,related,later⟩ := ih
    refine ⟨listed :: all,.cons listing related,?_⟩
    rw [List.flatMap_cons,List.flatten_cons,List.map_append,told,later]

end

section
variable {d : Declaration} {index : TypeIndex} {settings : Settings}

theorem extract_none_iff : (extract d index settings).result = none ↔
    ∃ item ∈ d.diagnostics.items, item.code ≠ .nonPrivateMutator ∧ item.code ≠ .renameArgument := by
  have blocked : (extract d index settings).result = none ↔ d.diagnostics.blocks d.qualifiedName = true := by
    unfold extract
    dsimp only
    split
    · rename_i blocked
      exact iff_of_true rfl blocked
    · rename_i unblocked
      exact iff_of_false nofun unblocked
  rw [blocked,Declaration.blocked_iff]
  refine exists_congr fun item => and_congr_right fun found => ?_
  have own := (Declaration.findings found).2
  cases code : item.code <;> rw [code] at own <;> simp [DiagnosticCode.blocks,DiagnosticCode.ofDeclaration] at own ⊢

theorem contains_iff {type : TypeExpr} : index.contains type = true ↔ type.key ∈ index.keys := by
  rw [TypeIndex.contains,List.contains_iff_mem]

theorem nests (type : TypeExpr) (index : TypeIndex) (settings : Settings) :
    Nests index settings type (nestingOf type index settings) := by
  unfold nestingOf
  split
  · rename_i single
    exact .single (contains_iff.mp single)
  · rename_i other
    rw [contains_iff] at other
    split
    · rename_i list
      obtain ⟨recognized,element⟩ := Bool.and_eq_true_iff.mp list
      obtain ⟨element,only,inside⟩ := (Option.any_eq_true _ _).mp element
      exact .list other (List.contains_iff_mem.mp recognized) (soleArg_iff.mp only) (contains_iff.mp inside)
    · rename_i list
      refine .none other fun recognized element single inside => list ?_
      rw [soleArg_iff.mpr single,Option.any_some,contains_iff.mpr inside,Bool.and_true]
      exact List.contains_iff_mem.mpr recognized

theorem FieldDecl.becomes (f : FieldDecl) (index : TypeIndex) (settings : Settings) :
    f.Becomes index settings (f.field index settings) := by
  refine ⟨rfl,rfl,nests f.type index settings,?_,?_⟩
  · change f.Named f.errorPath
    unfold FieldDecl.errorPath
    split
    · rename_i literal
      exact .literal literal
    · rename_i absent
      exact .absent absent
    · rename_i own
      exact .own own
    · rename_i unusable
      exact .unusable unusable
  · change f.Changes f.mutability
    unfold FieldDecl.mutability
    split
    · rename_i silent
      exact .fixed (no_writer.mp silent)
    · rename_i a found
      have writer := writer_iff.mp found
      obtain ⟨_,_,_,set | init,_⟩ := id writer
      · rw [set]
        exact .settable writer set
      · rw [init]
        exact .once writer init

theorem extract_becomes {s : Schema} (made : (extract d index settings).result = some s) : d.Becomes index settings s := by
  unfold extract at made
  dsimp only at made
  split at made
  · cases made
  · rename_i unblocked
    cases made
    refine ⟨rfl,rfl,rfl,rfl,rfl,?_,?_⟩
    · exact List.forall₂_map_right_iff.mpr (List.forall₂_same.mpr fun f _ => f.becomes index settings)
    · refine forall₂_filterMap fun m member => ?_
      obtain ⟨r,rule,yields⟩ := unblocked_rule (Bool.eq_false_iff.mpr unblocked) member
      exact ⟨r,rule,yields.name,yields.params,returns_iff.mp yields.returns⟩

end

-- A declaration is told all its problems: first its own, then those of its fields, then those of its rules, of each in the
-- order of the members, and of one member in the order of the problems. It comes to nothing exactly if one of them is more
-- than an exposed field or an unusable error name; otherwise it is a schema with all its fields and rules.
theorem extraction_exact (d : Declaration) (index : TypeIndex) (settings : Settings) :
    let found := extract d index settings
    (∃ own ofFields ofRules, Listing d.Shows own ∧
      List.Forall₂ (fun (f : FieldDecl) listed => Listing f.Shows listed) d.fields ofFields ∧
      List.Forall₂ (fun (m : MethodDecl) listed => Listing m.Shows listed) d.rules ofRules ∧
      found.diagnostics.items = (own ++ ofFields.flatten ++ ofRules.flatten).map (·.report d)) ∧
    (found.result = none ↔
      ∃ item ∈ found.diagnostics.items, item.code ≠ .nonPrivateMutator ∧ item.code ≠ .renameArgument) ∧
    ∀ s, found.result = some s → d.Becomes index settings s := by
  intro found
  refine ⟨?_,extract_none_iff,fun s made => extract_becomes made⟩
  obtain ⟨own,listing,items⟩ := Declaration.listing d
  obtain ⟨ofFields,fields,toldFields⟩ := listings d (FieldDecl.listing d) d.fields
  obtain ⟨ofRules,rules,toldRules⟩ := listings d (MethodDecl.listing d) d.rules
  refine ⟨own,ofFields,ofRules,listing,fields,rules,?_⟩
  rw [List.map_append,List.map_append,← toldFields,← toldRules]
  exact items

-- A field that shows its initializer, under an error name that is no literal.
def leaky : Declaration where
  name := "Leaky"
  marked := true
  members := [.field ⟨"level",⟨"i32",[]⟩,some (.expr "LEVEL"),[⟨.get,.exported⟩,⟨.init,.crate⟩,⟨.set,.hidden⟩]⟩]

theorem leaky_made :
    let found := extract leaky ⟨[]⟩ {}
    found.diagnostics.items.map (·.code) = [.renameArgument,.nonPrivateMutator] ∧
      ∃ s, found.result = some s ∧ leaky.Becomes ⟨[]⟩ {} s := by
  intro found
  have some : found.result.isSome = true := by decide
  obtain ⟨s,made⟩ := Option.isSome_iff_exists.mp some
  exact ⟨by decide,s,made,(extraction_exact leaky ⟨[]⟩ {}).2.2 s made⟩

end DomainSchema
