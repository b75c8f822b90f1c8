import DomainSchema.Proofs.Execution
import Mathlib.Tactic.Tauto

-- What the identifiers in a routine denote. Field names stand next to names that a routine brings along, and most
-- statements bind a name again.

namespace DomainSchema.Emission

-- A raw identifier is the same identifier as the plain one.
def bareName (name : String) : String :=
  match name.toList with
  | 'r' :: '#' :: rest => String.ofList rest
  | _ => name

def receiver : String := "self"

inductive Origin where
  | errors
  | receiver
  | argument (field : String)
  | checked (origin : Origin)
  | value (origin : Origin)
  | initial (field : String)
  | unbound
deriving DecidableEq

abbrev Scope := List (String × Origin)

def Scope.find (scope : Scope) (name : String) : Origin := (scope.lookup (bareName name)).getD .unbound

def Scope.bind (scope : Scope) (name : String) (origin : Origin) : Scope := (bareName name,origin) :: scope

-- The bindings behind a statement. A pattern with several names binds them all at once, the last of them newest.
def Scope.after (scope : Scope) : Statement → Scope
  | .accumulator => scope.bind errorsLocal .errors
  | .aggregate call => scope.bind call.field (.checked (scope.find call.field))
  | .unwrapAll names => (names.map fun name => (bareName name,.value (scope.find name))).reverse ++ scope
  | .unwrap call => scope.bind call.field (.value (.checked (scope.find call.field)))
  | .initial name _ => scope.bind name (.initial name)
  | .check _ _ _ | .stopOnErrors | .construct _ | .store _ | .accept => scope

def Scope.afterAll (scope : Scope) (body : List Statement) : Scope := body.foldl Scope.after scope

def Statement.binders : Statement → List String
  | .accumulator => [errorsLocal]
  | .aggregate call | .unwrap call => [call.field]
  | .unwrapAll names => names
  | .initial name _ => [name]
  | .check _ _ _ | .stopOnErrors | .construct _ | .store _ | .accept => []

inductive Use where
  | errors
  | receiver
  | field (name : String)
deriving DecidableEq

def Use.identifier : Use → String
  | .errors => errorsLocal
  | .receiver => Emission.receiver
  | .field name => name

def Argument.use : Argument → Use
  | .own name => .field name
  | .stored _ => .receiver

def Statement.uses : Statement → List Use
  | .aggregate _ | .unwrapAll _ | .unwrap _ | .stopOnErrors => [.errors]
  | .check _ _ args => .errors :: args.map Argument.use
  | .construct names => names.map .field
  | .store name => [.receiver,.field name]
  | .accumulator | .initial _ _ | .accept => []

def denoted : Scope → List Statement → List (Use × Origin)
  | _, [] => []
  | scope, s :: rest => s.uses.map (fun use => (use,scope.find use.identifier)) ++ denoted (scope.after s) rest

def RoutineKind.scope : RoutineKind → Scope
  | .constructor => []
  | .setter => [(receiver,.receiver)]

def Routine.scope (r : Routine) : Scope := (r.params.map fun p => (bareName p.1,.argument p.1)).reverse ++ r.kind.scope

def Origin.unwrapped (f : Field) (origin : Origin) : Origin := if f.isNested then .value (.checked origin) else origin

def bindingOf (f : Field) : Origin := if f.isParameter then .unwrapped f (.argument f.name) else .initial f.name

def Use.Means (fields : List Field) : Use → Origin → Prop
  | .errors, origin => origin = .errors
  | .receiver, origin => origin = .receiver
  | .field name, origin => ∃ f ∈ fields, f.name = name ∧ origin = bindingOf f

def Routine.Keeps (r : Routine) (fields : List Field) (use : Use) : Prop :=
  ∀ origin, (use,origin) ∈ denoted r.scope r.body → use.Means fields origin

def Routine.KeepsFields (r : Routine) (fields : List Field) : Prop := ∀ name, r.Keeps fields (.field name)

-- Fields whose names are identifiers of their own. Of what makes an identifier only this matters: `self` is none.
structure Apart (fields : List Field) : Prop where
  distinct : (fields.map fun f => bareName f.name).Nodup
  named : ∀ f ∈ fields, bareName f.name ≠ receiver

theorem bareName_marked (name : String) : bareName ("r#" ++ name) = name := by
  simp [bareName,String.toList_append]

theorem bareName_ident (name : String) : bareName (ident name) = bareName name := by
  have plain : ∀ word ∈ keywords, bareName word = word := by decide
  unfold ident
  split
  · rename_i keyword
    rw [bareName_marked,plain name (by simpa using keyword)]
  · rfl

theorem bareName_errors : bareName errorsLocal = errorsLocal := by decide

theorem bareName_receiver : bareName receiver = receiver := by decide

theorem ne_errors_of_bareName {name : String} (free : bareName name ≠ errorsLocal) : name ≠ errorsLocal := by
  rintro rfl
  exact free bareName_errors

theorem Apart.idents {fields : List Field} (apart : Apart fields) : (fields.map fun f => ident f.name).Nodup := by
  apply List.Nodup.of_map bareName
  simpa only [List.map_map,Function.comp_def,bareName_ident] using apart.distinct

theorem Apart.equal {fields : List Field} (apart : Apart fields) {f g : Field} (inF : f ∈ fields) (inG : g ∈ fields)
    (same : bareName f.name = bareName g.name) : f = g :=
  List.inj_on_of_nodup_map apart.distinct inF inG same

theorem find_bind (scope : Scope) (name other : String) (origin : Origin) :
    (scope.bind name origin).find other = if bareName other = bareName name then origin else scope.find other := by
  unfold Scope.find Scope.bind
  rw [lookup_cons_if]
  split <;> rfl

theorem find_append (earlier later : Scope) (name : String) :
    Scope.find (earlier ++ later) name = ((earlier.lookup (bareName name)).or (later.lookup (bareName name))).getD .unbound := by
  rw [Scope.find,List.lookup_append]

theorem find_together {fields : List Field} (distinct : (fields.map fun f => bareName f.name).Nodup)
    (origin : Field → Origin) (scope : Scope) {f : Field} (member : f ∈ fields) :
    Scope.find ((fields.map fun f => (bareName f.name,origin f)).reverse ++ scope) f.name = origin f := by
  have found : (fields.map fun f => (bareName f.name,origin f)).reverse.lookup (bareName f.name) = some (origin f) := by
    apply lookup_distinct
    · rw [List.map_reverse,List.nodup_reverse]
      simpa only [List.map_map,Function.comp_def] using distinct
    · exact List.mem_reverse.mpr (List.mem_map.mpr ⟨f,member,rfl⟩)
  rw [find_append,found]
  rfl

theorem after_other (scope : Scope) {s : Statement} {name : String}
    (other : ∀ bound ∈ s.binders, bareName bound ≠ bareName name) : (scope.after s).find name = scope.find name := by
  cases s with
  | accumulator => rw [Scope.after,find_bind,if_neg (Ne.symm (other _ List.mem_cons_self))]
  | aggregate call => rw [Scope.after,find_bind,if_neg (Ne.symm (other _ List.mem_cons_self))]
  | unwrap call => rw [Scope.after,find_bind,if_neg (Ne.symm (other _ List.mem_cons_self))]
  | initial field type => rw [Scope.after,find_bind,if_neg (Ne.symm (other _ List.mem_cons_self))]
  | unwrapAll names =>
    rw [Scope.after,find_append,lookup_absent]
    · rfl
    · rw [List.map_reverse,List.mem_reverse,List.map_map]
      intro bound
      obtain ⟨field,inside,same⟩ := List.mem_map.mp bound
      exact other field inside same
  | check | stopOnErrors | construct | store | accept => rfl

theorem afterAll_other {scope : Scope} {body : List Statement} {name : String}
    (other : ∀ s ∈ body, ∀ bound ∈ s.binders, bareName bound ≠ bareName name) :
    (scope.afterAll body).find name = scope.find name := by
  induction body generalizing scope with
  | nil => rfl
  | cons s rest ih =>
    have later : ((scope.after s).afterAll rest).find name = (scope.after s).find name :=
      ih fun t member => other t (List.mem_cons_of_mem _ member)
    exact later.trans (after_other scope (other s List.mem_cons_self))

theorem afterAll_append (scope : Scope) (earlier later : List Statement) :
    scope.afterAll (earlier ++ later) = (scope.afterAll earlier).afterAll later := List.foldl_append

theorem denoted_append (scope : Scope) (earlier later : List Statement) :
    denoted scope (earlier ++ later) = denoted scope earlier ++ denoted (scope.afterAll earlier) later := by
  induction earlier generalizing scope with
  | nil => rfl
  | cons s rest ih =>
    rw [List.cons_append,denoted,denoted,ih,List.append_assoc]
    rfl

theorem denoted_exact {scope : Scope} {body : List Statement} {use : Use} {origin : Origin}
    (other : ∀ s ∈ body, ∀ bound ∈ s.binders, bareName bound ≠ bareName use.identifier) :
    (use,origin) ∈ denoted scope body ↔ (∃ s ∈ body, use ∈ s.uses) ∧ origin = scope.find use.identifier := by
  induction body generalizing scope with
  | nil => simp [denoted]
  | cons s rest ih =>
    have same := after_other scope (other s List.mem_cons_self)
    have later : (use,origin) ∈ denoted (scope.after s) rest ↔
        (∃ t ∈ rest, use ∈ t.uses) ∧ origin = (scope.after s).find use.identifier :=
      ih fun t member => other t (List.mem_cons_of_mem _ member)
    have here : (use,origin) ∈ s.uses.map (fun used => (used,scope.find used.identifier)) ↔
        use ∈ s.uses ∧ origin = scope.find use.identifier := by
      constructor
      · intro member
        obtain ⟨used,inside,equal⟩ := List.mem_map.mp member
        cases equal
        exact ⟨inside,rfl⟩
      · rintro ⟨inside,rfl⟩
        exact List.mem_map.mpr ⟨use,inside,rfl⟩
    rw [denoted,List.mem_append,here,later,same,List.exists_mem_cons_iff]
    tauto

theorem used_of_denoted {scope : Scope} {body : List Statement} {use : Use} {origin : Origin}
    (member : (use,origin) ∈ denoted scope body) : ∃ s ∈ body, use ∈ s.uses := by
  induction body generalizing scope with
  | nil => cases member
  | cons s rest ih =>
    rcases List.mem_append.mp member with here | later
    · obtain ⟨used,inside,equal⟩ := List.mem_map.mp here
      cases equal
      exact ⟨s,List.mem_cons_self,inside⟩
    · obtain ⟨t,inside,uses⟩ := ih later
      exact ⟨t,List.mem_cons_of_mem _ inside,uses⟩

-- Both kinds of routines first bind all they need, and only then use the fields.
theorem denoted_late {scope : Scope} {early late : List Statement} {use : Use} {origin : Origin}
    (unused : ∀ s ∈ early, use ∉ s.uses) (idle : ∀ s ∈ late, s.binders = []) :
    (use,origin) ∈ denoted scope (early ++ late) ↔
      (∃ s ∈ late, use ∈ s.uses) ∧ origin = (scope.afterAll early).find use.identifier := by
  have none : (use,origin) ∉ denoted scope early := by
    intro member
    obtain ⟨s,inside,used⟩ := used_of_denoted member
    exact unused s inside used
  have nothing : ∀ s ∈ late, ∀ bound ∈ s.binders, bareName bound ≠ bareName use.identifier := by
    intro s inside bound binds
    rw [idle s inside] at binds
    cases binds
  rw [denoted_append,List.mem_append,denoted_exact nothing]
  exact or_iff_right none

theorem errors_denoted {scope : Scope} {body : List Statement}
    (free : ∀ s ∈ body, ∀ bound ∈ s.binders, bareName bound ≠ errorsLocal) {origin : Origin}
    (member : (Use.errors,origin) ∈ denoted scope (.accumulator :: body)) : origin = .errors := by
  have split : (Use.errors,origin) ∈ denoted (scope.after .accumulator) body := by
    rcases List.mem_append.mp member with here | later
    · cases here
    · exact later
  rw [denoted_exact (by simpa only [Use.identifier,bareName_errors] using free)] at split
  rw [split.2,Use.identifier,Scope.after,find_bind,if_pos rfl]

theorem opened_find (scope : Scope) (needed : Bool) (name : String) :
    (scope.afterAll (if needed then [.accumulator] else [])).find name =
      if needed = true ∧ bareName name = errorsLocal then .errors else scope.find name := by
  cases needed with
  | false => simp [Scope.afterAll]
  | true => simp [Scope.afterAll,Scope.after,find_bind,bareName_errors]

theorem bound_each (statement : Field → Statement) (binding : Field → Origin → Origin)
    (own : ∀ f, (statement f).binders = [f.name])
    (binds : ∀ scope f, Scope.after scope (statement f) = scope.bind f.name (binding f (scope.find f.name)))
    {fields : List Field} (distinct : (fields.map fun f => bareName f.name).Nodup) (scope : Scope) {f : Field}
    (member : f ∈ fields) : (scope.afterAll (fields.map statement)).find f.name = binding f (scope.find f.name) := by
  induction fields generalizing scope with
  | nil => cases member
  | cons g rest ih =>
    rw [List.map_cons,List.nodup_cons] at distinct
    have apart : ∀ h ∈ rest, bareName h.name ≠ bareName g.name := fun h inside same =>
      distinct.1 (List.mem_map.mpr ⟨h,inside,same⟩)
    change ((scope.after (statement g)).afterAll (rest.map statement)).find f.name = _
    rcases List.mem_cons.mp member with rfl | later
    · rw [afterAll_other,binds,find_bind,if_pos rfl]
      intro s inside bound bindsIt
      obtain ⟨h,here,rfl⟩ := List.mem_map.mp inside
      rw [own,List.mem_singleton] at bindsIt
      rw [bindsIt]
      exact apart h here
    · rw [ih distinct.2 (scope.after (statement g)) later,after_other]
      intro bound bindsIt
      rw [own,List.mem_singleton] at bindsIt
      rw [bindsIt]
      exact Ne.symm (apart f later)

theorem unwrapped_injective (f : Field) {first second : Origin} :
    Origin.unwrapped f first = .unwrapped f second ↔ first = second := by
  unfold Origin.unwrapped
  split
  · rw [Origin.value.injEq,Origin.checked.injEq]
  · rfl

def Routine.Captures (r : Routine) (f : Field) : Prop := .accumulator ∈ r.body ∧ bareName f.name = errorsLocal

theorem opened_argument {scope : Scope} {f : Field} (passed : scope.find f.name = .argument f.name) (needed : Bool) :
    (scope.afterAll (if needed then [.accumulator] else [])).find f.name = .argument f.name ↔
      ¬ (needed = true ∧ bareName f.name = errorsLocal) := by
  rw [opened_find,passed]
  split
  · rename_i taken
    exact iff_of_false (by simp) (not_not_intro taken)
  · rename_i free
    exact iff_of_true rfl free

section
variable {V : Type} {m : Meaning V} {scope outer : Scope}

def Scope.Describes (scope outer : Scope) (locals : Locals V) : Prop :=
  scope.map Prod.fst = (locals.map fun entry => bareName entry.1) ++ outer.map Prod.fst

theorem Scope.Describes.bind {f : Frame V} (described : scope.Describes outer f.locals) (name : String) (origin : Origin)
    (content : Content V) : (scope.bind name origin).Describes outer (f.bind (ident name) content).locals := by
  unfold Describes at described ⊢
  simp only [Scope.bind,Frame.bind,List.map_cons,List.cons_append,described,bareName_ident]

theorem assign_names (name : String) (content : Content V) (locals : Locals V) :
    (assign name content locals).map Prod.fst = locals.map Prod.fst := by
  induction locals with
  | nil => rfl
  | cons entry rest ih => by_cases here : entry.1 = name <;> simp [assign,here,ih]

theorem Scope.Describes.of_names {locals locals' : Locals V} (described : scope.Describes outer locals)
    (same : locals'.map Prod.fst = locals.map Prod.fst) : scope.Describes outer locals' := by
  have names : (locals'.map fun entry => bareName entry.1) = locals.map fun entry => bareName entry.1 := by
    have bare := congrArg (List.map bareName) same
    rwa [List.map_map,List.map_map] at bare
  rw [Describes,names]
  exact described

theorem aggregation_names {f after : Frame V} {call : Aggregation} {v : Option V}
    (ran : call.run m f = some (v,after)) : after.locals.map Prod.fst = f.locals.map Prod.fst := by
  unfold Aggregation.run at ran
  obtain ⟨errors,-,ran⟩ := Option.bind_eq_some_iff.mp ran
  obtain ⟨content,-,ran⟩ := Option.bind_eq_some_iff.mp ran
  split at ran
  · cases ran
    exact assign_names _ _ _
  · cases ran
    exact assign_names _ _ _
  · cases ran

theorem unwrapped_names {locals : Locals V} {names : List String} {values : List (String × V)}
    (read : unwrappedValues locals names = some (some values)) : values.map Prod.fst = names.map ident := by
  induction names generalizing values with
  | nil =>
    cases read
    rfl
  | cons name rest ih =>
    unfold unwrappedValues at read
    obtain ⟨content,-,read⟩ := Option.bind_eq_some_iff.mp read
    split at read
    · obtain ⟨later,inside,read⟩ := Option.bind_eq_some_iff.mp read
      obtain ⟨v,-,read⟩ := Option.bind_eq_some_iff.mp (Option.some.inj read)
      obtain ⟨tail,same,read⟩ := Option.bind_eq_some_iff.mp read
      rw [same] at inside
      cases read
      rw [List.map_cons,List.map_cons,ih inside]
    · cases read

-- Every statement that runs makes the locals that its bindings are for.
theorem describes_after {f after : Frame V} {s : Statement} (described : scope.Describes outer f.locals)
    (ran : s.run m f = .ok after) : (scope.after s).Describes outer after.locals := by
  cases s with
  | accumulator =>
    cases ran
    exact described.bind errorsLocal .errors (.errors [])
  | initial name type =>
    cases ran
    exact described.bind name (.initial name) (.value (m.initial type))
  | aggregate call =>
    simp only [Statement.run] at ran
    split at ran
    · rename_i v middle called
      cases ran
      exact (described.of_names (aggregation_names called)).bind call.field _ _
    · cases ran
  | unwrap call =>
    simp only [Statement.run] at ran
    split at ran
    · rename_i v middle called
      cases ran
      exact (described.of_names (aggregation_names called)).bind call.field _ _
    · split at ran <;> cases ran
    · cases ran
  | unwrapAll names =>
    simp only [Statement.run] at ran
    split at ran
    · rename_i _ values read
      cases ran
      have bound : values.map (bareName ∘ Prod.fst) = names.map bareName := by
        have idents := congrArg (List.map bareName) (unwrapped_names read)
        rw [List.map_map,List.map_map] at idents
        exact idents.trans (List.map_congr_left fun name _ => bareName_ident name)
      unfold Scope.Describes at described ⊢
      simp only [Scope.after,List.map_append,List.map_reverse,List.map_map,described,List.append_assoc]
      congr 2
      exact bound.symm
    · cases ran
    · cases ran
  | check path rule args =>
    simp only [Statement.run] at ran
    split at ran
    · cases ran
      exact described.of_names (assign_names _ _ _)
    · cases ran
  | stopOnErrors =>
    simp only [Statement.run] at ran
    split at ran
    · split at ran
      · cases ran
        exact described
      · cases ran
    · cases ran
  | construct names =>
    simp only [Statement.run] at ran
    split at ran <;> cases ran
  | store name =>
    simp only [Statement.run] at ran
    split at ran
    · cases ran
      exact described
    · cases ran
  | accept => cases ran

theorem describes_afterAll {f after : Frame V} {body : List Statement} (path : Passes m f body after)
    (described : scope.Describes outer f.locals) : (scope.afterAll body).Describes outer after.locals := by
  induction path generalizing scope with
  | nil => exact described
  | cons ran _ ih => exact ih (describes_after described ran)

theorem describes_start (r : Routine) (object : Fields V) {args : List (Content V)} (length : args.length = r.params.length) :
    r.scope.Describes r.kind.scope (r.frame object args).locals := by
  have names : (((r.params.map fun p => ident p.1).zip args).map fun entry => bareName entry.1) =
      r.params.map fun p => bareName p.1 := by
    have keys : ((r.params.map fun p => ident p.1).zip args).map Prod.fst = r.params.map fun p => ident p.1 :=
      List.map_fst_zip (by simp [length])
    have bare := congrArg (List.map bareName) keys
    rw [List.map_map,List.map_map] at bare
    exact bare.trans (List.map_congr_left fun p _ => bareName_ident p.1)
  unfold Scope.Describes
  simp only [Routine.scope,Routine.frame,Frame.enter,List.map_append,List.map_reverse,names,List.append_nil,
    List.map_map]
  rfl

def Routine.Scoped (m : Meaning V) (r : Routine) : Prop :=
  ∀ (object : Fields V) (args : List (Content V)), args.length = r.params.length → ∀ (before later : List Statement)
    (f : Frame V), r.body = before ++ later → Passes m (r.frame object args) before f →
      (r.scope.afterAll before).Describes r.kind.scope f.locals

theorem Routine.scoped (m : Meaning V) (r : Routine) : r.Scoped m := fun object _ length _ _ _ _ path =>
  describes_afterAll path (describes_start r object length)

end

end DomainSchema.Emission
