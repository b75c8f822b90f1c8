import DomainSchema.Emission.Execution
import DomainSchema.Proofs.Entries
import Mathlib.Data.List.Nodup

namespace DomainSchema.Emission

section
variable {V : Type}

inductive Passes (m : Meaning V) : Frame V → List Statement → Frame V → Prop where
  | nil : Passes m f [] f
  | cons : Statement.run m f s = .ok middle → Passes m middle rest after → Passes m f (s :: rest) after

theorem Passes.single {m : Meaning V} (ran : Statement.run m f s = .ok after) : Passes m f [s] after := .cons ran .nil

theorem Passes.append {m : Meaning V} (left : Passes m f earlier middle) (right : Passes m middle later after) :
    Passes m f (earlier ++ later) after := by
  induction left with
  | nil => exact right
  | cons ran _ ih => exact .cons ran (ih right)

theorem Passes.run {m : Meaning V} (path : Passes m f earlier after) (rest : List Statement) :
    runStatements m f (earlier ++ rest) = runStatements m after rest := by
  induction path with
  | nil => rfl
  | cons ran _ ih => simpa only [List.cons_append,runStatements,ran] using ih

def Statement.asks? : Statement → Option (String × List Argument)
  | .check _ rule args => some (rule,args)
  | _ => none

def asked (m : Meaning V) : Frame V → List Statement → List (String × List Argument)
  | _, [] => []
  | f, s :: rest =>
    s.asks?.toList ++ match s.run m f with
      | .ok f => asked m f rest
      | .error _ => []

theorem Passes.asked {m : Meaning V} (path : Passes m f earlier after) (rest : List Statement) :
    asked m f (earlier ++ rest) = earlier.filterMap Statement.asks? ++ asked m after rest := by
  induction path with
  | nil => rfl
  | @cons _ s _ _ _ ran _ ih =>
    cases question : s.asks? <;> simp [Emission.asked,ran,ih,question]

def Frame.enter (f : Frame V) (entries : Locals V) : Frame V := { f with locals := entries.reverse ++ f.locals }

def Routine.frame (r : Routine) (object : Fields V) (args : List (Content V)) : Frame V :=
  Frame.enter ⟨[],object⟩ ((r.params.map fun p => ident p.1).zip args)

def Routine.asked (m : Meaning V) (r : Routine) (object : Fields V) (args : List (Content V)) :
    List (String × List Argument) := Emission.asked m (r.frame object args) r.body

theorem Routine.run_frame (m : Meaning V) (r : Routine) (object : Fields V) (args : List (Content V)) :
    r.run m object args = runStatements m (r.frame object args) r.body := by
  simp [Routine.run,Routine.frame,Frame.enter]

theorem enter_found {f : Frame V} {entries : Locals V} {name : String} {content : Content V}
    (distinct : (entries.map Prod.fst).Nodup) (member : (name,content) ∈ entries) :
    (f.enter entries).locals.lookup name = some content := by
  have found : entries.reverse.lookup name = some content := by
    apply lookup_distinct
    · rw [List.map_reverse]
      exact List.nodup_reverse.mpr distinct
    · exact List.mem_reverse.mpr member
  simp only [Frame.enter,List.lookup_append,found,Option.some_or]

theorem enter_other {f : Frame V} {entries : Locals V} {name : String} (absent : name ∉ entries.map Prod.fst) :
    (f.enter entries).locals.lookup name = f.locals.lookup name := by
  have none : entries.reverse.lookup name = none := lookup_absent (by simpa [List.map_reverse] using absent)
  simp only [Frame.enter,List.lookup_append,none,Option.none_or]

theorem bind_lookup (f : Frame V) (name other : String) (content : Content V) :
    (f.bind name content).locals.lookup other = if other = name then some content else f.locals.lookup other :=
  lookup_cons_if name other content f.locals

theorem assign_lookup (name other : String) (content : Content V) (locals : Locals V) :
    (assign name content locals).lookup other =
      if other = name then (locals.lookup name).map fun _ => content else locals.lookup other := by
  induction locals with
  | nil => simp [assign]
  | cons entry rest ih =>
    obtain ⟨key,old⟩ := entry
    by_cases here : key = name
    · subst here
      by_cases same : other = key <;> simp [assign,lookup_cons_if,same]
    · by_cases same : other = name
      · subst same
        simpa [assign,lookup_cons_if,here,Ne.symm here] using ih
      · by_cases first : other = key
        · simp [assign,here,first]
        · simpa [assign,lookup_cons_if,here,same,first] using ih

theorem assign_assign (name : String) (first second : Content V) (locals : Locals V) :
    assign name second (assign name first locals) = assign name second locals := by
  induction locals with
  | nil => rfl
  | cons entry rest ih => by_cases here : entry.1 = name <;> simp [assign,here,ih]

theorem assign_same {name : String} {content : Content V} {locals : Locals V}
    (found : locals.lookup name = some content) : assign name content locals = locals := by
  induction locals with
  | nil => cases found
  | cons entry rest ih =>
    obtain ⟨key,old⟩ := entry
    rw [lookup_cons_if] at found
    by_cases here : key = name
    · subst here
      rw [if_pos rfl,Option.some.injEq] at found
      simp [assign,found]
    · rw [if_neg (Ne.symm here)] at found
      simp [assign,here,ih found]

theorem errors_lookup {f : Frame V} {found : List DomainError} :
    f.errors? = some found ↔ f.locals.lookup errorsLocal = some (.errors found) := by
  unfold Frame.errors?
  constructor
  · intro read
    split at read
    · cases read
      assumption
    · cases read
  · intro read
    rw [read]

theorem errors_of_same_lookup {f g : Frame V} (same : g.locals.lookup errorsLocal = f.locals.lookup errorsLocal) :
    g.errors? = f.errors? := by
  unfold Frame.errors?
  rw [same]

theorem setErrors_lookup (f : Frame V) (found : List DomainError) {name : String} (other : name ≠ errorsLocal) :
    (f.setErrors found).locals.lookup name = f.locals.lookup name := by
  simp [Frame.setErrors,assign_lookup,other]

theorem setErrors_errors {f : Frame V} {old : List DomainError} (there : f.errors? = some old)
    (found : List DomainError) : (f.setErrors found).errors? = some found := by
  rw [errors_lookup] at there ⊢
  simp [Frame.setErrors,assign_lookup,there]

theorem setErrors_setErrors (f : Frame V) (first second : List DomainError) :
    (f.setErrors first).setErrors second = f.setErrors second := by
  simp [Frame.setErrors,assign_assign]

theorem setErrors_same {f : Frame V} {found : List DomainError} (there : f.errors? = some found) :
    f.setErrors found = f := by
  simp [Frame.setErrors,assign_same (errors_lookup.mp there)]

end

end DomainSchema.Emission
