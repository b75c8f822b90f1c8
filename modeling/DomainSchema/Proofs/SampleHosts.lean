import DomainSchema.Proofs.Construction
import DomainSchema.Proofs.Mutation
import DomainSchema.Samples.Store

namespace DomainSchema.Samples

open Emission (Content Distinguished Fields report stored)

-- What the generated routines do with the objects of a host. This follows from what constructors and setters do in general.

def build (errors : List DomainError) (object : α) : DomainResult α :=
  if errors.isEmpty then .success object else .failure errors

def accept (errors : List DomainError) (object : α) : Except DomainException α :=
  if errors.isEmpty then .ok object else .error ⟨errors⟩

-- What a setter answers, and what it leaves of the object: the changed one, or the old one if the change was refused.
def settle (old : α) : Except DomainException α → Except DomainException Unit × α
  | .ok new => (.ok (),new)
  | .error e => (.error e,old)

section
variable {α T : Type}

structure Host.Has (h : Host α T) (s : Schema) : Prop where
  found : analysis.schema? h.schema = some (.ofSchema s)
  accepted : (bind s).result = some (.ofSchema s)
  distinguished : Distinguished s.fields

def Host.value (h : Host α T) (x : T) (field : String) : Value α := ((h.fields x).lookup (Emission.ident field)).getD (.text "")

structure Host.Holds (h : Host α T) (s : Schema) (x : T) : Prop where
  fields : h.fields x = stored s.fields (h.value x)
  read : h.ofFields? (h.fields x) = some x

def Host.gathered (h : Host α T) (s : Schema) (values : String → Value α) (rules : List Rule) : List DomainError :=
  rules.foldl (fun errors r => check errors (s.messagePath r) (h.rule r.name (r.params.map fun p => values p.name))) []

theorem findings_gathered (h : Host α T) (s : Schema) (values : String → Value α) (rules : List Rule) :
    findings (report h.meaning s) values rules = h.gathered s values rules := by
  have onto (errors : List DomainError) :
      rules.foldl (fun errors r => check errors (s.messagePath r) (h.rule r.name (r.params.map fun p => values p.name))) errors =
        errors ++ findings (report h.meaning s) values rules := by
    induction rules generalizing errors with
    | nil => exact (List.append_nil _).symm
    | cons r rest ih =>
      rw [List.foldl_cons,ih,check,List.append_assoc]
      rfl
  exact (onto []).symm

theorem stored_congr {fields : List Field} {values values' : String → Value α}
    (same : ∀ f ∈ fields, values f.name = values' f.name) : stored fields values = stored fields values' :=
  List.map_congr_left fun f member => by rw [same f member]

theorem findings_congr {report : Rule → List (Value α) → List DomainError} {rules : List Rule} {fields : List Field}
    (bound : ∀ r ∈ rules, ∀ p ∈ r.params, ∃ f ∈ fields, f.name = p.name) {values values' : String → Value α}
    (same : ∀ f ∈ fields, values f.name = values' f.name) : findings report values rules = findings report values' rules := by
  unfold findings
  apply List.flatMap_congr
  intro r member
  have taken : (r.params.map fun p => values p.name) = r.params.map fun p => values' p.name := by
    apply List.map_congr_left
    intro p param
    obtain ⟨f,inside,named⟩ := bound r member p param
    rw [← named,same f inside]
  rw [Rule.findings,Rule.findings,taken]

variable {h : Host α T} {s : Schema} (given : List (Emission.Given (Value α)))

theorem Host.Has.construct_fails (has : h.Has s) (params : given.map Prod.fst = s.parameters)
    (fits : given.Forall fun g => g.2.Fits g.1.nesting) (failing : given.any (·.2.fails) = true) :
    h.construct? (given.map Prod.snd) = some (.failure (Emission.failures given)) := by
  obtain ⟨g,member,failing⟩ := List.any_eq_true.mp failing
  have ran := (Emission.constructor_fails h.meaning has.distinguished params (List.forall_iff_forall_mem.mp fits) member
    failing []).1
  simp only [Host.construct?,has.found,Option.bind_eq_bind,Option.bind_some,BoundSchema.ofSchema,ran]

theorem Host.Has.construct_makes (has : h.Has s) (params : given.map Prod.fst = s.parameters)
    (fits : given.Forall fun g => g.2.Fits g.1.nesting) (ok : given.Forall fun g => g.2.fails = false) {x : T}
    (holds : h.Holds s x) (plain : given.Forall fun g => g.2.plain? h.meaning = some (h.value x g.1.name))
    (initial : s.fields.Forall fun f => f.isParameter = false → h.value x f.name = Value.initial f.type) :
    h.construct? (given.map Prod.snd) = some (build (h.gathered s (h.value x) s.rules) x) := by
  rw [List.forall_iff_forall_mem] at fits ok plain initial
  have bound : ∀ r ∈ s.rules, ∀ p ∈ r.params, ∃ f ∈ s.fields, f.name = p.name := bound_params has.accepted
  obtain ⟨values,taken,fixed,ran⟩ := Emission.constructor_yields h.meaning has.distinguished.idents
    (fun _ => has.distinguished.free) bound params fits ok []
  have same : ∀ f ∈ s.fields, values f.name = h.value x f.name := by
    intro f member
    cases parameter : f.isParameter with
    | false => exact (fixed f member parameter).trans (initial f member parameter).symm
    | true =>
      have passed : f ∈ given.map Prod.fst := params ▸ List.mem_filter.mpr ⟨member,parameter⟩
      obtain ⟨g,inside,rfl⟩ := List.mem_map.mp passed
      exact Option.some.inj ((taken g inside).symm.trans (plain g inside))
  rw [stored_congr same,findings_congr bound same,← holds.fields,findings_gathered] at ran
  by_cases silent : h.gathered s (h.value x) s.rules = [] <;>
    simp [Host.construct?,has.found,BoundSchema.ofSchema,ran,build,silent,holds.read]

variable {f : Field} {x y : T} {c : Content (Value α)}

theorem Host.Has.set_fails (has : h.Has s) (settable : s.settableFields.find? (·.name == f.name) = some f)
    (holds : h.Holds s x) (fits : c.Fits f.nesting) (failing : c.fails = true) :
    h.set? x f.name c = some (.error ⟨c.failures f.errorPath⟩,x) := by
  have member : f ∈ s.fields := (List.mem_filter.mp (List.mem_of_find?_eq_some settable)).1
  have ran := (Emission.setter_fails (b := .ofSchema s) h.meaning (has.distinguished.free f member) (h.fields x)
    fits failing).1
  have schema : (BoundSchema.ofSchema s).schema = s := rfl
  simp only [Host.set?,has.found,Option.bind_eq_bind,Option.bind_some,schema,settable,ran,holds.read]
  rfl

theorem Host.Has.set_changes (has : h.Has s) (settable : s.settableFields.find? (·.name == f.name) = some f)
    (holds : h.Holds s x) (holds' : h.Holds s y)
    (others : s.fields.Forall fun g => g.name ≠ f.name → h.value y g.name = h.value x g.name) (fits : c.Fits f.nesting)
    (plain : c.plain? h.meaning = some (h.value y f.name)) (ok : c.fails = false) :
    h.set? x f.name c =
      some (settle x (accept (h.gathered s (h.value y) ((BoundSchema.ofSchema s).rulesFor f.name)) y)) := by
  have member : f ∈ s.fields := (List.mem_filter.mp (List.mem_of_find?_eq_some settable)).1
  obtain ⟨v,taken,-,ran⟩ := Emission.setter_settles h.meaning has.accepted has.distinguished member (h.value x) fits ok
  cases Option.some.inj (taken.symm.trans plain)
  have schema : (BoundSchema.ofSchema s).schema = s := rfl
  have same : ∀ g ∈ s.fields, Function.update (h.value x) f.name (h.value y f.name) g.name = h.value y g.name := by
    intro g inside
    by_cases own : g.name = f.name
    · rw [own,Function.update_self]
    · rw [Function.update_of_ne own,List.forall_iff_forall_mem.mp others g inside own]
  have bound : ∀ r ∈ (BoundSchema.ofSchema s).rulesFor f.name, ∀ p ∈ r.params, ∃ f ∈ s.fields, f.name = p.name := by
    intro r asked
    rw [bound_rulesFor has.accepted] at asked
    exact bound_params has.accepted r (List.mem_filter.mp asked).1
  rw [schema,stored_congr same,findings_congr bound same,← holds.fields,← holds'.fields,findings_gathered] at ran
  by_cases silent : h.gathered s (h.value y) ((BoundSchema.ofSchema s).rulesFor f.name) = [] <;>
    simp [Host.set?,has.found,schema,settable,ran,accept,settle,silent,holds.read,holds'.read]

end

end DomainSchema.Samples
