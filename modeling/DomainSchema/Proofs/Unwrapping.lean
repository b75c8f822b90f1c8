import DomainSchema.Proofs.Arguments

namespace DomainSchema.Emission

section
variable {V : Type} (m : Meaning V)

abbrev Given (V : Type) := Field × Content V

def Given.ident (g : Given V) : String := Emission.ident g.1.name

def failures (given : List (Given V)) : List DomainError := given.flatMap fun g => g.2.failures g.1.errorPath

structure Passed (f : Frame V) (given : List (Given V)) : Prop where
  distinct : (given.map Given.ident).Nodup
  free : errorsLocal ∉ given.map Given.ident
  fits : ∀ g ∈ given, g.2.Fits g.1.nesting
  held : ∀ g ∈ given, f.locals.lookup g.ident = some g.2

-- Every local is replaced by what its unwrapping yields. The errors come in the order of the fields.
theorem aggregates_pass {given : List (Given V)} {f : Frame V} {found : List DomainError} (passed : Passed f given)
    (nested : ∀ g ∈ given, g.1.isNested = true) (there : f.errors? = some found) :
    ∃ after, Passes m f (given.map fun g => .aggregate (aggregation g.1)) after ∧ after.object = f.object ∧
      after.errors? = some (found ++ failures given) ∧
      (∀ g ∈ given, after.locals.lookup g.ident = some (.unwrapped (g.2.plain? m))) ∧
      ∀ name, name ∉ given.map Given.ident → name ≠ errorsLocal → after.locals.lookup name = f.locals.lookup name := by
  induction given generalizing f found with
  | nil => exact ⟨f,.nil,rfl,by simpa [failures] using there,by simp,fun _ _ _ => rfl⟩
  | cons g rest ih =>
    obtain ⟨distinct,free,fits,held⟩ := passed
    rw [List.map_cons,List.nodup_cons] at distinct
    rw [List.map_cons,List.mem_cons,not_or] at free
    have own : g.ident ≠ errorsLocal := Ne.symm free.1
    let errors := found ++ g.2.failures g.1.errorPath
    let middle := (f.setErrors errors).bind g.ident (.unwrapped (g.2.plain? m))
    have step : Statement.run m f (.aggregate (aggregation g.1)) = .ok middle := by
      have ran := aggregation_run m (nested g (by simp)) (fits g (by simp)) there (held g (by simp))
      simp only [Statement.run,ran]
      rfl
    have middleErrors : middle.errors? = some errors := by
      rw [errors_lookup,bind_lookup,if_neg (Ne.symm own)]
      exact errors_lookup.mp (setErrors_errors there errors)
    have unchanged : ∀ name, name ≠ g.ident → name ≠ errorsLocal → middle.locals.lookup name = f.locals.lookup name := by
      intro name other notErrors
      rw [bind_lookup,if_neg other,setErrors_lookup f errors notErrors]
    have later : Passed middle rest := by
      refine ⟨distinct.2,free.2,fun other member => fits other (List.mem_cons_of_mem _ member),?_⟩
      intro other member
      have listed := List.mem_map_of_mem (f := Given.ident) member
      rw [unchanged other.ident (fun same => distinct.1 (same ▸ listed)) (fun same => free.2 (same ▸ listed))]
      exact held other (List.mem_cons_of_mem _ member)
    obtain ⟨after,path,object,afterErrors,unwrapped,rest⟩ :=
      ih later (fun other member => nested other (List.mem_cons_of_mem _ member)) middleErrors
    refine ⟨after,.cons step path,object,?_,?_,?_⟩
    · rw [afterErrors]
      simp [errors,failures]
    · intro other member
      rcases List.mem_cons.mp member with rfl | member
      · rw [rest other.ident distinct.1 own,bind_lookup,if_pos rfl]
      · exact unwrapped other member
    · intro name absent notErrors
      rw [List.map_cons,List.mem_cons,not_or] at absent
      rw [rest name absent.2 notErrors,unchanged name absent.1 notErrors]

theorem unwrappedValues_read {given : List (Given V)} {locals : Locals V}
    (held : ∀ g ∈ given, locals.lookup g.ident = some (.unwrapped (g.2.plain? m))) :
    unwrappedValues locals (given.map fun g => g.1.name) =
      some (given.mapM fun g => (g.2.plain? m).map fun v => (g.ident,v)) := by
  induction given with
  | nil => rfl
  | cons g rest ih =>
    have first := held g (by simp)
    have tail := ih fun other member => held other (List.mem_cons_of_mem _ member)
    rw [Given.ident] at first
    simp only [List.map_cons,unwrappedValues,first,tail,Option.bind_eq_bind,Option.bind_some,List.mapM_cons]
    cases g.2.plain? m <;> rfl

theorem unwrapAll_run {given : List (Given V)} {f : Frame V} (value : Given V → V)
    (plain : ∀ g ∈ given, g.2.plain? m = some (value g))
    (held : ∀ g ∈ given, f.locals.lookup g.ident = some (.unwrapped (g.2.plain? m))) :
    Statement.run m f (.unwrapAll (given.map fun g => g.1.name)) =
      .ok (f.enter (given.map fun g => (g.ident,.value (value g)))) := by
  have values : unwrappedValues f.locals (given.map fun g => g.1.name) =
      some (some (given.map fun g => (g.ident,value g))) := by
    rw [unwrappedValues_read m held,mapM_found fun g => (g.ident,value g)]
    intro g member
    simp [plain g member]
  simp only [Statement.run,values,List.map_map]
  rfl

def unwrapping (nested : List Field) : List Statement :=
  if nested.isEmpty then []
  else nested.map (fun f => .aggregate (aggregation f)) ++ [.unwrapAll (nested.map (·.name))]

theorem unwrapping_given {given : List (Given V)} (some : given ≠ []) :
    unwrapping (given.map Prod.fst) =
      given.map (fun g => .aggregate (aggregation g.1)) ++ [.unwrapAll (given.map fun g => g.1.name)] := by
  simp [unwrapping,some,Function.comp_def]

theorem aggregates_ask_nothing (given : List (Given V)) :
    (given.map fun g => Statement.aggregate (aggregation g.1)).filterMap Statement.asks? = [] := by
  simp [List.filterMap_map,Statement.asks?,Function.comp_def]

-- One failing argument ends the routine with the errors of all of them, before any rule is asked.
theorem unwrapping_fails {given : List (Given V)} {f : Frame V} {found : List DomainError} (passed : Passed f given)
    (nested : ∀ g ∈ given, g.1.isNested = true) (there : f.errors? = some found)
    {g : Given V} (member : g ∈ given) (failing : g.2.fails = true) (rest : List Statement) :
    runStatements m f (unwrapping (given.map Prod.fst) ++ rest) = (.failed (found ++ failures given),f.object) ∧
      asked m f (unwrapping (given.map Prod.fst) ++ rest) = [] := by
  obtain ⟨after,path,object,errors,unwrapped,-⟩ := aggregates_pass m passed nested there
  have missing : unwrappedValues after.locals (given.map fun g => g.1.name) = some none := by
    rw [unwrappedValues_read m unwrapped,mapM_missing member (by simp [not_plain_of_fails failing])]
  have stop : Statement.run m after (.unwrapAll (given.map fun g => g.1.name)) =
      .error (.failed (found ++ failures given)) := by
    simp only [Statement.run,missing,errors]
  rw [unwrapping_given (List.ne_nil_of_mem member),List.append_assoc]
  refine ⟨?_,?_⟩
  · rw [path.run,List.singleton_append,runStatements,stop]
    simp only [object]
  · rw [path.asked,aggregates_ask_nothing,List.singleton_append,asked,stop]
    rfl

theorem unwrapping_passes {given : List (Given V)} {f : Frame V} (passed : Passed f given)
    (nested : ∀ g ∈ given, g.1.isNested = true) (there : given ≠ [] → f.errors? = some [])
    (ok : ∀ g ∈ given, g.2.fails = false) :
    ∃ after, Passes m f (unwrapping (given.map Prod.fst)) after ∧ after.object = f.object ∧ after.errors? = f.errors? ∧
      (∀ g ∈ given, ∃ v, g.2.plain? m = some v ∧ after.locals.lookup g.ident = some (.value v)) ∧
      ∀ name, name ∉ given.map Given.ident → name ≠ errorsLocal → after.locals.lookup name = f.locals.lookup name := by
  by_cases none : given = []
  · subst none
    exact ⟨f,.nil,rfl,rfl,by simp,fun _ _ _ => rfl⟩
  · obtain ⟨after,path,object,errors,unwrapped,others⟩ := aggregates_pass m passed nested (there none)
    have silent : failures given = [] := by
      simp only [failures,List.flatMap_eq_nil_iff]
      intro g member
      exact no_failures_of_not_fails _ (ok g member)
    let value (g : Given V) : V := (g.2.plain? m).getD (m.collect [])
    have plain : ∀ g ∈ given, g.2.plain? m = some (value g) := by
      intro g member
      obtain ⟨v,found⟩ := plain_of_not_fails (m := m) (passed.fits g member) (ok g member)
      simp [value,found]
    let entries := given.map fun g => (g.ident,Content.value (value g))
    have keys : entries.map Prod.fst = given.map Given.ident := by simp [entries,Function.comp_def]
    refine ⟨after.enter entries,?_,object,?_,?_,?_⟩
    · rw [unwrapping_given none]
      exact path.append (.single (unwrapAll_run m value plain unwrapped))
    · have kept := errors_of_same_lookup (enter_other (f := after) (by rw [keys]; exact passed.free))
      rw [kept,errors,silent,there none,List.append_nil]
    · intro g member
      refine ⟨value g,plain g member,enter_found (by rw [keys]; exact passed.distinct) ?_⟩
      exact List.mem_map.mpr ⟨g,member,rfl⟩
    · intro name absent notErrors
      rw [enter_other (by rw [keys]; exact absent)]
      exact others name absent notErrors

theorem Passed.sublist {f : Frame V} {given more : List (Given V)} (passed : Passed f more) (part : given.Sublist more) :
    Passed f given where
  distinct := passed.distinct.sublist (part.map _)
  free member := passed.free ((part.map _).subset member)
  fits g member := passed.fits g (part.subset member)
  held g member := passed.held g (part.subset member)

theorem Passed.of_same {f g : Frame V} {given : List (Given V)} (passed : Passed f given)
    (same : ∀ name, name ≠ errorsLocal → g.locals.lookup name = f.locals.lookup name) : Passed g given where
  distinct := passed.distinct
  free := passed.free
  fits := passed.fits
  held a member := by
    rw [same a.ident fun isErrors => passed.free (isErrors ▸ List.mem_map_of_mem member)]
    exact passed.held a member

theorem parameters_pass {given : List (Given V)} {f : Frame V} (passed : Passed f given)
    (there : given.filter (·.1.isNested) ≠ [] → f.errors? = some []) (ok : ∀ g ∈ given, g.2.fails = false) :
    ∃ after, Passes m f (unwrapping ((given.map Prod.fst).filter Field.isNested)) after ∧ after.object = f.object ∧
      after.errors? = f.errors? ∧
      ∀ g ∈ given, ∃ v, g.2.plain? m = some v ∧ after.locals.lookup g.ident = some (.value v) := by
  have part : (given.map Prod.fst).filter Field.isNested = (given.filter (·.1.isNested)).map Prod.fst := by
    rw [List.filter_map]
    rfl
  obtain ⟨after,path,object,errors,values,others⟩ :=
    unwrapping_passes m (passed.sublist List.filter_sublist) (fun g member => (List.mem_filter.mp member).2) there
      fun g member => ok g (List.mem_filter.mp member).1
  rw [← part] at path
  refine ⟨after,path,object,errors,?_⟩
  intro g member
  by_cases nested : g.1.isNested = true
  · exact values g (List.mem_filter.mpr ⟨member,nested⟩)
  · have listed := List.mem_map_of_mem (f := Given.ident) member
    have absent : g.ident ∉ (given.filter (·.1.isNested)).map Given.ident := by
      intro again
      obtain ⟨other,inside,same⟩ := List.mem_map.mp again
      have equal := List.inj_on_of_nodup_map passed.distinct (List.mem_filter.mp inside).1 member same
      exact nested (equal ▸ (List.mem_filter.mp inside).2)
    have kept := others g.ident absent fun isErrors => passed.free (isErrors ▸ listed)
    obtain ⟨v,content⟩ := value_of_plain_field (passed.fits g member) (Bool.eq_false_iff.mpr nested)
    refine ⟨v,by rw [content]; rfl,?_⟩
    rw [kept,passed.held g member,content]

end

end DomainSchema.Emission
