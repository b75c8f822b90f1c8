import DomainSchema.Proofs.Headers
import DomainSchema.Proofs.Isolation
import Mathlib.Data.List.Induction

namespace DomainSchema

def schemasIn (bs : List BoundSchema) (m : Option String) : List BoundSchema := bs.filter (·.schema.home == m)

section
variable {b : BoundSchema} {bs : List BoundSchema} {m : Option String}

theorem schemasIn_own (own : b.schema.home = m) : schemasIn (bs ++ [b]) m = schemasIn bs m ++ [b] := by
  simp [schemasIn,own]

theorem schemasIn_other (other : b.schema.home ≠ m) : schemasIn (bs ++ [b]) m = schemasIn bs m := by
  simp [schemasIn,other]

theorem schemasIn_absent (absent : m ∉ bs.map (·.schema.home)) : schemasIn bs m = [] := by
  rw [schemasIn,List.filter_eq_nil_iff]
  intro b member same
  apply absent
  exact List.mem_map.mpr ⟨b,member,by simpa using same⟩

theorem addToGroups_new {groups : List ModuleGroup} (fresh : b.schema.home ∉ groups.map (·.modulePath)) :
    addToGroups b groups = groups ++ [⟨b.schema.home,[b]⟩] := by
  induction groups with
  | nil => rfl
  | cons g rest ih =>
    rw [List.map_cons,List.mem_cons,not_or] at fresh
    rw [addToGroups,if_neg (Ne.symm fresh.1),ih fresh.2,List.cons_append]

theorem addToGroups_known {modules : List (Option String)} (distinct : modules.Nodup) (known : b.schema.home ∈ modules) :
    addToGroups b (modules.map fun m => ⟨m,schemasIn bs m⟩) = modules.map fun m => ⟨m,schemasIn (bs ++ [b]) m⟩ := by
  induction modules with
  | nil => cases known
  | cons first rest ih =>
    rw [List.nodup_cons] at distinct
    rw [List.map_cons,List.map_cons,addToGroups]
    by_cases here : first = b.schema.home
    · subst here
      rw [if_pos rfl,schemasIn_own rfl]
      congr 1
      apply List.map_congr_left
      intro m later
      rw [schemasIn_other]
      rintro rfl
      exact distinct.1 later
    · have later : b.schema.home ∈ rest := by
        rcases List.mem_cons.mp known with same | later
        · exact absurd same.symm here
        · exact later
      rw [if_neg here,ih distinct.2 later,schemasIn_other (Ne.symm here)]

theorem groupByModule_concat (bs : List BoundSchema) (b : BoundSchema) :
    groupByModule (bs ++ [b]) = addToGroups b (groupByModule bs) := by
  simp [groupByModule]

theorem eraseDups_concat [BEq κ] [LawfulBEq κ] (items : List κ) (item : κ) :
    (items ++ [item]).eraseDups = if item ∈ items then items.eraseDups else items.eraseDups ++ [item] := by
  rw [List.eraseDups_append]
  by_cases known : item ∈ items <;> simp [List.removeAll,List.eraseDups_cons,known]

theorem groupByModule_exact (bs : List BoundSchema) :
    groupByModule bs = (bs.map (·.schema.home)).eraseDups.map fun m => ⟨m,schemasIn bs m⟩ := by
  induction bs using List.reverseRecOn with
  | nil => rfl
  | append_singleton bs b ih =>
    have modules : (groupByModule bs).map (·.modulePath) = (bs.map (·.schema.home)).eraseDups := by
      rw [ih,List.map_map]
      exact List.map_id' _
    rw [groupByModule_concat,List.map_append,List.map_singleton,eraseDups_concat]
    split
    · rename_i known
      have distinct := (groupByModule_modules bs).1
      rw [modules] at distinct
      rw [ih,addToGroups_known distinct (List.mem_eraseDups.mpr known)]
    · rename_i unknown
      have fresh : b.schema.home ∉ (groupByModule bs).map (·.modulePath) := by
        rw [modules,List.mem_eraseDups]
        exact unknown
      have others : (bs.map (·.schema.home)).eraseDups.map (fun m => (⟨m,schemasIn (bs ++ [b]) m⟩ : ModuleGroup)) =
          groupByModule bs := by
        rw [ih]
        apply List.map_congr_left
        intro m old
        rw [schemasIn_other]
        rintro rfl
        exact unknown (List.mem_eraseDups.mp old)
      rw [addToGroups_new fresh,List.map_append,others,List.map_singleton,schemasIn_own rfl,schemasIn_absent unknown,
        List.nil_append]

theorem addToGroups_members (b : BoundSchema) (groups : List ModuleGroup) :
    ((addToGroups b groups).flatMap (·.members)).Perm (b :: groups.flatMap (·.members)) := by
  induction groups with
  | nil => exact .refl _
  | cons g rest ih =>
    rw [addToGroups]
    split
    · rw [List.flatMap_cons,List.flatMap_cons,List.append_assoc]
      exact List.perm_middle
    · rw [List.flatMap_cons,List.flatMap_cons]
      exact (ih.append_left g.members).trans List.perm_middle

theorem groupByModule_members (bs : List BoundSchema) : ((groupByModule bs).flatMap (·.members)).Perm bs := by
  induction bs using List.reverseRecOn with
  | nil => exact .refl _
  | append_singleton bs b ih =>
    rw [groupByModule_concat]
    exact (addToGroups_members b _).trans ((ih.cons b).trans (List.perm_append_singleton b bs).symm)

end

section
variable {a : Analysis} {settings : Settings} {u : GeneratedUnit}

theorem generate_modules (a : Analysis) (settings : Settings) :
    (generate a settings).map (·.modulePath) = (a.schemas.map (·.schema.home)).eraseDups := by
  rw [generate,groupByModule_exact,List.map_map,List.map_map]
  exact List.map_id' _

theorem unit_of_module : u ∈ generate a settings ↔
    ∃ b ∈ a.schemas, u = ModuleGroup.unit ⟨b.schema.home,schemasIn a.schemas b.schema.home⟩ settings := by
  rw [generate,groupByModule_exact,List.map_map,List.mem_map]
  constructor
  · rintro ⟨m,first,rfl⟩
    obtain ⟨b,member,rfl⟩ := List.mem_map.mp (List.mem_eraseDups.mp first)
    exact ⟨b,member,rfl⟩
  · rintro ⟨b,member,rfl⟩
    exact ⟨_,List.mem_eraseDups.mpr (List.mem_map.mpr ⟨b,member,rfl⟩),rfl⟩

theorem unit_unique {v : GeneratedUnit} (here : u ∈ generate a settings) (there : v ∈ generate a settings)
    (same : u.modulePath = v.modulePath) : u = v := by
  obtain ⟨b,-,rfl⟩ := unit_of_module.mp here
  obtain ⟨b',-,rfl⟩ := unit_of_module.mp there
  have modules : b.schema.home = b'.schema.home := same
  rw [modules]

theorem unit_found {m : Option String} {ds : Diagnostics} :
    Generated.unit? ⟨generate a settings,ds⟩ m = some u ↔ u ∈ generate a settings ∧ u.modulePath = m := by
  constructor
  · intro found
    exact ⟨List.mem_of_find?_eq_some found,by simpa using List.find?_some found⟩
  · rintro ⟨member,rfl⟩
    have some : (Generated.unit? ⟨generate a settings,ds⟩ u.modulePath).isSome = true :=
      List.find?_isSome.mpr ⟨u,member,by simp⟩
    obtain ⟨v,found⟩ := Option.isSome_iff_exists.mp some
    have same : v.modulePath = u.modulePath := by simpa using List.find?_some found
    rw [found,unit_unique (List.mem_of_find?_eq_some found) member same]

-- An analysis is divided among one unit for each module with a schema, in the order in which the modules first occur. A unit
-- has the schemas of its module, in their order, each schema is in one unit, and a unit is found under its module alone;
-- the root is asked for without a path.
theorem generate_divides (a : Analysis) (settings : Settings) :
    let units := generate a settings
    units.map (·.modulePath) = (a.schemas.map (·.schema.home)).eraseDups ∧
    (∀ u ∈ units,
      let own := a.schemas.filter (·.schema.home == u.modulePath)
      let body := Text.join "\n" (own.map (Emission.schemaText · settings))
      u.schemas = own.map (·.schema.name) ∧ u.code = if settings.output.header then header body ++ "\n" ++ body else body) ∧
    (∀ b ∈ a.schemas, ∃! u, u ∈ units ∧ u.modulePath = b.schema.home) ∧
    (units.flatMap (·.schemas)).Perm (a.schemas.map (·.schema.name)) ∧
    ∀ ds : Diagnostics,
      let output : Generated := ⟨units,ds⟩
      output.schemaCount = a.schemas.length ∧
      (∀ m u, output.unit? m = some u ↔ u ∈ units ∧ u.modulePath = m) ∧
      (∀ m, output.unit? m = none ↔ ∀ b ∈ a.schemas, b.schema.home ≠ m) ∧ output.unit? (some "") = none := by
  intro units
  have names : (units.flatMap (·.schemas)).Perm (a.schemas.map (·.schema.name)) := by
    have whole := (groupByModule_members a.schemas).map (·.schema.name)
    rw [List.map_flatMap] at whole
    have parts : units = (groupByModule a.schemas).map (·.unit settings) := rfl
    rw [parts,List.flatMap_map]
    exact whole
  refine ⟨generate_modules a settings,?_,?_,names,?_⟩
  · intro u member
    obtain ⟨b,-,rfl⟩ := unit_of_module.mp member
    exact ⟨rfl,rfl⟩
  · intro b member
    refine ⟨_,⟨unit_of_module.mpr ⟨b,member,rfl⟩,rfl⟩,?_⟩
    rintro u ⟨here,same⟩
    exact unit_unique here (unit_of_module.mpr ⟨b,member,rfl⟩) same
  · intro ds output
    have absent : ∀ m, output.unit? m = none ↔ ∀ b ∈ a.schemas, b.schema.home ≠ m := by
      intro m
      rw [Generated.unit?,List.find?_eq_none]
      constructor
      · intro none b member same
        exact none _ (unit_of_module.mpr ⟨b,member,rfl⟩) (by simp [ModuleGroup.unit,same])
      · intro none u here same
        obtain ⟨b,member,rfl⟩ := unit_of_module.mp here
        exact none b member (by simpa [ModuleGroup.unit] using same)
    refine ⟨?_,fun m u => unit_found,absent,?_⟩
    · have count := names.length_eq
      rwa [List.length_map] at count
    · refine (absent _).mpr fun b _ same => ?_
      have filled := (Option.filter_eq_some_iff.mp same).2
      cases filled

end

-- An amount and a weight of the root, which the weight names by an empty path, with a price of another module between them.
def weight : Declaration := { amount with name := "Weight", modulePath := some "" }

theorem root_gathered :
    let output := compile ⟨[amount,price,weight]⟩ {}
    output.units.map (·.modulePath) = [none,some "shop"] ∧ output.unit? (some "") = none ∧ output.schemaCount = 3 ∧
      ∃ u, output.unit? none = some u ∧ u.schemas = ["crate::Amount","crate::Weight"] := by
  intro output
  obtain ⟨modules,contents,single,-,finding⟩ := generate_divides (analyze ⟨[amount,price,weight]⟩ {}) {}
  obtain ⟨count,found,-,unspelled⟩ := finding output.diagnostics
  have first : ∃ b ∈ (analyze ⟨[amount,price,weight]⟩ {}).schemas, b.schema.home = none := by decide
  obtain ⟨b,member,root⟩ := first
  obtain ⟨u,⟨here,own⟩,-⟩ := single b member
  rw [root] at own
  refine ⟨modules.trans (by decide),unspelled,count.trans (by decide),u,(found none u).mpr ⟨here,own⟩,?_⟩
  rw [(contents u here).1,own]
  decide

-- Every unit with a header is read back as the texts of its schemas, with the fingerprint they have; and so is whatever text
-- a header is put before.
theorem header_read_back :
    (∀ (g : Declarations) (settings : Settings), settings.output.header = true → ∀ u ∈ (compile g settings).units,
      let own := (analyze g settings).schemas.filter (·.schema.home == u.modulePath)
      let body := Text.join "\n" (own.map (Emission.schemaText · settings))
      u.schemas = own.map (·.schema.name) ∧ Fingerprint.readHeader? u.code = some (.ofText body,body) ∧
        (Fingerprint.ofText body).verifies body = true) ∧
    ∀ body, Fingerprint.readHeader? (header body ++ "\n" ++ body) = some (.ofText body,body) := by
  refine ⟨?_,fun body => Fingerprint.readHeader_header body body⟩
  intro g settings headed u member
  obtain ⟨b,-,rfl⟩ := unit_of_module.mp member
  have code : (ModuleGroup.unit ⟨b.schema.home,schemasIn (analyze g settings).schemas b.schema.home⟩ settings).code =
      withHeader _ := if_pos headed
  refine ⟨rfl,?_,by simp [Fingerprint.verifies]⟩
  rw [code]
  exact Fingerprint.readHeader_header _ _

theorem price_read_back :
    let g : Declarations := ⟨[amount,price]⟩
    let shown := Text.join "\n" (((analyze g {}).schemas.filter (·.schema.home == some "shop")).map (Emission.schemaText · {}))
    ∃ u, (compile g {}).unit? (some "shop") = some u ∧ Fingerprint.readHeader? u.code = some (.ofText shown,shown) := by
  intro g shown
  have some : ((compile g {}).unit? (some "shop")).isSome = true := by decide
  obtain ⟨u,found⟩ := Option.isSome_iff_exists.mp some
  have own : u.modulePath = Option.some "shop" := by simpa using List.find?_some found
  have read := (header_read_back.1 g {} rfl u (List.mem_of_find?_eq_some found)).2.1
  rw [own] at read
  exact ⟨u,found,read⟩

end DomainSchema
