import DomainSchema.Emission.Names
import DomainSchema.Proofs.Paths

namespace DomainSchema.Emission

structure IsIdentifier (name : String) : Prop where
  nonempty : name ≠ ""
  undotted : '.' ∉ name.toList
  uncoloned : ':' ∉ name.toList
  unslashed : '/' ∉ name.toList

-- A path as modules have it. The root has no path or an empty one; its own name is a keyword, so no module is called by it.
inductive ModulePath : Option String → Prop
  | absent : ModulePath none
  | empty : ModulePath (some "")
  | nested (names : List String) (some_ : names ≠ []) (identifiers : ∀ name ∈ names, IsIdentifier name)
      (below : Text.join "::" names ≠ "crate") : ModulePath (some (Text.join "::" names))

structure IsSegment (name : String) : Prop where
  nonempty : name ≠ ""
  undotted : '.' ∉ name.toList
  uncoloned : ':' ∉ name.toList

inductive Denotes : Option String → List String → Prop
  | absent : Denotes none []
  | empty : Denotes (some "") []
  | nested {names : List String} (some_ : names ≠ []) (segments : ∀ name ∈ names, IsSegment name)
      (below : names ≠ ["crate"]) : Denotes (some (Text.join "::" names)) names

def IsRoot (m : Option String) : Prop := m = none ∨ m = some ""

def stemNames (names : List String) : List String := if names = [] then ["crate"] else names

section
variable {names : List String}

theorem join_more (separator first second : String) (rest : List String) :
    (Text.join separator (first :: second :: rest)).toList =
      first.toList ++ separator.toList ++ (Text.join separator (second :: rest)).toList := by
  simp [Text.join]

theorem dotted_other {c : Char} (other : c ≠ ':') (rest : List Char) : Text.dotted (c :: rest) = c :: Text.dotted rest :=
  Text.dotted.eq_2 c rest fun _ colon _ => other colon

theorem dotted_append {front : List Char} (free : ':' ∉ front) (back : List Char) :
    Text.dotted (front ++ back) = front ++ Text.dotted back := by
  induction front with
  | nil => rfl
  | cons c rest ih =>
    rw [List.mem_cons,not_or] at free
    rw [List.cons_append,dotted_other (Ne.symm free.1),ih free.2,List.cons_append]

theorem dotted_join (free : ∀ name ∈ names, ':' ∉ name.toList) :
    Text.dotted (Text.join "::" names).toList = (Text.join "." names).toList := by
  induction names with
  | nil => rfl
  | cons first rest ih =>
    have own := free first (by simp)
    have others := ih fun name member => free name (List.mem_cons_of_mem _ member)
    cases rest with
    | nil =>
      have single := dotted_append own []
      simpa [Text.join,Text.dotted] using single
    | cons second more =>
      rw [join_more,join_more,List.append_assoc,dotted_append own,List.append_assoc,← others]
      rfl

-- Names between points can be told apart, as there are no points in them.
theorem join_injective {names' : List String} (some_ : names ≠ []) (some' : names' ≠ [])
    (free : ∀ name ∈ names, '.' ∉ name.toList) (free' : ∀ name ∈ names', '.' ∉ name.toList)
    (same : Text.join "." names = Text.join "." names') : names = names' := by
  induction names generalizing names' with
  | nil => exact absurd rfl some_
  | cons first rest ih =>
    cases names' with
    | nil => exact absurd rfl some'
    | cons first' rest' =>
      have own := free first (by simp)
      have own' := free' first' (by simp)
      have text := congrArg String.toList same
      cases rest with
      | nil =>
        cases rest' with
        | nil => exact congrArg (fun name => [name]) same
        | cons second' more' =>
          rw [join_more] at text
          exact absurd (by simp [show first.toList = _ from text]) own
      | cons second more =>
        cases rest' with
        | nil =>
          rw [join_more] at text
          exact absurd (by simp [show first'.toList = _ from text.symm]) own'
        | cons second' more' =>
          rw [join_more,join_more,List.append_assoc,List.append_assoc] at text
          obtain ⟨equal,others⟩ := before_mark own own' text
          have tails := ih (by simp) (by simp) (fun name member => free name (List.mem_cons_of_mem _ member))
            (fun name member => free' name (List.mem_cons_of_mem _ member)) (String.toList_inj.mp others)
          rw [String.toList_inj.mp equal,tails]

theorem mem_join {c : Char} {separator : String} (apart : c ∉ separator.toList) :
    c ∈ (Text.join separator names).toList ↔ ∃ name ∈ names, c ∈ name.toList := by
  induction names with
  | nil => simp [Text.join]
  | cons first rest ih =>
    cases rest with
    | nil => simp [Text.join]
    | cons second more =>
      rw [join_more,List.mem_append,List.mem_append,ih,List.exists_mem_cons_iff]
      simp [apart]

theorem join_nonempty (separator : String) (some_ : names ≠ []) (given : ∀ name ∈ names, name ≠ "") :
    Text.join separator names ≠ "" := by
  obtain ⟨first,rest,rfl⟩ := List.exists_cons_of_ne_nil some_
  have own := given first (by simp)
  cases rest with
  | nil => exact own
  | cons second more =>
    intro empty
    have text := congrArg String.toList empty
    rw [join_more] at text
    simp [own] at text

end

section
variable {m m' : Option String} {names names' : List String}

namespace Denotes

theorem root_iff (path : Denotes m names) : IsRoot m ↔ names = [] := by
  cases path with
  | absent => simp [IsRoot]
  | empty => simp [IsRoot]
  | nested some_ segments below =>
    have given := join_nonempty "::" some_ fun name member => (segments name member).nonempty
    simp [IsRoot,given,some_]

theorem stem_segments (path : Denotes m names) : stemNames names ≠ [] ∧ ∀ name ∈ stemNames names, IsSegment name := by
  have root : IsSegment "crate" := ⟨by decide,by decide,by decide⟩
  cases path with
  | absent | empty => simp [stemNames,root]
  | nested some_ segments below =>
    rw [stemNames,if_neg some_]
    exact ⟨some_,segments⟩

theorem file (path : Denotes m names) : unitFileName m = Text.join "." (stemNames names) ++ ".domain.rs" := by
  cases path with
  | absent => rfl
  | empty => rfl
  | nested some_ segments below =>
    have given := join_nonempty "::" some_ fun name member => (segments name member).nonempty
    rw [unitFileName,if_neg (by simpa using given),dotted_join fun name member => (segments name member).uncoloned,
      String.ofList_toList,stemNames,if_neg some_]

theorem stem_inj (path : Denotes m names) (path' : Denotes m' names') (same : stemNames names = stemNames names') :
    names = names' := by
  have other {m : Option String} {names : List String} (path : Denotes m names) : names ≠ ["crate"] := by
    cases path with
    | absent | empty => simp
    | nested _ _ below => exact below
  unfold stemNames at same
  split at same
  · rename_i root
    split at same
    · rename_i root'
      rw [root,root']
    · exact absurd same.symm (other path')
  · split at same
    · exact absurd same (other path)
    · exact same

theorem file_iff (path : Denotes m names) (path' : Denotes m' names') :
    unitFileName m = unitFileName m' ↔ names = names' := by
  constructor
  · intro same
    obtain ⟨some_,segments⟩ := path.stem_segments
    obtain ⟨some',segments'⟩ := path'.stem_segments
    rw [path.file,path'.file] at same
    refine path.stem_inj path' (join_injective some_ some' ?_ ?_ ((String.append_left_inj _).mp same))
    · exact fun name member => (segments name member).undotted
    · exact fun name member => (segments' name member).undotted
  · rintro rfl
    rw [path.file,path'.file]

theorem names_iff (path : Denotes m names) (path' : Denotes m' names') :
    names = names' ↔ IsRoot m ∧ IsRoot m' ∨ m = m' := by
  constructor
  · rintro rfl
    by_cases root : names = []
    · exact .inl ⟨path.root_iff.mpr root,path'.root_iff.mpr root⟩
    · cases path with
      | absent | empty => exact absurd rfl root
      | nested some_ segments below =>
        cases path' with
        | absent | empty => exact absurd rfl root
        | nested => exact .inr rfl
  · rintro (⟨root,root'⟩ | rfl)
    · rw [path.root_iff.mp root,path'.root_iff.mp root']
    · exact (path.file_iff path').mp rfl

theorem file_slash (path : Denotes m names) : '/' ∈ (unitFileName m).toList ↔ ∃ name ∈ names, '/' ∈ name.toList := by
  have stem : (∃ name ∈ stemNames names, '/' ∈ name.toList) ↔ ∃ name ∈ names, '/' ∈ name.toList := by
    unfold stemNames
    split
    · rename_i root
      rw [root]
      decide
    · exact Iff.rfl
  rw [path.file,String.toList_append,List.mem_append,mem_join (by decide),stem]
  simp

end Denotes

theorem unitFileName_filter (m : Option String) : unitFileName (m.filter fun path => !path.isEmpty) = unitFileName m := by
  cases m with
  | none => rfl
  | some path =>
    cases empty : path.isEmpty with
    | true => simp [Option.filter,unitFileName,empty]
    | false => simp [Option.filter,empty]

theorem ModulePath.denotes (path : ModulePath m) : ∃ names, Denotes m names ∧ ∀ name ∈ names, IsIdentifier name := by
  cases path with
  | absent => exact ⟨[],.absent,by simp⟩
  | empty => exact ⟨[],.empty,by simp⟩
  | nested names some_ identifiers below =>
    have segments (name : String) (member : name ∈ names) : IsSegment name :=
      ⟨(identifiers name member).nonempty,(identifiers name member).undotted,(identifiers name member).uncoloned⟩
    exact ⟨names,.nested some_ segments fun same => below (by rw [same]; rfl),identifiers⟩

theorem unitFileName_inj (path : ModulePath m) (path' : ModulePath m') : unitFileName m = unitFileName m' ↔
    (m.filter fun path => !path.isEmpty) = m'.filter fun path => !path.isEmpty := by
  have root {m : Option String} (is : IsRoot m) : (m.filter fun path => !path.isEmpty) = none := by
    rcases is with rfl | rfl <;> rfl
  constructor
  · intro same
    obtain ⟨names,denotes,-⟩ := path.denotes
    obtain ⟨names',denotes',-⟩ := path'.denotes
    rcases (denotes.names_iff denotes').mp ((denotes.file_iff denotes').mp same) with ⟨is,is'⟩ | rfl
    · rw [root is,root is']
    · rfl
  · intro same
    rw [← unitFileName_filter m,same,unitFileName_filter m']

theorem unitFileName_ends (m : Option String) : ".domain.rs".toList <:+ (unitFileName m).toList := by
  cases m with
  | none => decide
  | some path =>
    cases empty : path.isEmpty with
    | true =>
      rw [unitFileName,if_pos empty]
      decide
    | false =>
      rw [unitFileName,if_neg (by simp [empty]),String.toList_append]
      exact List.suffix_append _ _

theorem unitFileName_unslashed (path : ModulePath m) : '/' ∉ (unitFileName m).toList := by
  obtain ⟨names,denotes,identifiers⟩ := path.denotes
  rw [denotes.file_slash]
  rintro ⟨name,member,slash⟩
  exact (identifiers name member).unslashed slash

theorem unitFileName_isName : Path.IsName (unitFileName m) ↔ '/' ∉ (unitFileName m).toList := by
  have long := (unitFileName_ends m).length_le
  refine ⟨(·.single),fun single => ⟨single,?_,?_,?_⟩⟩
  all_goals
    intro same
    rw [same] at long
    exact absurd long (by decide)

-- Two modules have one file exactly where both are the root or they are the same. Its name has the ending of units, and
-- is a single component of a path unless a name on the way to the module has a slash, which no identifier has.
theorem unit_files_apart (path : Denotes m names) (path' : Denotes m' names') :
    (unitFileName m = unitFileName m' ↔ IsRoot m ∧ IsRoot m' ∨ m = m') ∧
    (∃ stem, stem ≠ "" ∧ unitFileName m = stem ++ ".domain.rs") ∧
    (Path.IsName (unitFileName m) ↔ ∀ name ∈ names, '/' ∉ name.toList) := by
  refine ⟨(path.file_iff path').trans (path.names_iff path'),⟨_,?_,path.file⟩,?_⟩
  · obtain ⟨some_,segments⟩ := path.stem_segments
    exact join_nonempty "." some_ fun name member => (segments name member).nonempty
  · rw [unitFileName_isName,path.file_slash]
    simp

theorem geo_beside_root : Denotes (some "shapes::geo") ["shapes","geo"] ∧ Denotes none [] ∧
    unitFileName (some "shapes::geo") ≠ unitFileName none ∧ Path.IsName (unitFileName (some "shapes::geo")) := by
  have geo : Denotes (some "shapes::geo") ["shapes","geo"] := by
    have segments : ∀ name ∈ ["shapes","geo"], IsSegment name := by
      simp only [List.forall_mem_cons]
      exact ⟨⟨by decide,by decide,by decide⟩,⟨by decide,by decide,by decide⟩,by simp⟩
    exact .nested (by simp) segments (by decide)
  obtain ⟨apart,-,single⟩ := unit_files_apart geo .absent
  refine ⟨geo,.absent,?_,single.mpr (by decide)⟩
  rw [Ne,apart]
  simp [IsRoot]

end

end DomainSchema.Emission
