import DomainSchema.Declaration.Loading
import DomainSchema.Proofs.Descents
import DomainSchema.Proofs.Sorting
import Mathlib.Data.List.Lex
import Mathlib.Data.String.Basic

namespace DomainSchema
open DomainSchema.Path

theorem Place.le_iff (place there : Place) : Place.le place there = true ↔ place ≤ there := by
  induction place generalizing there with
  | nil =>
    rw [Place.le,← not_lt]
    simp
  | cons a as ih =>
    cases there with
    | nil =>
      rw [Place.le,← not_lt]
      simp
    | cons b bs =>
      have core : a :: as ≤ b :: bs ↔ a < b ∨ a = b ∧ as ≤ bs := by
        rw [← not_lt,← not_lt]
        exact List.cons_le_cons_iff
      rw [core,← ih bs,Place.le]
      simp

namespace Declarations

structure DeclaredAt (t : FileTree) (place names : Place) : Prop where
  file : ∃ text, t.node? (place ++ names) = some (.file text)
  extension : ∃ stem, stem ≠ "" ∧ names.getLast? = some (stem ++ ".json")

def Openable (directory : String) (names : Place) : Prop := (below directory names).utf8ByteSize < 4096

instance (directory : String) (names : Place) : Decidable (Openable directory names) := inferInstanceAs (Decidable (_ < _))

-- The paths of all counted files below a directory, by their components.
def Lists (directory : String) (counted : Place → Prop) (files : List String) : Prop :=
  ∃ found : List Place, files = found.map (below directory) ∧ found.Pairwise (· < ·) ∧ ∀ names, names ∈ found ↔ counted names

inductive Yields (t : FileTree) (path : String) : Except LoadError Declarations → Prop
  | declared (read : t.read path = .ok text) (parsed : ofText text = .ok g) : Yields t path (.ok g)
  | unread (refused : t.read path = .error cause) : Yields t path (.error (.file cause))
  | unparsed (read : t.read path = .ok text) (refused : ofText text = .error cause) :
      Yields t path (.error (.invalid path cause))

def ofInput (t : FileTree) (input : String) : Except LoadError Declarations :=
  if t.isDirectory input then loadDirectory t input else loadFile t input

section
variable {t : FileTree} {place names : Place} {directory path : String} {files : List String}

theorem loadFile_cases : loadFile t path = match t.read path with
    | .error cause => .error (.file cause)
    | .ok text => match ofText text with
      | .error cause => .error (.invalid path cause)
      | .ok g => .ok g := by
  unfold loadFile
  cases t.read path with
  | error cause => rfl
  | ok text =>
    change (ofText text).mapError _ = _
    dsimp only
    cases ofText text <;> rfl

theorem loadFile_iff {r : Except LoadError Declarations} : loadFile t path = r ↔ Yields t path r := by
  rw [loadFile_cases]
  constructor
  · rintro rfl
    cases read : t.read path with
    | error cause => exact .unread read
    | ok text =>
      cases parsed : ofText text with
      | error cause => simpa [parsed] using Yields.unparsed read parsed
      | ok g => simpa [parsed] using Yields.declared read parsed
  · intro yields
    cases yields with
    | declared read parsed => simp [read,parsed]
    | unread refused => simp [refused]
    | unparsed read refused => simp [read,refused]

theorem isDeclarationFile_iff : isDeclarationFile names = true ↔ ∃ stem, stem ≠ "" ∧ names.getLast? = some (stem ++ ".json") := by
  unfold isDeclarationFile
  cases names.getLast? with
  | none => simp
  | some name =>
    have extension := @extension_iff name "json" (by decide) (by decide)
    simp only [String.append_assoc] at extension
    simpa using extension

theorem filesUnder_directory (there : t.find directory = .ok place) (inside : t.node? place = some .directory) :
    filesUnder t directory =
      ((((t.filesBelow place).filter isDeclarationFile).mergeSort Place.le).filter
        fun names => t.isFile (below directory names)).map (below directory) := by
  unfold filesUnder
  rw [there]
  dsimp only
  rw [inside]
  dsimp only
  rw [List.filter_map]
  rfl

theorem declaredAt_iff (sound : t.Sound) : names ∈ (t.filesBelow place).filter isDeclarationFile ↔ DeclaredAt t place names := by
  rw [List.mem_filter,sound.mem_filesBelow,isDeclarationFile_iff]
  exact ⟨fun ⟨file,extension⟩ => ⟨file,extension⟩,fun declared => ⟨declared.file,declared.extension⟩⟩

theorem filesUnder_lists (sound : t.Sound) (there : t.find directory = .ok place) (inside : t.node? place = some .directory) :
    Lists directory (fun names => DeclaredAt t place names ∧ Openable directory names) (filesUnder t directory) := by
  refine ⟨_,filesUnder_directory there inside,?_,fun names => ?_⟩
  · have once := (FileTree.filesBelow_once sound.once place).filter isDeclarationFile
    exact (mergeSort_ascends Function.injective_id Place.le_iff once).filter _
  · rw [List.mem_filter,List.mem_mergeSort,declaredAt_iff sound]
    refine and_congr_right fun ⟨⟨text,file⟩,stem,_,last⟩ => ?_
    exact sound.isFile_below there (List.ne_nil_of_mem (List.mem_of_getLast? last)) file

-- There is one list of the counted files, as it is in order and has each of them once.
theorem Lists.unique {counted : Place → Prop} {files' : List String} (lists : Lists directory counted files)
    (lists' : Lists directory counted files') : files = files' := by
  obtain ⟨found,rfl,ascends,members⟩ := lists
  obtain ⟨found',rfl,ascends',members'⟩ := lists'
  have perm : found.Perm found' := (List.perm_ext_iff_of_nodup ascends.nodup ascends'.nodup).mpr fun names =>
    (members names).trans (members' names).symm
  rw [perm.eq_of_pairwise (fun _ _ _ _ before after => absurd before (lt_asymm after)) ascends ascends']

theorem isFile_not_directory (file : t.isFile path = true) : t.isDirectory path = false := by
  obtain ⟨text,found⟩ := FileTree.isFile_iff.mp file
  rw [Bool.eq_false_iff,Ne,FileTree.isDirectory_iff,FileTree.read_ok.mp found]
  simp

theorem ofInput_file (single : t.isDirectory path = false) : ofInput t path = loadFile t path := by
  simp [ofInput,single]

theorem load_inputs (t : FileTree) (inputs : List String) : load t inputs = (inputs.mapM (ofInput t)).map concat := by
  change (inputs.mapM (ofInput t) >>= fun gs => pure (concat gs)) = _
  cases inputs.mapM (ofInput t) <;> rfl

theorem mapM_files (single : ∀ file ∈ files, t.isDirectory file = false) : files.mapM (ofInput t) = files.mapM (loadFile t) := by
  induction files with
  | nil => rfl
  | cons file rest ih =>
    obtain ⟨first,others⟩ := List.forall_mem_cons.mp single
    rw [List.mapM_cons,List.mapM_cons,ofInput_file first,ih others]

theorem load_directory (xs ys : List String) (inside : t.isDirectory directory = true) :
    load t (xs ++ [directory] ++ ys) = load t (xs ++ filesUnder t directory ++ ys) := by
  have files : (filesUnder t directory).mapM (ofInput t) = (filesUnder t directory).mapM (loadFile t) := by
    refine mapM_files fun file member => isFile_not_directory ?_
    obtain ⟨place,there,open_⟩ := FileTree.node_ok.mp (FileTree.isDirectory_iff.mp inside)
    rw [filesUnder_directory there open_] at member
    obtain ⟨names,found,rfl⟩ := List.mem_map.mp member
    exact (List.mem_filter.mp found).2
  have one : [directory].mapM (ofInput t) = ((filesUnder t directory).mapM (ofInput t)).map fun gs => [concat gs] := by
    rw [files]
    change (do let g ← ofInput t directory; let gs ← pure []; pure (g :: gs)) = _
    rw [ofInput,if_pos inside]
    change ((filesUnder t directory).mapM (loadFile t) >>= fun gs => pure (concat gs)) >>= _ = _
    cases (filesUnder t directory).mapM (loadFile t) <;> rfl
  rw [load_inputs,load_inputs]
  simp only [List.mapM_append,one]
  cases xs.mapM (ofInput t) with
  | error e => rfl
  | ok before =>
    cases (filesUnder t directory).mapM (ofInput t) with
    | error e => rfl
    | ok found =>
      cases ys.mapM (ofInput t) with
      | error e => rfl
      | ok after =>
        change Except.ok (concat _) = Except.ok (concat _)
        simp [concat]

theorem load_files_ok (single : ∀ file ∈ files, t.isDirectory file = false) {g : Declarations} : load t files = .ok g ↔
    ∃ gs, List.Forall₂ (fun file g => Yields t file (.ok g)) files gs ∧ g.types = gs.flatMap (·.types) := by
  have each : ∀ gs, files.mapM (loadFile t) = .ok gs ↔ List.Forall₂ (fun file g => Yields t file (.ok g)) files gs := by
    intro gs
    simp only [mapM_ok_iff,loadFile_iff]
  rw [load_inputs,mapM_files single]
  constructor
  · intro loaded
    cases all : files.mapM (loadFile t) with
    | error e =>
      rw [all] at loaded
      cases loaded
    | ok gs =>
      rw [all] at loaded
      cases loaded
      exact ⟨gs,(each gs).mp all,by simp [concat,List.flatMap_def]⟩
  · rintro ⟨gs,yield,types⟩
    rw [(each gs).mpr yield]
    change Except.ok (concat gs) = _
    rw [concat,← List.flatMap_def,← types]

theorem load_files_error (single : ∀ file ∈ files, t.isDirectory file = false) {e : LoadError} : load t files = .error e ↔
    ∃ before file after, files = before ++ file :: after ∧ (∀ other ∈ before, ∃ g, Yields t other (.ok g)) ∧
      Yields t file (.error e) := by
  have same : (files.mapM (loadFile t)).map concat = .error e ↔ files.mapM (loadFile t) = .error e := by
    cases files.mapM (loadFile t) <;> simp [Except.map]
  rw [load_inputs,mapM_files single,same,mapM_error_iff]
  simp only [loadFile_iff]

theorem load_long (clean : '\x00' ∉ path.toList) (long : 4096 ≤ path.utf8ByteSize) :
    load t [path] = .error (.file .nameTooLong) := by
  have refused := t.node_long clean long
  refine (load_files_error ?_).mpr ⟨[],path,[],rfl,by simp,.unread ?_⟩
  · simp [FileTree.isDirectory,refused]
  · simp [FileTree.read,refused,Bind.bind,Except.bind]

-- A directory among the inputs is as good as its declaration files, each with its path from there and in the order of the
-- names on it; a file whose path is too long for the system is passed over. Files together declare what each of them
-- declares, in their order, or the first that cannot be read or parsed is the error.
theorem directory_as_files (sound : t.Sound) (there : t.find directory = .ok place) (inside : t.node? place = some .directory)
    (xs ys : List String) :
    (∃ listed, Lists directory (fun names => DeclaredAt t place names ∧ Openable directory names) listed) ∧
    (∀ listed, Lists directory (fun names => DeclaredAt t place names ∧ Openable directory names) listed →
      load t (xs ++ [directory] ++ ys) = load t (xs ++ listed ++ ys)) ∧
    ∀ files, (∀ file ∈ files, t.isDirectory file = false) →
      (∀ g, load t files = .ok g ↔
        ∃ gs, List.Forall₂ (fun file g => Yields t file (.ok g)) files gs ∧ g.types = gs.flatMap (·.types)) ∧
      ∀ e, load t files = .error e ↔
        ∃ before file after, files = before ++ file :: after ∧ (∀ other ∈ before, ∃ g, Yields t other (.ok g)) ∧
          Yields t file (.error e) := by
  have lists := filesUnder_lists sound there inside
  refine ⟨⟨_,lists⟩,fun listed lists' => ?_,fun files single => ⟨fun g => load_files_ok single,fun e => load_files_error single⟩⟩
  have opens : t.isDirectory directory = true := FileTree.isDirectory_iff.mpr (FileTree.node_ok.mpr ⟨place,there,inside⟩)
  rw [load_directory xs ys opens,lists.unique lists']

end

-- A name with a dash comes after the shorter name of a directory, although a dash comes before a slash.
theorem nested_before_dashed :
    let t : FileTree := ⟨["home"],[(["d"],.directory),(["d","a-b.json"],.file "{}"),(["d","a"],.directory),(["d","a","b.json"],.file "[]")]⟩
    t.Sound ∧ t.find "/d" = .ok ["d"] ∧ t.node? ["d"] = some .directory ∧
      Lists "/d" (fun names => DeclaredAt t ["d"] names ∧ Openable "/d" names) ["/d/a/b.json","/d/a-b.json"] ∧
      load t ["/d"] = load t ["/d/a/b.json","/d/a-b.json"] := by
  intro t
  have sound : t.Sound := ⟨by decide,by decide,by decide,by decide⟩
  have there : t.find "/d" = .ok ["d"] := by decide
  have inside : t.node? ["d"] = some .directory := by decide
  have found : (t.filesBelow ["d"]).filter isDeclarationFile = [["a-b.json"],["a","b.json"]] := by decide
  have lists : Lists "/d" (fun names => DeclaredAt t ["d"] names ∧ Openable "/d" names) ["/d/a/b.json","/d/a-b.json"] := by
    refine ⟨[["a","b.json"],["a-b.json"]],by decide,by decide,fun names => ?_⟩
    have short : ∀ names ∈ [["a-b.json"],["a","b.json"]], Openable "/d" names := by decide
    change _ ↔ DeclaredAt t ["d"] names ∧ _
    rw [← declaredAt_iff sound,found,and_iff_left_of_imp (short names)]
    simp only [List.mem_cons,List.not_mem_nil,or_false]
    exact or_comm
  exact ⟨sound,there,inside,lists,(directory_as_files sound there inside [] []).2.1 _ lists⟩

-- The path of the directory is just short enough for the system, and that of the file in it is too long.
theorem file_passed_over : ¬ ∀ (t : FileTree) (directory : String) (place : Place) (xs ys listed : List String),
    t.Sound → t.find directory = .ok place → t.node? place = some .directory → Lists directory (DeclaredAt t place) listed →
      load t (xs ++ [directory] ++ ys) = load t (xs ++ listed ++ ys) := by
  intro claimed
  let t : FileTree := ⟨[],[(["d"],.directory),(["d","a.json"],.file "{}")]⟩
  have sound : t.Sound := ⟨by decide,by decide,by decide,by decide⟩
  have inside : t.node? ["d"] = some .directory := by decide
  have found : (t.filesBelow ["d"]).filter isDeclarationFile = [["a.json"]] := by decide
  have contradicted (directory : String) (there : t.find directory = .ok ["d"])
      (long : 4096 ≤ (below directory ["a.json"]).utf8ByteSize) : False := by
    have counted (names : Place) : DeclaredAt t ["d"] names ↔ names = ["a.json"] := by
      rw [← declaredAt_iff sound,found,List.mem_singleton]
    have none : filesUnder t directory = [] := by
      refine (filesUnder_lists sound there inside).unique ⟨[],rfl,.nil,fun names => ?_⟩
      simp only [List.not_mem_nil,counted,false_iff,not_and]
      rintro rfl
      exact Nat.not_lt.mpr long
    have listed : Lists directory (DeclaredAt t ["d"]) [below directory ["a.json"]] :=
      ⟨[["a.json"]],rfl,List.pairwise_singleton _ _,fun names => by rw [counted,List.mem_singleton]⟩
    have same := claimed t directory ["d"] [] [] _ sound there inside listed
    have opens : t.isDirectory directory = true := FileTree.isDirectory_iff.mpr (FileTree.node_ok.mpr ⟨_,there,inside⟩)
    have empty : load t ([] ++ [directory] ++ []) = .ok ⟨[]⟩ := by
      rw [load_directory [] [] opens,none]
      rfl
    have failed : load t [below directory ["a.json"]] = .error (.file .nameTooLong) := by
      obtain ⟨⟨given,clean,-⟩,-⟩ := route_iff.mp (FileTree.find_parts there).1
      exact load_long (clean_join given (by decide) clean (by decide)) long
    rw [empty,List.nil_append,List.append_nil,failed] at same
    cases same
  have named : IsFileName "d" := ⟨⟨by decide,by decide,by decide,by decide⟩,by decide,by decide⟩
  refine contradicted (roundabout "d" 2045) (FileTree.find_roundabout t named (by decide)) ?_
  change 4096 ≤ (join (roundabout "d" 2045) "a.json").utf8ByteSize
  rw [size_roundabout named ⟨by decide,by decide,by decide,by decide⟩]
  decide

end Declarations

end DomainSchema
