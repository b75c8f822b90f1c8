import DomainSchema.Proofs.Files
import Mathlib.Data.List.Basic

namespace DomainSchema
open DomainSchema.Path

-- What the paths of the files below a directory lead to, at any depth.

namespace Path

def opened (directory : String) : String :=
  if directory.toList.getLast? = some '/' then directory else directory ++ "/"

def below (directory : String) (names : Place) : String := join directory (Text.join "/" names)

section
variable {directory name text : String} {names : Place}

theorem IsName.each (named : IsName name) : name ≠ "" ∧ '/' ∉ name.toList := ⟨named.nonempty,named.single⟩

theorem IsName.relative (named : IsName name) : isAbsolute name = false :=
  join_relative fun _ member => List.mem_singleton.mp member ▸ named.each

theorem below_relative (named : ∀ name ∈ names, IsName name) : isAbsolute (Text.join "/" names) = false :=
  join_relative fun name member => (named name member).each

theorem join_opened (given : directory ≠ "") (relative : isAbsolute text = false) :
    join directory text = opened directory ++ text := by
  by_cases slash : directory.toList.getLast? = some '/' <;> simp [join,opened,given,relative,slash]

theorem join_given (given : directory ≠ "") (relative : isAbsolute text = false) : join directory text ≠ "" := by
  rw [join_opened given relative]
  unfold opened
  split <;> simp [given]

theorem opened_join (given : directory ≠ "") (named : IsName name) : opened (join directory name) = join directory name ++ "/" := by
  refine if_neg fun slash => ?_
  rw [join_opened given named.relative,String.toList_append,List.getLast?_append_of_ne_nil _
    (by simpa using named.nonempty)] at slash
  exact named.single (List.mem_of_getLast? slash)

theorem below_cons {next : String} {rest : Place} (given : directory ≠ "") (named : ∀ n ∈ name :: next :: rest, IsName n) :
    below directory (name :: next :: rest) = below (join directory name) (next :: rest) := by
  obtain ⟨first,others⟩ := List.forall_mem_cons.mp named
  have inner : isAbsolute (Text.join "/" (next :: rest)) = false := below_relative others
  have outer : isAbsolute (Text.join "/" (name :: next :: rest)) = false := below_relative named
  unfold below
  rw [join_opened given outer,join_opened (join_given given first.relative) inner,opened_join given first,
    join_opened given first.relative,Text.join]
  simp only [String.append_assoc]

theorem size_join (given : directory ≠ "") (relative : isAbsolute text = false) :
    (join directory text).utf8ByteSize = (opened directory).utf8ByteSize + text.utf8ByteSize := by
  rw [join_opened given relative,String.utf8ByteSize_append]

theorem size_below_cons {next : String} {rest : Place} (given : directory ≠ "")
    (named : ∀ n ∈ name :: next :: rest, IsName n) :
    (join directory name).utf8ByteSize ≤ (below directory (name :: next :: rest)).utf8ByteSize := by
  obtain ⟨first,others⟩ := List.forall_mem_cons.mp named
  rw [below_cons given named,below,size_join (join_given given first.relative) (below_relative others),
    opened_join given first,String.utf8ByteSize_append]
  omega

theorem clean_join (given : directory ≠ "") (relative : isAbsolute text = false) (clean : '\x00' ∉ directory.toList)
    (clean' : '\x00' ∉ text.toList) : '\x00' ∉ (join directory text).toList := by
  rw [join_opened given relative,String.toList_append,List.mem_append,not_or]
  refine ⟨?_,clean'⟩
  unfold opened
  split
  · exact clean
  · simp [clean]

end

theorem parts_below {home : Place} (single : ∀ name ∈ home, '/' ∉ name.toList) (path : String) :
    parts (Place.path home ++ "/" ++ path) = "" :: (home ++ parts path) := by
  have split (front : List Char) (free : '/' ∉ front) (names : Place) (single : ∀ name ∈ names, '/' ∉ name.toList) :
      splitAtSlashes (front ++ ((Place.path names).toList ++ '/' :: path.toList)) =
        front :: (names.map String.toList ++ splitAtSlashes path.toList) := by
    induction names generalizing front with
    | nil => rw [Place.path,List.map_nil,String.join_nil,String.toList_empty,List.nil_append,splitAtSlashes_append,
        splitAtSlashes_single free]; rfl
    | cons name names ih =>
      obtain ⟨first,others⟩ := List.forall_mem_cons.mp single
      have chars : (Place.path (name :: names)).toList = '/' :: (name.toList ++ (Place.path names).toList) := by
        simp [Place.path]
      rw [chars,List.cons_append,splitAtSlashes_append,splitAtSlashes_single free,List.append_assoc,ih _ first others]
      rfl
  have chars : (Place.path home ++ "/" ++ path).toList = (Place.path home).toList ++ '/' :: path.toList := by simp
  have all := split [] List.not_mem_nil home single
  rw [List.nil_append] at all
  rw [parts,chars,all]
  simp [parts,Function.comp_def]

-- A way to a name that first leads nowhere several times.
def roundabout (name : String) : Nat → String
  | 0 => name
  | n + 1 => "./" ++ roundabout name n

section
variable {name : String}

theorem roundabout_parts (named : IsFileName name) (n : Nat) : parts (roundabout name n) = List.replicate n "." ++ [name] ∧
    isAbsolute (roundabout name n) = false ∧ '\x00' ∉ (roundabout name n).toList ∧
    (roundabout name n).utf8ByteSize = 2 * n + name.utf8ByteSize := by
  induction n with
  | zero =>
    refine ⟨?_,named.relative,named.clean,by simp [roundabout]⟩
    rw [roundabout,parts,splitAtSlashes_single named.single]
    simp
  | succ n ih =>
    obtain ⟨split,-,clean,size⟩ := ih
    have chars : (roundabout name (n + 1)).toList = '.' :: '/' :: (roundabout name n).toList := by simp [roundabout]
    refine ⟨?_,?_,?_,?_⟩
    · rw [parts] at split ⊢
      rw [chars,splitAtSlashes_other (by decide),splitAtSlashes,List.map_cons,split]
      rfl
    · simp [isAbsolute,chars]
    · simp [chars,clean]
    · rw [roundabout,String.utf8ByteSize_append,size,show "./".utf8ByteSize = 2 by decide]
      omega

theorem roundabout_ends (name : String) (n : Nat) : ∃ front, (roundabout name n).toList = front ++ name.toList := by
  induction n with
  | zero => exact ⟨[],rfl⟩
  | succ n ih =>
    obtain ⟨front,ends⟩ := ih
    exact ⟨"./".toList ++ front,by rw [roundabout,String.toList_append,ends,List.append_assoc]⟩

theorem roundabout_given (named : IsFileName name) (n : Nat) : roundabout name n ≠ "" := by
  obtain ⟨front,ends⟩ := roundabout_ends name n
  intro empty
  rw [empty] at ends
  exact named.nonempty (by simpa using (List.append_eq_nil_iff.mp ends.symm).2)

theorem size_roundabout {inner : String} (named : IsFileName name) (named' : IsName inner) (n : Nat) :
    (join (roundabout name n) inner).utf8ByteSize = 2 * n + name.utf8ByteSize + 1 + inner.utf8ByteSize := by
  obtain ⟨front,ends⟩ := roundabout_ends name n
  have apart : (roundabout name n).toList.getLast? ≠ some '/' := by
    rw [ends,List.getLast?_append_of_ne_nil _ (by simpa using named.nonempty)]
    exact fun slash => named.single (List.mem_of_getLast? slash)
  rw [size_join (roundabout_given named n) named'.relative,opened,if_neg apart,String.utf8ByteSize_append,
    (roundabout_parts named n).2.2.2,show "/".utf8ByteSize = 1 by decide]

end

end Path

namespace FileTree

section
variable {t : FileTree} {place names : Place} {node : Node} {directory name text : String}

theorem Sound.above_names (sound : t.Sound) {rest : Place} (here : t.node? (place ++ name :: rest) = some node) :
    t.node? place = some .directory := by
  have one {place : Place} {name : String} {node : Node} (here : t.node? (place ++ [name]) = some node) :
      t.node? place = some .directory := by
    have above := sound.above here
    rwa [List.dropLast_concat] at above
  induction rest generalizing place name with
  | nil => exact one here
  | cons next rest ih =>
    rw [List.append_cons] at here
    exact one (ih here)

theorem find_name (there : t.find directory = .ok place) (inside : t.node? place = some .directory) (named : IsFileName name)
    (short : (join directory name).utf8ByteSize < 4096) : t.find (join directory name) = .ok (place ++ [name]) := by
  obtain ⟨⟨given,clean,-⟩,-⟩ := route_iff.mp (find_parts there).1
  have relative := named.toIsName.relative
  have routed : route (join directory name) = .ok (parts (join directory name)) :=
    route_iff.mpr ⟨⟨join_given given relative,clean_join given relative clean named.clean,short⟩,rfl⟩
  rw [find_join there inside named.toIsName,routed]
  exact if_neg (Nat.not_lt.mpr named.short)

-- A path of names that is not too long leads from name to name, as there is a directory at each of them but the last.
theorem Sound.find_below (sound : t.Sound) (there : t.find directory = .ok place) (some_ : names ≠ [])
    (here : t.node? (place ++ names) = some node) (short : (below directory names).utf8ByteSize < 4096) :
    t.find (below directory names) = .ok (place ++ names) := by
  induction names generalizing directory place with
  | nil => exact absurd rfl some_
  | cons name rest ih =>
    have inside := sound.above_names here
    have named : ∀ n ∈ name :: rest, IsFileName n := fun n member => sound.names here n (List.mem_append_right _ member)
    have first := named name List.mem_cons_self
    cases rest with
    | nil => exact find_name there inside first short
    | cons next rest =>
      have given := (route_iff.mp (find_parts there).1).1.1
      have isNames : ∀ n ∈ name :: next :: rest, IsName n := fun n member => (named n member).toIsName
      have shorter := Nat.lt_of_le_of_lt (size_below_cons given isNames) short
      rw [List.append_cons] at here ⊢
      rw [below_cons given isNames] at short ⊢
      exact ih (find_name there inside first shorter) (List.cons_ne_nil _ _) here short

theorem walk_home (home : ∀ name ∈ t.home, IsFileName name) : t.home.foldlM t.enter [] = .ok t.home := by
  have walk (before after : Place) (whole : before ++ after = t.home) : after.foldlM t.enter before = .ok t.home := by
    induction after generalizing before with
    | nil =>
      rw [List.append_nil] at whole
      rw [whole]
      rfl
    | cons name after ih =>
      have above : t.node? before = some .directory :=
        if_pos (List.isPrefixOf_iff_prefix.mpr ⟨_,whole⟩)
      have named := home name (by simp [← whole])
      refine walk_cons.mpr ⟨before ++ [name],?_,ih _ (by simpa using whole)⟩
      rw [enter_name above named.toIsName,if_neg (Nat.not_lt.mpr named.short)]
  exact walk [] t.home (List.nil_append _)

-- A path leads from the root where it leads from the working directory, unless it is too long then.
theorem read_absolute {path : String} (home : ∀ name ∈ t.home, IsFileName name) (short : (t.absolute path).utf8ByteSize < 4096)
    (found : t.read path = .ok text) : t.read (t.absolute path) = .ok text := by
  cases relative : isAbsolute path with
  | true => rwa [absolute,if_pos relative]
  | false =>
    obtain ⟨place,there,file⟩ := node_ok.mp (read_ok.mp found)
    obtain ⟨routed,walked⟩ := find_parts there
    obtain ⟨⟨given,clean,-⟩,-⟩ := route_iff.mp routed
    refine read_ok.mpr (node_ok.mpr ⟨place,?_,file⟩)
    rw [absolute,relative,if_neg Bool.false_ne_true] at short ⊢
    have start : t.start (Place.path t.home ++ "/" ++ path) = [] := by
      rw [start,if_pos]
      unfold isAbsolute Place.path
      cases t.home <;> simp
    have whole : '\x00' ∉ (Place.path t.home ++ "/" ++ path).toList := by
      have names : ∀ name ∈ t.home, '\x00' ∉ name.toList := fun name member => (home name member).clean
      simpa [clean,Place.path,String.toList_join] using names
    have taken : route (Place.path t.home ++ "/" ++ path) = .ok ("" :: (t.home ++ parts path)) := by
      rw [← parts_below (fun name member => (home name member).single)]
      exact route_iff.mpr ⟨⟨by simp,whole,short⟩,rfl⟩
    have root : t.node? [] = some .directory := if_pos (List.isPrefixOf_iff_prefix.mpr (List.nil_prefix))
    have relativeStart : t.start path = t.home := by rw [FileTree.start,relative,if_neg Bool.false_ne_true]
    rw [relativeStart] at walked
    refine bind_ok.mpr ⟨_,taken,?_⟩
    rw [start]
    refine walk_cons.mpr ⟨[],enter_idle root,?_⟩
    rw [List.foldlM_append,walk_home home]
    exact walked

theorem find_roundabout (t : FileTree) {n : Nat} (named : IsFileName name) (short : 2 * n + name.utf8ByteSize < 4096) :
    t.find (roundabout name n) = .ok (t.home ++ [name]) := by
  obtain ⟨split,relative,clean,size⟩ := roundabout_parts named n
  have here : t.node? t.home = some .directory := if_pos (List.isPrefixOf_iff_prefix.mpr (List.prefix_refl _))
  have walk (n : Nat) : (List.replicate n "." ++ [name]).foldlM t.enter t.home = .ok (t.home ++ [name]) := by
    induction n with
    | zero =>
      refine walk_cons.mpr ⟨_,?_,rfl⟩
      rw [enter_name here named.toIsName,if_neg (Nat.not_lt.mpr named.short)]
    | succ n ih =>
      refine walk_cons.mpr ⟨t.home,?_,ih⟩
      rw [enter,here]
      rfl
  refine bind_ok.mpr ⟨_,route_iff.mpr ⟨⟨roundabout_given named n,clean,by omega⟩,rfl⟩,?_⟩
  rw [start,relative,split]
  exact walk n

theorem node_long {path : String} (clean : '\x00' ∉ path.toList) (long : 4096 ≤ path.utf8ByteSize) :
    t.node path = .error .nameTooLong := by
  simp [node,find,route_long clean long,Bind.bind,Except.bind]

theorem isFile_short {path : String} (seen : t.isFile path = true) : path.utf8ByteSize < 4096 := by
  obtain ⟨old,found⟩ := isFile_iff.mp seen
  obtain ⟨here,arrived,-⟩ := node_ok.mp (read_ok.mp found)
  exact (route_iff.mp (find_parts arrived).1).1.2.2

theorem Sound.isFile_below (sound : t.Sound) (there : t.find directory = .ok place) (some_ : names ≠ [])
    (file : t.node? (place ++ names) = some (.file text)) :
    t.isFile (below directory names) = true ↔ (below directory names).utf8ByteSize < 4096 := by
  refine ⟨isFile_short,fun short => ?_⟩
  have found := sound.find_below there some_ file short
  exact isFile_iff.mpr ⟨text,read_ok.mpr (node_ok.mpr ⟨_,found,file⟩)⟩

theorem Sound.hasFile_named (sound : t.Sound) (present : t.HasFile directory name) : IsFileName name := by
  obtain ⟨place,text,-,-,file⟩ := present
  exact sound.names file name (by simp)

theorem Sound.seen_iff (sound : t.Sound) (present : t.HasFile directory name) :
    t.isFile (join directory name) = true ↔ (join directory name).utf8ByteSize < 4096 := by
  obtain ⟨place,text,there,-,file⟩ := present
  have one : below directory [name] = join directory name := rfl
  rw [← one]
  exact sound.isFile_below there (List.cons_ne_nil name []) file

theorem hasFile_of_read (inside : t.isDirectory directory = true) (named : IsName name)
    (found : t.read (join directory name) = .ok text) : t.HasFile directory name := by
  obtain ⟨place,there,here⟩ := node_ok.mp (isDirectory_iff.mp inside)
  exact ⟨place,text,there,here,read_join_place there here named found⟩

end

end FileTree

end DomainSchema
