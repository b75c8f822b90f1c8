import DomainSchema.FileTree
import DomainSchema.Proofs.Entries
import Mathlib.Data.List.TakeDrop

namespace DomainSchema

-- A single component of a path that does not lead back or nowhere.
structure Path.IsName (name : String) : Prop where
  single : '/' ∉ name.toList
  nonempty : name ≠ ""
  notHere : name ≠ "."
  notAbove : name ≠ ".."

structure Path.IsFileName (name : String) : Prop extends Path.IsName name where
  clean : '\x00' ∉ name.toList
  short : name.utf8ByteSize ≤ 255

instance (name : String) : Decidable (Path.IsFileName name) :=
  decidable_of_iff (('/' ∉ name.toList ∧ name ≠ "" ∧ name ≠ "." ∧ name ≠ "..") ∧ '\x00' ∉ name.toList ∧ name.utf8ByteSize ≤ 255)
    ⟨fun ⟨⟨single,nonempty,notHere,notAbove⟩,clean,short⟩ => ⟨⟨single,nonempty,notHere,notAbove⟩,clean,short⟩,
      fun named => ⟨⟨named.single,named.nonempty,named.notHere,named.notAbove⟩,named.clean,named.short⟩⟩

namespace Path

theorem splitAtSlashes_other {c : Char} (other : c ≠ '/') (rest : List Char) :
    splitAtSlashes (c :: rest) = match splitAtSlashes rest with
      | [] => [[c]]
      | part :: more => (c :: part) :: more := splitAtSlashes.eq_3 c rest other

theorem splitAtSlashes_some (text : List Char) : splitAtSlashes text ≠ [] := by
  cases text with
  | nil => simp [splitAtSlashes]
  | cons c rest =>
    by_cases slash : c = '/'
    · simp [slash,splitAtSlashes]
    · rw [splitAtSlashes_other slash]
      split <;> simp

theorem splitAtSlashes_append (front back : List Char) :
    splitAtSlashes (front ++ '/' :: back) = splitAtSlashes front ++ splitAtSlashes back := by
  induction front with
  | nil => rfl
  | cons c rest ih =>
    by_cases slash : c = '/'
    · simp [slash,splitAtSlashes,ih]
    · rw [List.cons_append,splitAtSlashes_other slash,splitAtSlashes_other slash,ih]
      cases parts : splitAtSlashes rest with
      | nil => exact absurd parts (splitAtSlashes_some rest)
      | cons part more => rfl

theorem splitAtSlashes_single {text : List Char} (single : '/' ∉ text) : splitAtSlashes text = [text] := by
  induction text with
  | nil => rfl
  | cons c rest ih =>
    rw [List.mem_cons,not_or] at single
    rw [splitAtSlashes_other (Ne.symm single.1),ih single.2]

theorem splitAtSlashes_chars {text part : List Char} (member : part ∈ splitAtSlashes text) :
    ∀ c ∈ part, c ∈ text ∧ c ≠ '/' := by
  induction text generalizing part with
  | nil =>
    rw [splitAtSlashes,List.mem_singleton] at member
    simp [member]
  | cons first rest ih =>
    have deeper {other : List Char} (listed : other ∈ splitAtSlashes rest) : ∀ c ∈ other, c ∈ first :: rest ∧ c ≠ '/' :=
      fun c inside => ⟨List.mem_cons_of_mem _ (ih listed c inside).1,(ih listed c inside).2⟩
    by_cases slash : first = '/'
    · rw [slash,splitAtSlashes] at member
      rcases List.mem_cons.mp member with rfl | later
      · simp
      · exact deeper later
    · have own : first ∈ first :: rest ∧ first ≠ '/' := ⟨List.mem_cons_self,slash⟩
      rw [splitAtSlashes_other slash] at member
      split at member
      · rw [List.mem_singleton.mp member,List.forall_mem_singleton]
        exact own
      · rename_i next more split
        rcases List.mem_cons.mp member with rfl | later
        · exact List.forall_mem_cons.mpr ⟨own,deeper (by simp [split])⟩
        · exact deeper (by simp [split,later])

theorem join_of_parts (path : String) : Text.join "/" (parts path) = path := by
  have chars (text : List Char) : Text.join "/" ((splitAtSlashes text).map String.ofList) = String.ofList text := by
    induction text with
    | nil => rfl
    | cons c rest ih =>
      cases split : splitAtSlashes rest with
      | nil => exact absurd split (splitAtSlashes_some rest)
      | cons part more =>
        rw [split] at ih
        by_cases slash : c = '/'
        · subst slash
          rw [splitAtSlashes,split,List.map_cons,List.map_cons,Text.join,← List.map_cons,ih]
          exact String.toList_inj.mp (by simp)
        · rw [splitAtSlashes_other slash,split]
          cases more with
          | nil => exact String.toList_inj.mp (by simpa [Text.join] using congrArg String.toList ih)
          | cons next more => exact String.toList_inj.mp (by simpa [Text.join] using congrArg String.toList ih)
  exact (chars path.toList).trans String.ofList_toList

theorem parts_chars {path part : String} (member : part ∈ parts path) : ∀ c ∈ part.toList, c ∈ path.toList ∧ c ≠ '/' := by
  obtain ⟨chars,split,rfl⟩ := List.mem_map.mp member
  simpa using splitAtSlashes_chars split

theorem splitAtSlashes_last {stem ends : List Char} (inName : '/' ∉ ends) :
    ∃ front, (splitAtSlashes (stem ++ ends)).getLast? = some (front ++ ends) := by
  induction stem with
  | nil => exact ⟨[],by rw [List.nil_append,splitAtSlashes_single inName]; rfl⟩
  | cons d stem ih =>
    obtain ⟨front,last⟩ := ih
    cases split : splitAtSlashes (stem ++ ends) with
    | nil => exact absurd split (splitAtSlashes_some _)
    | cons part more =>
      rw [split] at last
      by_cases slash : d = '/'
      · refine ⟨front,?_⟩
        rw [slash,List.cons_append,splitAtSlashes,split]
        exact last
      · rw [List.cons_append,splitAtSlashes_other slash,split]
        cases more with
        | nil =>
          cases last
          exact ⟨d :: front,rfl⟩
        | cons next more => exact ⟨front,last⟩

theorem join_relative {names : List String} (each : ∀ name ∈ names, name ≠ "" ∧ '/' ∉ name.toList) :
    isAbsolute (Text.join "/" names) = false := by
  match names with
  | [] => rfl
  | name :: names =>
    rw [List.forall_mem_cons] at each
    obtain ⟨⟨given,single⟩,-⟩ := each
    cases chars : name.toList with
    | nil => exact absurd (String.toList_eq_nil_iff.mp chars) given
    | cons c more =>
      have apart : c ≠ '/' := by
        rintro rfl
        exact single (chars ▸ List.mem_cons_self)
      have head : (Text.join "/" (name :: names)).toList.head? = some c := by
        cases names with
        | nil => simp [Text.join,chars]
        | cons next names => simp [Text.join,chars]
      rw [isAbsolute,head]
      simpa using apart

theorem join_splits {directory name : String} (given : directory ≠ "") (named : IsName name) :
    ∃ front, (join directory name).toList = front ++ '/' :: name.toList ∧
      (directory.toList = front ∨ directory.toList = front ++ ['/']) := by
  have relative : isAbsolute name = false :=
    join_relative fun other member => List.mem_singleton.mp member ▸ ⟨named.nonempty,named.single⟩
  by_cases slash : directory.toList.getLast? = some '/'
  · obtain ⟨front,ends⟩ := List.getLast?_eq_some_iff.mp slash
    refine ⟨front,?_,.inr ends⟩
    simp [join,relative,given,ends]
  · refine ⟨directory.toList,?_,.inl rfl⟩
    simp [join,relative,given,slash]

theorem route_iff {path : String} {taken : List String} : FileTree.route path = .ok taken ↔
    (path ≠ "" ∧ '\x00' ∉ path.toList ∧ path.utf8ByteSize < 4096) ∧ taken = parts path := by
  unfold FileTree.route
  by_cases given : path = ""
  · simp [given]
  by_cases clean : '\x00' ∈ path.toList
  · simp [given,clean]
  by_cases long : 4096 ≤ path.utf8ByteSize
  · simp [given,clean,long,Nat.not_lt.mpr long]
  · rw [if_neg given,if_neg (by simpa using clean),if_neg long]
    simp only [given,clean,Nat.lt_of_not_le long,not_false_eq_true,ne_eq,and_self,true_and,Except.ok.injEq]
    exact eq_comm

theorem route_long {path : String} (clean : '\x00' ∉ path.toList) (long : 4096 ≤ path.utf8ByteSize) :
    FileTree.route path = .error .nameTooLong := by
  have given : path ≠ "" := by
    rintro rfl
    simp at long
  rw [FileTree.route,if_neg given,if_neg (by simpa using clean),if_pos long]

theorem join_parts {directory name : String} (given : directory ≠ "") (named : IsName name) :
    ∃ before, parts (join directory name) = before ++ [name] ∧
      (parts directory = before ∨ parts directory = before ++ [""]) := by
  obtain ⟨front,joined,ends⟩ := join_splits given named
  refine ⟨(splitAtSlashes front).map String.ofList,?_,?_⟩
  · simp [parts,joined,splitAtSlashes_append,splitAtSlashes_single named.single]
  · rcases ends with same | slash
    · exact .inl (by simp [parts,same])
    · exact .inr (by simp [parts,slash,splitAtSlashes_append,splitAtSlashes])

theorem join_absolute {directory name : String} (given : directory ≠ "") (named : IsName name) :
    isAbsolute (join directory name) = isAbsolute directory := by
  obtain ⟨front,joined,ends⟩ := join_splits given named
  unfold isAbsolute
  cases front with
  | nil =>
    rcases ends with same | slash
    · exact absurd (String.toList_eq_nil_iff.mp same) given
    · simp [joined,slash]
  | cons c rest =>
    rcases ends with same | slash
    · simp [joined,same]
    · simp [joined,slash]

theorem extension_iff {name ext : String} (some_ : ext ≠ "") (undotted : '.' ∉ ext.toList) :
    extension? name = some ext ↔ ∃ stem, stem ≠ "" ∧ name = stem ++ "." ++ ext := by
  unfold extension?
  rw [List.span_eq_takeWhile_dropWhile]
  dsimp only
  constructor
  · intro found
    split at found
    · rename_i before dropped
      split at found
      · cases found
      · rename_i kept
        have whole := List.takeWhile_append_dropWhile (p := (· ≠ '.')) (l := name.toList.reverse)
        rw [dropped] at whole
        have shown := congrArg List.reverse whole
        rw [List.reverse_reverse,List.reverse_append,List.reverse_cons] at shown
        refine ⟨String.ofList before.reverse,?_,String.toList_inj.mp ?_⟩
        · intro empty
          have none : before = [] := by simpa using empty
          exact kept (.inl (by simp [none]))
        · rw [← Option.some.inj found]
          simp only [String.toList_append,String.toList_ofList]
          exact shown.symm
    · cases found
  · rintro ⟨stem,given,rfl⟩
    have back : (stem ++ "." ++ ext).toList.reverse = ext.toList.reverse ++ '.' :: stem.toList.reverse := by simp
    have other : stem ++ "." ++ ext ≠ ".." := by
      intro same
      have size := congrArg String.length same
      have one : stem.length ≠ 0 := by simpa using given
      have two : ext.length ≠ 0 := by simpa using some_
      rw [String.length_append,String.length_append] at size
      change stem.length + 1 + ext.length = 2 at size
      omega
    have plain : ∀ c ∈ ext.toList.reverse, decide (c ≠ '.') = true := by
      intro c member
      have apart : c ≠ '.' := fun same => undotted (same ▸ List.mem_reverse.mp member)
      simpa using apart
    rw [back,List.takeWhile_append_of_pos plain,List.dropWhile_append_of_pos plain]
    simp [given,other]

end Path

namespace FileTree
open DomainSchema.Path

section
variable {t : FileTree} {here place : Place} {part name directory : String}

theorem enter_directory (entered : t.enter here part = .ok place) : t.node? here = some .directory := by
  unfold enter at entered
  cases node : t.node? here with
  | none => simp [node] at entered
  | some n =>
    cases n with
    | directory => rfl
    | file text => simp [node] at entered

theorem enter_idle (inside : t.node? here = some .directory) : t.enter here "" = .ok here := by
  simp [enter,inside]

theorem enter_name (inside : t.node? here = some .directory) (named : IsName name) :
    t.enter here name = if 255 < name.utf8ByteSize then .error .nameTooLong else .ok (here ++ [name]) := by
  simp [enter,inside,named.nonempty,named.notHere,named.notAbove]

theorem walk_cons {rest : List String} : (part :: rest).foldlM t.enter here = .ok place ↔
    ∃ next, t.enter here part = .ok next ∧ rest.foldlM t.enter next = .ok place := by
  rw [List.foldlM_cons]
  exact bind_ok

theorem walk_last {before : List String} : (before ++ [part]).foldlM t.enter here = .ok place ↔
    ∃ last, before.foldlM t.enter here = .ok last ∧ t.enter last part = .ok place := by
  rw [List.foldlM_append]
  refine bind_ok.trans (exists_congr fun last => and_congr_right fun _ => ?_)
  rw [List.foldlM_cons]
  simp only [List.foldlM_nil,bind_pure]

theorem find_parts (found : t.find directory = .ok place) :
    FileTree.route directory = .ok (parts directory) ∧ (parts directory).foldlM t.enter (t.start directory) = .ok place := by
  obtain ⟨taken,routed,walked⟩ := bind_ok.mp found
  obtain ⟨-,rfl⟩ := route_iff.mp routed
  exact ⟨routed,walked⟩

theorem start_join (given : directory ≠ "") (named : IsName name) : t.start (join directory name) = t.start directory := by
  rw [start,start,join_absolute given named]

theorem walk_join (there : t.find directory = .ok place) (named : IsName name) :
    ∃ before, parts (join directory name) = before ++ [name] ∧
      before.foldlM t.enter (t.start (join directory name)) = .ok place := by
  obtain ⟨routed,walked⟩ := find_parts there
  have given := (route_iff.mp routed).1.1
  obtain ⟨before,joined,ends⟩ := join_parts given named
  refine ⟨before,joined,?_⟩
  rw [start_join given named]
  rcases ends with same | slash
  · rwa [same] at walked
  · rw [slash] at walked
    obtain ⟨last,arrives,stepped⟩ := walk_last.mp walked
    rw [enter_idle (enter_directory stepped)] at stepped
    rwa [← Except.ok.inj stepped]

theorem find_join (there : t.find directory = .ok place) (inside : t.node? place = some .directory) (named : IsName name) :
    t.find (join directory name) = (route (join directory name)).bind fun _ =>
      if 255 < name.utf8ByteSize then .error .nameTooLong else .ok (place ++ [name]) := by
  obtain ⟨before,walk,arrives⟩ := walk_join there named
  unfold find
  cases routed : route (join directory name) with
  | error e => rfl
  | ok taken =>
    obtain ⟨-,rfl⟩ := route_iff.mp routed
    change (parts (join directory name)).foldlM t.enter (t.start (join directory name)) = _
    rw [walk,List.foldlM_append,arrives]
    change (t.enter place name >>= pure) = _
    rw [bind_pure,enter_name inside named]
    rfl

theorem find_join_ok (there : t.find directory = .ok place) (inside : t.node? place = some .directory)
    (named : IsName name) (found : t.find (join directory name) = .ok here) : here = place ++ [name] := by
  rw [find_join there inside named] at found
  obtain ⟨start,-,reached⟩ := bind_ok.mp found
  split at reached
  · cases reached
  · cases reached
    rfl

end

end FileTree

end DomainSchema
