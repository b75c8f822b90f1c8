import DomainSchema.Proofs.Files

namespace DomainSchema
open DomainSchema.Path

namespace FileAction
variable {α β : Type}

theorem run_bind (a : FileAction α) (f : α → FileAction β) (t : FileTree) :
    (a >>= f).run t = match a.run t with
      | (.ok x,t') => (f x).run t'
      | (.error e,t') => (.error e,t') := by
  unfold ExceptT.run
  simp only [Bind.bind,ExceptT.bind,ExceptT.mk,StateT.bind,ExceptT.bindCont]
  cases a t with
  | mk r t' => cases r <;> rfl

theorem run_bind_ok {a : FileAction α} {f : α → FileAction β} {t t' : FileTree} {y : β} :
    (a >>= f).run t = (.ok y,t') ↔ ∃ x t1, a.run t = (.ok x,t1) ∧ (f x).run t1 = (.ok y,t') := by
  rw [run_bind]
  cases a.run t with
  | mk answer t1 =>
    cases answer with
    | error e =>
      refine ⟨nofun,?_⟩
      rintro ⟨x,t2,ran,-⟩
      cases ran
    | ok x =>
      refine ⟨fun done => ⟨x,t1,rfl,done⟩,?_⟩
      rintro ⟨x',t2,ran,done⟩
      cases ran
      exact done

theorem run_catch (a : FileAction α) (handle : FileError → FileAction α) (t : FileTree) :
    (tryCatch a handle).run t = match a.run t with
      | (.ok x,t') => (.ok x,t')
      | (.error e,t') => (handle e).run t' := by
  unfold ExceptT.run
  simp only [tryCatch,tryCatchThe,MonadExceptOf.tryCatch,ExceptT.tryCatch,ExceptT.mk,Bind.bind,StateT.bind]
  cases a t with
  | mk r t' => cases r <;> rfl

theorem run_get (t : FileTree) : (get : FileAction FileTree).run t = (.ok t,t) := rfl

theorem run_lift (r : Except FileError α) (t : FileTree) : (liftM r : FileAction α).run t = (r,t) := rfl

end FileAction

-- The place that an action on a path is about: one step, by the last name in it, from the directory before.
def FileTree.Leads (t : FileTree) (path : String) (place : Place) : Prop :=
  FileTree.route path = .ok (parts path) ∧ ∃ last before directory, (parts path).reverse.dropWhile (· = "") = last :: before ∧
    before.reverse.foldlM t.enter (t.start path) = .ok directory ∧ t.enter directory last = .ok place

namespace FileAction

-- What writing a file and making a directory have in common: both set one place, unless something bars it.
def setting (path : String) (node : Node) (nameless barred : FileError) (bars : List String → String → Option Node → Prop)
    [∀ parts last old, Decidable (bars parts last old)] : FileAction Unit := do
  let t ← get
  let parts ← FileTree.route path
  match parts.reverse.dropWhile (· = "") with
  | [] => throw nameless
  | last :: before =>
    let directory ← (before.reverse.foldlM t.enter (t.start path) : Except FileError Place)
    let place ← t.enter directory last
    if bars parts last (t.node? place) then throw barred
    set (t.set place node)

theorem setting_cases (path : String) (node : Node) (nameless barred : FileError)
    (bars : List String → String → Option Node → Prop) [∀ parts last old, Decidable (bars parts last old)] (t : FileTree) :
    (∃ e, (setting path node nameless barred bars).run t = (.error e,t)) ∨
      ∃ place last, t.Leads path place ∧ ¬ bars (parts path) last (t.node? place) ∧
        (setting path node nameless barred bars).run t = (.ok (),t.set place node) := by
  unfold setting
  rw [run_bind,run_get]
  dsimp only
  rw [run_bind,run_lift]
  cases routed : FileTree.route path with
  | error e => exact .inl ⟨e,rfl⟩
  | ok taken =>
    obtain ⟨-,rfl⟩ := route_iff.mp routed
    dsimp only
    cases names : (parts path).reverse.dropWhile (· = "") with
    | nil => exact .inl ⟨_,rfl⟩
    | cons last before =>
      dsimp only
      rw [run_bind,run_lift]
      cases walked : before.reverse.foldlM t.enter (t.start path) with
      | error e => exact .inl ⟨e,rfl⟩
      | ok directory =>
        dsimp only
        rw [run_bind,run_lift]
        cases entered : t.enter directory last with
        | error e => exact .inl ⟨e,rfl⟩
        | ok place =>
          dsimp only
          split
          · exact .inl ⟨_,rfl⟩
          · rename_i allowed
            exact .inr ⟨place,last,⟨routed,last,before,directory,names,walked,entered⟩,allowed,rfl⟩

def writeBars (parts : List String) (_ : String) (old : Option Node) : Prop :=
  parts.getLast? = some "" ∨ old = some .directory

instance (parts : List String) (last : String) (old : Option Node) : Decidable (writeBars parts last old) :=
  inferInstanceAs (Decidable (_ ∨ _))

theorem write_setting (path text : String) :
    write path text = setting path (.file text) .isDirectory .isDirectory writeBars := rfl

theorem write_cases (path text : String) (t : FileTree) :
    (∃ e, (write path text).run t = (.error e,t)) ∨
      ∃ place, t.Leads path place ∧ t.node? place ≠ some .directory ∧
        (write path text).run t = (.ok (),t.set place (.file text)) := by
  rw [write_setting]
  refine (setting_cases _ _ _ _ _ t).imp id ?_
  rintro ⟨place,last,leads,allowed,ran⟩
  exact ⟨place,leads,fun taken => allowed (.inr taken),ran⟩

theorem makeDirectory_cases (path : String) (t : FileTree) :
    (∃ e, (makeDirectory path).run t = (.error e,t)) ∨
      ∃ place, t.Leads path place ∧ t.node? place = none ∧
        (makeDirectory path).run t = (.ok (),t.set place .directory) := by
  have same : makeDirectory path = setting path .directory .alreadyExists .alreadyExists
      fun _ last old => last = "." ∨ last = ".." ∨ old.isSome := rfl
  rw [same]
  refine (setting_cases _ _ _ _ _ t).imp id ?_
  rintro ⟨place,last,leads,allowed,ran⟩
  refine ⟨place,leads,?_,ran⟩
  cases here : t.node? place with
  | none => rfl
  | some node => exact absurd (.inr (.inr (by simp [here]))) allowed

end FileAction

namespace FileTree
variable {t : FileTree} {path directory name text : String} {here place there : Place} {part : String} {node : Node}

theorem Sound.enter_new (sound : t.Sound) (single : '/' ∉ part.toList) (clean : '\x00' ∉ part.toList)
    (entered : t.enter here part = .ok there) (allowed : t.node? there ≠ some .directory) :
    there = here ++ [part] ∧ IsFileName part := by
  have inside := enter_directory entered
  rw [enter,inside] at entered
  dsimp only at entered
  split at entered
  · cases entered
    exact absurd inside allowed
  · rename_i proper
    rw [not_or] at proper
    split at entered
    · cases entered
      exact absurd (sound.above inside) allowed
    · rename_i notAbove
      split at entered
      · cases entered
      · rename_i short
        cases entered
        exact ⟨rfl,⟨single,proper.1,proper.2,notAbove⟩,clean,Nat.le_of_not_lt short⟩

theorem Leads.sound_set (leads : t.Leads path place) (sound : t.Sound) (allowed : t.node? place ≠ some .directory) :
    (t.set place node).Sound := by
  obtain ⟨routed,last,before,directory,names,walked,entered⟩ := leads
  have member : last ∈ parts path := by
    have kept : last ∈ (parts path).reverse.dropWhile (· = "") := names ▸ List.mem_cons_self
    exact List.mem_reverse.mp ((List.dropWhile_sublist _).subset kept)
  have chars := parts_chars member
  have inside := enter_directory entered
  obtain ⟨rfl,named⟩ := sound.enter_new (fun slash => (chars _ slash).2 rfl)
    (fun nul => (route_iff.mp routed).1.2.1 (chars _ nul).1) entered allowed
  refine sound.set allowed (fun name counted => ?_) (by rwa [List.dropLast_concat])
  rcases List.mem_append.mp counted with above | own
  · exact sound.names inside name above
  · exact List.mem_singleton.mp own ▸ named

theorem Leads.join (leads : t.Leads (join directory name) place) (inside : t.find directory = .ok here)
    (open_ : t.node? here = some .directory) (named : IsName name) :
    place = here ++ [name] ∧ t.find (Path.join directory name) = .ok place := by
  obtain ⟨routed,last,before,reached,names,walked,entered⟩ := leads
  obtain ⟨parts,joined,arrives⟩ := walk_join inside named
  rw [joined] at names
  simp only [List.reverse_append,List.reverse_cons,List.reverse_nil,List.nil_append,List.singleton_append,
    List.dropWhile_cons,named.nonempty,decide_false,Bool.false_eq_true,if_false,List.cons.injEq] at names
  obtain ⟨rfl,rfl⟩ := names
  rw [List.reverse_reverse,arrives] at walked
  cases walked
  rw [enter_name open_ named] at entered
  rw [find_join inside open_ named,routed]
  split at entered
  · cases entered
  · rename_i short
    cases entered
    exact ⟨rfl,if_neg short⟩

theorem Leads.file (leads : t.Leads path place) (found : t.find path = .ok here) (file : t.node? here = some (.file text)) :
    place = here := by
  obtain ⟨-,last,before,reached,names,walked,entered⟩ := leads
  obtain ⟨-,arrives⟩ := find_parts found
  cases ends : (parts path).reverse with
  | nil =>
    rw [ends] at names
    cases names
  | cons final earlier =>
    have split : parts path = earlier.reverse ++ [final] := by
      rw [← List.reverse_cons,← ends,List.reverse_reverse]
    rw [split] at arrives
    obtain ⟨next,first,stepped⟩ := walk_last.mp arrives
    by_cases idle : final = ""
    · -- nothing but a directory is found where a path ends in a slash
      have open_ := enter_directory stepped
      rw [idle,enter_idle open_] at stepped
      cases stepped
      rw [open_] at file
      cases file
    · rw [ends,List.dropWhile_cons_of_neg (by simpa using idle)] at names
      cases names
      rw [first] at walked
      cases walked
      rw [stepped] at entered
      cases entered
      rfl

theorem set_directory_same (free : t.node? place = none) : t.SameFiles (t.set place .directory) := by
  have allowed : t.node? place ≠ some .directory := by simp [free]
  refine ⟨set_keeps allowed,fun other text => ?_⟩
  rw [node_set (proper_of_allowed allowed)]
  by_cases same : other = place <;> simp [same,free]

theorem set_file_same (file : t.node? place = some (.file text)) : t.SameFiles (t.set place (.file text)) := by
  have allowed : t.node? place ≠ some .directory := by simp [file]
  refine ⟨set_keeps allowed,fun other old => ?_⟩
  rw [node_set (proper_of_allowed allowed)]
  by_cases same : other = place <;> simp [same,file]

def text? (t : FileTree) (directory name : String) : Option String := (t.read (Path.join directory name)).toOption

theorem text_some : t.text? directory name = some text ↔ t.read (Path.join directory name) = .ok text := by
  unfold text?
  cases t.read (Path.join directory name) <;> simp [Except.toOption]

-- Reading in a directory sees the file at the place of the directory under the name, and nothing else of the tree.
theorem text_congr {t' : FileTree} (found : t.find directory = .ok place) (open_ : t.node? place = some .directory)
    (found' : t'.find directory = .ok place) (open' : t'.node? place = some .directory) (named : IsName name)
    (same : ∀ text, t'.node? (place ++ [name]) = some (.file text) ↔ t.node? (place ++ [name]) = some (.file text)) :
    t'.text? directory name = t.text? directory name := by
  refine Option.ext fun text => ?_
  rw [text_some,text_some,read_ok,read_ok,node_ok,node_ok,find_join found open_ named,find_join found' open' named]
  refine exists_congr fun here => and_congr_right fun arrived => ?_
  rw [← find_join found open_ named] at arrived
  rw [find_join_ok found open_ named arrived]
  exact same text

theorem SameFiles.texts {t' : FileTree} (same : t.SameFiles t') (inside : t.isDirectory directory = true)
    (named : IsName name) : t'.text? directory name = t.text? directory name := by
  obtain ⟨place,found,open_⟩ := node_ok.mp (isDirectory_iff.mp inside)
  exact text_congr found open_ (find_kept same.toKeeps found) (same.directories place open_) named (same.files _)

end FileTree

namespace FileAction
variable {t t' : FileTree} {directory name text : String}

-- After a write a file holds what was written, and the others in its directory hold what they held.
theorem write_done (inside : t.isDirectory directory = true) (named : IsName name)
    (done : (write (join directory name) text).run t = (.ok (),t')) :
    t'.isDirectory directory = true ∧ (t.Sound → t'.Sound) ∧
      ∀ other, IsName other → t'.text? directory other = if other = name then some text else t.text? directory other := by
  rcases write_cases (join directory name) text t with ⟨e,failed⟩ | ⟨place,leads,allowed,ran⟩
  · rw [failed] at done
    cases done
  · rw [ran] at done
    cases done
    obtain ⟨here,found,open_⟩ := FileTree.node_ok.mp (FileTree.isDirectory_iff.mp inside)
    obtain ⟨rfl,arrives⟩ := leads.join found open_ named
    have keeps : t.Keeps (t.set (here ++ [name]) (.file text)) := FileTree.set_keeps allowed
    have proper := FileTree.proper_of_allowed allowed
    refine ⟨?_,fun sound => leads.sound_set sound allowed,?_⟩
    · exact FileTree.isDirectory_iff.mpr
        (FileTree.node_ok.mpr ⟨here,FileTree.find_kept keeps found,keeps.directories here open_⟩)
    · intro other named'
      split
      · rename_i same
        subst same
        refine FileTree.text_some.mpr (FileTree.read_ok.mpr (FileTree.node_ok.mpr ⟨_,FileTree.find_kept keeps arrives,?_⟩))
        rw [FileTree.node_set proper,if_pos rfl]
      · rename_i apart
        refine FileTree.text_congr found open_ (FileTree.find_kept keeps found) (keeps.directories here open_) named'
          fun old => ?_
        rw [FileTree.node_set proper,if_neg (by simpa using apart)]

-- A write that succeeds does not end in a slash, so its path is found as it stands.
theorem write_set {path : String} (done : (write path text).run t = (.ok (),t')) :
    ∃ place, t.find path = .ok place ∧ t.node? place ≠ some .directory ∧ t' = t.set place (.file text) := by
  rw [write_setting] at done
  rcases setting_cases path (.file text) .isDirectory .isDirectory writeBars t with
    ⟨e,failed⟩ | ⟨place,_,⟨routed,last,before,directory,names,walked,entered⟩,allowed,ran⟩
  · rw [failed] at done
    cases done
  · rw [ran] at done
    cases done
    have split : parts path = before.reverse ++ [last] := by
      cases ends : (parts path).reverse with
      | nil =>
        rw [ends] at names
        cases names
      | cons final earlier =>
        have split : parts path = earlier.reverse ++ [final] := by
          rw [← List.reverse_cons,← ends,List.reverse_reverse]
        have filled : final ≠ "" := fun idle => allowed (.inl (by rw [split,List.getLast?_concat,idle]))
        rw [ends,List.dropWhile_cons_of_neg (by simpa using filled)] at names
        cases names
        exact split
    refine ⟨place,bind_ok.mpr ⟨_,routed,?_⟩,fun taken => allowed (.inr taken),rfl⟩
    rw [split]
    exact FileTree.walk_last.mpr ⟨directory,walked,entered⟩

theorem write_found {path last : String} {before : List String} {place : Place} (found : t.find path = .ok place)
    (split : parts path = before ++ [last]) (filled : last ≠ "") (allowed : t.node? place ≠ some .directory) :
    (write path text).run t = (.ok (),t.set place (.file text)) := by
  obtain ⟨routed,walked⟩ := FileTree.find_parts found
  rw [split] at routed walked
  obtain ⟨directory,arrived,entered⟩ := FileTree.walk_last.mp walked
  have names : (before ++ [last]).reverse.dropWhile (· = "") = last :: before.reverse := by simp [filled]
  have free : ¬ writeBars (before ++ [last]) last (t.node? place) := by simp [writeBars,filled,allowed]
  rw [write_setting,setting,run_bind,run_get]
  dsimp only
  rw [run_bind,run_lift,routed]
  dsimp only
  rw [names]
  dsimp only
  rw [run_bind,run_lift,List.reverse_reverse,arrived]
  dsimp only
  rw [run_bind,run_lift,entered]
  dsimp only
  rw [if_neg free]
  rfl

theorem write_reads {path : String} (done : (write path text).run t = (.ok (),t')) : t'.read path = .ok text := by
  obtain ⟨place,found,allowed,rfl⟩ := write_set done
  refine FileTree.read_ok.mpr (FileTree.node_ok.mpr ⟨place,FileTree.find_kept (FileTree.set_keeps allowed) found,?_⟩)
  rw [FileTree.node_set (FileTree.proper_of_allowed allowed),if_pos rfl]

theorem write_others {path other old : String} (done : (write path text).run t = (.ok (),t')) (read : t.read other = .ok old) :
    t'.read other = .ok old ∨ t'.read other = .ok text := by
  obtain ⟨place,-,allowed,rfl⟩ := write_set done
  obtain ⟨here,found,file⟩ := FileTree.node_ok.mp (FileTree.read_ok.mp read)
  have reads (new : String) (holds : (t.set place (.file text)).node? here = some (.file new)) :
      (t.set place (.file text)).read other = .ok new :=
    FileTree.read_ok.mpr (FileTree.node_ok.mpr ⟨here,FileTree.find_kept (FileTree.set_keeps allowed) found,holds⟩)
  by_cases same : here = place
  · exact .inr (reads text (by rw [FileTree.node_set (FileTree.proper_of_allowed allowed),if_pos same]))
  · exact .inl (reads old (by rw [FileTree.node_set (FileTree.proper_of_allowed allowed),if_neg same,file]))

variable {α β : Type} {R : FileTree → FileTree → Prop}

-- Whatever comes of the action, the tree after it stands in this relation to the tree before it.
def Ensures (R : FileTree → FileTree → Prop) (a : FileAction α) : Prop := ∀ t, R t (a.run t).2

section
variable (refl : ∀ t, R t t) (trans : ∀ first second third, R first second → R second third → R first third)
include trans

theorem bind_leaves {a : FileAction α} {f : α → FileAction β} {t : FileTree} (first : R t (a.run t).2)
    (next : ∀ x t1, a.run t = (.ok x,t1) → R t t1 → R t1 ((f x).run t1).2) : R t ((a >>= f).run t).2 := by
  rw [run_bind]
  cases ran : a.run t with
  | mk r t1 =>
    rw [ran] at first
    cases r with
    | ok x => exact trans _ _ _ first (next x t1 ran first)
    | error e => exact first

theorem Ensures.bind {a : FileAction α} {f : α → FileAction β} (first : Ensures R a) (next : ∀ x, Ensures R (f x)) :
    Ensures R (a >>= f) :=
  fun t => bind_leaves trans (first t) fun x t1 _ _ => next x t1

theorem Ensures.catch {a : FileAction α} {handle : FileError → FileAction α} (first : Ensures R a)
    (next : ∀ e, Ensures R (handle e)) : Ensures R (tryCatch a handle) := by
  intro t
  have before := first t
  rw [run_catch]
  cases ran : a.run t with
  | mk r t' =>
    rw [ran] at before
    cases r with
    | ok x => exact before
    | error e => exact trans _ _ _ before (next e t')

include refl

theorem ensureDirectory_ensures (one : ∀ path, Ensures R (makeDirectory path)) (path : String) :
    Ensures R (ensureDirectory path) := by
  unfold ensureDirectory
  refine Ensures.catch trans (one path) fun e => Ensures.bind trans (fun t => refl t) fun t => ?_
  split <;> exact fun t => refl t

theorem makeUpwards_ensures (one : ∀ path, Ensures R (makeDirectory path)) (fuel : Nat) (path : String) :
    Ensures R (makeUpwards fuel path) := by
  have ensured := ensureDirectory_ensures refl trans one
  induction fuel generalizing path with
  | zero => exact ensured path
  | succ fuel ih =>
    unfold makeUpwards
    split
    · exact fun t => refl t
    · refine Ensures.catch trans (ensured path) fun e => ?_
      split
      · refine Ensures.bind trans ?_ fun _ => ensured path
        cases parent? path with
        | none => exact fun t => refl t
        | some above => exact ih above
      · exact fun t => refl t

end

theorem makeDirectories_same (path : String) : Ensures FileTree.SameFiles (makeDirectories path) := by
  refine makeUpwards_ensures FileTree.SameFiles.refl (fun _ _ _ => FileTree.SameFiles.trans) ?_ _ _
  intro path t
  rcases makeDirectory_cases path t with ⟨e,failed⟩ | ⟨place,-,free,ran⟩
  · rw [failed]
    exact .refl t
  · rw [ran]
    exact FileTree.set_directory_same free

theorem bind_same {a : FileAction α} {f : α → FileAction β} (first : t.SameFiles (a.run t).2)
    (next : ∀ x t1, a.run t = (.ok x,t1) → t.SameFiles t1 → t1.SameFiles ((f x).run t1).2) :
    t.SameFiles ((a >>= f).run t).2 :=
  bind_leaves (fun _ _ _ left right => left.trans right) first next

theorem makeDirectories_sound (path : String) : Ensures (fun t t' => t.Sound → t'.Sound) (makeDirectories path) := by
  refine makeUpwards_ensures (fun _ => id) (fun _ _ _ left right sound => right (left sound)) ?_ _ _
  intro path t sound
  rcases makeDirectory_cases path t with ⟨e,failed⟩ | ⟨place,leads,free,ran⟩
  · rw [failed]
    exact sound
  · rw [ran]
    exact leads.sound_set sound (by simp [free])

end FileAction

end DomainSchema
