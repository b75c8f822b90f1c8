import DomainSchema.Proofs.Paths
import Mathlib.Data.List.Nodup

namespace DomainSchema.FileTree
open DomainSchema.Path

-- A tree as a file system has it: whatever is listed is listed once and stands in a directory, under a name of files.
structure Sound (t : FileTree) : Prop where
  home : ∀ name ∈ t.home, IsFileName name
  once : (t.nodes.map Prod.fst).Nodup
  named : ∀ entry ∈ t.nodes, ∀ name ∈ entry.1, IsFileName name
  held : ∀ entry ∈ t.nodes, entry.1.isPrefixOf t.home = false ∧ t.node? entry.1.dropLast = some .directory

-- The directories of the first are in the second, so its ways lead on.
structure Keeps (t t' : FileTree) : Prop where
  home : t'.home = t.home
  directories : ∀ place, t.node? place = some .directory → t'.node? place = some .directory

structure SameFiles (t t' : FileTree) : Prop extends Keeps t t' where
  files : ∀ place text, t'.node? place = some (.file text) ↔ t.node? place = some (.file text)

-- A file of this name stands directly in the directory.
def HasFile (t : FileTree) (directory name : String) : Prop :=
  ∃ place text, t.find directory = .ok place ∧ t.node? place = some .directory ∧
    t.node? (place ++ [name]) = some (.file text)

theorem SameFiles.refl (t : FileTree) : SameFiles t t := ⟨⟨rfl,fun _ => id⟩,fun _ _ => Iff.rfl⟩

theorem SameFiles.trans {first second third : FileTree} (left : SameFiles first second) (right : SameFiles second third) :
    SameFiles first third :=
  ⟨⟨right.home.trans left.home,fun place here => right.directories place (left.directories place here)⟩,
    fun place text => (right.files place text).trans (left.files place text)⟩

section
variable {t t' : FileTree} {place other : Place} {node : Node} {path directory name text : String}

theorem setNode_lookup (place : Place) (node : Node) (nodes : List (Place × Node)) (other : Place) :
    (setNode place node nodes).lookup other = if other = place then some node else nodes.lookup other := by
  induction nodes with
  | nil => rw [setNode,lookup_cons_if]
  | cons entry rest ih =>
    obtain ⟨key,old⟩ := entry
    by_cases here : key = place
    · rw [setNode,if_pos here,lookup_cons_if,lookup_cons_if]
      by_cases same : other = place <;> simp [same,here]
    · rw [setNode,if_neg here,lookup_cons_if,lookup_cons_if,ih]
      by_cases same : other = place
      · have apart : other ≠ key := fun equal => here (equal.symm.trans same)
        simp [same,Ne.symm here]
      · simp [same]

theorem setNode_places (place : Place) (node : Node) (nodes : List (Place × Node)) :
    (setNode place node nodes).map Prod.fst =
      if place ∈ nodes.map Prod.fst then nodes.map Prod.fst else nodes.map Prod.fst ++ [place] := by
  induction nodes with
  | nil => simp [setNode]
  | cons entry rest ih =>
    by_cases here : entry.1 = place
    · simp [setNode,here]
    · rw [setNode,if_neg here,List.map_cons,ih,List.map_cons]
      by_cases later : place ∈ rest.map Prod.fst
      · rw [if_pos later,if_pos (List.mem_cons_of_mem _ later)]
      · rw [if_neg later,if_neg,List.cons_append]
        intro member
        rcases List.mem_cons.mp member with same | again
        · exact here same.symm
        · exact later again

-- The working directory and those above it are always there, so nothing is written over them.
theorem proper_of_allowed (allowed : t.node? place ≠ some .directory) : place.isPrefixOf t.home = false := by
  rw [Bool.eq_false_iff]
  intro above
  rw [node?,if_pos above] at allowed
  exact allowed rfl

theorem node_set (proper : place.isPrefixOf t.home = false) :
    (t.set place node).node? other = if other = place then some node else t.node? other := by
  unfold node? set
  dsimp only
  by_cases above : other.isPrefixOf t.home = true
  · have apart : other ≠ place := by
      rintro rfl
      simp [proper] at above
    rw [if_pos above,if_neg apart,if_pos above]
  · rw [if_neg above,setNode_lookup,if_neg above]

theorem set_keeps (allowed : t.node? place ≠ some .directory) : t.Keeps (t.set place node) := by
  refine ⟨rfl,fun there inside => ?_⟩
  rw [node_set (proper_of_allowed allowed),if_neg]
  · exact inside
  · rintro rfl
    exact allowed inside

theorem listed (proper : place.isPrefixOf t.home = false) (here : t.node? place = some node) : (place,node) ∈ t.nodes := by
  rw [node?,if_neg (by simp [proper])] at here
  obtain ⟨before,after,split,-⟩ := List.lookup_eq_some_iff.mp here
  simp [split]

theorem file_listed (file : t.node? place = some (.file text)) : (place,.file text) ∈ t.nodes :=
  listed (proper_of_allowed (by simp [file])) file

theorem Sound.node_of_listed (sound : t.Sound) (member : (place,node) ∈ t.nodes) : t.node? place = some node := by
  have proper : place.isPrefixOf t.home = false := (sound.held _ member).1
  rw [node?,if_neg (by simp [proper])]
  exact lookup_distinct sound.once member

theorem Sound.node_iff (sound : t.Sound) : t.node? place = some (.file text) ↔ (place,.file text) ∈ t.nodes :=
  ⟨file_listed,sound.node_of_listed⟩

theorem Sound.names (sound : t.Sound) (here : t.node? place = some node) : ∀ name ∈ place, IsFileName name := by
  intro name member
  cases above : place.isPrefixOf t.home with
  | true => exact sound.home name ((List.isPrefixOf_iff_prefix.mp above).subset member)
  | false => exact sound.named _ (listed above here) name member

theorem Sound.above (sound : t.Sound) (here : t.node? place = some node) : t.node? place.dropLast = some .directory := by
  cases above : place.isPrefixOf t.home with
  | true =>
    have higher := (List.dropLast_prefix place).trans (List.isPrefixOf_iff_prefix.mp above)
    rw [node?,if_pos (List.isPrefixOf_iff_prefix.mpr higher)]
  | false => exact (sound.held _ (listed above here)).2

theorem Sound.set (sound : t.Sound) (allowed : t.node? place ≠ some .directory) (names : ∀ name ∈ place, IsFileName name)
    (above : t.node? place.dropLast = some .directory) : (t.set place node).Sound := by
  have proper := proper_of_allowed allowed
  have places := setNode_places place node t.nodes
  have listed : ∀ here ∈ (setNode place node t.nodes).map Prod.fst, here ∈ t.nodes.map Prod.fst ∨ here = place := by
    intro here member
    rw [places] at member
    split at member
    · exact .inl member
    · rcases List.mem_append.mp member with old | new
      · exact .inl old
      · exact .inr (List.mem_singleton.mp new)
  have keeps : t.Keeps (t.set place node) := set_keeps allowed
  refine ⟨sound.home,?_,?_,?_⟩
  · change ((setNode place node t.nodes).map Prod.fst).Nodup
    rw [places]
    split
    · exact sound.once
    · rename_i fresh
      refine List.nodup_append.mpr ⟨sound.once,by simp,?_⟩
      intro old member new last same
      cases List.mem_singleton.mp last
      exact fresh (same ▸ member)
  · intro entry member name inside
    rcases listed entry.1 (List.mem_map_of_mem member) with old | rfl
    · obtain ⟨before,was,same⟩ := List.mem_map.mp old
      exact sound.named before was name (same ▸ inside)
    · exact names name inside
  · intro entry member
    rcases listed entry.1 (List.mem_map_of_mem member) with old | rfl
    · obtain ⟨before,was,same⟩ := List.mem_map.mp old
      have held := sound.held before was
      rw [same] at held
      exact ⟨held.1,keeps.directories _ held.2⟩
    · exact ⟨proper,keeps.directories _ above⟩

theorem enter_kept (keeps : t.Keeps t') {here there : Place} {part : String} (entered : t.enter here part = .ok there) :
    t'.enter here part = .ok there := by
  have inside := enter_directory entered
  rw [enter,inside] at entered
  rw [enter,keeps.directories here inside]
  exact entered

theorem walk_kept (keeps : t.Keeps t') {parts : List String} {here there : Place}
    (walked : parts.foldlM t.enter here = .ok there) : parts.foldlM t'.enter here = .ok there := by
  induction parts generalizing here with
  | nil => exact walked
  | cons part rest ih =>
    obtain ⟨next,entered,later⟩ := walk_cons.mp walked
    exact walk_cons.mpr ⟨next,enter_kept keeps entered,ih later⟩

theorem find_kept (keeps : t.Keeps t') (found : t.find path = .ok place) : t'.find path = .ok place := by
  obtain ⟨routed,walked⟩ := find_parts found
  refine bind_ok.mpr ⟨_,routed,?_⟩
  rw [start,keeps.home]
  exact walk_kept keeps walked

theorem node_ok : t.node path = .ok node ↔ ∃ place, t.find path = .ok place ∧ t.node? place = some node := by
  unfold FileTree.node
  cases found : t.find path with
  | error e => exact ⟨nofun,nofun⟩
  | ok place =>
    simp only [Bind.bind,Except.bind]
    cases here : t.node? place with
    | none => simp [here]
    | some n => simp [here]

theorem isDirectory_iff : t.isDirectory path = true ↔ t.node path = .ok .directory := by
  unfold isDirectory
  split
  · rename_i here
    simp [here]
  · rename_i other
    simpa using other

theorem read_ok : t.read path = .ok text ↔ t.node path = .ok (.file text) := by
  unfold read
  cases t.node path with
  | error e => exact ⟨nofun,nofun⟩
  | ok n =>
    cases n with
    | directory => exact ⟨nofun,nofun⟩
    | file old =>
      change Except.ok old = Except.ok text ↔ _
      simp

theorem isFile_iff : t.isFile path = true ↔ ∃ text, t.read path = .ok text := by
  simp only [read_ok]
  unfold isFile
  split
  · rename_i text here
    simp [here]
  · rename_i other
    simpa using other

theorem SameFiles.read (same : t.SameFiles t') (found : t.read path = .ok text) : t'.read path = .ok text := by
  obtain ⟨place,there,here⟩ := node_ok.mp (read_ok.mp found)
  exact read_ok.mpr (node_ok.mpr ⟨place,find_kept same.toKeeps there,(same.files place text).mpr here⟩)

theorem SameFiles.isDirectory (same : t.SameFiles t') (inside : t.isDirectory path = true) : t'.isDirectory path = true := by
  obtain ⟨place,there,here⟩ := node_ok.mp (isDirectory_iff.mp inside)
  exact isDirectory_iff.mpr (node_ok.mpr ⟨place,find_kept same.toKeeps there,same.directories place here⟩)

theorem read_join_place (there : t.find directory = .ok place) (inside : t.node? place = some .directory)
    (named : IsName name) (found : t.read (join directory name) = .ok text) :
    t.node? (place ++ [name]) = some (.file text) := by
  obtain ⟨here,arrived,node⟩ := node_ok.mp (read_ok.mp found)
  rwa [find_join_ok there inside named arrived] at node

theorem below_iff {there names : Place} : below? place there = some names ↔ there = place ++ names := by
  unfold below?
  constructor
  · intro leads
    split at leads
    · rename_i before
      obtain ⟨rest,rfl⟩ := List.isPrefixOf_iff_prefix.mp before
      rw [List.drop_left' rfl] at leads
      cases leads
      rfl
    · cases leads
  · rintro rfl
    rw [List.drop_left' rfl,if_pos]
    exact List.isPrefixOf_iff_prefix.mpr (List.prefix_append _ _)

theorem Sound.mem_filesBelow (sound : t.Sound) {names : Place} :
    names ∈ t.filesBelow place ↔ ∃ text, t.node? (place ++ names) = some (.file text) := by
  simp only [sound.node_iff]
  constructor
  · intro member
    obtain ⟨⟨here,node⟩,listed,leads⟩ := List.mem_filterMap.mp member
    cases node with
    | directory => cases leads
    | file text =>
      cases below_iff.mp leads
      exact ⟨text,listed⟩
  · rintro ⟨text,listed⟩
    exact List.mem_filterMap.mpr ⟨_,listed,below_iff.mpr rfl⟩

theorem filesBelow_once (once : (t.nodes.map Prod.fst).Nodup) (place : Place) : (t.filesBelow place).Nodup := by
  have apart : t.nodes.Pairwise (fun a b => a.1 ≠ b.1) := List.pairwise_map.mp once
  refine List.Pairwise.filterMap _ ?_ apart
  rintro ⟨here,node⟩ ⟨here',node'⟩ differ names found names' found' same
  cases node with
  | directory => cases found
  | file text =>
    cases node' with
    | directory => cases found'
    | file text' => exact differ (by rw [below_iff.mp found,below_iff.mp found',same])

theorem Sound.mem_filesIn (sound : t.Sound) :
    name ∈ t.filesIn place ↔ ∃ text, t.node? (place ++ [name]) = some (.file text) := by
  rw [← sound.mem_filesBelow]
  constructor
  · intro member
    obtain ⟨names,below,only⟩ := List.mem_filterMap.mp member
    split at only
    · cases only
      exact below
    · cases only
  · exact fun below => List.mem_filterMap.mpr ⟨[name],below,rfl⟩

theorem filesIn_once (sound : t.Sound) (place : Place) : (t.filesIn place).Nodup := by
  refine List.Pairwise.filterMap _ ?_ (filesBelow_once sound.once place)
  intro names names' differ name only name' only' same
  split at only
  · split at only'
    · cases only
      cases only'
      exact differ (by rw [same])
    · cases only'
  · cases only

end

end DomainSchema.FileTree
