import DomainSchema.Proofs.Descents
import DomainSchema.Proofs.FileActions
import DomainSchema.Proofs.Priority
import DomainSchema.Settings.Saving

namespace DomainSchema

-- A saved file sets everything, so what it is loaded together with does not show.

namespace ConfigLibrary
variable (lib : ConfigLibrary)

-- What is written for settings is read again: it says of every setting what it is.
def ReadsBack : Prop := ∀ (s : Settings) (t : FileTree) (name : String) (required : Bool), TomlFile name →
  t.read (t.absolute name) = .ok (lib.document s.groups) → ∃ said, lib.file t name required = .ok said ∧
    ∀ leaf, (∃ v, lib.word [said] leaf = .ok (some v)) ∧ lib.leafTaken (lib.word [said] leaf) leaf = .ok (leaf.value s)

def Ignores : Prop := ∀ (env : List (String × String)) (start separator : String),
  (∀ entry ∈ env, (Text.lower (start ++ separator)).toList.isPrefixOf (Text.lower entry.1).toList = false) →
    ∀ leaf, lib.word [lib.environment env start separator] leaf = .ok none

end ConfigLibrary

namespace SettingsSources

-- The files at the places where one is looked for can all be read, apart from those that hold this text.
def OthersParse (lib : ConfigLibrary) (src : SettingsSources) (text : String) : Prop :=
  ∀ name ∈ usualFiles ++ src.userFile.toList, TomlFile name ∧ src.files.read (src.files.absolute name) = .ok text ∨
    ∃ said, lib.file src.files name false = .ok said

end SettingsSources

section
variable {lib : ConfigLibrary} {src : SettingsSources} {s : Settings} {path : String}

theorem mapM_parse {names : List String} (each : ∀ name ∈ names, ∃ said, lib.file src.files name false = .ok said) :
    ∃ saids, names.mapM (lib.file src.files · false) = .ok saids := by
  induction names with
  | nil => exact ⟨[],rfl⟩
  | cons name names ih =>
    obtain ⟨⟨said,first⟩,others⟩ := List.forall_mem_cons.mp each
    obtain ⟨saids,rest⟩ := ih others
    exact ⟨said :: saids,by rw [List.mapM_cons,first,rest]; rfl⟩

theorem saved_settings_load (readsBack : lib.ReadsBack) (ignores : lib.Ignores) {before : FileTree} (toml : TomlFile path)
    (saved : (s.save lib path).run before = (.ok (),src.files)) (home : ∀ name ∈ src.files.home, Path.IsFileName name)
    (short : (src.files.absolute path).utf8ByteSize < 4096) (named : src.file = some path)
    (unset : ∀ entry ∈ src.environment, "domain_forge__".toList.isPrefixOf (Text.lower entry.1).toList = false)
    (parse : src.OthersParse lib (lib.document s.groups)) (merges : src.MergeByLeaf lib) : Settings.load lib src = .ok s := by
  have held := FileTree.read_absolute home short (FileAction.write_reads saved)
  obtain ⟨own,found,tells⟩ := readsBack s src.files path true toml held
  have others : ∀ name ∈ SettingsSources.usualFiles ++ src.userFile.toList,
      ∃ said, lib.file src.files name false = .ok said := by
    intro name known
    rcases parse name known with ⟨toml',read⟩ | parsed
    · obtain ⟨said,again,-⟩ := readsBack s src.files name false toml' read
      exact ⟨said,again⟩
    · exact parsed
  have usual : ∀ name ∈ SettingsSources.usualFiles, ∃ saids, [name].mapM (lib.file src.files · false) = .ok saids := by
    intro name known
    exact mapM_parse (List.forall_mem_singleton.mpr (others name (List.mem_append_left _ known)))
  have user := @mapM_parse lib src (src.userFile.toList.filter src.files.contains) fun name member =>
    others name (List.mem_append_right _ (List.mem_of_mem_filter member))
  have givenNamed : src.given lib .named = .ok [own] := by
    rw [SettingsSources.given,named]
    exact mapM_one found
  have each (source : Source) : ∃ saids, src.given lib source = .ok saids := by
    cases source with
    | project => exact usual _ (by decide)
    | hidden => exact usual _ (by decide)
    | nested => exact usual _ (by decide)
    | user => exact user
    | named => exact ⟨_,givenNamed⟩
    | environment => exact ⟨_,rfl⟩
  choose saids given using each
  have said := SettingsSources.said_ok given
  rw [ConfigLibrary.load_words said,ConfigLibrary.settingsOf_ok]
  intro leaf
  obtain ⟨⟨v,speaks⟩,taken⟩ := tells leaf
  have ownWord : lib.lastWord (saids .named) leaf = .ok (some v) := by
    rw [Except.ok.inj ((given .named).symm.trans givenNamed),ConfigLibrary.lastWord_cons,speaks]
    rfl
  have silent : lib.lastWord (saids .environment) leaf = .ok none := by
    have givenEnvironment : src.given lib .environment = .ok [src.fromEnvironment lib] := rfl
    have start : Text.lower ("DOMAIN_FORGE" ++ "__") = "domain_forge__" := by decide
    have ignored := ignores src.environment "DOMAIN_FORGE" "__" (by rwa [start]) leaf
    rw [Except.ok.inj ((given .environment).symm.trans givenEnvironment),ConfigLibrary.lastWord_cons,
      SettingsSources.fromEnvironment,ignored]
    rfl
  have decided : lib.word (Source.all.flatMap saids) leaf = .ok (some v) := by
    rw [merges _ said,SettingsSources.lastWord_flatMap]
    simp only [Source.all,List.map_cons,List.map_nil,List.foldr_cons,List.foldr_nil,ownWord,silent]
    rfl
  rw [decided,← speaks]
  exact taken

end

namespace Layers

def pairOf (entry : String × Plain) : Toml.Pair := ⟨entry.1,plainText entry.2,match entry.2 with
  | .text t => .string t
  | .texts ts => .array (ts.map .string)
  | .choice b => .boolean b⟩

def blocks (s : Settings) : List Toml.Block := s.groups.map fun (name,entries) => ⟨name,entries.map pairOf⟩

theorem document_blocks (s : Settings) : document s.groups = Text.join "\n" ((blocks s).map Toml.Block.text) := rfl

theorem pair_good {key : String} (bare : Toml.Bare key) (p : Plain) : (pairOf (key,p)).Good := by
  cases p with
  | text t => exact Toml.good_string bare t
  | texts ts => exact Toml.good_strings bare ts
  | choice b => exact Toml.good_boolean bare b

theorem blocks_good (s : Settings) : ∀ block ∈ blocks s, block.Good := by
  intro block member
  obtain ⟨entry,listed,rfl⟩ := List.mem_map.mp member
  obtain ⟨g,-,rfl⟩ := List.mem_map.mp listed
  have bare (leaf : Leaf) : Toml.Bare leaf.key := by cases leaf <;> exact ⟨by decide,by decide⟩
  have pairs : ∀ pair ∈ (g.leaves.map fun leaf => (leaf.key,leaf.value s)).map pairOf, pair.Good := by
    intro pair inside
    obtain ⟨entry,written,rfl⟩ := List.mem_map.mp inside
    obtain ⟨leaf,-,rfl⟩ := List.mem_map.mp written
    exact pair_good (bare leaf) _
  have distinct : (g.leaves.map Leaf.key).Nodup := by cases g <;> decide
  exact Toml.good_block _ (by cases g <;> exact ⟨by decide,by decide⟩) pairs (by simp [pairOf,Function.comp_def]) distinct

theorem blocks_single (s : Settings) : ∀ block ∈ blocks s, Layers.pathOf block.name = (block.name,[]) := by
  intro block member
  obtain ⟨entry,listed,rfl⟩ := List.mem_map.mp member
  obtain ⟨g,-,rfl⟩ := List.mem_map.mp listed
  have path (g : Group) : Layers.pathOf g.key = (g.key,[]) := by cases g <;> decide
  exact path g

theorem blocks_plain (origin : String) (s : Settings) :
    ∀ block ∈ blocks s, ∀ pair ∈ block.pairs, (ofToml origin pair.value).isTable = false := by
  intro block member pair inside
  obtain ⟨entry,listed,rfl⟩ := List.mem_map.mp member
  obtain ⟨⟨key,p⟩,-,rfl⟩ := List.mem_map.mp inside
  cases p <;> simp [pairOf,ofToml,Tree.isTable]

def saved (origin : String) (s : Settings) : Layer := layerOf origin (blocks s)

theorem saved_tabular (origin : String) (s : Settings) : Tabular (saved origin s) :=
  layerOf_tabular (blocks_single s) (blocks_plain origin s)

theorem keyed_map {α : Type} {name : α → String} {xs : List α} (lower : ∀ x ∈ xs, Text.lower (name x) = name x)
    (distinct : (xs.map name).Nodup) {x : α} (member : x ∈ xs) (value : α → Tree) :
    keyed (name x) (xs.map fun y => (name y,value y)) = [value x] := by
  induction xs with
  | nil => cases member
  | cons y xs ih =>
    rw [List.map_cons,List.nodup_cons] at distinct
    obtain ⟨own,others⟩ := List.forall_mem_cons.mp lower
    rcases List.mem_cons.mp member with rfl | later
    · have rest : keyed (name x) (xs.map fun y => (name y,value y)) = [] := by
        refine List.filterMap_eq_nil_iff.mpr fun entry listed => ?_
        obtain ⟨y,inside,rfl⟩ := List.mem_map.mp listed
        refine if_neg fun same => distinct.1 ?_
        rw [others y inside] at same
        exact same ▸ List.mem_map_of_mem inside
      rw [keyed,List.map_cons,List.filterMap_cons]
      dsimp only
      rw [if_pos own]
      exact congrArg (value x :: ·) rest
    · have apart : Text.lower (name y) ≠ name x := by
        rw [own]
        exact fun same => distinct.1 (same ▸ List.mem_map_of_mem later)
      rw [keyed,List.map_cons,List.filterMap_cons]
      dsimp only
      rw [if_neg apart]
      exact ih others distinct.2 later

theorem told_saved (origin : String) (s : Settings) (leaf : Leaf) :
    told leaf (saved origin s) = [ofToml origin (pairOf (leaf.key,leaf.value s)).value] := by
  have lowerGroup (g : Group) : Text.lower g.key = g.key := by cases g <;> decide
  have lowerLeaf (leaf : Leaf) : Text.lower leaf.key = leaf.key := by cases leaf <;> decide
  have distinct (g : Group) : (g.leaves.map Leaf.key).Nodup := by cases g <;> decide
  have inside : leaf.group ∈ Group.all ∧ leaf ∈ leaf.group.leaves := by cases leaf <;> decide
  have table : layerOf origin (blocks s) = Group.all.map fun g => (g.key,.table origin
      (g.leaves.map fun leaf => (leaf.key,ofToml origin (pairOf (leaf.key,leaf.value s)).value))) := by
    simp [layerOf,blocks,Settings.groups,entriesOfToml_map,Toml.Block.entry,Toml.Pair.entry,ofToml,pairOf,Function.comp_def]
  rw [told,saved,groupsOf_layerOf (blocks_single s) (blocks_plain origin s),table,
    keyed_map (fun g _ => lowerGroup g) (by decide) inside.1,List.flatMap_singleton]
  exact keyed_map (fun leaf _ => lowerLeaf leaf) (distinct _) inside.2 _

theorem texts_written (origin : String) (ts : List String) : texts (ofToml origin (.array (ts.map .string))) = .ok ts := by
  have items : itemsOfToml origin (ts.map .string) = ts.map fun t => .scalar origin (.string t) := by
    induction ts with
    | nil => rw [List.map_nil,itemsOfToml]; rfl
    | cons t ts ih => rw [List.map_cons,itemsOfToml,ofToml,ih]; rfl
  have all (i : Nat) : textsFrom i (ts.map fun t => .scalar origin (.string t)) = .ok ts := by
    clear items
    induction ts generalizing i with
    | nil => rfl
    | cons t ts ih =>
      rw [List.map_cons,textsFrom,ih]
      rfl
  rw [ofToml,items]
  exact all 0

theorem plain_read (origin : String) (s : Settings) (leaf : Leaf) :
    library.leafTaken (.ok (some (leaf.group.key,leaf.key,ofToml origin (pairOf (leaf.key,leaf.value s)).value))) leaf =
      .ok (leaf.value s) := by
  cases leaf with
  | listTypes =>
    have read := texts_written origin s.recognition.listTypes
    simp only [ConfigLibrary.leafTaken,ConfigLibrary.taken,pairOf,Leaf.value,Bind.bind,Except.bind,read]
    rfl
  | _ => rfl

theorem file_saved {s : Settings} {t : FileTree} {name : String} (required : Bool) (toml : TomlFile name)
    (read : t.read (t.absolute name) = .ok (document s.groups)) :
    library.file t name required = .ok (saved (shown t (t.absolute name)) s) :=
  file_written required toml (blocks_good s) (show ["runtime","naming","types","output","diagnostics"].Nodup by decide)
    (read.trans (congrArg Except.ok (document_blocks s)))

theorem library_readsBack : library.ReadsBack := by
  intro s t name required toml read
  refine ⟨_,file_saved required toml read,fun leaf => ?_⟩
  have word := word_tabular (List.forall_mem_singleton.mpr (saved_tabular (shown t (t.absolute name)) s)) leaf
  rw [List.flatten_singleton,told_saved] at word
  rw [word]
  exact ⟨⟨_,rfl⟩,plain_read _ s leaf⟩

theorem library_ignores : library.Ignores := by
  intro env start separator unset leaf
  have silent : library.environment env start separator = [] := by
    refine List.filterMap_eq_nil_iff.mpr fun entry member => ?_
    obtain ⟨name,value⟩ := entry
    have none : variableKey? start separator name = none := by
      rw [variableKey?,unset _ member]
      rfl
    exact congrArg (Option.map _) none
  rw [silent]
  rfl

end Layers

open Layers

def otherProject : Settings := { library := { path := "::other" }, naming := { constructor := "make" } }

def othersHome : FileTree := ⟨["home"],[(["home","domain-forge.toml"],.file (document otherProject.groups))]⟩

def besideOther (path : String) (environment : List (String × String)) : SettingsSources :=
  ⟨((({} : Settings).save library path).run othersHome).2,environment,none,some path⟩

-- The tree is that after saving, under whatever path the file was saved.
theorem usual_tabular {files : FileTree} {name : String} (known : name = "forge.toml" ∨ name = ".toml")
    (after : files = othersHome.set ["home",name] (.file (document ({} : Settings).groups))) :
    ∀ usual ∈ SettingsSources.usualFiles, ∃ layer, library.file files usual false = .ok layer ∧ Tabular layer := by
  have read : files.read (files.absolute "domain-forge.toml") = .ok (document otherProject.groups) := by
    rcases known with rfl | rfl <;> subst after <;> rfl
  have absent : ∀ usual ∈ [".domain-forge.toml","config/domain-forge.toml"],
      findFile files usual = .error (.noSuchFile usual) := by
    rcases known with rfl | rfl <;> subst after <;> decide +kernel
  have project := file_saved false ⟨"domain-forg".toList,'e',rfl,by decide⟩ read
  exact List.forall_mem_cons.mpr ⟨⟨_,project,saved_tabular _ _⟩,
    fun usual member => ⟨_,file_absent (absent usual member),nofun⟩⟩

section
variable {src : SettingsSources} (alone : src.userFile = none)
  (usual : ∀ name ∈ SettingsSources.usualFiles, ∃ layer, library.file src.files name false = .ok layer ∧ Tabular layer)
include alone usual

theorem usual_parse (text : String) : src.OthersParse library text := by
  intro name member
  rw [alone,Option.toList_none,List.append_nil] at member
  exact .inr ((usual name member).imp fun _ => And.left)

theorem usual_merge (named : ∀ path ∈ src.file, ∀ layer, library.file src.files path true = .ok layer → Tabular layer)
    (variables_ : Tabular (src.fromEnvironment library)) : src.MergeByLeaf library := by
  have one {place : String} (known : place ∈ SettingsSources.usualFiles) {layer : Layer}
      (found : ∃ name ∈ [place], library.file src.files name false = .ok layer) : Tabular layer := by
    obtain ⟨name,single,found⟩ := found
    rw [List.mem_singleton.mp single] at found
    obtain ⟨own,reads,tabular⟩ := usual place known
    exact Except.ok.inj (reads.symm.trans found) ▸ tabular
  refine merge_sources fun source saids given layer member => ?_
  cases source with
  | project => exact one (by decide) (mapM_ok_mem given member)
  | hidden => exact one (by decide) (mapM_ok_mem given member)
  | nested => exact one (by decide) (mapM_ok_mem given member)
  | user =>
    obtain ⟨name,listed,-⟩ := mapM_ok_mem given member
    rw [alone] at listed
    cases listed
  | named =>
    obtain ⟨path,own,found⟩ := mapM_ok_mem given member
    exact named path (Option.mem_toList.mp own) layer found
  | environment =>
    cases given
    exact List.mem_singleton.mp member ▸ variables_

omit alone in
theorem usual_reads : ∃ saids, SettingsSources.usualFiles.mapM (library.file src.files · false) = .ok saids ∧
    ∀ layer ∈ saids, Tabular layer := by
  obtain ⟨saids,reads⟩ := @mapM_parse library src _ fun name member => (usual name member).imp fun _ => And.left
  refine ⟨saids,reads,fun layer member => ?_⟩
  obtain ⟨name,known,found⟩ := mapM_ok_mem reads member
  obtain ⟨other,own,tabular⟩ := usual name known
  exact Except.ok.inj (own.symm.trans found) ▸ tabular

theorem load_named_error {path : String} {e : SettingsError} (named : src.file = some path)
    (fails : library.file src.files path true = .error e) : Settings.load library src = .error e := by
  obtain ⟨saids,reads,-⟩ := usual_reads usual
  have own : [path].mapM (library.file src.files · true) = .error e := by
    rw [List.mapM_cons,fails]
    rfl
  rw [Settings.load,SettingsSources.said,reads,alone,named,Option.toList_some,own]
  rfl

end

theorem forge_toml : TomlFile "forge.toml" := ⟨"forg".toList,'e',rfl,by decide⟩

theorem besideOther_load : Settings.load library (besideOther "forge.toml" [("HOME","/home")]) = .ok {} := by
  have usual := @usual_tabular (besideOther "forge.toml" [("HOME","/home")]).files "forge.toml" (.inl rfl) rfl
  have own := @file_saved {} (besideOther "forge.toml" [("HOME","/home")]).files _ true forge_toml rfl
  refine saved_settings_load library_readsBack library_ignores forge_toml (Prod.ext rfl rfl) (by decide) (by decide) rfl
    (by decide) (usual_parse rfl usual _) (usual_merge rfl usual ?_ nofun)
  rintro path ⟨⟩ layer found
  exact Except.ok.inj (own.symm.trans found) ▸ saved_tabular _ _

-- Less is not enough: a file that is named by its extension is of no format, a path that is taken in the working
-- directory may be too long from the root, and variables count in lower case too.

structure SettingsSources.Saved (lib : ConfigLibrary) (src : SettingsSources) (s : Settings) (path : String) : Prop where
  ending : ".toml".toList <:+ path.toList
  written : ∃ before, (s.save lib path).run before = (.ok (),src.files)
  named : src.file = some path
  unset : ∀ entry ∈ src.environment, "DOMAIN_FORGE__".toList.isPrefixOf entry.1.toList = false
  parse : src.OthersParse lib (lib.document s.groups)
  merges : src.MergeByLeaf lib

theorem extended_longer {path name inner : String} {f : Format} (last : (Path.parts path).getLast? = some name)
    (proper : name ≠ "" ∧ name ≠ ".") (member : (inner,f) ∈ extended path) :
    path.utf8ByteSize ≤ inner.utf8ByteSize := by
  have kept : Path.dropIdle (Path.parts path).reverse = (Path.parts path).reverse := by
    match reversed : (Path.parts path).reverse with
    | [] | [_] => rfl
    | part :: next :: before =>
      rw [List.getLast?_eq_head?_reverse,reversed] at last
      cases last
      exact if_neg (not_or.mpr proper)
  unfold extended at member
  rw [kept] at member
  split at member
  · cases member
  · cases member
  · cases member
  · rw [List.reverse_reverse,Path.join_of_parts] at member
    obtain ⟨format,-,named⟩ := List.mem_flatMap.mp member
    obtain ⟨extension,-,same⟩ := List.mem_map.mp named
    cases same
    simp only [String.utf8ByteSize_append]
    omega

def longWay (n : Nat) : String := Path.roundabout "forge.toml" n

section
variable {n : Nat}

theorem forge_named : Path.IsFileName "forge.toml" := ⟨⟨by decide,by decide,by decide,by decide⟩,by decide,by decide⟩

theorem longWay_written (short : 2 * n + 10 < 4096) : (({} : Settings).save library (longWay n)).run othersHome =
    (.ok (),othersHome.set ["home","forge.toml"] (.file (document ({} : Settings).groups))) :=
  FileAction.write_found (FileTree.find_roundabout othersHome forge_named short)
    (Path.roundabout_parts forge_named n).1 (by decide) (by decide)

theorem longWay_lost {files : FileTree} (home : files.home = ["home"]) (long : 4096 ≤ 2 * n + 16) :
    findFile files (longWay n) = .error (.noSuchFile (longWay n)) := by
  obtain ⟨split,relative,-,size⟩ := Path.roundabout_parts forge_named n
  have absolute : files.absolute (longWay n) = Place.path ["home"] ++ "/" ++ longWay n := by
    rw [FileTree.absolute,longWay,relative,home]
    rfl
  have last : (Path.parts (Place.path ["home"] ++ "/" ++ longWay n)).getLast? = some "forge.toml" := by
    rw [Path.parts_below (by decide),longWay,split,← List.append_assoc,← List.cons_append,List.getLast?_concat]
  have longer : 4096 ≤ (Place.path ["home"] ++ "/" ++ longWay n).utf8ByteSize := by
    have front : (Place.path ["home"] ++ "/").utf8ByteSize = 6 := by decide
    have name : "forge.toml".utf8ByteSize = 10 := by decide
    rw [String.utf8ByteSize_append,longWay,size]
    omega
  have unseen {path : String} (long : 4096 ≤ path.utf8ByteSize) : files.isFile path = false :=
    Bool.eq_false_iff.mpr fun seen => Nat.not_lt.mpr long (FileTree.isFile_short seen)
  unfold findFile
  rw [absolute]
  dsimp only
  rw [unseen longer,List.find?_eq_none.mpr]
  · rfl
  · intro entry member
    simpa using unseen (Nat.le_trans longer (extended_longer last (by decide) member))

theorem longWay_saved (short : 2 * n + 10 < 4096) (long : 4096 ≤ 2 * n + 16) :
    (besideOther (longWay n) []).Saved library {} (longWay n) ∧
      Settings.load library (besideOther (longWay n) []) = .error (.noSuchFile (longWay n)) := by
  have files : (besideOther (longWay n) []).files =
      othersHome.set ["home","forge.toml"] (.file (document ({} : Settings).groups)) := by
    rw [besideOther,longWay_written short]
  have home : (besideOther (longWay n) []).files.home = ["home"] := by
    rw [files]
    rfl
  have usual := @usual_tabular _ "forge.toml" (.inl rfl) files
  have lost := file_refused (longWay_lost home long)
  obtain ⟨front,ends⟩ := Path.roundabout_ends "forge.toml" n
  have ending : ".toml".toList <:+ (longWay n).toList :=
    ⟨front ++ "forge".toList,by rw [longWay,ends,List.append_assoc]; rfl⟩
  refine ⟨⟨ending,⟨othersHome,?_⟩,rfl,nofun,usual_parse rfl usual _,usual_merge rfl usual ?_ nofun⟩,
    load_named_error rfl usual rfl lost⟩
  · rw [files,longWay_written short]
  · rintro path ⟨⟩ layer found
    cases lost.symm.trans found

end

def lowerCase : SettingsSources := besideOther "forge.toml" [("domain_forge__naming__constructor","new")]

def constructorLayer : Layer := [("naming.constructor",.scalar (some "the environment") (.string "new"))]

theorem told_constructorLayer (leaf : Leaf) : told leaf constructorLayer =
    if leaf = .constructor then [.scalar (some "the environment") (.string "new")] else [] := by
  cases leaf <;> rfl

theorem lowerCase_load (usual : ∀ name ∈ SettingsSources.usualFiles,
      ∃ layer, library.file lowerCase.files name false = .ok layer ∧ Tabular layer) :
    lowerCase.MergeByLeaf library ∧ Settings.load library lowerCase = .ok { naming := { constructor := "new" } } := by
  have own := @file_saved {} lowerCase.files _ true forge_toml rfl
  generalize shown lowerCase.files (lowerCase.files.absolute "forge.toml") = origin at own
  have variable_ : lowerCase.fromEnvironment library = constructorLayer := by
    have key : variableKey? "DOMAIN_FORGE" "__" "domain_forge__naming__constructor" = some "naming.constructor" := by
      decide +kernel
    have value : variableValue "new" = .string "new" := by decide +kernel
    change environment [("domain_forge__naming__constructor","new")] "DOMAIN_FORGE" "__" = constructorLayer
    rw [environment,List.filterMap_cons]
    dsimp only
    rw [key,value]
    rfl
  have tabular : Tabular constructorLayer := by decide
  refine ⟨usual_merge rfl usual ?_ (variable_ ▸ tabular),?_⟩
  · rintro path ⟨⟩ layer found
    exact Except.ok.inj (own.symm.trans found) ▸ saved_tabular _ _
  obtain ⟨saids,reads,tables⟩ := usual_reads usual
  have said : lowerCase.said library = .ok (saids ++ [saved origin {},constructorLayer]) := by
    have alone : lowerCase.userFile = none := rfl
    have named : lowerCase.file = some "forge.toml" := rfl
    have one := @mapM_one _ _ _ (library.file lowerCase.files · true) _ _ own
    rw [SettingsSources.said,reads,alone,named,Option.toList_some,one,variable_]
    change Except.ok (saids ++ [] ++ [saved origin {}] ++ [constructorLayer]) = _
    rw [List.append_nil,List.append_assoc]
    rfl
  have all : ∀ layer ∈ saids ++ [saved origin {},constructorLayer], Tabular layer :=
    List.forall_mem_append.mpr ⟨tables,List.forall_mem_cons.mpr ⟨saved_tabular _ _,List.forall_mem_singleton.mpr tabular⟩⟩
  rw [ConfigLibrary.load_words said,ConfigLibrary.settingsOf_ok]
  intro leaf
  rw [word_tabular all,List.flatten_append,told_append,List.flatten_cons,told_append,List.flatten_singleton,told_saved,
    told_constructorLayer]
  by_cases decided : leaf = .constructor
  · subst decided
    rw [if_pos rfl,← List.append_assoc,List.getLast?_concat]
    rfl
  · rw [if_neg decided,List.append_nil,List.getLast?_concat]
    have same : leaf.value { naming := { constructor := "new" } } = leaf.value {} := by
      cases leaf with
      | constructor => exact absurd rfl decided
      | _ => rfl
    rw [same]
    exact plain_read origin {} leaf

theorem saved_settings_lost :
    (besideOther ".toml" []).Saved library {} ".toml" ∧
      Settings.load library (besideOther ".toml" []) = .error (.unknownFormat "/home/.toml") ∧
    (besideOther (longWay 2041) []).Saved library {} (longWay 2041) ∧
      Settings.load library (besideOther (longWay 2041) []) = .error (.noSuchFile (longWay 2041)) ∧
    lowerCase.Saved library {} "forge.toml" ∧ Settings.load library lowerCase = .ok { naming := { constructor := "new" } } := by
  have usual := @usual_tabular (besideOther ".toml" []).files ".toml" (.inr rfl) rfl
  have nameless := @file_refused (besideOther ".toml" []).files ".toml" (.unknownFormat "/home/.toml") (by decide +kernel)
  obtain ⟨far,lost⟩ := @longWay_saved 2041 (by decide) (by decide)
  have lower := @usual_tabular lowerCase.files "forge.toml" (.inl rfl) rfl
  obtain ⟨merges,loaded⟩ := lowerCase_load lower
  refine ⟨⟨⟨[],rfl⟩,⟨othersHome,Prod.ext rfl rfl⟩,rfl,nofun,usual_parse rfl usual _,usual_merge rfl usual ?_ nofun⟩,
    load_named_error rfl usual rfl nameless,far,lost,
    ⟨⟨"forge".toList,rfl⟩,⟨othersHome,Prod.ext rfl rfl⟩,rfl,by decide,usual_parse rfl lower _,merges⟩,loaded⟩
  rintro path ⟨⟩ layer found
  cases nameless.symm.trans found

end DomainSchema
