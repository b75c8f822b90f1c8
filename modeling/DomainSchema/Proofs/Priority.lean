import DomainSchema.Proofs.TomlFiles
import Mathlib.Data.List.Nodup

namespace DomainSchema

inductive Source where
  | project
  | hidden
  | nested
  | user
  | named
  | environment
deriving DecidableEq, Repr

namespace Source

def all : List Source := [.project,.hidden,.nested,.user,.named,.environment]

def Below (source stronger : Source) : Prop := [source,stronger].Sublist all

instance (source stronger : Source) : Decidable (source.Below stronger) :=
  inferInstanceAs (Decidable ([source,stronger].Sublist all))

theorem Below.split {source stronger : Source} (below : source.Below stronger) :
    ∃ lower upper, all = lower ++ stronger :: upper ∧ ∀ other ∈ stronger :: upper, other ≠ source := by
  obtain ⟨front,back,every,own,rest⟩ := List.cons_sublist_iff.mp below
  obtain ⟨less,upper,rfl⟩ := List.append_of_mem (List.singleton_sublist.mp rest)
  have distinct : all.Nodup := by decide
  rw [every,← List.append_assoc] at distinct
  refine ⟨front ++ less,upper,by simpa using every,?_⟩
  rintro other later rfl
  exact (List.disjoint_of_nodup_append distinct) (List.mem_append_left _ own) later

end Source

namespace SettingsSources
variable (lib : ConfigLibrary)

-- What one of the sources says. It is nothing where there is no such file, and none was named.
def given (s : SettingsSources) : Source → Except SettingsError (List lib.Said)
  | .project => ["domain-forge.toml"].mapM (lib.file s.files · false)
  | .hidden => [".domain-forge.toml"].mapM (lib.file s.files · false)
  | .nested => ["config/domain-forge.toml"].mapM (lib.file s.files · false)
  | .user => (s.userFile.toList.filter s.files.contains).mapM (lib.file s.files · false)
  | .named => s.file.toList.mapM (lib.file s.files · true)
  | .environment => .ok [s.fromEnvironment lib]

-- Two sets of sources that can all be read, and that differ in what one source says of one leaf.
structure DifferIn (first second : SettingsSources) (leaf : Leaf) (source : Source) : Prop where
  others : ∀ other, other ≠ source → ∃ saids, first.given lib other = .ok saids ∧ second.given lib other = .ok saids
  own : ∃ saids saids', first.given lib source = .ok saids ∧ second.given lib source = .ok saids' ∧
    ∀ other, other ≠ leaf → lib.lastWord saids other = lib.lastWord saids' other

def Sets (s : SettingsSources) (source : Source) (leaf : Leaf) : Prop :=
  ∃ saids v, s.given lib source = .ok saids ∧ lib.lastWord saids leaf = .ok (some v)

def Omit (s : SettingsSources) (leaf : Leaf) : Prop :=
  ∀ source saids, s.given lib source = .ok saids → lib.lastWord saids leaf = .ok none

def MergeByLeaf (s : SettingsSources) : Prop := ∀ saids, s.said lib = .ok saids → lib.ByLeaf saids

variable {lib} {s first second : SettingsSources} {leaf : Leaf} {source stronger : Source} {settings : Settings}

theorem said_given (s : SettingsSources) : s.said lib = (Source.all.mapM (s.given lib)).map List.flatten := by
  unfold said
  simp only [usualFiles,Source.all,List.mapM_cons,List.mapM_nil,given]
  cases lib.file s.files "domain-forge.toml" false with
  | error e => rfl
  | ok project =>
    cases lib.file s.files ".domain-forge.toml" false with
    | error e => rfl
    | ok hidden =>
      cases lib.file s.files "config/domain-forge.toml" false with
      | error e => rfl
      | ok nested =>
        cases (s.userFile.toList.filter s.files.contains).mapM (lib.file s.files · false) with
        | error e => rfl
        | ok user =>
          cases s.file.toList.mapM (lib.file s.files · true) with
          | error e => rfl
          | ok own =>
            change Except.ok _ = Except.ok _
            simp

theorem said_ok {saids : Source → List lib.Said} (each : ∀ source, s.given lib source = .ok (saids source)) :
    s.said lib = .ok (Source.all.flatMap saids) := by
  have given : s.given lib = fun source => .ok (saids source) := funext each
  rw [said_given,given]
  rfl

theorem lastWord_flatMap (saids : Source → List lib.Said) (leaf : Leaf) (sources : List Source) :
    lib.lastWord (sources.flatMap saids) leaf =
      (sources.map fun source => lib.lastWord (saids source) leaf).foldr ConfigLibrary.overriding (.ok none) := by
  induction sources with
  | nil => rfl
  | cons source sources ih => rw [List.flatMap_cons,ConfigLibrary.lastWord_append,ih,List.map_cons,List.foldr_cons]

theorem load_overruled (differ : DifferIn lib first second leaf source) (below : source.Below stronger)
    (sets : first.Sets lib stronger leaf) (merges : first.MergeByLeaf lib) (merges' : second.MergeByLeaf lib) :
    Settings.load lib first = Settings.load lib second := by
  obtain ⟨own,own',givenOwn,givenOwn',alike⟩ := differ.own
  have reads (other : Source) : ∃ one two, first.given lib other = .ok one ∧ second.given lib other = .ok two ∧
      (other ≠ source → one = two) := by
    by_cases same : other = source
    · exact ⟨own,own',same ▸ givenOwn,same ▸ givenOwn',fun apart => absurd same apart⟩
    · obtain ⟨shared,one,two⟩ := differ.others other same
      exact ⟨shared,shared,one,two,fun _ => rfl⟩
  choose one two given given' same using reads
  have hereOne : one source = own := Except.ok.inj ((given source).symm.trans givenOwn)
  have hereTwo : two source = own' := Except.ok.inj ((given' source).symm.trans givenOwn')
  rw [ConfigLibrary.load_words (said_ok given),ConfigLibrary.load_words (said_ok given')]
  refine congrArg lib.settingsOf (funext fun other => ?_)
  rw [merges _ (said_ok given),merges' _ (said_ok given')]
  by_cases decided : other = leaf
  · -- what comes before the stronger source does not count
    subst decided
    obtain ⟨lower,upper,all,late⟩ := below.split
    obtain ⟨decider,v,givenStrong,speaks⟩ := sets
    have strong : one stronger = decider := Except.ok.inj ((given stronger).symm.trans givenStrong)
    have rest : (stronger :: upper).flatMap two = (stronger :: upper).flatMap one :=
      List.flatMap_congr fun other member => (same other (late other member)).symm
    have decides (early : List lib.Said) : lib.lastWord (early ++ (stronger :: upper).flatMap one) other =
        lib.lastWord ((stronger :: upper).flatMap one) other := by
      rw [ConfigLibrary.lastWord_append,List.flatMap_cons,ConfigLibrary.lastWord_append,strong,speaks,
        ← ConfigLibrary.overriding_assoc]
      rfl
    rw [all,List.flatMap_append,List.flatMap_append,rest,decides,decides]
  · rw [lastWord_flatMap,lastWord_flatMap]
    refine congrArg (List.foldr _ _) (List.map_congr_left fun from_ _ => ?_)
    by_cases changed : from_ = source
    · rw [changed,hereOne,hereTwo,alike other decided]
    · rw [same from_ changed]

theorem said_each {saids : List lib.Said} (said : s.said lib = .ok saids) :
    ∃ each, saids = each.flatten ∧ Source.all.mapM (s.given lib) = .ok each := by
  rw [said_given] at said
  cases all : Source.all.mapM (s.given lib) with
  | error e =>
    rw [all] at said
    cases said
  | ok each =>
    rw [all] at said
    cases said
    exact ⟨each,rfl,rfl⟩

theorem said_silent (silent : s.Omit lib leaf) {saids : List lib.Said} (said : s.said lib = .ok saids) :
    lib.lastWord saids leaf = .ok none := by
  obtain ⟨each,rfl,given⟩ := said_each said
  have related := mapM_ok_iff.mp given
  clear said given
  generalize Source.all = sources at related
  induction related with
  | nil => rfl
  | cons given _ ih =>
    rw [List.flatten_cons,ConfigLibrary.lastWord_append,silent _ _ given,ih]
    rfl

theorem load_default (silent : s.Omit lib leaf) (merges : s.MergeByLeaf lib) (loads : Settings.load lib s = .ok settings) :
    leaf.value settings = leaf.value {} := by
  obtain ⟨saids,said,-⟩ := bind_ok.mp loads
  rw [ConfigLibrary.load_words said,ConfigLibrary.settingsOf_ok] at loads
  have taken := loads leaf
  rw [merges saids said,said_silent silent said] at taken
  cases leaf <;> exact (Except.ok.inj taken).symm

-- The strongest source that gives a leaf a value decides it: the weaker ones can say of it what they want. And what
-- no source speaks of has its default.
theorem strongest_decides (lib : ConfigLibrary) (leaf : Leaf) :
    (∀ first second source stronger, DifferIn lib first second leaf source → source.Below stronger →
      first.Sets lib stronger leaf → first.MergeByLeaf lib → second.MergeByLeaf lib →
        Settings.load lib first = Settings.load lib second) ∧
    ∀ s settings, Omit lib s leaf → s.MergeByLeaf lib → Settings.load lib s = .ok settings →
      leaf.value settings = leaf.value {} :=
  ⟨fun _ _ _ _ => load_overruled,fun _ _ => load_default⟩

end SettingsSources

namespace Layers

theorem merge_sources {s : SettingsSources}
    (tabular : ∀ source saids, s.given library source = .ok saids → ∀ layer ∈ saids, Tabular layer) :
    s.MergeByLeaf library := by
  intro saids said
  obtain ⟨each,rfl,given⟩ := SettingsSources.said_each said
  refine byLeaf_tabular fun layer member => ?_
  obtain ⟨own,inside,listed⟩ := List.mem_flatten.mp member
  obtain ⟨source,-,from_⟩ := mapM_ok_mem given inside
  exact tabular source own from_ layer listed

end Layers

open Layers

-- A file with the path of the library and nothing else, and a variable with another.

def pathBlock (path : String) : Toml.Block := ⟨"runtime",[⟨"crate_path",Toml.stringText path,.string path⟩]⟩

def twoPaths (path : String) : SettingsSources :=
  ⟨⟨[],[(["domain-forge.toml"],.file (pathBlock path).text)]⟩,[("DOMAIN_FORGE__RUNTIME__CRATE_PATH","::strong")],none,none⟩

def pathLayer (origin path : String) : Layer := layerOf origin [pathBlock path]

def variableLayer : Layer := [("runtime.crate_path",.scalar (some "the environment") (.string "::strong"))]

def twoPathsLayers (path : String) : Source → List Layer
  | .project => [pathLayer (shown (twoPaths path).files ((twoPaths path).files.absolute "domain-forge.toml")) path]
  | .hidden | .nested => [[]]
  | .user | .named => []
  | .environment => [variableLayer]

theorem pathBlock_single (path : String) : ∀ block ∈ [pathBlock path], Layers.pathOf block.name = (block.name,[]) :=
  List.forall_mem_singleton.mpr (show Layers.pathOf "runtime" = ("runtime",[]) by decide)

theorem pathBlock_plain (origin path : String) :
    ∀ block ∈ [pathBlock path], ∀ pair ∈ block.pairs, (ofToml origin pair.value).isTable = false := by
  simp [pathBlock,ofToml,Tree.isTable]

theorem twoPaths_tabular (path : String) (source : Source) : ∀ layer ∈ twoPathsLayers path source, Tabular layer := by
  cases source with
  | project => exact List.forall_mem_singleton.mpr (layerOf_tabular (pathBlock_single path) (pathBlock_plain _ path))
  | hidden | nested => exact List.forall_mem_singleton.mpr nofun
  | user | named => exact nofun
  | environment => exact List.forall_mem_singleton.mpr (by decide)

theorem told_pathLayer (origin path : String) (leaf : Leaf) :
    told leaf (pathLayer origin path) = if leaf = .libraryPath then [ofToml origin (.string path)] else [] := by
  have entries : layerOf origin [pathBlock path] = [("runtime",.table origin [("crate_path",ofToml origin (.string path))])] := by
    simp [layerOf,entriesOfToml_map,ofToml,Toml.Block.entry,Toml.Pair.entry,pathBlock]
  rw [told,pathLayer,groupsOf_layerOf (pathBlock_single path) (pathBlock_plain _ path),entries]
  cases leaf <;> rfl

theorem twoPaths_given {path : String} (known : path = "::weak" ∨ path = "::other") (source : Source) :
    (twoPaths path).given library source = .ok (twoPathsLayers path source) := by
  have absent : ∀ name ∈ [".domain-forge.toml","config/domain-forge.toml"],
      findFile (twoPaths path).files name = .error (.noSuchFile name) := by
    rcases known with rfl | rfl <;> decide +kernel
  cases source with
  | project =>
    have good : ∀ block ∈ [pathBlock path], block.Good :=
      List.forall_mem_singleton.mpr (Toml.good_block ["crate_path"] ⟨by decide,by decide⟩
        (List.forall_mem_singleton.mpr (Toml.good_string ⟨by decide,by decide⟩ path)) rfl (by decide))
    have read : (twoPaths path).files.read ((twoPaths path).files.absolute "domain-forge.toml") = .ok (pathBlock path).text := by
      rcases known with rfl | rfl <;> decide +kernel
    exact mapM_one (file_written false ⟨"domain-forg".toList,'e',rfl,by decide⟩ good (show ["runtime"].Nodup by decide) read)
  | hidden => exact mapM_one (file_absent (absent _ (by decide)))
  | nested => exact mapM_one (file_absent (absent _ (by decide)))
  | user | named => rfl
  | environment =>
    have key : variableKey? "DOMAIN_FORGE" "__" "DOMAIN_FORGE__RUNTIME__CRATE_PATH" = some "runtime.crate_path" := by
      decide +kernel
    have value : variableValue "::strong" = .string "::strong" := by decide +kernel
    change Except.ok [environment [("DOMAIN_FORGE__RUNTIME__CRATE_PATH","::strong")] "DOMAIN_FORGE" "__"] = .ok [variableLayer]
    rw [environment,List.filterMap_cons]
    dsimp only
    rw [key,value]
    rfl

theorem twoPaths_load :
    Settings.load library (twoPaths "::weak") = Settings.load library (twoPaths "::other") ∧
      ∀ settings, Settings.load library (twoPaths "::weak") = .ok settings →
        Leaf.capability.value settings = Leaf.capability.value {} := by
  have weak := @twoPaths_given "::weak" (.inl rfl)
  have other := @twoPaths_given "::other" (.inr rfl)
  have merges {path : String} (given : ∀ source, (twoPaths path).given library source = .ok (twoPathsLayers path source)) :
      (twoPaths path).MergeByLeaf library :=
    merge_sources fun source saids said => Except.ok.inj ((given source).symm.trans said) ▸ twoPaths_tabular path source
  have words (path : String) (source : Source) := @lastWord_tabular (twoPathsLayers path source) (twoPaths_tabular path source)
  refine ⟨(SettingsSources.strongest_decides library .libraryPath).1 _ _ .project .environment ⟨fun source apart => ?_,?_⟩
      (by decide) ?_ (merges weak) (merges other),
    fun settings => (SettingsSources.strongest_decides library .capability).2 _ settings (fun source saids given => ?_)
      (merges weak)⟩
  · refine ⟨_,weak source,?_⟩
    rw [other]
    cases source with
    | project => exact absurd rfl apart
    | hidden | nested | user | named | environment => rfl
  · refine ⟨_,_,weak .project,other .project,fun leaf apart => ?_⟩
    rw [words,words]
    simp [twoPathsLayers,told_pathLayer,apart]
  · exact ⟨_,_,weak .environment,words _ .environment .libraryPath⟩
  · rw [← Except.ok.inj ((weak source).symm.trans given),words]
    cases source with
    | project => simp [twoPathsLayers,told_pathLayer]
    | hidden | nested | user | named | environment => rfl

end DomainSchema
