import DomainSchema.Proofs.Files
import DomainSchema.Proofs.Layering
import DomainSchema.Proofs.TomlTables

namespace DomainSchema

-- The last name of a path has this extension, with something before it.
def TomlFile (path : String) : Prop := ∃ stem c, path.toList = stem ++ c :: ".toml".toList ∧ c ≠ '/'

namespace Layers
variable {t : FileTree} {name path origin : String} {blocks : List Toml.Block}

theorem toml_format (toml : TomlFile path) : formatOf? path = some .toml := by
  obtain ⟨stem,c,ends,inName⟩ := toml
  have single : '/' ∉ c :: ".toml".toList := by
    rw [List.mem_cons,not_or]
    exact ⟨Ne.symm inName,by decide⟩
  obtain ⟨front,last⟩ := @Path.splitAtSlashes_last stem _ single
  have name : (Path.parts path).getLast? = some (String.ofList (front ++ c :: ".toml".toList)) := by
    rw [Path.parts,ends,List.getLast?_map,last]
    rfl
  have extension : Path.extension? (String.ofList (front ++ c :: ".toml".toList)) = some "toml" := by
    refine (Path.extension_iff (by decide) (by decide)).mpr ⟨String.ofList (front ++ [c]),by simp,String.toList_inj.mp ?_⟩
    simp
  rw [formatOf?,name]
  dsimp only [Option.bind]
  rw [extension]
  rfl

theorem toml_absolute (t : FileTree) (toml : TomlFile name) : TomlFile (t.absolute name) := by
  obtain ⟨stem,c,ends,inName⟩ := toml
  unfold FileTree.absolute
  split
  · exact ⟨stem,c,ends,inName⟩
  · exact ⟨(Place.path t.home ++ "/").toList ++ stem,c,by simp [ends],inName⟩

def layerOf (origin : String) (blocks : List Toml.Block) : Layer := entriesOfToml origin (blocks.map Toml.Block.entry)

theorem fileLayer_written (good : ∀ block ∈ blocks, block.Good) (distinct : (blocks.map Toml.Block.name).Nodup)
    (read : t.read path = .ok (Text.join "\n" (blocks.map Toml.Block.text))) :
    fileLayer t path .toml = .ok (layerOf (shown t path) blocks) := by
  have whole : withoutMark (Text.join "\n" (blocks.map Toml.Block.text)) = Text.join "\n" (blocks.map Toml.Block.text) := by
    unfold withoutMark
    split
    · rename_i rest marked
      match blocks with
      | [] => simp [Text.join] at marked
      | [block] | block :: next :: more => simp [Text.join,Toml.Block.text_chars] at marked
    · rfl
  rw [fileLayer,read]
  dsimp only
  rw [whole,parse?,Toml.read_written good distinct]
  rfl

theorem file_written (required : Bool) (toml : TomlFile name) (good : ∀ block ∈ blocks, block.Good)
    (distinct : (blocks.map Toml.Block.name).Nodup)
    (read : t.read (t.absolute name) = .ok (Text.join "\n" (blocks.map Toml.Block.text))) :
    library.file t name required = .ok (layerOf (shown t (t.absolute name)) blocks) := by
  have isFile : t.isFile (t.absolute name) = true := FileTree.isFile_iff.mpr ⟨_,read⟩
  have found : findFile t name = .ok (t.absolute name,.toml) := by
    rw [findFile,if_pos isFile,toml_format (toml_absolute t toml)]
  -- the equation that unfolding would use takes seconds to make
  change file t name required = _
  delta file
  rw [found]
  exact fileLayer_written good distinct read

theorem file_absent {e : SettingsError} (absent : findFile t name = .error e) : library.file t name false = .ok [] := by
  change file t name false = _
  delta file
  rw [absent]
  rfl

theorem file_refused {e : SettingsError} (absent : findFile t name = .error e) : library.file t name true = .error e := by
  change file t name true = _
  delta file
  rw [absent]
  rfl

theorem entriesOfToml_map (origin : String) (entries : List (String × Toml.Value)) :
    entriesOfToml origin entries = entries.map fun entry => (entry.1,ofToml origin entry.2) := by
  induction entries with
  | nil => rw [entriesOfToml]; rfl
  | cons entry entries ih => rw [entriesOfToml,ih]; rfl

section
variable (single : ∀ block ∈ blocks, pathOf block.name = (block.name,[]))
  (plain : ∀ block ∈ blocks, ∀ pair ∈ block.pairs, (ofToml origin pair.value).isTable = false)
include single plain

theorem layerOf_grouped {entry : String × Tree} (member : entry ∈ layerOf origin blocks) :
    grouped? entry = some entry ∧ entry.2.isGroup = true := by
  rw [layerOf,entriesOfToml_map] at member
  obtain ⟨_,written,rfl⟩ := List.mem_map.mp member
  obtain ⟨block,listed,rfl⟩ := List.mem_map.mp written
  constructor
  · rw [grouped?]
    dsimp only [Toml.Block.entry]
    rw [single block listed]
  · change (ofToml origin (.table _)).isGroup = true
    rw [ofToml,entriesOfToml_map]
    refine List.all_eq_true.mpr fun inner known => ?_
    obtain ⟨_,paired,rfl⟩ := List.mem_map.mp known
    obtain ⟨pair,own,rfl⟩ := List.mem_map.mp paired
    simpa [Toml.Pair.entry] using plain block listed pair own

theorem layerOf_tabular : Tabular (layerOf origin blocks) := by
  intro entry member
  obtain ⟨own,group⟩ := layerOf_grouped single plain member
  rwa [own]

theorem groupsOf_layerOf : groupsOf (layerOf origin blocks) = layerOf origin blocks := by
  have each : (layerOf origin blocks).filterMap grouped? = (layerOf origin blocks).filterMap some :=
    List.filterMap_congr fun entry member => (layerOf_grouped single plain member).1
  rw [groupsOf,each,List.filterMap_some]

end

end Layers

end DomainSchema
