import DomainSchema.Proofs.Leaves
import DomainSchema.Settings.Layers

namespace DomainSchema.Layers

-- Where sources are tables of settings in groups, merging them layer by layer overrides one setting after the other.

def keyed (key : String) (entries : Entries) : List Tree :=
  entries.filterMap fun (name,t) => if Text.lower name = key then some t else none

-- What stands in a place after several values have come over what was there.
def after (old : Option Tree) (values : List Tree) : Option Tree := values.foldl (fun old t => some (covered old t)) old

def Tree.under (key : String) (t : Tree) : Option Tree := (entriesOf t).lookup key

def Tree.isTable : Tree → Bool
  | .table .. => true
  | _ => false

def Tree.isGroup : Tree → Bool
  | .table _ entries => entries.all fun entry => !entry.2.isTable
  | _ => false

-- An entry for a group, or for one setting in a group, as an entry for the group.
def grouped? (entry : String × Tree) : Option (String × Tree) :=
  match pathOf entry.1 with
  | (group, []) => some (group,entry.2)
  | (group, [.name key]) => some (group,.table none [(key,entry.2)])
  | _ => none

def groupsOf (layer : Layer) : Entries := layer.filterMap grouped?

def Tabular (layer : Layer) : Prop := ∀ entry ∈ layer, (grouped? entry).any (·.2.isGroup) = true

instance (layer : Layer) : Decidable (Tabular layer) := inferInstanceAs (Decidable (∀ entry ∈ layer, _))

theorem setEntry_lookup (key name : String) (t : Tree) (entries : Entries) :
    (setEntry key t entries).lookup name = if name = key then some t else entries.lookup name := by
  induction entries with
  | nil => exact lookup_cons_if key name t []
  | cons entry entries ih =>
    obtain ⟨other,value⟩ := entry
    rw [setEntry]
    split
    · rename_i same
      subst same
      simp only [lookup_cons_if]
      split <;> rfl
    · rename_i apart
      rw [lookup_cons_if,lookup_cons_if,ih]
      split
      · rename_i here
        subst here
        rw [if_neg apart]
      · rfl

theorem cover_under (target : Tree) (entries : Entries) (key : String) :
    (coverEntries target entries).under key = after (target.under key) (keyed key entries) := by
  induction entries generalizing target with
  | nil => rw [coverEntries]; rfl
  | cons entry entries ih =>
    obtain ⟨name,t⟩ := entry
    rw [coverEntries,ih]
    change after ((setEntry _ _ _).lookup key) _ = _
    rw [setEntry_lookup]
    by_cases same : Text.lower name = key
    · subst same
      simp [keyed,after,Tree.under]
    · rw [if_neg (Ne.symm same)]
      simp [keyed,same]
      rfl

theorem cover_append (target : Tree) (first second : Entries) :
    coverEntries target (first ++ second) = coverEntries (coverEntries target first) second := by
  induction first generalizing target with
  | nil => rw [List.nil_append,coverEntries]
  | cons entry first ih => rw [List.cons_append,coverEntries,ih,coverEntries]

theorem cover_table {target : Tree} (table : target.isTable = true) (entries : Entries) :
    (coverEntries target entries).isTable = true := by
  induction entries generalizing target with
  | nil => rwa [coverEntries]
  | cons entry entries ih =>
    rw [coverEntries]
    exact ih rfl

theorem isTable_iff {t : Tree} : t.isTable = true ↔ ∃ origin entries, t = .table origin entries := by
  cases t <;> simp [Tree.isTable]

-- An entry for a setting does what a table with just this setting does.
theorem put_grouped {root : Tree} (table : root.isTable = true) {entry group : String × Tree} (grouped : grouped? entry = some group) :
    put entry.2 (.name (pathOf entry.1).1) (pathOf entry.1).2 root = .ok (coverEntries root [group]) := by
  obtain ⟨origin,entries,rfl⟩ := isTable_iff.mp table
  unfold grouped? at grouped
  match path : pathOf entry.1 with
  | (name,[]) =>
    rw [path] at grouped
    cases grouped
    rfl
  | (name,[.name key]) =>
    rw [path] at grouped
    cases grouped
    have inner : coverEntries (.table (originOfTable ((entries.lookup (Text.lower name)).getD nothing))
          (entriesOf ((entries.lookup (Text.lower name)).getD nothing))) [(key,entry.2)] =
        covered (entries.lookup (Text.lower name)) (.table none [(key,entry.2)]) := by
      rw [covered]
      cases entries.lookup (Text.lower name) <;> simp only [coverEntries] <;> rfl
    rw [coverEntries,coverEntries]
    exact congrArg (fun inner => Except.ok (Tree.table origin (setEntry (Text.lower name) inner entries))) inner
  | (name,.index i :: steps) | (name,.name key :: step :: steps) =>
    rw [path] at grouped
    cases grouped

theorem addLayer_tabular {root : Tree} (table : root.isTable = true) {layer : Layer} (tabular : Tabular layer) :
    addLayer root layer = .ok (coverEntries root (groupsOf layer)) := by
  induction layer generalizing root with
  | nil => rw [groupsOf,List.filterMap_nil,coverEntries]; rfl
  | cons entry layer ih =>
    obtain ⟨own,others⟩ := List.forall_mem_cons.mp tabular
    obtain ⟨group,grouped,-⟩ := (Option.any_eq_true _ _).mp own
    have later := ih (cover_table table [group]) others
    rw [← cover_append] at later
    rw [addLayer] at later ⊢
    rw [List.foldlM_cons,groupsOf,List.filterMap_cons_some grouped]
    change (put entry.2 (.name (pathOf entry.1).1) (pathOf entry.1).2 root >>= _) = _
    rw [put_grouped table grouped]
    exact later

theorem merge_tabular {layers : List Layer} (tabular : ∀ layer ∈ layers, Tabular layer) :
    merge layers = .ok (coverEntries (.table none []) (groupsOf layers.flatten)) := by
  have all {root : Tree} (table : root.isTable = true) :
      layers.foldlM addLayer root = .ok (coverEntries root (groupsOf layers.flatten)) := by
    induction layers generalizing root with
    | nil => rw [List.flatten_nil,groupsOf,List.filterMap_nil,coverEntries]; rfl
    | cons layer layers ih =>
      obtain ⟨first,others⟩ := List.forall_mem_cons.mp tabular
      rw [List.foldlM_cons,addLayer_tabular table first]
      change List.foldlM _ _ layers = _
      rw [ih others (cover_table table (groupsOf layer)),List.flatten_cons,groupsOf,groupsOf,groupsOf,List.filterMap_append,cover_append]
  exact all rfl

theorem after_plain (old : Option Tree) {values : List Tree} (plain : ∀ t ∈ values, t.isTable = false) :
    after old values = values.getLast?.or old := by
  induction values generalizing old with
  | nil => rfl
  | cons t values ih =>
    obtain ⟨first,others⟩ := List.forall_mem_cons.mp plain
    have whole : covered old t = t := by
      cases t with
      | table origin entries => cases first
      | scalar origin s => rw [covered]; simp
      | list origin items => rw [covered]; simp
    change after (some (covered old t)) values = _
    rw [whole,ih _ others,List.getLast?_cons]
    cases values.getLast? <;> rfl

theorem keyed_plain {t : Tree} (group : t.isGroup = true) (key : String) : ∀ inner ∈ keyed key (entriesOf t), inner.isTable = false := by
  cases t with
  | scalar | list => cases group
  | table origin entries =>
    intro inner member
    obtain ⟨⟨name,value⟩,listed,found⟩ := List.mem_filterMap.mp member
    have plain := List.all_eq_true.mp group _ listed
    dsimp only at found
    split at found
    · cases found
      simpa using plain
    · cases found

-- Groups that come over one another are a group, and of what they say of a key the last value stays.
theorem after_groups (key : String) {old : Option Tree} (table : ∀ t ∈ old, t.isTable = true) {values : List Tree}
    (groups : ∀ t ∈ values, t.isGroup = true) : (∀ t ∈ after old values, t.isTable = true) ∧
      (after old values).bind (Tree.under key) =
        (values.flatMap fun t => keyed key (entriesOf t)).getLast?.or (old.bind (Tree.under key)) := by
  induction values generalizing old with
  | nil => exact ⟨table,rfl⟩
  | cons t values ih =>
    obtain ⟨first,others⟩ := List.forall_mem_cons.mp groups
    have plain := keyed_plain first key
    cases t with
    | scalar | list => cases first
    | table origin entries =>
      have held : (old.getD (.table none [])).isTable = true := by
        cases old with
        | none => rfl
        | some t => exact table t rfl
      have under : (old.getD (.table none [])).under key = old.bind (Tree.under key) := by cases old <;> rfl
      have come : covered old (.table origin entries) = coverEntries (old.getD (.table none [])) entries := by rw [covered]
      have own : entriesOf (.table origin entries) = entries := rfl
      have table' : ∀ t ∈ some (covered old (.table origin entries)), t.isTable = true := by
        rintro t ⟨⟩
        rw [come]
        exact cover_table held entries
      obtain ⟨tables,last⟩ := ih table' others
      refine ⟨tables,last.trans ?_⟩
      rw [own] at plain
      rw [Option.bind_some,come,cover_under,under,after_plain _ plain,List.flatMap_cons,List.getLast?_append,own,Option.or_assoc]

def told (leaf : Leaf) (layer : Layer) : List Tree :=
  (keyed leaf.group.key (groupsOf layer)).flatMap fun t => keyed leaf.key (entriesOf t)

theorem told_append (leaf : Leaf) (first second : Layer) : told leaf (first ++ second) = told leaf first ++ told leaf second := by
  simp [told,keyed,groupsOf]

theorem parts_lookup (entries : Entries) (key : String) :
    (entries.map fun entry => (entry.1,entry.1,entry.2)).lookup key = (entries.lookup key).map fun t => (key,t) := by
  induction entries with
  | nil => rfl
  | cons entry entries ih =>
    obtain ⟨name,t⟩ := entry
    rw [List.map_cons,lookup_cons_if,lookup_cons_if,ih]
    split
    · rename_i same
      subst same
      rfl
    · rfl

theorem wordIn_table (origin : Option String) (entries : Entries) (leaf : Leaf)
    (tables : ∀ t ∈ entries.lookup leaf.group.key, t.isTable = true) : library.wordIn (.table origin entries) leaf =
      .ok (((entries.lookup leaf.group.key).bind (Tree.under leaf.key)).map fun t => (leaf.group.key,leaf.key,t)) := by
  have groups : library.groups (.table origin entries) = .ok (entries.map fun entry => (entry.1,entry.1,entry.2)) := rfl
  rw [ConfigLibrary.wordIn,ConfigLibrary.located,groups]
  simp only [Bind.bind,Except.bind]
  rw [parts_lookup]
  cases found : entries.lookup leaf.group.key with
  | none => rfl
  | some t =>
    obtain ⟨own,inner,rfl⟩ := isTable_iff.mp (tables t found)
    have parts : library.group leaf.group (.table own inner) = .ok (inner.map fun entry => (entry.1,entry.1,entry.2)) := rfl
    simp only [Option.map_some,parts]
    change Except.ok ((List.lookup leaf.key _).map _) = _
    rw [parts_lookup,Option.map_map]
    rfl

theorem word_tabular {layers : List Layer} (tabular : ∀ layer ∈ layers, Tabular layer) (leaf : Leaf) :
    library.word layers leaf = .ok ((told leaf layers.flatten).getLast?.map fun t => (leaf.group.key,leaf.key,t)) := by
  have groups : ∀ t ∈ keyed leaf.group.key (groupsOf layers.flatten), t.isGroup = true := by
    intro t member
    obtain ⟨⟨name,value⟩,listed,found⟩ := List.mem_filterMap.mp member
    obtain ⟨entry,told,grouped⟩ := List.mem_filterMap.mp listed
    obtain ⟨layer,inside,own⟩ := List.mem_flatten.mp told
    dsimp only at found
    split at found
    · cases found
      simpa [grouped] using tabular layer inside entry own
    · cases found
  obtain ⟨tables,last⟩ := @after_groups leaf.key none nofun _ groups
  have under := cover_under (.table none []) (groupsOf layers.flatten) leaf.group.key
  have root := @cover_table (.table none []) rfl (groupsOf layers.flatten)
  obtain ⟨origin,entries,same⟩ := isTable_iff.mp root
  have merged : library.merge layers = .ok (.table origin entries) := (merge_tabular tabular).trans (congrArg Except.ok same)
  rw [same] at under
  have found : entries.lookup leaf.group.key = after none (keyed leaf.group.key (groupsOf layers.flatten)) := under
  have word : library.word layers leaf = library.wordIn (.table origin entries) leaf := by
    unfold ConfigLibrary.word
    rw [merged]
    rfl
  rw [word,wordIn_table origin entries leaf (found ▸ tables),found,last,Option.bind_none,Option.or_none]
  rfl

theorem byLeaf_tabular {layers : List Layer} (tabular : ∀ layer ∈ layers, Tabular layer) : library.ByLeaf layers := by
  intro leaf
  rw [word_tabular tabular]
  induction layers with
  | nil => rfl
  | cons layer layers ih =>
    obtain ⟨first,others⟩ := List.forall_mem_cons.mp tabular
    rw [ConfigLibrary.lastWord_cons,← ih others,word_tabular (List.forall_mem_singleton.mpr first),List.flatten_singleton,
      List.flatten_cons,told_append,List.getLast?_append]
    cases (told leaf layers.flatten).getLast? <;> rfl

theorem lastWord_tabular {layers : List Layer} (tabular : ∀ layer ∈ layers, Tabular layer) (leaf : Leaf) :
    library.lastWord layers leaf = .ok ((told leaf layers.flatten).getLast?.map fun t => (leaf.group.key,leaf.key,t)) :=
  (byLeaf_tabular tabular leaf).symm.trans (word_tabular tabular leaf)

end DomainSchema.Layers
