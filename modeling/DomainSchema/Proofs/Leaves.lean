import DomainSchema.Proofs.Entries
import DomainSchema.Settings.Loading

namespace DomainSchema

-- Settings are read from what the sources say of each of them, whatever else they say.

theorem mapError_bind {ε ε' α β : Type} (f : ε → ε') (x : Except ε α) (next : α → Except ε β) :
    (x >>= next).mapError f = x.mapError f >>= fun a => (next a).mapError f := by
  cases x <;> rfl

theorem map_ok_iff {ε α β : Type} {f : α → β} (injective : Function.Injective f) {x : Except ε α} {a : α} :
    x.map f = .ok (f a) ↔ x = .ok a := by
  cases x with
  | error e => exact ⟨nofun,nofun⟩
  | ok b =>
    change Except.ok (f b) = Except.ok (f a) ↔ _
    rw [Except.ok.injEq,Except.ok.injEq,injective.eq_iff]

namespace ConfigLibrary
variable {α : Type} (lib : ConfigLibrary)

-- What is said of a setting: nothing, or a value with what messages call its group and itself. It may also be that
-- its group cannot be read.
abbrev Word := Except SettingsError (Option (String × String × lib.Value))

def located (root : lib.Value) (g : Group) : Except SettingsError (Option (String × lib.Parts)) := do
  match (← lib.groups root).lookup g.key with
  | none => return none
  | some (name,v) => return some (name,← (lib.group g v).mapError (·.under name))

def spoken (leaf : Leaf) (found : Option (String × lib.Parts)) : Option (String × String × lib.Value) :=
  found.bind fun (name,parts) => (parts.lookup leaf.key).map fun (label,v) => (name,label,v)

def wordIn (root : lib.Value) (leaf : Leaf) : lib.Word := (lib.located root leaf.group).map (lib.spoken leaf)

def word (saids : List lib.Said) (leaf : Leaf) : lib.Word := do lib.wordIn (← lib.merge saids) leaf

def taken (w : lib.Word) (read : lib.Reader α) (usual : α) : Except SettingsError α := do
  match ← w with
  | none => return usual
  | some (name,label,v) => ((read v).mapError (·.under label)).mapError (·.under name)

def libraryOf (w : Leaf → lib.Word) : Except SettingsError Library := do
  let usual : Library := {}
  return { path := ← lib.taken (w .libraryPath) lib.text usual.path
           capability := ← lib.taken (w .capability) lib.text usual.capability }

def namingOf (w : Leaf → lib.Word) : Except SettingsError Naming := do
  let usual : Naming := {}
  return { constructor := ← lib.taken (w .constructor) lib.text usual.constructor
           toResult := ← lib.taken (w .toResult) lib.text usual.toResult
           setterStart := ← lib.taken (w .setterStart) lib.text usual.setterStart }

def recognitionOf (w : Leaf → lib.Word) : Except SettingsError Recognition := do
  let usual : Recognition := {}
  return { listTypes := ← lib.taken (w .listTypes) lib.texts usual.listTypes }

def outputOf (w : Leaf → lib.Word) : Except SettingsError OutputOptions := do
  let usual : OutputOptions := {}
  return { directory := ← lib.taken (w .directory) lib.text usual.directory
           header := ← lib.taken (w .header) lib.choice usual.header }

def strictnessOf (w : Leaf → lib.Word) : Except SettingsError Strictness := do
  let usual : Strictness := {}
  return { warningsAsErrors := ← lib.taken (w .warningsAsErrors) lib.choice usual.warningsAsErrors }

def settingsOf (w : Leaf → lib.Word) : Except SettingsError Settings := do
  return { library := ← lib.libraryOf w, naming := ← lib.namingOf w, recognition := ← lib.recognitionOf w
           output := ← lib.outputOf w, strictness := ← lib.strictnessOf w }

def leafTaken (w : lib.Word) : Leaf → Except SettingsError Plain
  | .listTypes => (lib.taken w lib.texts (Recognition.listTypes {})).map .texts
  | .header => (lib.taken w lib.choice (OutputOptions.header {})).map .choice
  | .warningsAsErrors => (lib.taken w lib.choice (Strictness.warningsAsErrors {})).map .choice
  | .libraryPath => (lib.taken w lib.text (Library.path {})).map .text
  | .capability => (lib.taken w lib.text (Library.capability {})).map .text
  | .constructor => (lib.taken w lib.text (Naming.constructor {})).map .text
  | .toResult => (lib.taken w lib.text (Naming.toResult {})).map .text
  | .setterStart => (lib.taken w lib.text (Naming.setterStart {})).map .text
  | .directory => (lib.taken w lib.text (OutputOptions.directory {})).map .text

section
variable {lib} {root : lib.Value} {w : Leaf → lib.Word} {s : Settings}

theorem setting_taken (name : String) (parts : lib.Parts) (leaf : Leaf) (read : lib.Reader α) (usual : α) :
    (lib.setting parts leaf read usual).mapError (·.under name) =
      lib.taken (.ok (lib.spoken leaf (some (name,parts)))) read usual := by
  unfold setting part spoken taken
  dsimp only [Option.bind_some]
  cases parts.lookup leaf.key <;> rfl

variable {g : lib.Parts} {usual : α} {read : lib.Reader α} {inner : lib.Parts → Except SettingsError α}

theorem part_located (groups : lib.groups root = .ok g) (group : Group) (form : ∀ v, read v = lib.group group v >>= inner) :
    lib.part g group.key read usual = lib.located root group >>= fun found =>
      found.elim (.ok usual) fun (name,parts) => (inner parts).mapError (·.under name) := by
  unfold part located
  rw [groups]
  simp only [Bind.bind,Except.bind,form]
  cases g.lookup group.key with
  | none => rfl
  | some entry =>
    obtain ⟨name,v⟩ := entry
    dsimp only
    cases lib.group group v <;> rfl

-- A group is read from the words of its settings. One that is not there has its defaults, and so have they.
theorem part_words (groups : lib.groups root = .ok g) (group : Group) (form : ∀ v, read v = lib.group group v >>= inner)
    (ofWords : (Leaf → lib.Word) → Except SettingsError α) (fails : ∀ e, ofWords (fun _ => .error e) = .error e)
    (absent : ofWords (fun _ => .ok none) = .ok usual) (present : ∀ name parts,
      (inner parts).mapError (·.under name) = ofWords fun leaf => .ok (lib.spoken leaf (some (name,parts)))) :
    lib.part g group.key read usual = ofWords fun leaf => (lib.located root group).map (lib.spoken leaf) := by
  rw [part_located groups group form]
  match lib.located root group with
  | .error e => exact (fails e).symm
  | .ok none => exact absent.symm
  | .ok (some (name,parts)) => exact present name parts

theorem settings_words (root : lib.Value) : lib.settings root = lib.settingsOf (lib.wordIn root) := by
  unfold settings
  cases groups : lib.groups root with
  | error e =>
    have unread (group : Group) : lib.located root group = .error e := by
      rw [located,groups]
      rfl
    simp only [settingsOf,libraryOf,wordIn,unread]
    rfl
  | ok g =>
    have library : lib.part g Group.library.key lib.library {} = lib.libraryOf (lib.wordIn root) :=
      part_words groups .library (fun _ => rfl) lib.libraryOf (fun _ => rfl) rfl fun name parts => by
        simp only [mapError_bind,setting_taken]
        rfl
    have naming : lib.part g Group.naming.key lib.naming {} = lib.namingOf (lib.wordIn root) :=
      part_words groups .naming (fun _ => rfl) lib.namingOf (fun _ => rfl) rfl fun name parts => by
        simp only [mapError_bind,setting_taken]
        rfl
    have recognition : lib.part g Group.recognition.key lib.recognition {} = lib.recognitionOf (lib.wordIn root) :=
      part_words groups .recognition (fun _ => rfl) lib.recognitionOf (fun _ => rfl) rfl fun name parts => by
        simp only [mapError_bind,setting_taken]
        rfl
    have output : lib.part g Group.output.key lib.output {} = lib.outputOf (lib.wordIn root) :=
      part_words groups .output (fun _ => rfl) lib.outputOf (fun _ => rfl) rfl fun name parts => by
        simp only [mapError_bind,setting_taken]
        rfl
    have strictness : lib.part g Group.strictness.key lib.strictness {} = lib.strictnessOf (lib.wordIn root) :=
      part_words groups .strictness (fun _ => rfl) lib.strictnessOf (fun _ => rfl) rfl fun name parts => by
        simp only [mapError_bind,setting_taken]
        rfl
    change (lib.part g _ _ _ >>= fun library => lib.part g _ _ _ >>= fun naming => lib.part g _ _ _ >>= fun recognition =>
      lib.part g _ _ _ >>= fun output => lib.part g _ _ _ >>= fun strictness =>
        pure (⟨library,naming,recognition,output,strictness⟩ : Settings)) = _
    rw [library,naming,recognition,output,strictness]
    rfl

theorem load_words {sources : SettingsSources} {saids : List lib.Said} (said : sources.said lib = .ok saids) :
    Settings.load lib sources = lib.settingsOf (lib.word saids) := by
  rw [Settings.load,said]
  change (lib.merge saids >>= lib.settings) = _
  unfold word
  cases lib.merge saids with
  | error e => rfl
  | ok root => exact settings_words root

theorem settingsOf_ok : lib.settingsOf w = .ok s ↔ ∀ leaf, lib.leafTaken (w leaf) leaf = .ok (leaf.value s) := by
  constructor
  · intro read
    obtain ⟨library,libraryRead,read⟩ := bind_ok.mp read
    obtain ⟨naming,namingRead,read⟩ := bind_ok.mp read
    obtain ⟨recognition,recognitionRead,read⟩ := bind_ok.mp read
    obtain ⟨output,outputRead,read⟩ := bind_ok.mp read
    obtain ⟨strictness,strictnessRead,read⟩ := bind_ok.mp read
    cases read
    obtain ⟨path,pathTaken,read⟩ := bind_ok.mp libraryRead
    obtain ⟨capability,capabilityTaken,read⟩ := bind_ok.mp read
    cases read
    obtain ⟨constructor,constructorTaken,read⟩ := bind_ok.mp namingRead
    obtain ⟨toResult,toResultTaken,read⟩ := bind_ok.mp read
    obtain ⟨setterStart,setterStartTaken,read⟩ := bind_ok.mp read
    cases read
    obtain ⟨listTypes,listTypesTaken,read⟩ := bind_ok.mp recognitionRead
    cases read
    obtain ⟨directory,directoryTaken,read⟩ := bind_ok.mp outputRead
    obtain ⟨header,headerTaken,read⟩ := bind_ok.mp read
    cases read
    obtain ⟨warnings,warningsTaken,read⟩ := bind_ok.mp strictnessRead
    cases read
    intro leaf
    cases leaf
    · exact congrArg (Except.map Plain.text) pathTaken
    · exact congrArg (Except.map Plain.text) capabilityTaken
    · exact congrArg (Except.map Plain.text) constructorTaken
    · exact congrArg (Except.map Plain.text) toResultTaken
    · exact congrArg (Except.map Plain.text) setterStartTaken
    · exact congrArg (Except.map Plain.texts) listTypesTaken
    · exact congrArg (Except.map Plain.text) directoryTaken
    · exact congrArg (Except.map Plain.choice) headerTaken
    · exact congrArg (Except.map Plain.choice) warningsTaken
  · intro each
    have texts : Function.Injective Plain.texts := fun _ _ same => Plain.texts.inj same
    have text : Function.Injective Plain.text := fun _ _ same => Plain.text.inj same
    have choice : Function.Injective Plain.choice := fun _ _ same => Plain.choice.inj same
    have library : lib.libraryOf w = .ok s.library :=
      bind_ok.mpr ⟨_,(map_ok_iff text).mp (each .libraryPath),bind_ok.mpr ⟨_,(map_ok_iff text).mp (each .capability),rfl⟩⟩
    have naming : lib.namingOf w = .ok s.naming :=
      bind_ok.mpr ⟨_,(map_ok_iff text).mp (each .constructor),bind_ok.mpr ⟨_,(map_ok_iff text).mp (each .toResult),
        bind_ok.mpr ⟨_,(map_ok_iff text).mp (each .setterStart),rfl⟩⟩⟩
    have recognition : lib.recognitionOf w = .ok s.recognition :=
      bind_ok.mpr ⟨_,(map_ok_iff texts).mp (each .listTypes),rfl⟩
    have output : lib.outputOf w = .ok s.output :=
      bind_ok.mpr ⟨_,(map_ok_iff text).mp (each .directory),bind_ok.mpr ⟨_,(map_ok_iff choice).mp (each .header),rfl⟩⟩
    have strictness : lib.strictnessOf w = .ok s.strictness :=
      bind_ok.mpr ⟨_,(map_ok_iff choice).mp (each .warningsAsErrors),rfl⟩
    rw [settingsOf,library,naming,recognition,output,strictness]
    rfl

end

section
variable {lib}

-- A word over an earlier one. Saying nothing leaves that as it is.
def overriding (old : lib.Word) : lib.Word → lib.Word
  | .ok none => old
  | new => new

def lastWord (lib : ConfigLibrary) (saids : List lib.Said) (leaf : Leaf) : lib.Word :=
  (saids.map fun said => lib.word [said] leaf).foldl overriding (.ok none)

def ByLeaf (lib : ConfigLibrary) (saids : List lib.Said) : Prop := ∀ leaf, lib.word saids leaf = lib.lastWord saids leaf

theorem overriding_assoc (first second third : lib.Word) :
    overriding (overriding first second) third = overriding first (overriding second third) := by
  match third with
  | .ok none | .ok (some _) | .error _ => rfl

theorem overriding_none (w : lib.Word) : overriding (.ok none) w = w := by
  match w with
  | .ok none | .ok (some _) | .error _ => rfl

theorem lastWord_cons (said : lib.Said) (saids : List lib.Said) (leaf : Leaf) :
    lib.lastWord (said :: saids) leaf = overriding (lib.word [said] leaf) (lib.lastWord saids leaf) := by
  have start (old : lib.Word) (words : List lib.Word) :
      words.foldl overriding old = overriding old (words.foldl overriding (.ok none)) := by
    induction words generalizing old with
    | nil => rfl
    | cons w words ih => rw [List.foldl_cons,List.foldl_cons,ih,overriding_none,ih w,overriding_assoc]
  rw [lastWord,List.map_cons,List.foldl_cons,overriding_none,start]
  rfl

theorem lastWord_append (first second : List lib.Said) (leaf : Leaf) :
    lib.lastWord (first ++ second) leaf = overriding (lib.lastWord first leaf) (lib.lastWord second leaf) := by
  induction first with
  | nil => exact (overriding_none _).symm
  | cons said first ih => rw [List.cons_append,lastWord_cons,lastWord_cons,ih,overriding_assoc]

end

end ConfigLibrary

end DomainSchema
